import MoonlightVita.LogLines
import MoonlightVita.PeerConfig
import MoonlightVita.Transition

/-!
# The trace: `tsvita_trace`

The threads of the tunnel and of the game write their lines to two files, one line at a time
under `g_log_mutex`. A file is appended to by `sceIoOpen` or, if that fails, by `fopen`. However
the threads interleave, both files read as the traces in the order in which the mutex was taken.
-/
namespace MoonlightVita.TraceLog
open CString LogLines PeerConfig Transition

/-- `[tag] text`. -/
def bracketed : Marks UInt8 := ⟨91, 93, space, newline, by decide⟩

/-- What a buffer of this size holds, as a string, once this has been printed into it. -/
def shown (size : ℕ) (formatted : List UInt8) : List UInt8 := cstr (snprintf size formatted) 0

def messageSize : ℕ := 256
def lineSize : ℕ := 320

abbrev Entry : Type := LogLines.Entry UInt8

def traceEntry (component formatted : List UInt8) : Entry :=
  (cstr component 0, shown messageSize formatted)

/-- The line that is written; `snprintf` cuts off what is too long. -/
def traceLine (entry : Entry) : List UInt8 := snprintf lineSize (bracketed.line entry)

/-- Which way `append_log_line` takes, and how many bytes of the line `sceIoWrite` or `fwrite`
writes there. -/
structure Append where
  opens : Bool
  written : ℕ
  fallback : Option ℕ

def appendLogLine (contents line : List UInt8) (o : Append) : List UInt8 :=
  if o.opens then contents ++ line.take o.written
  else
    match o.fallback with
    | none => contents
    | some written => contents ++ line.take written

/-- `TSVITA_LOG` and `TSVITA_FALLBACK_LOG`. -/
inductive File
  | log
  | fallback
  deriving DecidableEq, Repr

/-- Where a thread is in `tsvita_trace`; with the mutex, which files it has still to append to. -/
inductive Phase
  | idle
  | waiting (entry : Entry)
  | locked (entry : Entry) (rest : List File)

structure State (T : Type*) where
  phase : T → Phase
  holder : Option T
  files : File → List UInt8

inductive Action (T : Type*)
  | call (t : T) (component formatted : List UInt8)
  | lock (t : T)
  | append (t : T) (o : Append)
  | unlock (t : T)

/-- `appended` says whether the whole line has been written. -/
inductive Event (T : Type*)
  | called (t : T) (entry : Entry)
  | locked (t : T) (entry : Entry)
  | appended (file : File) (entry : Entry) (whole : Bool)

def initial (T : Type*) (files : File → List UInt8) : State T := ⟨fun _ => .idle, none, files⟩

/-- How many bytes of the line get into the file. -/
def Append.count (o : Append) : ℕ := if o.opens then o.written else o.fallback.getD 0

variable {T : Type*} [DecidableEq T]

def State.at (s : State T) (t : T) (phase : Phase) : State T :=
  { s with phase := Function.update s.phase t phase }

def step (s : State T) : Action T → Option (State T × List (Event T))
  | .call t component formatted =>
    match s.phase t with
    | .idle =>
      let entry := traceEntry component formatted
      some (s.at t (.waiting entry), [.called t entry])
    | _ => none
  | .lock t =>
    match s.phase t, s.holder with
    | .waiting entry, none =>
      some ({ s.at t (.locked entry [.log, .fallback]) with holder := some t }, [.locked t entry])
    | _, _ => none
  | .append t o =>
    match s.phase t with
    | .locked entry (file :: rest) =>
      let contents := appendLogLine (s.files file) (traceLine entry) o
      some ({ s.at t (.locked entry rest) with files := Function.update s.files file contents },
        [.appended file entry ((traceLine entry).length ≤ o.count)])
    | _ => none
  | .unlock t =>
    match s.phase t with
    | .locked _ [] => some ({ s.at t .idle with holder := none }, [])
    | _ => none

/-- The order in which the mutex was taken. -/
def order (events : List (Event T)) : List Entry :=
  events.filterMap fun
    | .locked _ entry => some entry
    | _ => none

def called (t : T) (events : List (Event T)) : List Entry :=
  events.filterMap fun
    | .called u entry => if u = t then some entry else none
    | _ => none

def lockedBy (t : T) (events : List (Event T)) : List Entry :=
  events.filterMap fun
    | .locked u entry => if u = t then some entry else none
    | _ => none

/-- What was appended to a file, and whether as a whole. -/
def appended (file : File) (events : List (Event T)) : List (Entry × Bool) :=
  events.filterMap fun
    | .appended file' entry whole => if file' = file then some (entry, whole) else none
    | _ => none

/-- The entries that a file has got. -/
def kept (file : File) (events : List (Event T)) : List Entry :=
  ((appended file events).filter Prod.snd).map Prod.fst

def Phase.owns : Phase → Bool
  | .locked _ _ => true
  | _ => false

/-- What a thread wants to write and has not got the mutex for. -/
def Phase.unlocked : Phase → List Entry
  | .waiting entry => [entry]
  | _ => []

/-- What a thread with the mutex has not yet appended to a file. -/
def Phase.pending (file : File) : Phase → List Entry
  | .locked entry rest => if file ∈ rest then [entry] else []
  | _ => []

/-- The place of the thread that has the mutex. -/
def State.held (s : State T) : Phase := s.holder.elim .idle s.phase

/-- The line that a thread has to write. -/
def Phase.line : Phase → List UInt8
  | .idle => []
  | .waiting entry | .locked entry _ => traceLine entry

/-- A call whose line has room and can be read back, and an append that writes the whole line of
its thread or nothing of it. -/
def Action.Proper (s : State T) : Action T → Prop
  | .call _ component formatted => bracketed.Fits (traceEntry component formatted) ∧
      (traceEntry component formatted).1.length ≤ 60
  | .append t o => o.count = 0 ∨ (s.phase t).line.length ≤ o.count
  | _ => True

instance (s : State T) : (a : Action T) → Decidable (a.Proper s)
  | .call _ _ _ => inferInstanceAs (Decidable (_ ∧ _))
  | .lock _ => inferInstanceAs (Decidable True)
  | .append _ _ => inferInstanceAs (Decidable (_ ∨ _))
  | .unlock _ => inferInstanceAs (Decidable True)

/-- Every append wrote its whole line. -/
def Complete (events : List (Event T)) : Prop :=
  ∀ file, ∀ line ∈ appended file events, line.2 = true

/-- An entry whose line is not cut off. -/
structure Good (entry : Entry) : Prop where
  fits : bracketed.Fits entry
  tag : entry.1.length ≤ 60
  text : entry.2.length < messageSize

/-- A thread at its place in the trace, with what it has called and got the mutex for. -/
structure Place (holder : Option T) (events : List (Event T)) (t : T) (phase : Phase) : Prop where
  owns : phase.owns = true ↔ holder = some t
  files : ∀ entry rest, phase = .locked entry rest → rest.Nodup
  turns : called t events = lockedBy t events ++ phase.unlocked
  unlocked : ∀ entry ∈ phase.unlocked, Good entry

structure Inv (before : File → List UInt8) (events : List (Event T)) (s : State T) : Prop where
  places : ∀ t, Place s.holder events t (s.phase t)
  good : ∀ entry ∈ order events, Good entry
  appended : ∀ file, order events = (appended file events).map Prod.fst ++ s.held.pending file
  contents : ∀ file, s.files file = before file ++ (kept file events).flatMap bracketed.line

section Lines

lemma length_shown_lt (formatted : List UInt8) :
    (shown messageSize formatted).length < messageSize := by
  have hle : (shown messageSize formatted).length ≤ (snprintf messageSize formatted).length :=
    (List.takeWhile_prefix _).length_le
  rw [snprintf, List.length_take] at hle
  unfold messageSize at *
  omega

/-- `tunnel_log` and `trace_socket_event` print into a buffer of this size before. -/
lemma traceEntry_shown (component formatted : List UInt8) :
    traceEntry component (shown messageSize formatted) = traceEntry component formatted := by
  have htake : snprintf messageSize (shown messageSize formatted) = shown messageSize formatted := by
    have hlt := length_shown_lt formatted
    exact List.take_of_length_le (by omega)
  have hshown : shown messageSize (shown messageSize formatted) = shown messageSize formatted := by
    rw [shown, htake, cstr, List.drop_zero]
    refine List.takeWhile_eq_self_iff.mpr fun c hc => ?_
    rw [shown, cstr] at hc
    have hnonzero := List.mem_takeWhile_imp hc
    exact hnonzero
  rw [traceEntry, traceEntry, hshown]

lemma traceLine_eq {entry : Entry} (h : Good entry) : traceLine entry = bracketed.line entry := by
  have htag := h.tag
  have htext := h.text
  refine List.take_of_length_le ?_
  simp only [Marks.line, Marks.body, List.length_append, List.length_cons, List.length_nil]
  unfold messageSize at htext
  unfold lineSize
  omega

lemma appendLogLine_eq (contents line : List UInt8) (o : Append) :
    appendLogLine contents line o = contents ++ line.take o.count := by
  unfold appendLogLine Append.count
  split_ifs
  · rfl
  · cases o.fallback <;> simp

/-- A line that is written as a whole or not at all. -/
lemma appendLogLine_whole {entry : Entry} (h : Good entry) (contents : List UInt8) {o : Append}
    (ho : o.count = 0 ∨ (traceLine entry).length ≤ o.count) :
    appendLogLine contents (traceLine entry) o =
      contents ++ if (traceLine entry).length ≤ o.count then bracketed.line entry else [] := by
  rw [appendLogLine_eq]
  by_cases hwhole : (traceLine entry).length ≤ o.count
  · rw [if_pos hwhole, List.take_of_length_le hwhole, traceLine_eq h]
  · have hzero : o.count = 0 := ho.resolve_right hwhole
    rw [if_neg hwhole, hzero, List.take_zero]

end Lines

section Events
variable (t : T) (file : File) (events out : List (Event T))

omit [DecidableEq T] in
@[simp] lemma order_append : order (events ++ out) = order events ++ order out :=
  List.filterMap_append

@[simp] lemma called_append : called t (events ++ out) = called t events ++ called t out :=
  List.filterMap_append

@[simp] lemma lockedBy_append : lockedBy t (events ++ out) = lockedBy t events ++ lockedBy t out :=
  List.filterMap_append

omit [DecidableEq T] in
@[simp] lemma appended_append :
    appended file (events ++ out) = appended file events ++ appended file out :=
  List.filterMap_append

omit [DecidableEq T] in
@[simp] lemma kept_append : kept file (events ++ out) = kept file events ++ kept file out := by
  simp [kept]

end Events

section Steps
variable {before : File → List UInt8} {events out : List (Event T)} {s : State T} {t u : T}
  {holder holder' : Option T} {phase : Phase}

/-- A thread that does not step stays at its place. -/
lemma Place.other (h : Place holder events u phase) (hholder : holder = some u ↔ holder' = some u)
    (hcalled : called u out = []) (hlocked : lockedBy u out = []) :
    Place holder' (events ++ out) u phase where
  owns := h.owns.trans hholder
  files := h.files
  turns := by
    have hturns := h.turns
    simpa [hcalled, hlocked] using hturns
  unlocked := h.unlocked

lemma places_update {phases : T → Phase} (ht : Place holder events t phase)
    (hother : ∀ u, u ≠ t → Place holder events u (phases u)) (u : T) :
    Place holder events u (Function.update phases t phase u) := by
  rcases eq_or_ne u t with rfl | hut
  · rwa [Function.update_self]
  · rw [Function.update_of_ne hut]
    exact hother u hut

omit [DecidableEq T] in
lemma held_of_holder {s : State T} (h : s.holder = some t) : s.held = s.phase t := by
  rw [State.held, h]
  rfl

omit [DecidableEq T] in
lemma held_of_free {s : State T} (h : s.holder = none) : s.held = .idle := by
  rw [State.held, h]
  rfl

lemma held_at (h : s.holder ≠ some t) : (s.at t phase).held = s.held := by
  cases hholder : s.holder with
  | none => rw [held_of_free hholder, held_of_free (s := s.at t phase) hholder]
  | some u =>
    have hu : u ≠ t := fun hut => h (hut ▸ hholder)
    rw [held_of_holder hholder, held_of_holder (s := s.at t phase) hholder]
    exact Function.update_of_ne hu _ _

lemma inv_call (h : Inv before events s) (ht : s.phase t = .idle) {entry : Entry}
    (hgood : Good entry) :
    Inv before (events ++ [.called t entry]) (s.at t (.waiting entry)) := by
  have hplace := ht ▸ h.places t
  have hfree : s.holder ≠ some t := fun hholder => by simpa [Phase.owns] using hplace.owns.mpr hholder
  refine ⟨places_update ⟨?_, ?_, ?_, ?_⟩ fun u hut => ?_, ?_, fun file => ?_, fun file => ?_⟩
  · simpa [Phase.owns, State.at] using hfree
  · rintro entry' rest ⟨⟩
  · have hturns := hplace.turns
    simpa [called, lockedBy, Phase.unlocked] using hturns
  · simpa [Phase.unlocked] using hgood
  · exact (h.places u).other Iff.rfl (by simp [called, hut.symm]) rfl
  · simpa [order] using h.good
  · rw [held_at hfree]
    simpa [order, TraceLog.appended] using h.appended file
  · simpa [kept, TraceLog.appended, State.at] using h.contents file

lemma inv_lock (h : Inv before events s) {entry : Entry} (ht : s.phase t = .waiting entry)
    (hfree : s.holder = none) : Inv before (events ++ [.locked t entry])
      { s.at t (.locked entry [.log, .fallback]) with holder := some t } := by
  have hplace := ht ▸ h.places t
  have hgood : Good entry := hplace.unlocked entry (List.mem_singleton_self _)
  refine ⟨places_update ⟨?_, ?_, ?_, ?_⟩ fun u hut => ?_, ?_, fun file => ?_, fun file => ?_⟩
  · simp [Phase.owns]
  · rintro entry' rest ⟨⟩
    decide
  · have hturns := hplace.turns
    simpa [called, lockedBy, Phase.unlocked] using hturns
  · simp [Phase.unlocked]
  · refine (h.places u).other ?_ rfl (by simp [lockedBy, hut.symm])
    simp [hfree, hut.symm]
  · simpa [order, or_imp, forall_and, hgood] using h.good
  · have happended := h.appended file
    rw [held_of_free hfree] at happended
    rw [held_of_holder (t := t) rfl]
    cases file <;> simpa [order, TraceLog.appended, Phase.pending, State.at] using happended
  · simpa [kept, TraceLog.appended, State.at] using h.contents file

lemma inv_append (h : Inv before events s) {entry : Entry} {file : File} {rest : List File}
    (ht : s.phase t = .locked entry (file :: rest)) {o : Append}
    (ho : o.count = 0 ∨ (traceLine entry).length ≤ o.count) :
    Inv before (events ++ [.appended file entry ((traceLine entry).length ≤ o.count)])
      { s.at t (.locked entry rest) with
        files := Function.update s.files file
          (appendLogLine (s.files file) (traceLine entry) o) } := by
  have hplace := ht ▸ h.places t
  have hholder : s.holder = some t := hplace.owns.mp rfl
  have hnodup : file ∉ rest ∧ rest.Nodup := List.nodup_cons.mp (hplace.files _ _ rfl)
  have happended := h.appended
  rw [held_of_holder hholder, ht] at happended
  have hgood : Good entry := by
    refine h.good entry ?_
    rw [happended file]
    simp [Phase.pending]
  refine ⟨places_update ⟨?_, ?_, ?_, ?_⟩ fun u hut => ?_, ?_, fun file' => ?_, fun file' => ?_⟩
  · simpa [Phase.owns, State.at] using hholder
  · rintro entry' rest' ⟨⟩
    exact hnodup.2
  · have hturns := hplace.turns
    simpa [called, lockedBy, Phase.unlocked] using hturns
  · simp [Phase.unlocked]
  · exact (h.places u).other Iff.rfl rfl rfl
  · simpa [order] using h.good
  · have hheld := held_of_holder (s := { s.at t (.locked entry rest) with
      files := Function.update s.files file
        (appendLogLine (s.files file) (traceLine entry) o) }) hholder
    have hfile := happended file'
    rw [hheld]
    rcases eq_or_ne file' file with rfl | hne
    · simpa [order, TraceLog.appended, Phase.pending, State.at, hnodup.1] using hfile
    · simpa [order, TraceLog.appended, Phase.pending, State.at, hne, hne.symm] using hfile
  · have hcontents := h.contents file'
    dsimp only
    rcases eq_or_ne file' file with rfl | hne
    · rw [Function.update_self, appendLogLine_whole hgood _ ho, hcontents, kept_append,
        List.flatMap_append, List.append_assoc]
      by_cases hwhole : (traceLine entry).length ≤ o.count <;>
        simp [kept, TraceLog.appended, hwhole]
    · rw [Function.update_of_ne hne, hcontents, kept_append, List.flatMap_append]
      simp [kept, TraceLog.appended, hne.symm]

lemma inv_unlock (h : Inv before events s) {entry : Entry} (ht : s.phase t = .locked entry []) :
    Inv before events { s.at t .idle with holder := none } := by
  have hplace := ht ▸ h.places t
  have hholder : s.holder = some t := hplace.owns.mp rfl
  refine ⟨places_update ⟨?_, ?_, ?_, ?_⟩ fun u hut => ?_, h.good, fun file => ?_, h.contents⟩
  · simp [Phase.owns]
  · rintro entry' rest ⟨⟩
  · have hturns := hplace.turns
    simpa [Phase.unlocked] using hturns
  · simp [Phase.unlocked]
  · have hplaces : Place none (events ++ []) u (s.phase u) :=
      (h.places u).other (by simp [hholder, hut.symm]) rfl rfl
    simpa using hplaces
  · have happended := h.appended file
    rw [held_of_holder hholder, ht] at happended
    simpa [held_of_free, Phase.pending] using happended

end Steps

section Runs
variable {before : File → List UInt8} {events : List (Event T)} {s s' : State T}

omit [DecidableEq T] in
lemma good_of_proper {t : T} {component formatted : List UInt8}
    (h : (Action.call t component formatted).Proper s) : Good (traceEntry component formatted) :=
  ⟨h.1, h.2, length_shown_lt formatted⟩

theorem inv_step {a : Action T} {out : List (Event T)} (h : Inv before events s) (ha : a.Proper s)
    (hstep : step s a = some (s', out)) : Inv before (events ++ out) s' := by
  cases a with
  | call t component formatted =>
    simp only [step] at hstep
    split at hstep
    · rename_i ht
      cases hstep
      exact inv_call h ht (good_of_proper ha)
    · cases hstep
  | lock t =>
    simp only [step] at hstep
    split at hstep
    · rename_i entry ht hfree
      cases hstep
      exact inv_lock h ht hfree
    · cases hstep
  | append t o =>
    simp only [step] at hstep
    split at hstep
    · rename_i entry file rest ht
      cases hstep
      refine inv_append h ht ?_
      simpa [Action.Proper, ht, Phase.line] using ha
    · cases hstep
  | unlock t =>
    simp only [step] at hstep
    split at hstep
    · rename_i entry ht
      cases hstep
      simpa using inv_unlock h ht
    · cases hstep

/-- Proper traces of threads that begin with these files. -/
abbrev Traces (before : File → List UInt8) (actions : List (Action T)) (events : List (Event T))
    (s : State T) : Prop :=
  Run (restrict (ofStep step) fun s a => a.Proper s) (initial T before) actions events s

variable {actions : List (Action T)}

lemma inv_run (h : Traces before actions events s) : Inv before events s := by
  refine h.invariant (P := Inv before) ?_ ?_
  · refine ⟨fun t => ⟨?_, ?_, rfl, ?_⟩, ?_, ?_, ?_⟩
    · simp [initial, Phase.owns]
    · rintro entry rest ⟨⟩
    · simp [initial, Phase.unlocked]
    · simp [order]
    · intro file
      rfl
    · simp [initial, kept, appended]
  · rintro events s a out s' hs ⟨ha, hstep⟩
    exact inv_step hs ha hstep

omit [DecidableEq T] in
lemma kept_eq (h : Complete events) (file : File) :
    kept file events = (appended file events).map Prod.fst := by
  rw [kept, List.filter_eq_self.mpr (h file)]

lemma kept_sublist (h : Inv before events s) (file : File) :
    (kept file events).Sublist (order events) := by
  rw [h.appended file]
  exact (List.filter_sublist.map Prod.fst).trans (List.sublist_append_left _ _)

lemma readLog_files (h : Inv before events s) {file : File} {earlier : List Entry}
    (hbefore : bracketed.readLog (before file) = some earlier) :
    bracketed.readLog (s.files file) = some (earlier ++ kept file events) := by
  rw [h.contents file]
  refine Marks.readLog_append hbefore (Marks.readLog_eq_some_iff.mpr ⟨rfl, fun entry hentry => ?_⟩)
  exact (h.good entry ((kept_sublist h file).subset hentry)).fits

/-- However the threads interleave: one thread has the mutex at a time, the lines of each thread are
written in the order of its calls, and each file reads as what was there before and some of
the lines in the order of the mutex; where every append wrote its line, both have them all. This
takes tags of at most 60 bytes without `]` and texts without a newline, and appends that write the
whole line or nothing: `append_log_line` does not look at what a write returns, so that after a
part of a line the next one is glued to it. -/
theorem traces_read {earlier : File → List Entry}
    (hbefore : ∀ file, bracketed.readLog (before file) = some (earlier file))
    (h : Traces before actions events s) :
    (∀ t u, (s.phase t).owns = true → (s.phase u).owns = true → t = u) ∧
      (∀ t, called t events = lockedBy t events ++ (s.phase t).unlocked) ∧
      (∀ file, ∃ lines, lines.Sublist (order events) ∧
        bracketed.readLog (s.files file) = some (earlier file ++ lines)) ∧
      (s.holder = none → Complete events → ∀ file,
        bracketed.readLog (s.files file) = some (earlier file ++ order events)) := by
  have hinv := inv_run h
  refine ⟨fun t u ht hu => ?_, fun t => (hinv.places t).turns, fun file => ?_,
    fun hfree hcomplete file => ?_⟩
  · have hholder := (hinv.places t).owns.mp ht
    rw [(hinv.places u).owns.mp hu, Option.some.injEq] at hholder
    exact hholder.symm
  · exact ⟨kept file events, kept_sublist hinv file, readLog_files hinv (hbefore file)⟩
  · have happended := hinv.appended file
    have hnone : Phase.pending file .idle = [] := rfl
    rw [held_of_free hfree, hnone, List.append_nil, ← kept_eq hcomplete file] at happended
    rw [happended]
    exact readLog_files hinv (hbefore file)

end Runs

section Sample

def info : List UInt8 := ascii ['I', 'N', 'F', 'O']
def socket : List UInt8 := ascii ['S', 'O', 'C', 'K', 'E', 'T']
def online : List UInt8 := ascii ['o', 'n', 'l', 'i', 'n', 'e']
def closing : List UInt8 := ascii ['c', 'l', 'o', 's', 'e', ' ', '4']

/-- The second of two calls gets the mutex first, and opens its second file by `fopen`. -/
def sampleTraces : List (Action Bool) :=
  [.call false info online, .call true socket closing, .lock true,
    .append true ⟨true, 17, none⟩, .append true ⟨false, 0, some 17⟩, .unlock true, .lock false,
    .append false ⟨true, 14, none⟩, .append false ⟨true, 14, none⟩, .unlock false]

theorem traces_read_two : ∃ events s, Traces (fun _ => []) sampleTraces events s ∧
    ∀ file, bracketed.readLog (s.files file) = some [(socket, closing), (info, online)] := by
  have hview : (exec (guarded step fun s a => a.Proper s) (initial Bool fun _ => [])
      sampleTraces).map (fun r => (r.1.holder, order r.2,
        (appended .log r.2).all Prod.snd, (appended .fallback r.2).all Prod.snd)) =
        some (none, [(socket, closing), (info, online)], true, true) := by decide +kernel
  obtain ⟨⟨s, events⟩, hexec, hview⟩ := Option.map_eq_some_iff.mp hview
  simp only [Prod.mk.injEq, List.all_eq_true] at hview
  obtain ⟨hfree, horder, hlog, hfallback⟩ := hview
  have hrun := run_of_exec hexec
  rw [ofStep_guarded] at hrun
  have hempty : bracketed.readLog [] = some [] := rfl
  have hcomplete : Complete events := by
    intro file
    cases file with
    | log => exact hlog
    | fallback => exact hfallback
  obtain ⟨-, -, -, hread⟩ := traces_read (fun _ => hempty) hrun
  exact ⟨events, s, hrun, fun file => horder ▸ hread hfree hcomplete file⟩

end Sample

end MoonlightVita.TraceLog
