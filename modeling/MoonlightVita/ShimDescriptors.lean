import MoonlightVita.Transition

/-!
# The shadow tables of virtual descriptors

`__wrap_socket`, `__wrap_close` and `F_SETFD` of `__wrap_fcntl` in any number of
threads, once the tunnel is online. The calls of lwIP and every write of
`g_virtual_fd_flags` and `g_virtual_socket_types` are steps of their own.
-/
namespace MoonlightVita.ShimDescriptors
open Transition

def tsvitaLwipFdFirst : ℤ := 128
def tsvitaLwipFdLast : ℤ := 191
def sockStream : Int32 := 1
def sockDgram : Int32 := 2
def fdCloexec : Int32 := 1

def isVirtualSocket (descriptor : ℤ) : Bool :=
  tsvitaLwipFdFirst ≤ descriptor ∧ descriptor ≤ tsvitaLwipFdLast

lemma isVirtualSocket_of_neg {descriptor : ℤ} (h : descriptor < 0) :
    isVirtualSocket descriptor = false := by
  have hn : ¬ (tsvitaLwipFdFirst ≤ descriptor ∧ descriptor ≤ tsvitaLwipFdLast) := by
    unfold tsvitaLwipFdFirst
    omega
  simpa [isVirtualSocket] using hn

def virtualSocketIndex (descriptor : ℤ) : ℤ := descriptor - tsvitaLwipFdFirst

abbrev Table : Type := ℤ → Int32

def Table.at (table : Table) (descriptor : ℤ) : Int32 := table (virtualSocketIndex descriptor)

def Table.store (table : Table) (descriptor : ℤ) (value : Int32) : Table :=
  Function.update table (virtualSocketIndex descriptor) value

@[simp] lemma Table.at_store_self (table : Table) (d : ℤ) (v : Int32) :
    (table.store d v).at d = v := by
  simp [Table.at, Table.store]

lemma Table.at_store_of_ne (table : Table) {d e : ℤ} (v : Int32) (h : e ≠ d) :
    (table.store d v).at e = table.at e := by
  have hi : virtualSocketIndex e ≠ virtualSocketIndex d := by
    unfold virtualSocketIndex
    omega
  simp [Table.at, Table.store, Function.update_of_ne hi]

inductive Command
  | getfd | setfd
  | other (command : ℤ)
  deriving DecidableEq, Repr

inductive FcntlAnswer
  | flags (value : Int32)
  | set (value : Int32)
  | einval
  | lwip (command : Command) (value : Int32)
  | native
  deriving DecidableEq, Repr

/-- `set` is the one answer that still has to write the table. -/
def wrapFcntl (fdFlags : Table) (descriptor : ℤ) (command : Command) (value : Int32) :
    FcntlAnswer :=
  if isVirtualSocket descriptor then
    match command with
    | .getfd => .flags (fdFlags.at descriptor)
    | .setfd => if value &&& ~~~fdCloexec ≠ 0 then .einval else .set value
    | .other _ => .lwip command value
  else .native

inductive Level
  | solSocket
  | other (level : ℤ)
  deriving DecidableEq, Repr

inductive SocketOption
  | soNonblock | soRcvtimeo
  | other (option : ℤ)
  deriving DecidableEq, Repr

inductive SetsockoptAnswer
  | native
  | ioctlFionbio (enabled : Bool)
  | enoprotoopt
  | lwip
  deriving DecidableEq, Repr

/-- `value` is the integer behind the pointer, if there are at least four bytes of it. -/
def wrapSetsockopt (socketTypes : Table) (socketId : ℤ) (level : Level) (option : SocketOption)
    (value : Option Int32) : SetsockoptAnswer :=
  if isVirtualSocket socketId then
    match level, option, value with
    | .solSocket, .soNonblock, some enabled => .ioctlFionbio (enabled ≠ 0)
    | .solSocket, .soRcvtimeo, _ =>
      if socketTypes.at socketId = sockDgram then .enoprotoopt else .lwip
    | _, _, _ => .lwip
  else .native

/-- Where a thread stands in a wrapper; each name says what has been done. -/
inductive Pc
  | idle
  | socket (type : Int32)
  | lwipSocket (descriptor : ℤ) (type : Int32)
  | flagsZeroed (descriptor : ℤ) (type : Int32)
  | typeStored (descriptor : ℤ)
  | close (descriptor : ℤ)
  | lwipClose (descriptor : ℤ)
  | flagsCleared (descriptor : ℤ)
  | setfd (descriptor : ℤ) (value : Int32)
  deriving DecidableEq, Repr

/-- The descriptor that a `__wrap_socket` still in progress has been handed. -/
def Pc.creating : Pc → Option ℤ
  | .lwipSocket d _ | .flagsZeroed d _ | .typeStored d => some d
  | _ => none

/-- How far the creating call of an open descriptor has come. -/
inductive Stage
  | opened | flagged | typed | returned
  deriving DecidableEq, Repr

/-- An open descriptor: what it was created with and by whom, and the last value
that `F_SETFD` has set since. -/
structure Socket (T : Type*) where
  type : Int32
  creator : T
  stage : Stage
  flag : Int32
  deriving DecidableEq, Repr

structure State (T : Type*) where
  opened : ℤ → Option (Socket T)
  fdFlags : Table
  socketTypes : Table
  pc : T → Pc

inductive Action (T : Type*)
  | socket (thread : T) (type : Int32)
  | lwipSocket (thread : T) (result : ℤ)
  | close (thread : T) (descriptor : ℤ)
  | lwipClose (thread : T) (result : ℤ)
  | fcntl (thread : T) (descriptor : ℤ) (command : Command) (value : Int32)
  | next (thread : T)
  deriving DecidableEq, Repr

inductive Event (T : Type*)
  | socket (thread : T) (result : ℤ)
  | close (thread : T) (descriptor result : ℤ)
  | nativeClose (thread : T) (descriptor : ℤ)
  | fcntl (thread : T) (descriptor : ℤ) (answer : FcntlAnswer)
  deriving DecidableEq, Repr

def initial (T : Type*) : State T := ⟨fun _ => none, fun _ => 0, fun _ => 0, fun _ => .idle⟩

variable {T : Type*} [DecidableEq T]

def State.goto (s : State T) (t : T) (pc : Pc) : State T :=
  { s with pc := Function.update s.pc t pc }

/-- The creating call of thread `t` has come to a stage, if the descriptor is still its own. -/
def Socket.reach (t : T) (stage : Stage) (sk : Socket T) : Socket T :=
  if sk.creator = t then { sk with stage := stage } else sk

def State.adjust (s : State T) (d : ℤ) (f : Socket T → Socket T) : State T :=
  { s with opened := Function.update s.opened d ((s.opened d).map f) }

/-- The next table write of a thread, or its return. -/
def next (s : State T) (t : T) : Option (State T × List (Event T)) :=
  match s.pc t with
  | .lwipSocket d type =>
    some ({ s with fdFlags := s.fdFlags.store d 0 }.adjust d (.reach t .flagged)
      |>.goto t (.flagsZeroed d type), [])
  | .flagsZeroed d type =>
    some ({ s with socketTypes := s.socketTypes.store d type }.adjust d (.reach t .typed)
      |>.goto t (.typeStored d), [])
  | .typeStored d => some ((s.adjust d (.reach t .returned)).goto t .idle, [.socket t d])
  | .lwipClose d =>
    some ({ s with fdFlags := s.fdFlags.store d 0 }.goto t (.flagsCleared d), [])
  | .flagsCleared d =>
    some ({ s with socketTypes := s.socketTypes.store d 0 }.goto t .idle, [.close t d 0])
  | .setfd d value =>
    some ({ s with fdFlags := s.fdFlags.store d value }.adjust d ({ · with flag := value })
      |>.goto t .idle, [.fcntl t d (.set value)])
  | _ => none

def step (s : State T) : Action T → Option (State T × List (Event T))
  | .socket t type => if s.pc t = .idle then some (s.goto t (.socket type), []) else none
  | .lwipSocket t result =>
    match s.pc t with
    | .socket type =>
      if isVirtualSocket result then
        if s.opened result = none then
          some ({ s with
            opened := Function.update s.opened result (some ⟨type, t, .opened, 0⟩) }.goto t
              (.lwipSocket result type), [])
        else none
      else some (s.goto t .idle, [.socket t result])
    | _ => none
  | .close t d =>
    if s.pc t = .idle then
      if isVirtualSocket d then some (s.goto t (.close d), []) else some (s, [.nativeClose t d])
    else none
  | .lwipClose t result =>
    match s.pc t with
    | .close d =>
      if result = 0 then
        if (s.opened d).isSome then
          some ({ s with opened := Function.update s.opened d none }.goto t (.lwipClose d), [])
        else none
      else some (s.goto t .idle, [.close t d result])
    | _ => none
  | .fcntl t d command value =>
    if s.pc t = .idle then
      match wrapFcntl s.fdFlags d command value with
      | .set value => some (s.goto t (.setfd d value), [])
      | answer => some (s, [.fcntl t d answer])
    else none
  | .next t => next s t

/-- What a caller may expect of an open descriptor that it holds. -/
def Consistent (s : State T) : Prop :=
  ∀ d sk, s.opened d = some sk → sk.stage = .returned →
    s.socketTypes.at d = sk.type ∧ s.fdFlags.at d = sk.flag ∧
      (sk.type = sockDgram →
        ∀ value, wrapSetsockopt s.socketTypes d .solSocket .soRcvtimeo value = .enoprotoopt)

/-- The tables hold what the creating call has written so far and the last `F_SETFD` value. -/
def SocketOk (s : State T) (d : ℤ) (sk : Socket T) : Prop :=
  match sk.stage with
  | .opened => sk.flag = 0 ∧ s.pc sk.creator = .lwipSocket d sk.type
  | .flagged => s.fdFlags.at d = sk.flag ∧ s.pc sk.creator = .flagsZeroed d sk.type
  | .typed =>
    s.fdFlags.at d = sk.flag ∧ s.socketTypes.at d = sk.type ∧ s.pc sk.creator = .typeStored d
  | .returned =>
    s.fdFlags.at d = sk.flag ∧ s.socketTypes.at d = sk.type ∧
      (s.pc sk.creator).creating ≠ some d

def Inv (s : State T) : Prop :=
  ∀ d sk, s.opened d = some sk → isVirtualSocket d ∧ SocketOk s d sk

/-- A write comes before the writes of a call that was handed the same number later,
and `F_SETFD` sets nothing before the creating call has reset the flags. -/
def WriteInOrder (s : State T) (t : T) : Pc → Prop
  | .lwipSocket d _ => ∀ sk ∈ s.opened d, sk.creator = t ∨ sk.stage = .opened
  | .flagsZeroed d _ =>
    ∀ sk ∈ s.opened d, sk.creator = t ∨ sk.stage = .opened ∨ sk.stage = .flagged
  | .lwipClose d => ∀ sk ∈ s.opened d, sk.stage = .opened
  | .flagsCleared d => ∀ sk ∈ s.opened d, sk.stage = .opened ∨ sk.stage = .flagged
  | .setfd d value => ∀ sk ∈ s.opened d, sk.stage = .opened → value = 0
  | _ => True

instance (s : State T) (t : T) : DecidablePred (WriteInOrder s t)
  | .lwipSocket d _ | .flagsZeroed d _ | .lwipClose d | .flagsCleared d | .setfd d _ => by
    dsimp only [WriteInOrder]
    infer_instance
  | .idle | .socket _ | .typeStored _ | .close _ => isTrue trivial

def InOrder (s : State T) : Action T → Prop
  | .next t => WriteInOrder s t (s.pc t)
  | _ => True

instance (s : State T) : DecidablePred (InOrder s)
  | .next t => inferInstanceAs (Decidable (WriteInOrder s t (s.pc t)))
  | .socket _ _ | .lwipSocket _ _ | .close _ _ | .lwipClose _ _ | .fcntl _ _ _ _ => isTrue trivial

section Fields
variable (s : State T) (t : T) (pc : Pc) (d : ℤ) (f : Socket T → Socket T)

@[simp] lemma goto_opened : (s.goto t pc).opened = s.opened := rfl
@[simp] lemma goto_fdFlags : (s.goto t pc).fdFlags = s.fdFlags := rfl
@[simp] lemma goto_socketTypes : (s.goto t pc).socketTypes = s.socketTypes := rfl
@[simp] lemma goto_pc_self : (s.goto t pc).pc t = pc := by simp [State.goto]
omit [DecidableEq T]
@[simp] lemma adjust_fdFlags : (s.adjust d f).fdFlags = s.fdFlags := rfl
@[simp] lemma adjust_socketTypes : (s.adjust d f).socketTypes = s.socketTypes := rfl
@[simp] lemma adjust_pc : (s.adjust d f).pc = s.pc := rfl

lemma adjust_opened_self : (s.adjust d f).opened d = (s.opened d).map f := by
  simp [State.adjust]

lemma adjust_opened_of_ne {e : ℤ} (h : e ≠ d) : (s.adjust d f).opened e = s.opened e := by
  simp [State.adjust, Function.update_of_ne h]

end Fields

lemma goto_pc_of_ne (s : State T) {t u : T} (pc : Pc) (h : u ≠ t) :
    (s.goto t pc).pc u = s.pc u := by
  simp [State.goto, Function.update_of_ne h]

/-- A thread leaves the sockets alone that it does not create. -/
def Steady (s s' : State T) (d : ℤ) (u : T) : Prop :=
  s'.pc u = s.pc u ∨ (s.pc u).creating ≠ some d ∧ (s'.pc u).creating ≠ some d

lemma steady_goto (s : State T) {t : T} {pc : Pc} {d : ℤ} (u : T)
    (hold : (s.pc t).creating ≠ some d) (hnew : pc.creating ≠ some d) :
    Steady s (s.goto t pc) d u := by
  by_cases hu : u = t
  · subst hu
    exact Or.inr ⟨hold, by simpa using hnew⟩
  · exact Or.inl (goto_pc_of_ne s pc hu)

omit [DecidableEq T] in
lemma SocketOk.frame {s s' : State T} {d : ℤ} {sk : Socket T} (h : SocketOk s d sk)
    (hflags : sk.stage ≠ .opened → s'.fdFlags.at d = s.fdFlags.at d)
    (htypes : sk.stage ≠ .opened → sk.stage ≠ .flagged →
      s'.socketTypes.at d = s.socketTypes.at d)
    (hpc : Steady s s' d sk.creator) : SocketOk s' d sk := by
  unfold SocketOk at h ⊢
  cases hstage : sk.stage with
  | opened =>
    simp only [hstage] at h ⊢
    rcases hpc with hpc | ⟨hold, _⟩
    · exact ⟨h.1, hpc.trans h.2⟩
    · simp [h.2, Pc.creating] at hold
  | flagged =>
    simp only [hstage] at h hflags ⊢
    rcases hpc with hpc | ⟨hold, _⟩
    · exact ⟨(hflags (by simp)).trans h.1, hpc.trans h.2⟩
    · simp [h.2, Pc.creating] at hold
  | typed =>
    simp only [hstage] at h hflags htypes ⊢
    rcases hpc with hpc | ⟨hold, _⟩
    · exact ⟨(hflags (by simp)).trans h.1, (htypes (by simp) (by simp)).trans h.2.1,
        hpc.trans h.2.2⟩
    · simp [h.2.2, Pc.creating] at hold
  | returned =>
    simp only [hstage] at h hflags htypes ⊢
    refine ⟨(hflags (by simp)).trans h.1, (htypes (by simp) (by simp)).trans h.2.1, ?_⟩
    rcases hpc with hpc | ⟨_, hnew⟩
    · rw [hpc]
      exact h.2.2
    · exact hnew

omit [DecidableEq T] in
lemma SocketOk.setFlag {s s' : State T} {d : ℤ} {sk : Socket T} {value : Int32}
    (h : SocketOk s d sk) (hzero : sk.stage = .opened → value = 0)
    (hflags : s'.fdFlags.at d = value) (htypes : s'.socketTypes.at d = s.socketTypes.at d)
    (hpc : Steady s s' d sk.creator) : SocketOk s' d { sk with flag := value } := by
  have hmid : SocketOk { s with fdFlags := s'.fdFlags } d { sk with flag := value } := by
    unfold SocketOk at h ⊢
    cases hstage : sk.stage with
    | opened =>
      simp only [hstage] at h ⊢
      exact ⟨hzero hstage, h.2⟩
    | flagged | typed | returned =>
      simp only [hstage] at h ⊢
      exact ⟨hflags, h.2⟩
  exact hmid.frame (fun _ => rfl) (fun _ _ => htypes) hpc

section Own
variable {s : State T} {d : ℤ} {sk : Socket T} {type : Int32}
omit [DecidableEq T]

lemma SocketOk.of_lwipSocket (h : SocketOk s d sk) (hp : s.pc sk.creator = .lwipSocket d type) :
    sk.stage = .opened ∧ sk.flag = 0 ∧ sk.type = type := by
  unfold SocketOk at h
  cases hstage : sk.stage with
  | opened => simp_all
  | flagged | typed | returned => simp [hstage, hp, Pc.creating] at h

lemma SocketOk.of_flagsZeroed (h : SocketOk s d sk) (hp : s.pc sk.creator = .flagsZeroed d type) :
    sk.stage = .flagged ∧ s.fdFlags.at d = sk.flag ∧ sk.type = type := by
  unfold SocketOk at h
  cases hstage : sk.stage with
  | flagged => simp_all
  | opened | typed | returned => simp [hstage, hp, Pc.creating] at h

lemma SocketOk.of_typeStored (h : SocketOk s d sk) (hp : s.pc sk.creator = .typeStored d) :
    sk.stage = .typed ∧ s.fdFlags.at d = sk.flag ∧ s.socketTypes.at d = sk.type := by
  unfold SocketOk at h
  cases hstage : sk.stage with
  | typed => simp_all
  | opened | flagged | returned => simp [hstage, hp, Pc.creating] at h

end Own

omit [DecidableEq T] in
/-- A step that touches one descriptor only. -/
lemma Inv.write {s s' : State T} {d : ℤ} (f : Socket T → Socket T) (hi : Inv s)
    (hself : s'.opened d = (s.opened d).map f)
    (hopened : ∀ e, e ≠ d → s'.opened e = s.opened e)
    (hflags : ∀ e, e ≠ d → s'.fdFlags.at e = s.fdFlags.at e)
    (htypes : ∀ e, e ≠ d → s'.socketTypes.at e = s.socketTypes.at e)
    (hsteady : ∀ e, e ≠ d → ∀ u, Steady s s' e u)
    (hok : ∀ sk, s.opened d = some sk → SocketOk s d sk → SocketOk s' d (f sk)) : Inv s' := by
  intro e sk he
  by_cases hed : e = d
  · subst hed
    rw [hself] at he
    obtain ⟨sk', hsk, rfl⟩ := Option.map_eq_some_iff.mp he
    obtain ⟨hv, h⟩ := hi e sk' hsk
    exact ⟨hv, hok sk' hsk h⟩
  · rw [hopened e hed] at he
    obtain ⟨hv, h⟩ := hi e sk he
    exact ⟨hv, h.frame (fun _ => hflags e hed) (fun _ _ => htypes e hed) (hsteady e hed _)⟩

/-- The writes of a creating call, and its return. -/
lemma Inv.reach {s : State T} {t : T} {d : ℤ} {stage : Stage} {pc : Pc} {flags types : Table}
    (hi : Inv s) (hp : (s.pc t).creating = some d) (hpc : ∀ e, e ≠ d → pc.creating ≠ some e)
    (hflags : ∀ e, e ≠ d → flags.at e = s.fdFlags.at e)
    (htypes : ∀ e, e ≠ d → types.at e = s.socketTypes.at e)
    (hown : ∀ sk, sk.creator = t → SocketOk s d sk →
      SocketOk ({ s with fdFlags := flags, socketTypes := types }.goto t pc) d
        { sk with stage := stage })
    (hother : ∀ sk, s.opened d = some sk → sk.creator ≠ t →
      (sk.stage ≠ .opened → flags.at d = s.fdFlags.at d) ∧
      (sk.stage ≠ .opened → sk.stage ≠ .flagged → types.at d = s.socketTypes.at d)) :
    Inv (({ s with fdFlags := flags, socketTypes := types }.adjust d (.reach t stage)).goto t
      pc) := by
  apply hi.write (d := d) (.reach t stage)
  case hself => simp [adjust_opened_self]
  case hopened =>
    intro e he
    simp [adjust_opened_of_ne _ _ _ he]
  case hflags => exact hflags
  case htypes => exact htypes
  case hsteady =>
    intro e he u
    have hsome : (s.pc t).creating ≠ some e := by simpa [hp] using he.symm
    exact steady_goto (State.adjust _ d _) u hsome (hpc e he)
  case hok =>
    intro sk hsk h
    by_cases hc : sk.creator = t
    · rw [Socket.reach, if_pos hc]
      exact hown sk hc h
    · rw [Socket.reach, if_neg hc]
      obtain ⟨hf, ht⟩ := hother sk hsk hc
      exact h.frame hf ht (Or.inl (goto_pc_of_ne (State.adjust _ d _) pc hc))

/-- The writes of a call that creates no socket. -/
lemma Inv.clear {s : State T} {t : T} {d : ℤ} {pc : Pc} {flags types : Table} (hi : Inv s)
    (hp : (s.pc t).creating = none) (hpc : pc.creating = none)
    (hflags : ∀ e, e ≠ d → flags.at e = s.fdFlags.at e)
    (htypes : ∀ e, e ≠ d → types.at e = s.socketTypes.at e)
    (hkeep : ∀ sk, s.opened d = some sk →
      (sk.stage ≠ .opened → flags.at d = s.fdFlags.at d) ∧
      (sk.stage ≠ .opened → sk.stage ≠ .flagged → types.at d = s.socketTypes.at d)) :
    Inv ({ s with fdFlags := flags, socketTypes := types }.goto t pc) := by
  have hsteady : ∀ e u, Steady s ({ s with fdFlags := flags, socketTypes := types }.goto t pc)
      e u := fun e u =>
    steady_goto { s with fdFlags := flags, socketTypes := types } u (by simp [hp]) (by simp [hpc])
  apply hi.write (d := d) id
  case hself => simp
  case hopened => exact fun _ _ => rfl
  case hflags => exact hflags
  case htypes => exact htypes
  case hsteady => exact fun e _ u => hsteady e u
  case hok =>
    intro sk hsk h
    obtain ⟨hf, ht⟩ := hkeep sk hsk
    exact h.frame hf ht (hsteady d _)

lemma Inv.goto {s : State T} {t : T} {pc : Pc} (hi : Inv s) (hp : (s.pc t).creating = none)
    (hpc : pc.creating = none) : Inv (s.goto t pc) :=
  hi.clear (d := 0) hp hpc (fun _ _ => rfl) (fun _ _ => rfl)
    fun _ _ => ⟨fun _ => rfl, fun _ _ => rfl⟩

theorem next_inv {s s' : State T} {t : T} {out : List (Event T)} (hi : Inv s)
    (hc : InOrder s (.next t)) (hs : next s t = some (s', out)) : Inv s' := by
  unfold next at hs
  simp only [InOrder, WriteInOrder] at hc
  cases hp : s.pc t with
  | idle | socket | close => simp [hp] at hs
  | lwipSocket d type =>
    simp only [hp] at hs hc
    cases hs
    refine hi.reach (by rw [hp]; rfl) (fun e he => by simpa [Pc.creating] using he.symm)
      (fun e he => Table.at_store_of_ne _ _ he) (fun _ _ => rfl) ?_ ?_
    · intro sk hcr h
      subst hcr
      obtain ⟨-, hflag, rfl⟩ := h.of_lwipSocket hp
      simp [SocketOk, hflag]
    · intro sk hsk hcr
      have hst : sk.stage = .opened := (hc sk hsk).resolve_left hcr
      exact ⟨fun hn => absurd hst hn, fun hn => absurd hst hn⟩
  | flagsZeroed d type =>
    simp only [hp] at hs hc
    cases hs
    refine hi.reach (by rw [hp]; rfl) (fun e he => by simpa [Pc.creating] using he.symm)
      (fun _ _ => rfl) (fun e he => Table.at_store_of_ne _ _ he) ?_ ?_
    · intro sk hcr h
      subst hcr
      obtain ⟨-, hflag, rfl⟩ := h.of_flagsZeroed hp
      simp [SocketOk, hflag]
    · intro sk hsk hcr
      refine ⟨fun _ => rfl, fun hn hn' => ?_⟩
      rcases (hc sk hsk).resolve_left hcr with hst | hst
      · exact absurd hst hn
      · exact absurd hst hn'
  | typeStored d =>
    simp only [hp] at hs
    cases hs
    refine hi.reach (by rw [hp]; rfl) (fun e _ => by simp [Pc.creating])
      (fun _ _ => rfl) (fun _ _ => rfl) ?_ ?_
    · intro sk hcr h
      subst hcr
      obtain ⟨-, hflag, htype⟩ := h.of_typeStored hp
      simp [SocketOk, hflag, htype, Pc.creating]
    · intro sk _ _
      exact ⟨fun _ => rfl, fun _ _ => rfl⟩
  | lwipClose d =>
    simp only [hp] at hs hc
    cases hs
    refine hi.clear (by rw [hp]; rfl) rfl (fun e he => Table.at_store_of_ne _ _ he)
      (fun _ _ => rfl) fun sk hsk => ?_
    have hst := hc sk hsk
    exact ⟨fun hn => absurd hst hn, fun _ _ => rfl⟩
  | flagsCleared d =>
    simp only [hp] at hs hc
    cases hs
    refine hi.clear (by rw [hp]; rfl) rfl (fun _ _ => rfl)
      (fun e he => Table.at_store_of_ne _ _ he) fun sk hsk => ⟨fun _ => rfl, fun hn hn' => ?_⟩
    rcases hc sk hsk with hst | hst
    · exact absurd hst hn
    · exact absurd hst hn'
  | setfd d value =>
    simp only [hp] at hs hc
    cases hs
    have hsteady : ∀ e u, Steady s (({ s with fdFlags := s.fdFlags.store d value }.adjust d
        ({ · with flag := value })).goto t .idle) e u := fun e u =>
      steady_goto (State.adjust _ d _) u (by simp [hp, Pc.creating]) (by simp [Pc.creating])
    apply hi.write (d := d) ({ · with flag := value })
    case hself => simp [adjust_opened_self]
    case hopened =>
      intro e he
      simp [adjust_opened_of_ne _ _ _ he]
    case hflags => exact fun e he => Table.at_store_of_ne _ _ he
    case htypes => exact fun _ _ => rfl
    case hsteady => exact fun e _ u => hsteady e u
    case hok => exact fun sk hsk h => h.setFlag (hc sk hsk) (by simp) (by simp) (hsteady d _)

theorem inv_step {s s' : State T} {a : Action T} {out : List (Event T)} (hi : Inv s)
    (hc : InOrder s a) (hs : step s a = some (s', out)) : Inv s' := by
  cases a with
  | socket t type =>
    simp only [step] at hs
    split_ifs at hs with hidle
    cases hs
    exact hi.goto (by simp [hidle, Pc.creating]) rfl
  | lwipSocket t result =>
    simp only [step] at hs
    cases hp : s.pc t with
    | socket type =>
      simp only [hp] at hs
      split_ifs at hs with hv hfree <;> cases hs
      · intro e sk he
        by_cases her : e = result
        · subst her
          simp only [goto_opened, Function.update_self, Option.some.injEq] at he
          subst he
          exact ⟨hv, by simp [SocketOk]⟩
        · simp only [goto_opened, Function.update_of_ne her] at he
          obtain ⟨hve, h⟩ := hi e sk he
          refine ⟨hve, h.frame (fun _ => rfl) (fun _ _ => rfl) ?_⟩
          exact steady_goto { s with opened := _ } _ (by simp [hp, Pc.creating])
            (by simpa [Pc.creating] using Ne.symm her)
      · exact hi.goto (by simp [hp, Pc.creating]) rfl
    | idle | lwipSocket | flagsZeroed | typeStored | close | lwipClose | flagsCleared | setfd =>
      simp [hp] at hs
  | close t d =>
    simp only [step] at hs
    split_ifs at hs with hidle hv <;> cases hs
    · exact hi.goto (by simp [hidle, Pc.creating]) rfl
    · exact hi
  | lwipClose t result =>
    simp only [step] at hs
    cases hp : s.pc t with
    | close d =>
      simp only [hp] at hs
      split_ifs at hs with hzero hopen <;> cases hs
      · intro e sk he
        have hed : e ≠ d := by
          intro hed
          simp [hed] at he
        simp only [goto_opened, Function.update_of_ne hed] at he
        obtain ⟨hve, h⟩ := hi e sk he
        refine ⟨hve, h.frame (fun _ => rfl) (fun _ _ => rfl) ?_⟩
        exact steady_goto { s with opened := _ } _ (by simp [hp, Pc.creating])
          (by simp [Pc.creating])
      · exact hi.goto (by simp [hp, Pc.creating]) rfl
    | idle | socket | lwipSocket | flagsZeroed | typeStored | lwipClose | flagsCleared | setfd =>
      simp [hp] at hs
  | fcntl t d command value =>
    simp only [step] at hs
    split_ifs at hs with hidle
    split at hs <;> cases hs
    · exact hi.goto (by simp [hidle, Pc.creating]) rfl
    · exact hi
  | next t => exact next_inv hi hc hs

omit [DecidableEq T] in
lemma inv_initial : Inv (initial T) := by
  intro d sk h
  cases h

omit [DecidableEq T] in
lemma Inv.consistent {s : State T} (hi : Inv s) : Consistent s := by
  intro d sk hd hret
  obtain ⟨hv, h⟩ := hi d sk hd
  simp only [SocketOk, hret] at h
  refine ⟨h.2.1, h.1, fun hdgram value => ?_⟩
  simp [wrapSetsockopt, hv, h.2.1, hdgram]

/-- As long as the writes come in order, every descriptor that a caller holds has the
type it was created with and the flags that were set last. -/
theorem descriptors_consistent {inputs : List (Action T)} {events : List (Event T)} {s : State T}
    (h : Run (restrict (ofStep step) InOrder) (initial T) inputs events s) : Consistent s := by
  have hi : Inv s := h.invariant (P := fun _ s => Inv s) inv_initial
    fun _ _ _ _ _ hi hs => inv_step hi hs.1 hs.2
  exact hi.consistent

/-- Thread 0 opens and closes a stream socket, then thread 1 opens a datagram socket
under the same number. -/
def sequentialRun : List (Action (Fin 2)) :=
  [.socket 0 sockStream, .lwipSocket 0 128, .next 0, .next 0, .next 0,
    .fcntl 0 128 .setfd fdCloexec, .next 0, .close 0 128, .lwipClose 0 0, .next 0, .next 0,
    .socket 1 sockDgram, .lwipSocket 1 128, .next 1, .next 1, .next 1]

theorem descriptors_consistent_sequential :
    ∃ s, Run (restrict (ofStep step) InOrder) (initial (Fin 2)) sequentialRun
        [.socket 0 128, .fcntl 0 128 (.set fdCloexec), .close 0 128 0, .socket 1 128] s ∧
      Consistent s := by
  obtain ⟨s, h⟩ := run_of_events (show (exec (guarded step InOrder) (initial (Fin 2))
    sequentialRun).map Prod.snd = some [.socket 0 128, .fcntl 0 128 (.set fdCloexec),
      .close 0 128 0, .socket 1 128] by decide +kernel)
  rw [ofStep_guarded] at h
  exact ⟨s, h, descriptors_consistent h⟩

/-- As before, but thread 0 clears the tables only when thread 1 has opened its socket. -/
def overtakenRun : List (Action (Fin 2)) :=
  [.socket 0 sockStream, .lwipSocket 0 128, .next 0, .next 0, .next 0, .close 0 128,
    .lwipClose 0 0, .socket 1 sockDgram, .lwipSocket 1 128, .next 1, .next 1, .next 1,
    .next 0, .next 0]

theorem descriptors_inconsistent :
    ∃ events s, Run (ofStep step) (initial (Fin 2)) overtakenRun events s ∧
      s.opened 128 = some ⟨sockDgram, 1, .returned, 0⟩ ∧ s.socketTypes.at 128 = 0 ∧
      wrapSetsockopt s.socketTypes 128 .solSocket .soRcvtimeo none = .lwip ∧
      ¬ Consistent s := by
  have hview : (exec step (initial (Fin 2)) overtakenRun).map
      (fun r => (r.1.opened 128, r.1.socketTypes.at 128)) =
        some (some ⟨sockDgram, 1, .returned, 0⟩, 0) := by decide +kernel
  obtain ⟨r, hr, hview⟩ := Option.map_eq_some_iff.mp hview
  simp only [Prod.mk.injEq] at hview
  obtain ⟨hopen, htype⟩ := hview
  have hdgram : (0 : Int32) ≠ sockDgram := by decide
  refine ⟨r.2, r.1, run_of_exec hr, hopen, htype, ?_, fun hc => ?_⟩
  · simp [wrapSetsockopt, isVirtualSocket, tsvitaLwipFdFirst, tsvitaLwipFdLast, htype, hdgram]
  · have ht := (hc 128 _ hopen rfl).1
    rw [htype] at ht
    exact hdgram ht

end MoonlightVita.ShimDescriptors
