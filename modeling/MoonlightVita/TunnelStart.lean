import MoonlightVita.Transition

/-!
# Starting the tunnel once

`tsvita_tunnel_ensure_started` and `tsvita_tunnel_is_online`, called by any
number of threads. Every section under `g_state_mutex` is one step, taking the
mutex is another, and `start_tunnel` runs between two sections without it. A
waiting thread may wake at any time.
-/
namespace MoonlightVita.TunnelStart
open Transition

inductive TunnelState
  | stopped | starting | online | failed
  deriving DecidableEq, Repr

inductive Procedure
  | ensureStarted | isOnline
  deriving DecidableEq, Repr

/-- Where a thread stands; `started` carries the result of `start_tunnel`. -/
inductive Pc
  | outside
  | locking (procedure : Procedure)
  | checking
  | waiting
  | woken
  | starting
  | started (result : ℤ)
  | publishing (result : ℤ)
  | reading
  deriving DecidableEq, Repr

inductive Event (T : Type*)
  | began (thread : T)
  | finished (thread : T) (result : ℤ)
  | returned (thread : T) (result : ℤ)
  | answered (thread : T) (online : Bool)
  deriving DecidableEq, Repr

def Event.thread {T : Type*} : Event T → T
  | .began t | .finished t _ | .returned t _ | .answered t _ => t

structure State (T : Type*) where
  gState : TunnelState
  mutex : Option T
  pc : T → Pc

/-- `step` takes the mutex or runs the section under it, as the thread's place says. -/
inductive Action (T : Type*)
  | call (thread : T) (procedure : Procedure)
  | step (thread : T)
  | wake (thread : T)
  | finish (thread : T) (result : ℤ)
  deriving DecidableEq, Repr

def initial (T : Type*) : State T := ⟨.stopped, none, fun _ => .outside⟩

variable {T : Type*} [DecidableEq T]

def State.goto (s : State T) (t : T) (pc : Pc) : State T :=
  { s with pc := Function.update s.pc t pc }

/-- `pthread_cond_broadcast`. -/
def wakeAll (pc : T → Pc) (t : T) : Pc := if pc t = .waiting then .woken else pc t

def acquire (s : State T) (t : T) (pc : Pc) : Option (State T × List (Event T)) :=
  if s.mutex = none then some ({ s.goto t pc with mutex := some t }, []) else none

/-- The sections that end by releasing the mutex. -/
def underMutex (s : State T) (t : T) : Option (State T × List (Event T)) :=
  if s.mutex = some t then
    let s := { s with mutex := none }
    match s.pc t with
    | .checking =>
      match s.gState with
      | .starting => some (s.goto t .waiting, [])
      | .online => some (s.goto t .outside, [.returned t 0])
      | .failed => some (s.goto t .outside, [.returned t (-1)])
      | .stopped => some ({ s.goto t .starting with gState := .starting }, [.began t])
    | .publishing result =>
      some ({ s with
        gState := if result = 0 then .online else .failed
        pc := Function.update (wakeAll s.pc) t .outside }, [.returned t result])
    | .reading => some (s.goto t .outside, [.answered t (s.gState = .online)])
    | _ => none
  else none

def step (s : State T) : Action T → Option (State T × List (Event T))
  | .call t procedure =>
    if s.pc t = .outside then some (s.goto t (.locking procedure), []) else none
  | .step t =>
    match s.pc t with
    | .locking .ensureStarted => acquire s t .checking
    | .locking .isOnline => acquire s t .reading
    | .woken => acquire s t .checking
    | .started result => acquire s t (.publishing result)
    | _ => underMutex s t
  | .wake t => if s.pc t = .waiting then some (s.goto t .woken, []) else none
  | .finish t result =>
    if s.pc t = .starting then some (s.goto t (.started result), [.finished t result]) else none

/-- The thread that carries out the start, from its announcement to its publication. -/
def Pc.launching : Pc → Bool
  | .starting | .started _ | .publishing _ => true
  | _ => false

/-- The results that the launching thread holds but has not published. -/
def Pc.results : Pc → List ℤ
  | .started result | .publishing result => [result]
  | _ => []

@[simp] def Event.launcher? : Event T → Option T
  | .began t => some t
  | _ => none

@[simp] def Event.result? : Event T → Option ℤ
  | .finished _ r => some r
  | _ => none

@[simp] def Event.return? : Event T → Option ℤ
  | .returned _ r => some r
  | _ => none

def begins (events : List (Event T)) : List T := events.filterMap Event.launcher?
def results (events : List (Event T)) : List ℤ := events.filterMap Event.result?
def returns (events : List (Event T)) : List ℤ := events.filterMap Event.return?

def published (result : ℤ) : TunnelState := if result = 0 then .online else .failed

/-- The three phases of the life of a process. -/
inductive Phase (events : List (Event T)) (s : State T) : Prop
  | stopped (state : s.gState = .stopped) (noBegin : begins events = [])
      (noResult : results events = []) (noReturn : returns events = [])
      (noLauncher : ∀ t, (s.pc t).launching = false)
  | starting (launcher : T) (state : s.gState = .starting) (announced : begins events = [launcher])
      (result : results events = (s.pc launcher).results) (noReturn : returns events = [])
      (launching : ∀ t, (s.pc t).launching = true ↔ t = launcher)
  | settled (launcher : T) (result : ℤ) (state : s.gState = published result)
      (announced : begins events = [launcher]) (finished : results events = [result])
      (agree : ∀ r ∈ returns events, r = 0 ↔ result = 0)
      (noLauncher : ∀ t, (s.pc t).launching = false)

/-- No thread enters or leaves the launch, or changes what it holds. -/
def Quiet (pc pc' : T → Pc) : Prop :=
  ∀ t, (pc' t).launching = (pc t).launching ∧ (pc' t).results = (pc t).results

/-- Everything a step can do to the launch. -/
inductive Move (s s' : State T) (out : List (Event T)) : Prop
  | quiet (state : s'.gState = s.gState) (pcs : Quiet s.pc s'.pc) (noBegin : begins out = [])
      (noResult : results out = []) (noReturn : returns out = [])
  | began (t : T) (before : s.gState = .stopped) (after : s'.gState = .starting)
      (pcs : s'.pc = Function.update s.pc t .starting) (event : out = [.began t])
  | finished (t : T) (r : ℤ) (state : s'.gState = s.gState) (place : s.pc t = .starting)
      (pcs : s'.pc = Function.update s.pc t (.started r)) (event : out = [.finished t r])
  | informed (t : T) (r : ℤ) (state : s'.gState = s.gState) (pcs : Quiet s.pc s'.pc)
      (known : s.gState = .online ∧ r = 0 ∨ s.gState = .failed ∧ r = -1)
      (event : out = [.returned t r])
  | published (t : T) (r : ℤ) (state : s'.gState = published r) (place : s.pc t = .publishing r)
      (pcs : s'.pc = Function.update (wakeAll s.pc) t .outside) (event : out = [.returned t r])

lemma quiet_update {pc : T → Pc} {t : T} {old p : Pc} (hp : pc t = old)
    (hl : p.launching = old.launching) (hr : p.results = old.results) :
    Quiet pc (Function.update pc t p) := by
  intro u
  by_cases hu : u = t
  · subst hu
    simp [hp, hl, hr]
  · simp [Function.update, hu]

lemma launching_update (pc : T → Pc) (t u : T) (p : Pc) :
    (Function.update pc t p u).launching = if u = t then p.launching else (pc u).launching := by
  by_cases hu : u = t
  · subst hu
    simp
  · simp [hu, Function.update]

omit [DecidableEq T] in
lemma quiet_wakeAll (pc : T → Pc) : Quiet pc (wakeAll pc) := by
  intro u
  unfold wakeAll
  split_ifs with h
  · simp [h, Pc.launching, Pc.results]
  · exact ⟨rfl, rfl⟩

lemma acquire_move {s s' : State T} {t : T} {old p : Pc} {out : List (Event T)}
    (h : acquire s t p = some (s', out)) (hp : s.pc t = old) (hl : p.launching = old.launching)
    (hr : p.results = old.results) : Move s s' out := by
  unfold acquire at h
  split_ifs at h
  cases h
  exact .quiet rfl (quiet_update hp hl hr) rfl rfl rfl

lemma underMutex_move {s s' : State T} {t : T} {out : List (Event T)}
    (h : underMutex s t = some (s', out)) : Move s s' out := by
  unfold underMutex at h
  split_ifs at h
  cases hp : s.pc t with
  | checking =>
    cases hg : s.gState with
    | starting =>
      simp only [hp, hg] at h
      cases h
      exact .quiet hg.symm (quiet_update hp rfl rfl) rfl rfl rfl
    | online =>
      simp only [hp, hg] at h
      cases h
      exact .informed t 0 hg.symm (quiet_update hp rfl rfl) (Or.inl ⟨hg, rfl⟩) rfl
    | failed =>
      simp only [hp, hg] at h
      cases h
      exact .informed t (-1) hg.symm (quiet_update hp rfl rfl) (Or.inr ⟨hg, rfl⟩) rfl
    | stopped =>
      simp only [hp, hg] at h
      cases h
      exact .began t hg rfl rfl rfl
  | publishing r =>
    simp only [hp] at h
    cases h
    exact .published t r rfl hp rfl rfl
  | reading =>
    simp only [hp] at h
    cases h
    exact .quiet rfl (quiet_update hp rfl rfl) rfl rfl rfl
  | outside | locking | waiting | woken | starting | started => simp [hp] at h

theorem step_move {s s' : State T} {a : Action T} {out : List (Event T)}
    (h : step s a = some (s', out)) : Move s s' out := by
  cases a with
  | call t procedure =>
    simp only [step] at h
    split_ifs at h with hp
    cases h
    exact .quiet rfl (quiet_update hp rfl rfl) rfl rfl rfl
  | step t =>
    simp only [step] at h
    cases hp : s.pc t with
    | locking procedure =>
      cases procedure with
      | ensureStarted =>
        rw [hp] at h
        exact acquire_move h hp rfl rfl
      | isOnline =>
        rw [hp] at h
        exact acquire_move h hp rfl rfl
    | woken =>
      rw [hp] at h
      exact acquire_move h hp rfl rfl
    | started r =>
      rw [hp] at h
      exact acquire_move h hp rfl rfl
    | outside | checking | waiting | starting | publishing | reading =>
      rw [hp] at h
      exact underMutex_move h
  | wake t =>
    simp only [step] at h
    split_ifs at h with hp
    cases h
    exact .quiet rfl (quiet_update hp rfl rfl) rfl rfl rfl
  | finish t r =>
    simp only [step] at h
    split_ifs at h with hp
    cases h
    exact .finished t r rfl hp rfl rfl

section Append
variable (events out : List (Event T)) (e : Event T)
omit [DecidableEq T]

@[simp] lemma begins_append : begins (events ++ out) = begins events ++ begins out :=
  List.filterMap_append

@[simp] lemma results_append : results (events ++ out) = results events ++ results out :=
  List.filterMap_append

@[simp] lemma returns_append : returns (events ++ out) = returns events ++ returns out :=
  List.filterMap_append

@[simp] lemma begins_singleton : begins [e] = e.launcher?.toList := by
  cases e <;> rfl

@[simp] lemma results_singleton : results [e] = e.result?.toList := by
  cases e <;> rfl

@[simp] lemma returns_singleton : returns [e] = e.return?.toList := by
  cases e <;> rfl

end Append

omit [DecidableEq T] in
lemma phase_initial : Phase ([] : List (Event T)) (initial T) :=
  .stopped rfl rfl rfl rfl fun _ => rfl

lemma published_ne (r : ℤ) : published r ≠ .stopped ∧ published r ≠ .starting := by
  unfold published
  split_ifs <;> simp

omit [DecidableEq T] in
lemma launching_elim {s : State T} {t : T} {p : Pc} (h : ∀ t, (s.pc t).launching = false)
    (hplace : s.pc t = p) (hp : p.launching = true) : False := by
  rw [← hplace, h t] at hp
  cases hp

/-- A step keeps the phase, or moves from stopped to starting to settled. -/
theorem phase_step {events out : List (Event T)} {s s' : State T} (h : Phase events s)
    (hm : Move s s' out) : Phase (events ++ out) s' := by
  cases h with
  | stopped state noBegin noResult noReturn noLauncher =>
    cases hm with
    | quiet hstate hpcs hb hr ht =>
      refine .stopped (hstate.trans state) (by simp [noBegin, hb]) (by simp [noResult, hr])
        (by simp [noReturn, ht]) ?_
      intro t
      rw [(hpcs t).1, noLauncher]
    | began t _ hafter hpcs hout =>
      subst hout
      refine .starting t hafter (by simp [noBegin]) ?_ (by simp [noReturn]) ?_
      · simp [noResult, hpcs, Pc.results]
      · intro u
        rw [hpcs, launching_update, noLauncher]
        simp [Pc.launching]
    | finished t r _ hplace _ _ =>
      exact (launching_elim noLauncher hplace rfl).elim
    | informed t r _ _ hknown _ =>
      rcases hknown with ⟨hs, _⟩ | ⟨hs, _⟩ <;> simp [state] at hs
    | published t r _ hplace _ _ =>
      exact (launching_elim noLauncher hplace rfl).elim
  | starting launcher state announced result noReturn launching =>
    cases hm with
    | quiet hstate hpcs hb hr ht =>
      refine .starting launcher (hstate.trans state) (by simp [announced, hb]) ?_
        (by simp [noReturn, ht]) ?_
      · simp [result, hr, (hpcs launcher).2]
      · intro t
        rw [(hpcs t).1, launching]
    | began t hbefore _ _ _ => simp [state] at hbefore
    | finished t r hstate hplace hpcs hout =>
      subst hout
      have ht : t = launcher := (launching t).mp (by simp [hplace, Pc.launching])
      subst ht
      refine .starting t (hstate.trans state) (by simp [announced]) ?_
        (by simp [noReturn]) ?_
      · simp [result, hplace, hpcs, Pc.results]
      · intro u
        rw [hpcs, launching_update]
        split_ifs with hu
        · exact iff_of_true rfl hu
        · exact launching u
    | informed t r _ _ hknown _ =>
      rcases hknown with ⟨hs, _⟩ | ⟨hs, _⟩ <;> simp [state] at hs
    | published t r hstate hplace hpcs hout =>
      subst hout
      have ht : t = launcher := (launching t).mp (by simp [hplace, Pc.launching])
      subst ht
      refine .settled t r hstate (by simp [announced]) ?_ ?_ ?_
      · simp [result, hplace, Pc.results]
      · simp [noReturn]
      · intro u
        rw [hpcs, launching_update, (quiet_wakeAll s.pc u).1]
        split_ifs with hu
        · rfl
        · exact Bool.eq_false_iff.mpr ((launching u).not.mpr hu)
  | settled launcher result state announced finished agree noLauncher =>
    cases hm with
    | quiet hstate hpcs hb hr ht =>
      refine .settled launcher result (hstate.trans state) (by simp [announced, hb])
        (by simp [finished, hr]) (by simpa [ht] using agree) ?_
      intro t
      rw [(hpcs t).1, noLauncher]
    | began t hbefore _ _ _ => exact absurd (state.symm.trans hbefore) (published_ne result).1
    | finished t r _ hplace _ _ =>
      exact (launching_elim noLauncher hplace rfl).elim
    | informed t r hstate hpcs hknown hout =>
      subst hout
      refine .settled launcher result (hstate.trans state) (by simp [announced])
        (by simp [finished]) ?_ ?_
      · have hr : r = 0 ↔ result = 0 := by
          rw [state, TunnelStart.published] at hknown
          split_ifs at hknown with hz
          · simpa [hz] using hknown
          · have : r = -1 := by simpa using hknown
            simp [this, hz]
        intro x hx
        simp only [returns_append, List.mem_append] at hx
        rcases hx with hx | hx
        · exact agree x hx
        · have : x = r := by simpa using hx
          rw [this, hr]
      · intro u
        rw [(hpcs u).1, noLauncher]
    | published t r _ hplace _ _ =>
      exact (launching_elim noLauncher hplace rfl).elim

theorem phase_run {inputs : List (Action T)} {events : List (Event T)} {s : State T}
    (h : Run (ofStep step) (initial T) inputs events s) : Phase events s :=
  h.invariant phase_initial fun _ _ _ _ _ hp hs => phase_step hp (step_move hs)

/-- What `tsvita_tunnel_is_online` answers. -/
lemma answered_eq {s s' : State T} {a : Action T} {out : List (Event T)} {t : T} {b : Bool}
    (h : step s a = some (s', out)) (he : .answered t b ∈ out) :
    b = decide (s.gState = .online) ∧ s'.gState = s.gState := by
  cases a with
  | call | wake | finish =>
    simp only [step] at h
    split_ifs at h
    cases h
    simp at he
  | step u =>
    have hacquire : ∀ p, acquire s u p ≠ some (s', out) := by
      intro p hp
      unfold acquire at hp
      split_ifs at hp
      cases hp
      simp at he
    simp only [step] at h
    split at h
    · exact absurd h (hacquire _)
    · exact absurd h (hacquire _)
    · exact absurd h (hacquire _)
    · exact absurd h (hacquire _)
    · simp only [underMutex] at h
      split_ifs at h
      split at h
      · split at h <;> cases h <;> simp at he
      · cases h
        simp at he
      · cases h
        simp only [List.mem_singleton, Event.answered.injEq] at he
        exact ⟨he.2, rfl⟩
      · cases h

/-- A settled process stays settled, with the same result. -/
lemma settled_step {events : List (Event T)} {s s' : State T} {a : Action T}
    {out : List (Event T)} (h : Phase events s) (hs : s.gState = .online ∨ s.gState = .failed)
    (hstep : step s a = some (s', out)) : s'.gState = s.gState := by
  cases step_move hstep with
  | quiet hstate | finished _ _ hstate | informed _ _ hstate => exact hstate
  | began _ hbefore => rcases hs with hs | hs <;> simp [hs] at hbefore
  | published t r _ hplace =>
    cases h with
    | stopped state => rcases hs with hs | hs <;> simp [hs] at state
    | starting _ state => rcases hs with hs | hs <;> simp [hs] at state
    | settled _ _ _ _ _ _ noLauncher =>
      exact (launching_elim noLauncher hplace rfl).elim

lemma settled_run {events es : List (Event T)} {s s' : State T} {inputs is : List (Action T)}
    (h : Run (ofStep step) (initial T) inputs events s)
    (hs : s.gState = .online ∨ s.gState = .failed) (hr : Run (ofStep step) s is es s') :
    s'.gState = s.gState := by
  induction hr with
  | nil => rfl
  | snoc prior hstep ih =>
    rw [settled_step (phase_run (h.append prior)) (by rwa [ih]) hstep, ih]

omit [DecidableEq T] in
lemma mem_results {events : List (Event T)} {r : ℤ} :
    r ∈ results events ↔ ∃ t, Event.finished t r ∈ events := by
  constructor
  · intro h
    obtain ⟨e, he, hr⟩ := List.mem_filterMap.mp h
    cases e with
    | finished t x =>
      simp only [Event.result?, Option.some.injEq] at hr
      exact ⟨t, hr ▸ he⟩
    | began | returned | answered => simp at hr
  · rintro ⟨t, ht⟩
    exact List.mem_filterMap.mpr ⟨_, ht, rfl⟩

/-- When a call returns, the start has finished, with a result that the call reports. -/
lemma return_after_finish {events out : List (Event T)} {s s' : State T} {t : T} {r : ℤ}
    (h : Phase events s) (hm : Move s s' out) (he : .returned t r ∈ out) :
    ∃ u x, .finished u x ∈ events ∧ (r = 0 ↔ x = 0) := by
  have hnext := phase_step h hm
  have hret : r ∈ returns (events ++ out) := by
    rw [returns_append, List.mem_append]
    exact Or.inr (List.mem_filterMap.mpr ⟨_, he, rfl⟩)
  have hres : results out = [] := by
    cases hm with
    | quiet _ _ _ hr => exact hr
    | began _ _ _ _ hout | finished _ _ _ _ _ hout => subst hout; simp at he
    | informed _ _ _ _ _ hout | published _ _ _ _ _ hout => subst hout; rfl
  cases hnext with
  | stopped _ _ _ noReturn => simp [noReturn] at hret
  | starting _ _ _ _ noReturn => simp [noReturn] at hret
  | settled _ result _ _ finished agree =>
    rw [results_append, hres, List.append_nil] at finished
    obtain ⟨u, hu⟩ := mem_results.mp (show result ∈ results events by simp [finished])
    exact ⟨u, result, hu, agree r hret⟩

/-- In every run `start_tunnel` begins at most once, calls return only after it has
finished and agree with its result, and the final states are never left. -/
theorem ensureStarted_once {inputs : List (Action T)} {events : List (Event T)} {s : State T}
    (h : Run (ofStep step) (initial T) inputs events s) :
    (begins events).length ≤ 1 ∧
    (∀ before after t r, events = before ++ .returned t r :: after →
      ∃ u x, .finished u x ∈ before ∧ (r = 0 ↔ x = 0)) ∧
    (∀ t r u x, .returned t r ∈ events → .returned u x ∈ events → (r = 0 ↔ x = 0)) ∧
    (∀ is es s', Run (ofStep step) s is es s' →
      (s.gState = .online → s'.gState = .online) ∧
      (s.gState = .failed → s'.gState = .failed)) := by
  refine ⟨?_, ?_, ?_, ?_⟩
  · cases phase_run h with
    | stopped _ hb => simp [hb]
    | starting _ _ hb => simp [hb]
    | settled _ _ _ hb => simp [hb]
  · intro before after t r he
    subst he
    obtain ⟨_, events', u, i, out, v, hrun, hstep, hmem, gap, rfl⟩ := h.origin
    obtain ⟨w, x, hw, hx⟩ := return_after_finish (phase_run hrun) (step_move hstep) hmem
    exact ⟨w, x, List.mem_append_left _ hw, hx⟩
  · intro t r u x hr hx
    have hr' : r ∈ returns events := List.mem_filterMap.mpr ⟨_, hr, rfl⟩
    have hx' : x ∈ returns events := List.mem_filterMap.mpr ⟨_, hx, rfl⟩
    cases phase_run h with
    | stopped _ _ _ noReturn => simp [noReturn] at hr'
    | starting _ _ _ _ noReturn => simp [noReturn] at hr'
    | settled _ _ _ _ _ agree => exact (agree r hr').trans (agree x hx').symm
  · intro is es s' hr
    exact ⟨fun hs => (settled_run h (Or.inl hs) hr).trans hs,
      fun hs => (settled_run h (Or.inr hs) hr).trans hs⟩

/-- Two threads arrive, one waits, the start fails, and both report it. -/
theorem ensureStarted_once_two :
    ∃ s, Run (ofStep step) (initial (Fin 2))
      [.call 0 .ensureStarted, .call 1 .ensureStarted, .step 0, .step 0, .step 1, .step 1,
        .finish 0 (-60), .step 0, .step 0, .step 1, .step 1]
      [.began 0, .finished 0 (-60), .returned 0 (-60), .returned 1 (-1)] s ∧
      ∃ u x, Event.finished u x ∈ [Event.began (0 : Fin 2), .finished 0 (-60), .returned 0 (-60)] ∧
        ((-1 : ℤ) = 0 ↔ x = 0) := by
  obtain ⟨s, h⟩ := run_of_events (show (exec step (initial (Fin 2))
    [.call 0 .ensureStarted, .call 1 .ensureStarted, .step 0, .step 0, .step 1, .step 1,
      .finish 0 (-60), .step 0, .step 0, .step 1, .step 1]).map Prod.snd =
    some [.began 0, .finished 0 (-60), .returned 0 (-60), .returned 1 (-1)] by decide +kernel)
  exact ⟨s, h, (ensureStarted_once h).2.1 [.began 0, .finished 0 (-60), .returned 0 (-60)] [] 1
    (-1) rfl⟩

end MoonlightVita.TunnelStart
