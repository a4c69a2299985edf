import MoonlightVita.TunnelStart

/-!
# One backend for every socket and lookup of a run

`__wrap_socket`, `__wrap_getaddrinfo` and `__wrap_freeaddrinfo` on top of the
tunnel start. Creation asks `tsvita_tunnel_ensure_started`, release asks
`tsvita_tunnel_is_online` later; each of their sections is a step of its own.
-/
namespace MoonlightVita.ShimBackend
open Transition TunnelStart

inductive Backend
  | lwip | native
  deriving DecidableEq, Repr

def afInet : ℤ := 2
def sizeofSockaddrIn : ℕ := 16

structure Addrinfo where
  aiFamily : ℤ
  aiAddrlen : ℕ
  deriving DecidableEq, Repr

/-- An address list: where it was allocated, and its entries. -/
structure AddrList where
  address : ℕ
  entries : List Addrinfo
  deriving DecidableEq, Repr

/-- The loop of `__wrap_getaddrinfo` over the entries that lwIP returned. -/
def fixAddrlen (entries : List Addrinfo) : List Addrinfo :=
  entries.map fun e => if e.aiFamily = afInet then { e with aiAddrlen := sizeofSockaddrIn } else e

inductive Creation
  | socket (domain : ℤ)
  | getaddrinfo
  deriving DecidableEq, Repr

/-- Where a thread stands in a wrapper. -/
inductive WrapPc
  | idle
  | ensuring (creation : Creation)
  | chosen (creation : Creation) (backend : Backend)
  | asking (list : ℕ)
  | freeing (list : ℕ) (backend : Backend)
  deriving DecidableEq, Repr

/-- `allocated` remembers the backend of every address list not yet released. -/
structure Shim (T : Type*) where
  tunnel : State T
  wrap : T → WrapPc
  allocated : ℕ → Option Backend

inductive ShimEvent (T : Type*)
  | tunnel (event : Event T)
  | socket (thread : T) (domain : ℤ) (backend : Backend)
  | lookup (thread : T) (backend : Backend) (result : Option AddrList)
  | freed (thread : T) (list : ℕ) (backend : Backend)
  deriving DecidableEq, Repr

/-- `serve` is the call of the chosen backend; a lookup may fail or allocate a list. -/
inductive ShimAction (T : Type*)
  | socket (thread : T) (domain : ℤ)
  | getaddrinfo (thread : T)
  | freeaddrinfo (thread : T) (list : ℕ)
  | tunnel (action : Action T)
  | serve (thread : T) (answer : Option AddrList)
  deriving DecidableEq, Repr

def initialShim (T : Type*) : Shim T := ⟨initial T, fun _ => .idle, fun _ => none⟩

/-- `ensure_started() == 0` selects lwIP, and so does `is_online()`. -/
def backendOf (lwip : Bool) : Backend := if lwip then .lwip else .native

variable {T : Type*} [DecidableEq T]

/-- A wrapper goes on when the tunnel procedure that it called returns. -/
def WrapPc.reply : WrapPc → Event T → WrapPc
  | .ensuring creation, .returned _ result => .chosen creation (backendOf (result = 0))
  | .asking list, .answered _ online => .freeing list (backendOf online)
  | pc, _ => pc

def resume (wrap : T → WrapPc) (e : Event T) : T → WrapPc :=
  Function.update wrap e.thread ((wrap e.thread).reply e)

def enter (s : Shim T) (a : Action T) (t : T) (pc : WrapPc) :
    Option (Shim T × List (ShimEvent T)) :=
  match step s.tunnel a with
  | none => none
  | some (tunnel, out) =>
    some ({ s with tunnel := tunnel, wrap := Function.update s.wrap t pc }, out.map .tunnel)

def serve (s : Shim T) (t : T) (answer : Option AddrList) : Option (Shim T × List (ShimEvent T)) :=
  match s.wrap t with
  | .chosen (.socket domain) backend =>
    some ({ s with wrap := Function.update s.wrap t .idle }, [.socket t domain backend])
  | .chosen .getaddrinfo backend =>
    match answer with
    | none =>
      some ({ s with wrap := Function.update s.wrap t .idle }, [.lookup t backend none])
    | some list =>
      if s.allocated list.address = none then
        let entries := if backend = .lwip then fixAddrlen list.entries else list.entries
        some ({ s with
          wrap := Function.update s.wrap t .idle
          allocated := Function.update s.allocated list.address (some backend) },
          [.lookup t backend (some { list with entries := entries })])
      else none
  | .freeing list backend =>
    some ({ s with
      wrap := Function.update s.wrap t .idle
      allocated := Function.update s.allocated list none }, [.freed t list backend])
  | _ => none

def shimStep (s : Shim T) : ShimAction T → Option (Shim T × List (ShimEvent T))
  | .socket t domain =>
    if s.wrap t = .idle then
      if domain = afInet then enter s (.call t .ensureStarted) t (.ensuring (.socket domain))
      else some (s, [.socket t domain .native])
    else none
  | .getaddrinfo t =>
    if s.wrap t = .idle then enter s (.call t .ensureStarted) t (.ensuring .getaddrinfo) else none
  | .freeaddrinfo t list =>
    if s.wrap t = .idle ∧ (s.allocated list).isSome then
      enter s (.call t .isOnline) t (.asking list)
    else none
  | .tunnel (.call _ _) => none
  | .tunnel a =>
    match step s.tunnel a with
    | none => none
    | some (tunnel, out) =>
      some ({ s with tunnel := tunnel, wrap := out.foldl resume s.wrap }, out.map .tunnel)
  | .serve t answer => serve s t answer

/-- The backend that the settled tunnel state stands for. -/
def Chosen (s : State T) (backend : Backend) : Prop :=
  s.gState = .online ∧ backend = .lwip ∨ s.gState = .failed ∧ backend = .native

lemma Chosen.step {events out : List (Event T)} {s s' : State T} {a : Action T} {b : Backend}
    (hp : Phase events s) (hs : step s a = some (s', out)) (h : Chosen s b) : Chosen s' b := by
  have hsettled : s.gState = .online ∨ s.gState = .failed := h.imp And.left And.left
  unfold Chosen at h ⊢
  rwa [settled_step hp hsettled hs]

omit [DecidableEq T] in
lemma chosen_published {s : State T} {r : ℤ} (h : s.gState = published r) :
    Chosen s (backendOf (r = 0)) := by
  unfold published at h
  split_ifs at h with hr
  · exact Or.inl ⟨h, by simp [backendOf, hr]⟩
  · exact Or.inr ⟨h, by simp [backendOf, hr]⟩

def ShimEvent.tunnel? : ShimEvent T → Option (Event T)
  | .tunnel e => some e
  | _ => none

/-- The events of the tunnel start among all events. -/
def tunnelEvents (events : List (ShimEvent T)) : List (Event T) :=
  events.filterMap ShimEvent.tunnel?

omit [DecidableEq T] in
@[simp] lemma tunnelEvents_map (out : List (Event T)) :
    tunnelEvents (out.map ShimEvent.tunnel) = out := by
  simp [tunnelEvents, List.filterMap_map, Function.comp_def, ShimEvent.tunnel?]

omit [DecidableEq T] in
@[simp] lemma tunnelEvents_append (es fs : List (ShimEvent T)) :
    tunnelEvents (es ++ fs) = tunnelEvents es ++ tunnelEvents fs :=
  List.filterMap_append

/-- A lookup of this backend returned the list. -/
def ListedBy (events : List (ShimEvent T)) (list : ℕ) (backend : Backend) : Prop :=
  ∃ u entries, .lookup u backend (some ⟨list, entries⟩) ∈ events

def WrapOk (events : List (ShimEvent T)) (s : State T) : WrapPc → Prop
  | .idle | .ensuring _ => True
  | .chosen _ backend => Chosen s backend
  | .asking list => ∃ backend, Chosen s backend ∧ ListedBy events list backend
  | .freeing list backend => Chosen s backend ∧ ListedBy events list backend

def EventOk (s : State T) : ShimEvent T → Prop
  | .socket _ domain backend => domain = afInet → Chosen s backend
  | .lookup _ backend _ => Chosen s backend
  | .tunnel _ | .freed _ _ _ => True

structure Inv (events : List (ShimEvent T)) (s : Shim T) : Prop where
  phase : Phase (tunnelEvents events) s.tunnel
  wraps : ∀ t, WrapOk events s.tunnel (s.wrap t)
  served : ∀ e ∈ events, EventOk s.tunnel e
  lists : ∀ list backend, s.allocated list = some backend →
    Chosen s.tunnel backend ∧ ListedBy events list backend

section Mono
variable {events out : List (ShimEvent T)} {s s' : State T}
omit [DecidableEq T]

lemma ListedBy.append {list : ℕ} {b : Backend} (h : ListedBy events list b) :
    ListedBy (events ++ out) list b := by
  obtain ⟨u, entries, hm⟩ := h
  exact ⟨u, entries, List.mem_append_left _ hm⟩

lemma WrapOk.mono (hc : ∀ b, Chosen s b → Chosen s' b) {pc : WrapPc} (h : WrapOk events s pc) :
    WrapOk (events ++ out) s' pc := by
  cases pc with
  | idle | ensuring => trivial
  | chosen _ b => exact hc b h
  | asking list =>
    obtain ⟨b, hb, hl⟩ := h
    exact ⟨b, hc b hb, hl.append⟩
  | freeing list b => exact ⟨hc b h.1, h.2.append⟩

lemma EventOk.mono (hc : ∀ b, Chosen s b → Chosen s' b) {e : ShimEvent T} (h : EventOk s e) :
    EventOk s' e := by
  cases e with
  | socket t d b => exact fun hd => hc b (h hd)
  | lookup t b r => exact hc b h
  | tunnel | freed => trivial

end Mono

/-- What a wrapper may rely on when the tunnel procedure it called returns. -/
def ReplyOk (s : State T) : Event T → Prop
  | .returned _ result => Chosen s (backendOf (result = 0))
  | .answered _ online => ∀ b, Chosen s b → b = backendOf online
  | _ => True

omit [DecidableEq T] in
lemma reply_wrapOk {events : List (ShimEvent T)} {s : State T} {pc : WrapPc} {e : Event T}
    (hw : WrapOk events s pc) (he : ReplyOk s e) : WrapOk events s (pc.reply e) := by
  cases pc with
  | idle | chosen | freeing => exact hw
  | ensuring creation =>
    cases e with
    | began | finished | answered => exact hw
    | returned => exact he
  | asking list =>
    cases e with
    | began | finished | returned => exact hw
    | answered t online =>
      obtain ⟨b, hb, hl⟩ := hw
      have hbe := he b hb
      subst hbe
      exact ⟨hb, hl⟩

lemma resume_ok {events : List (ShimEvent T)} {s : State T} {wrap : T → WrapPc} {e : Event T}
    (hw : ∀ t, WrapOk events s (wrap t)) (he : ReplyOk s e) (t : T) :
    WrapOk events s (resume wrap e t) := by
  unfold resume
  by_cases ht : t = e.thread
  · subst ht
    simpa using reply_wrapOk (hw e.thread) he
  · simpa [Function.update, ht] using hw t

lemma foldl_resume_ok {events : List (ShimEvent T)} {s : State T} {wrap : T → WrapPc}
    {out : List (Event T)} (hw : ∀ t, WrapOk events s (wrap t)) (he : ∀ e ∈ out, ReplyOk s e) :
    ∀ t, WrapOk events s (out.foldl resume wrap t) := by
  induction out generalizing wrap with
  | nil => exact hw
  | cons e out ih =>
    exact ih (resume_ok hw (he e (by simp))) fun x hx => he x (by simp [hx])

/-- A step of the tunnel start tells the wrappers the truth. -/
lemma reply_ok {events out : List (Event T)} {s s' : State T} {a : Action T}
    (hp : Phase events s) (hs : step s a = some (s', out)) : ∀ e ∈ out, ReplyOk s' e := by
  intro e he
  cases e with
  | began | finished => trivial
  | returned t r =>
    have hret : r ∈ returns (events ++ out) := by
      rw [returns_append, List.mem_append]
      exact Or.inr (List.mem_filterMap.mpr ⟨_, he, rfl⟩)
    cases phase_step hp (step_move hs) with
    | stopped _ _ _ noReturn => simp [noReturn] at hret
    | starting _ _ _ _ noReturn => simp [noReturn] at hret
    | settled _ result state _ _ agree =>
      have hr := chosen_published state
      simpa only [ReplyOk, agree r hret] using hr
  | answered t online =>
    obtain ⟨rfl, hg⟩ := answered_eq hs he
    intro b hb
    rcases hb with ⟨h1, rfl⟩ | ⟨h1, rfl⟩ <;> rw [hg] at h1 <;> simp [h1, backendOf]

omit [DecidableEq T] in
lemma inv_initial : Inv ([] : List (ShimEvent T)) (initialShim T) where
  phase := phase_initial
  wraps := fun _ => trivial
  served := by simp
  lists := by simp [initialShim]

lemma Inv.tunnel {events : List (ShimEvent T)} {s : Shim T} {a : Action T} {tunnel : State T}
    {out : List (Event T)} {wrap : T → WrapPc} (h : Inv events s)
    (hs : step s.tunnel a = some (tunnel, out))
    (hw : ∀ t, WrapOk (events ++ out.map .tunnel) tunnel (wrap t)) :
    Inv (events ++ out.map .tunnel) { s with tunnel := tunnel, wrap := wrap } where
  phase := by simpa using phase_step h.phase (step_move hs)
  wraps := hw
  served := by
    intro e he
    rcases List.mem_append.mp he with he | he
    · exact (h.served e he).mono fun _ => Chosen.step h.phase hs
    · obtain ⟨x, _, rfl⟩ := List.mem_map.mp he
      trivial
  lists := by
    intro list b hl
    obtain ⟨hc, hb⟩ := h.lists list b hl
    exact ⟨hc.step h.phase hs, hb.append⟩

lemma enter_inv {events out : List (ShimEvent T)} {s s' : Shim T} {a : Action T} {t : T}
    {pc : WrapPc} (h : Inv events s) (he : enter s a t pc = some (s', out))
    (hpc : WrapOk events s.tunnel pc) : Inv (events ++ out) s' := by
  unfold enter at he
  cases hs : step s.tunnel a with
  | none => simp [hs] at he
  | some r =>
    simp only [hs] at he
    cases he
    refine h.tunnel hs fun u => ?_
    by_cases hu : u = t
    · subst hu
      simpa using hpc.mono fun _ => Chosen.step h.phase hs
    · simpa [Function.update, hu] using (h.wraps u).mono fun _ => Chosen.step h.phase hs

/-- A step that leaves the tunnel alone and lets one wrapper return. -/
lemma Inv.served_step {events : List (ShimEvent T)} {s : Shim T} {t : T} {e : ShimEvent T}
    {allocated : ℕ → Option Backend} (h : Inv events s) (hnone : e.tunnel? = none)
    (he : EventOk s.tunnel e)
    (hl : ∀ list b, allocated list = some b →
      Chosen s.tunnel b ∧ ListedBy (events ++ [e]) list b) :
    Inv (events ++ [e]) { s with wrap := Function.update s.wrap t .idle, allocated := allocated } where
  phase := by
    have hp := h.phase
    simpa [tunnelEvents, hnone] using hp
  wraps := by
    intro u
    by_cases hu : u = t
    · simp [hu, WrapOk]
    · simpa [Function.update, hu] using (h.wraps u).mono fun _ => id
  served := by
    intro x hx
    rcases List.mem_append.mp hx with hx | hx
    · exact h.served x hx
    · rw [List.mem_singleton.mp hx]
      exact he
  lists := hl

lemma serve_inv {events out : List (ShimEvent T)} {s s' : Shim T} {t : T}
    {answer : Option AddrList} (h : Inv events s) (hs : serve s t answer = some (s', out)) :
    Inv (events ++ out) s' := by
  have hw := h.wraps t
  have hkeep : ∀ e : ShimEvent T, ∀ list b, s.allocated list = some b →
      Chosen s.tunnel b ∧ ListedBy (events ++ [e]) list b := fun e list b hl =>
    (h.lists list b hl).imp id ListedBy.append
  unfold serve at hs
  cases hp : s.wrap t with
  | idle | ensuring | asking => simp [hp] at hs
  | chosen creation backend =>
    rw [hp] at hw
    cases creation with
    | socket domain =>
      simp only [hp] at hs
      cases hs
      exact h.served_step rfl (fun _ => hw) (hkeep _)
    | getaddrinfo =>
      cases answer with
      | none =>
        simp only [hp] at hs
        cases hs
        exact h.served_step rfl hw (hkeep _)
      | some list =>
        simp only [hp] at hs
        split_ifs at hs <;> cases hs
        all_goals
          refine h.served_step rfl hw fun l b hl => ?_
          by_cases he : l = list.address
          · subst he
            simp only [Function.update_self, Option.some.injEq] at hl
            subst hl
            exact ⟨hw, t, _, List.mem_append_right _ (List.mem_singleton.mpr rfl)⟩
          · exact hkeep _ l b (by simpa [Function.update, he] using hl)
  | freeing list backend =>
    simp only [hp] at hs
    cases hs
    refine h.served_step rfl trivial fun l b hl => ?_
    by_cases he : l = list
    · simp [he] at hl
    · exact hkeep _ l b (by simpa [Function.update, he] using hl)

theorem inv_step {events out : List (ShimEvent T)} {s s' : Shim T} {a : ShimAction T}
    (h : Inv events s) (hs : shimStep s a = some (s', out)) : Inv (events ++ out) s' := by
  cases a with
  | socket t domain =>
    simp only [shimStep] at hs
    split_ifs at hs with hidle hdomain
    · exact enter_inv h hs trivial
    · cases hs
      have hself : { s with wrap := Function.update s.wrap t .idle } = s := by
        rw [← hidle, Function.update_eq_self]
      rw [← hself]
      exact h.served_step rfl (fun hd => absurd hd hdomain) fun l b hl =>
        (h.lists l b hl).imp id ListedBy.append
  | getaddrinfo t =>
    simp only [shimStep] at hs
    split_ifs at hs
    exact enter_inv h hs trivial
  | freeaddrinfo t list =>
    simp only [shimStep] at hs
    split_ifs at hs with hguard
    obtain ⟨b, hb⟩ := Option.isSome_iff_exists.mp hguard.2
    exact enter_inv h hs ⟨b, h.lists list b hb⟩
  | tunnel a =>
    cases a with
    | call => simp [shimStep] at hs
    | step | wake | finish =>
      simp only [shimStep] at hs
      split at hs
      · cases hs
      · rename_i tunnel out' hstep
        cases hs
        exact h.tunnel hstep (foldl_resume_ok
          (fun t => (h.wraps t).mono fun _ => Chosen.step h.phase hstep) (reply_ok h.phase hstep))
  | serve t answer => exact serve_inv h hs

theorem inv_run {inputs : List (ShimAction T)} {events : List (ShimEvent T)} {s : Shim T}
    (h : Run (ofStep shimStep) (initialShim T) inputs events s) : Inv events s :=
  h.invariant inv_initial fun _ _ _ _ _ hi hs => inv_step hi hs

end MoonlightVita.ShimBackend
