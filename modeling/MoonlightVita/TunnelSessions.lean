import MoonlightVita.TunnelMachine

/-!
# Handshakes and the sessions they start

Every initiation starts at most one session, whatever responses arrive, as long as
initiations carry fresh sender indices.
-/
namespace MoonlightVita.Tunnel
open ReplayWindow LittleEndian Transition

variable {K H R I : Type}

section Histories

def Event.created? : Event K H I → Option I
  | .initiation message => message
  | _ => none

/-- The initiations that the library has created. -/
def created (events : List (Event K H I)) : List I := events.filterMap Event.created?

def Event.session? (m : Meaning K H I) : Event K H I → Option (Option I)
  | .startSession handshake => some (m.initiation handshake)
  | _ => none

/-- The initiation behind each call of `wireguard_start_session`. -/
def sessions (m : Meaning K H I) (events : List (Event K H I)) : List (Option I) :=
  events.filterMap (Event.session? m)

/-- Every initiation is a new one. -/
def Fresh (events : List (Event K H I)) : Prop := (created events).Nodup

@[simp] lemma created_append (es fs : List (Event K H I)) :
    created (es ++ fs) = created es ++ created fs := List.filterMap_append

@[simp] lemma sessions_append (m : Meaning K H I) (es fs : List (Event K H I)) :
    sessions m (es ++ fs) = sessions m es ++ sessions m fs := List.filterMap_append

lemma Fresh.left {es fs : List (Event K H I)} (h : Fresh (es ++ fs)) : Fresh es := by
  unfold Fresh at h ⊢
  rw [created_append] at h
  exact (List.nodup_append.mp h).1

lemma Fresh.new {es fs : List (Event K H I)} (h : Fresh (es ++ fs)) {i : I}
    (hi : i ∈ created fs) : i ∉ created es := by
  intro hmem
  unfold Fresh at h
  rw [created_append] at h
  exact (List.nodup_append.mp h).2.2 i hmem i hi rfl

lemma filterMap_quiet {β : Type} {f : Event K H I → Option β} {out : List (Event K H I)}
    (hrejection : ∀ result reason total, f (.rejection result reason total) = none)
    (hrekey : ∀ result, f (.rekey result) = none)
    (hkeepalive : ∀ result, f (.keepalive result) = none) (h : ∀ e ∈ out, e.Quiet) :
    out.filterMap f = [] := by
  refine List.filterMap_eq_nil_iff.mpr fun e he => ?_
  exact (h e he).induct (P := fun e => f e = none) hrejection hrekey hkeepalive

end Histories

section Peers
variable {peer : Peer K H} {slot : Slot} {keypair : Keypair K}

@[simp] lemma set_keypair_self : (peer.set slot keypair).keypair slot = keypair := by
  simp [Peer.set]

lemma set_keypair_of_ne {slot' : Slot} (h : slot' ≠ slot) :
    (peer.set slot keypair).keypair slot' = peer.keypair slot' := by
  simp [Peer.set, Function.update_of_ne h]

/-- Replacing one keypair relates every slot as it relates that one. -/
lemma set_keypair_rel {rel : Keypair K → Keypair K → Prop} (hrefl : ∀ keypair, rel keypair keypair)
    (h : rel keypair (peer.keypair slot)) (slot' : Slot) :
    rel ((peer.set slot keypair).keypair slot') (peer.keypair slot') := by
  by_cases hslot : slot' = slot
  · subst hslot
    rwa [set_keypair_self]
  · rw [set_keypair_of_ne hslot]
    exact hrefl _

end Peers

/-- A handshake in progress has started no session yet. -/
structure SessionInv (m : Meaning K H I) (events : List (Event K H I)) (g : TunnelContext K H) :
    Prop where
  pending : ∀ peer i, g.peer = some peer → m.initiation peer.handshake = some i →
    i ∈ created events ∧ some i ∉ sessions m events
  known : ∀ o ∈ sessions m events, ∃ i ∈ created events, o = some i
  once : (sessions m events).Nodup

variable {lib : Wireguard K H R I} {m : Meaning K H I}

/-- A move that starts and initiates nothing. -/
lemma SessionInv.keep {events out : List (Event K H I)} {g g' : TunnelContext K H}
    (h : SessionInv m events g) (hcreated : created out = []) (hsessions : sessions m out = [])
    (hpeer : ∀ peer' i, g'.peer = some peer' → m.initiation peer'.handshake = some i →
      ∃ peer, g.peer = some peer ∧ m.initiation peer.handshake = some i) :
    SessionInv m (events ++ out) g' where
  pending := by
    intro peer' i hp hi
    obtain ⟨peer, hpeer, hstate⟩ := hpeer peer' i hp hi
    simpa [hcreated, hsessions] using h.pending peer i hpeer hstate
  known := by simpa [hcreated, hsessions] using h.known
  once := by simpa [hsessions] using h.once

theorem sessionInv_move {events out : List (Event K H I)} {g g' : TunnelContext K H}
    {datagram : Option Bytes} (hl : Lawful lib m) (h : SessionInv m events g)
    (hfresh : Fresh (events ++ out)) (hm : Move lib m datagram g out g') :
    SessionInv m (events ++ out) g' := by
  cases hm with
  | quiet peer' _ out_quiet =>
    have hcreated : created out = [] :=
      filterMap_quiet (fun _ _ _ => rfl) (fun _ => rfl) (fun _ => rfl) out_quiet
    have hsessions : sessions m out = [] :=
      filterMap_quiet (fun _ _ _ => rfl) (fun _ => rfl) (fun _ => rfl) out_quiet
    exact h.keep hcreated hsessions fun p i hp hi => ⟨p, peer' ▸ hp, hi⟩
  | @encrypt _ _ _ peer _ _ hpeer _ peer' =>
    refine h.keep rfl rfl fun p i hp hi => ⟨peer, hpeer, ?_⟩
    rw [← Option.some.inj (peer'.symm.trans hp)] at hi
    exact hi
  | @initiateFailed _ _ _ peer handshake hpeer peer' state =>
    refine h.keep rfl rfl fun p i hp hi => ⟨peer, hpeer, ?_⟩
    rw [← Option.some.inj (peer'.symm.trans hp)] at hi
    rcases state with hnone | hsame
    · rw [hnone] at hi
      cases hi
    · rw [← hsame]
      exact hi
  | @initiate _ _ _ peer handshake i sent hpeer peer' state =>
    have hcreated : created ([.initiation (some i), .initiationSent i sent] :
        List (Event K H I)) = [i] := rfl
    have hsessions : sessions m [.initiation (some i), .initiationSent i sent] = [] := rfl
    have hnew := hfresh.new (i := i) (by simp [hcreated])
    refine ⟨?_, ?_, by simpa [hsessions] using h.once⟩
    · intro p j hp hj
      rw [← Option.some.inj (peer'.symm.trans hp)] at hj
      obtain rfl : i = j := Option.some.inj (state.symm.trans hj)
      refine ⟨by simp [hcreated], fun hmem => ?_⟩
      rw [sessions_append, hsessions, List.append_nil] at hmem
      obtain ⟨k, hk, hik⟩ := h.known _ hmem
      rw [Option.some.inj hik] at hnew
      exact hnew hk
    · intro o ho
      rw [sessions_append, hsessions, List.append_nil] at ho
      obtain ⟨k, hk, hok⟩ := h.known o ho
      exact ⟨k, by simp [hk], hok⟩
  | @session _ _ peer handshake i response hpeer before state _ _ peer' =>
    have hcreated : created ([.startSession handshake] : List (Event K H I)) = [] := rfl
    have hsessions : sessions m ([.startSession handshake] : List (Event K H I)) = [some i] := by
      simp [sessions, Event.session?, state]
    obtain ⟨hi, hnot⟩ := h.pending peer i hpeer before
    refine ⟨?_, ?_, ?_⟩
    · intro p j hp hj
      rw [← Option.some.inj (peer'.symm.trans hp), hl.start_ends] at hj
      cases hj
    · intro o ho
      rw [sessions_append, hsessions, List.mem_append, List.mem_singleton] at ho
      rw [created_append, hcreated, List.append_nil]
      rcases ho with ho | rfl
      · exact h.known o ho
      · exact ⟨i, hi, rfl⟩
    · rw [sessions_append, hsessions, ← List.concat_eq_append]
      exact h.once.concat hnot
  | @accept _ _ peer replay _ slot counter packets hpeer _ _ peer' =>
    refine h.keep ?_ ?_ fun p i hp hi => ⟨peer, hpeer, ?_⟩
    · simp [created, Event.created?]
    · simp [sessions, Event.session?]
    · rw [← Option.some.inj (peer'.symm.trans hp)] at hi
      exact hi
  | @replayed _ _ peer replay _ slot counter hpeer _ _ peer' =>
    refine h.keep rfl rfl fun p i hp hi => ⟨peer, hpeer, ?_⟩
    rw [← Option.some.inj (peer'.symm.trans hp)] at hi
    exact hi

lemma sessionInv_initial (endpoint : Endpoint) {handshake : H} (key : K) (clock : UInt64)
    (hidle : m.initiation handshake = none) :
    SessionInv m [] (initialState (I := I) endpoint handshake key clock).g where
  pending := by
    intro peer i hp hi
    cases hp
    rw [hidle] at hi
    cases hi
  known := by simp [sessions]
  once := List.nodup_nil

/-- An invariant of every move, given the session invariant, is one of every run. -/
theorem moves_invariant {g₀ g : TunnelContext K H} {is : List (Option Bytes)}
    {events : List (Event K H I)}
    (hl : Lawful lib m) {P : List (Event K H I) → TunnelContext K H → Prop}
    (hsession : SessionInv m [] g₀) (hinit : P [] g₀)
    (hstep : ∀ events datagram g out g', Fresh (events ++ out) → SessionInv m events g →
      P events g → Move lib m datagram g out g' → P (events ++ out) g')
    (h : Run (moves lib m) g₀ is events g) (hfresh : Fresh events) :
    SessionInv m events g ∧ P events g := by
  refine h.invariant (P := fun events g => Fresh events → SessionInv m events g ∧ P events g)
    (fun _ => ⟨hsession, hinit⟩) ?_ hfresh
  intro events g datagram out g' ih hm hfresh
  obtain ⟨hs, hp⟩ := ih hfresh.left
  exact ⟨sessionInv_move hl hs hfresh hm, hstep events datagram g out g' hfresh hs hp hm⟩

/-- A session starts only with a datagram that answers its initiation. -/
lemma Move.start {datagram : Option Bytes} {g g' : TunnelContext K H} {out : List (Event K H I)}
    {handshake : H} (h : Move lib m datagram g out g') (he : .startSession handshake ∈ out) :
    ∃ i incoming, datagram = some incoming ∧ m.initiation handshake = some i ∧
      m.answers i incoming := by
  cases h with
  | quiet _ _ out_quiet => exact (out_quiet _ he).elim
  | encrypt | initiateFailed | initiate | accept | replayed => simp at he
  | session i response _ _ state _ answers =>
    simp only [List.mem_singleton, Event.startSession.injEq] at he
    subst he
    exact ⟨i, response, rfl, state, answers⟩

/-- Nobody answers an initiation that was not sent. -/
def Genuine (m : Meaning K H I) (s : State K H I) (a : Action R) : Prop :=
  ∀ incoming, a.datagram? = some incoming → ∀ i, m.answers i incoming → i ∈ s.sent.map Prod.fst

/-- Without forged responses a session starts only for an initiation that was sent. -/
theorem sessions_sent (hl : Lawful lib m) {endpoint : Endpoint} {handshake : H} {key : K}
    {clock : UInt64} {inputs : List (Action R)} {events : List (Event K H I)} {s : State K H I}
    (h : Run (restrict (ofStep (step lib)) (Genuine m))
      (initialState endpoint handshake key clock) inputs events s) :
    ∀ o ∈ sessions m events, ∃ i ∈ sentInitiations events, o = some i := by
  refine (h.invariant (P := fun events s => (s.g.peer.isSome ∧
    s.history.map Prod.fst = events) ∧
      ∀ o ∈ sessions m events, ∃ i ∈ sentInitiations events, o = some i)
    ⟨⟨rfl, rfl⟩, by simp [sessions]⟩ ?_).2
  rintro events s a out t ⟨⟨hpeer, hhistory⟩, hsessions⟩ ⟨hgenuine, hs⟩
  have hstepped := step_steps hl hpeer hs
  obtain ⟨n, hmoves⟩ := hstepped.1.moveRun hl
  refine ⟨⟨peer_isSome_of_moves hmoves hpeer, hstepped.events hhistory⟩, ?_⟩
  intro o ho
  rw [sentInitiations_append]
  rw [sessions_append, List.mem_append] at ho
  rcases ho with ho | ho
  · obtain ⟨i, hi, rfl⟩ := hsessions o ho
    exact ⟨i, List.mem_append_left _ hi, rfl⟩
  · obtain ⟨e, he, hstart⟩ := List.mem_filterMap.mp ho
    cases e with
    | startSession started =>
      obtain ⟨u, d, out', v, hd, hmove, hmem⟩ := hmoves.mem_origin he
      obtain ⟨i, incoming, rfl, hi, hanswers⟩ := Move.start hmove hmem
      have hdatagram := (List.mem_replicate.mp hd).2.symm
      have hin := hgenuine incoming hdatagram i hanswers
      rw [sent_of_history hhistory] at hin
      refine ⟨i, List.mem_append_left _ hin, ?_⟩
      rw [← Option.some.inj hstart, hi]
    | transport | initiation | initiationSent | accepted | tcpipInput | rejection | rekey
    | keepalive | fault => cases hstart

end MoonlightVita.Tunnel
