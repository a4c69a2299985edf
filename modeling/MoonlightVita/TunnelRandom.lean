import MoonlightVita.TunnelRekey

/-!
# The random numbers of an initiation

`wireguard_random_bytes` fills a buffer from the kernel, and with zeros if the kernel
fails. The library draws the ephemeral key and the sender index of an initiation
with it. Here a message carries the calls of the kernel that it was made from.
-/
namespace MoonlightVita.Tunnel
open LittleEndian Transition

/-- A call of `sceKernelGetRandomNumber`: its result and what it fills in. -/
structure RandomNumber (size : ℕ) where
  result : ℤ
  bytes : Vector UInt8 size
  deriving DecidableEq, Repr

/-- The buffer after the call. -/
def wireguardRandomBytes {size : ℕ} (drawn : RandomNumber size) : Vector UInt8 size :=
  if drawn.result < 0 then .replicate size 0 else drawn.bytes

/-- The value of `g_random_error` after the call. -/
def recordRandomError {size : ℕ} (gRandomError : ℤ) (drawn : RandomNumber size) : ℤ :=
  if drawn.result < 0 then drawn.result else gRandomError

/-- The calls of one initiation: for its ephemeral key, and for its sender index until one
can be used. -/
structure Draws where
  ephemeral : RandomNumber 32
  sender : List (RandomNumber 4)
  deriving DecidableEq, Repr

abbrev Filled : Type := Vector UInt8 32 × List (Vector UInt8 4)

/-- What the library gets. -/
def Draws.filled (draws : Draws) : Filled :=
  (wireguardRandomBytes draws.ephemeral, draws.sender.map wireguardRandomBytes)

def Draws.recordRandomError (gRandomError : ℤ) (draws : Draws) : ℤ :=
  draws.sender.foldl Tunnel.recordRandomError
    (Tunnel.recordRandomError gRandomError draws.ephemeral)

variable {K H R I : Type}

/-- The library with the random numbers of this platform. -/
def Wireguard.drawing (lib : Wireguard K H Filled I) : Wireguard K H Draws (I × Draws) where
  getMessageType := lib.getMessageType
  createHandshakeInitiation := fun draws peer =>
    let created := lib.createHandshakeInitiation draws.filled peer
    (created.1.map fun initiation => (initiation, draws), created.2)
  sender := fun initiation => lib.sender initiation.1
  checkMac1 := lib.checkMac1
  processHandshakeResponse := lib.processHandshakeResponse
  startSession := lib.startSession
  getPeerKeypairForIdx := lib.getPeerKeypairForIdx
  encryptPacket := lib.encryptPacket
  decryptPacket := lib.decryptPacket
  rejectAfterMessages := lib.rejectAfterMessages

def Action.draw? : Action R → Option R
  | .connect draw _ _ | .maintain draw _ _ _ => some draw
  | _ => none

structure Platform (K H I : Type) where
  tunnel : State K H (I × Draws)
  gRandomError : ℤ

/-- A step of the tunnel, or `tsvita_lwip_rand` in any thread. -/
inductive Call
  | tunnel (action : Action Draws)
  | lwipRand (drawn : RandomNumber 4)

def platformStep (lib : Wireguard K H Filled I) (s : Platform K H I) :
    Call → Option (Platform K H I × List (Event K H (I × Draws)))
  | .tunnel action =>
    match step lib.drawing s.tunnel action with
    | none => none
    | some (tunnel, out) =>
      let gRandomError :=
        match action.draw? with
        | some draws =>
          if initiates out then draws.recordRandomError s.gRandomError else s.gRandomError
        | none => s.gRandomError
      some (⟨tunnel, gRandomError⟩, out)
  | .lwipRand drawn => some ({ s with gRandomError := recordRandomError s.gRandomError drawn }, [])

/-- What is drawn for an initiation, and the result of sending it, if the step makes one. -/
def State.initiating (s : State K H I) : Action R → Option (R × ℤ)
  | .connect draw sent _ => some (draw, sent)
  | .maintain draw sent _ _ =>
    match s.rx with
    | .maintaining now =>
      if s.g.pendingHandshakeSender = 0 ∧ tsvitaRekeyIntervalUs ≤ now - s.g.lastHandshakeUs then
        some (draw, sent)
      else none
    | _ => none
  | _ => none

/-- The kernel does not fail to draw the ephemeral key of an initiation that the library
completes and the socket takes. -/
def Drawn (lib : Wireguard K H Filled I) (s : Platform K H I) : Call → Prop
  | .tunnel action => ∀ draws peer,
      s.tunnel.initiating action = some (draws, (sizeofHandshakeInitiation : ℤ)) →
      s.tunnel.g.peer = some peer →
      (lib.createHandshakeInitiation draws.filled peer).1.isSome → 0 ≤ draws.ephemeral.result
  | .lwipRand _ => True

lemma sentInitiations_of_initiates {out : List (Event K H I)} (h : initiates out = false) :
    sentInitiations out = [] := by
  rw [initiates, List.any_eq_false] at h
  rw [sentInitiations, List.filterMap_eq_nil_iff]
  intro e he
  have hnot := h e he
  cases e with
  | initiationSent => exact absurd rfl hnot
  | transport | initiation | startSession | accepted | tcpipInput | rejection | rekey
  | keepalive | fault => rfl

section Steps
variable {lib : Wireguard K H R I} {s : State K H I} {a : Action R} {out : List (Event K H I)} {i : I}

/-- An initiation is sent if the library completes it and the socket takes it as a whole. -/
lemma mem_sentInitiations_send {g : TunnelContext K H} {draw : R} {sent : ℤ} {r : Result K H I}
    (h : sendHandshakeLocked lib g draw sent = some r) :
    i ∈ sentInitiations r.events ↔ sent = sizeofHandshakeInitiation ∧
      ∃ peer, g.peer = some peer ∧ (lib.createHandshakeInitiation draw peer).1 = some i := by
  unfold sendHandshakeLocked at h
  cases hpeer : g.peer with
  | none => simp [hpeer] at h
  | some peer =>
    simp only [hpeer] at h
    simp only [Option.some.injEq, exists_eq_left']
    rcases hcreate : lib.createHandshakeInitiation draw peer with ⟨_ | j, handshake⟩
    · simp only [hcreate, Option.some.injEq] at h
      subst h
      simp [sentInitiations, Event.sentInitiation?]
    · simp only [hcreate] at h
      have hevents : r.events = [.initiation (some j), .initiationSent j sent] := by
        split_ifs at h <;> cases h <;> rfl
      rw [hevents]
      by_cases hsent : sent = sizeofHandshakeInitiation
      · simp [sentInitiations, Event.sentInitiation?, hsent, eq_comm]
      · simp [sentInitiations, Event.sentInitiation?, hsent]

lemma mem_sentInitiations_rekey {g : TunnelContext K H} {now : UInt64} {draw : R} {sent : ℤ}
    {r : TunnelContext K H × List (Event K H I)} (h : maintainRekey lib g now draw sent = some r) :
    i ∈ sentInitiations r.2 ↔
      (g.pendingHandshakeSender = 0 ∧ tsvitaRekeyIntervalUs ≤ now - g.lastHandshakeUs) ∧
      sent = sizeofHandshakeInitiation ∧
      ∃ peer, g.peer = some peer ∧ (lib.createHandshakeInitiation draw peer).1 = some i := by
  unfold maintainRekey at h
  by_cases hgate : g.pendingHandshakeSender = 0 ∧ tsvitaRekeyIntervalUs ≤ now - g.lastHandshakeUs
  · rw [if_pos hgate] at h
    simp only [Option.bind_eq_bind, Option.bind_eq_some_iff] at h
    obtain ⟨q, hq, h⟩ := h
    cases h
    rw [and_iff_right hgate, ← mem_sentInitiations_send hq]
    simp [sentInitiations, Event.sentInitiation?]
  · rw [if_neg hgate] at h
    cases h
    exact iff_of_false (by simp [sentInitiations]) fun h => hgate h.1

/-- A step that makes no initiation sends none. -/
lemma mem_sentInitiations_none (hout : initiates out = false) (hnone : s.initiating a = none) :
    i ∈ sentInitiations out ↔ ∃ draw peer,
      s.initiating a = some (draw, (sizeofHandshakeInitiation : ℤ)) ∧ s.g.peer = some peer ∧
        (lib.createHandshakeInitiation draw peer).1 = some i := by
  rw [sentInitiations_of_initiates hout, hnone]
  simp

lemma stepAwait_initiates (deadline : UInt64) (received : Received) (processTime : UInt64) :
    initiates (stepAwait lib s deadline received processTime).2 = false := by
  rcases received with _ | ⟨source, incoming⟩
  · rfl
  simp only [stepAwait]
  split_ifs
  · cases hprocess : processHandshakeResponseLocked lib s.g incoming processTime with
    | none => rfl
    | some r => exact processHandshakeResponseLocked_initiates _ _ _ r hprocess
  · rfl

lemma stepReceive_initiates (received : Received) (delivery : Delivery) (processTime : UInt64) :
    initiates (stepReceive lib s received delivery processTime).2 = false := by
  unfold stepReceive
  cases hreceive : receiveDatagram lib s.g received delivery processTime with
  | none => rfl
  | some r => exact receiveDatagram_initiates hreceive

lemma mem_sentInitiations_connect (draw : R) (sent : ℤ) (processTime : UInt64) :
    i ∈ sentInitiations (stepConnect lib s draw sent processTime).2 ↔
      sent = sizeofHandshakeInitiation ∧
      ∃ peer, s.g.peer = some peer ∧ (lib.createHandshakeInitiation draw peer).1 = some i := by
  unfold stepConnect
  cases hsend : sendHandshakeLocked lib s.g draw sent with
  | none =>
    refine iff_of_false (by simp [State.fault, sentInitiations, Event.sentInitiation?]) ?_
    rintro ⟨-, peer, hpeer, -⟩
    have hsome : (sendHandshakeLocked lib s.g draw sent).isSome :=
      sendHandshakeLocked_isSome (by rw [hpeer]; rfl) draw sent
    rw [hsend] at hsome
    cases hsome
  | some r => exact mem_sentInitiations_send hsend

lemma mem_sentInitiations_maintain (now : UInt64) (draw : R) (initiationSent transportSent : ℤ)
    (processTime : UInt64) :
    i ∈ sentInitiations
        (stepMaintain lib s now draw initiationSent transportSent processTime).2 ↔
      (s.g.pendingHandshakeSender = 0 ∧ tsvitaRekeyIntervalUs ≤ now - s.g.lastHandshakeUs) ∧
      initiationSent = sizeofHandshakeInitiation ∧
      ∃ peer, s.g.peer = some peer ∧ (lib.createHandshakeInitiation draw peer).1 = some i := by
  unfold stepMaintain
  cases hrekey : maintainRekey lib s.g now draw initiationSent with
  | none =>
    refine iff_of_false (by simp [State.fault, sentInitiations, Event.sentInitiation?]) ?_
    rintro ⟨-, -, peer, hpeer, -⟩
    have hsome : (maintainRekey lib s.g now draw initiationSent).isSome :=
      maintainRekey_isSome (by rw [hpeer]; rfl) now draw initiationSent
    rw [hrekey] at hsome
    cases hsome
  | some r =>
    simp only [State.advance]
    rw [sentInitiations_append, sentInitiations_of_initiates (maintainKeepalive_initiates _ _ _ _),
      List.append_nil]
    exact mem_sentInitiations_rekey hrekey

/-- The initiations that a step sends, from what it draws and the state before it. -/
theorem mem_sentInitiations_step {r : State K H I × List (Event K H I)}
    (h : step lib s a = some r) : i ∈ sentInitiations r.2 ↔ ∃ draw peer,
      s.initiating a = some (draw, (sizeofHandshakeInitiation : ℤ)) ∧ s.g.peer = some peer ∧
        (lib.createHandshakeInitiation draw peer).1 = some i := by
  cases step_fired h with
  | @connect draw sent =>
    rw [mem_sentInitiations_connect]
    simp only [State.initiating, Option.some.injEq, Prod.mk.injEq]
    constructor
    · rintro ⟨hsent, peer, hpeer⟩
      exact ⟨draw, peer, ⟨rfl, hsent⟩, hpeer⟩
    · rintro ⟨_, peer, ⟨rfl, hsent⟩, hpeer⟩
      exact ⟨hsent, peer, hpeer⟩
  | await => exact mem_sentInitiations_none (stepAwait_initiates _ _ _) rfl
  | expire => exact mem_sentInitiations_none rfl rfl
  | receive => exact mem_sentInitiations_none (stepReceive_initiates _ _ _) rfl
  | readClock => exact mem_sentInitiations_none rfl rfl
  | @maintain now _ draw _ _ hrx =>
    rw [mem_sentInitiations_maintain]
    simp only [State.initiating, hrx, ite_eq_iff, Option.some.injEq, Prod.mk.injEq, reduceCtorEq,
      and_false, or_false]
    constructor
    · rintro ⟨hgate, hsent, peer, hpeer⟩
      exact ⟨draw, peer, ⟨hgate, rfl, hsent⟩, hpeer⟩
    · rintro ⟨_, peer, ⟨hgate, rfl, hsent⟩, hpeer⟩
      exact ⟨hgate, hsent, peer, hpeer⟩
  | output => exact mem_sentInitiations_none (tunnelNetifOutput_initiates s.g _ _ _) rfl

end Steps

section Platform
variable {lib : Wireguard K H Filled I} {s : Platform K H I} {events : List (Event K H (I × Draws))}

/-- The ephemeral key of every message among the events was drawn without an error. -/
def Event.Drawn (e : Event K H (I × Draws)) : Prop :=
  ∀ p, e.sentInitiation? = some p → 0 ≤ p.2.ephemeral.result

lemma forall_drawn_iff :
    (∀ e ∈ events, e.Drawn) ↔ ∀ p ∈ sentInitiations events, 0 ≤ p.2.ephemeral.result := by
  simp only [sentInitiations, List.mem_filterMap, Event.Drawn]
  constructor
  · rintro h p ⟨e, he, hp⟩
    exact h e he p hp
  · intro h e he p hp
    exact h p ⟨e, he, hp⟩

/-- A step sends only keys that were drawn, exactly if the kernel gives it one when it sends. -/
lemma platformStep_drawn_iff {i : Call} {out : List (Event K H (I × Draws))} {t : Platform K H I}
    (h : platformStep lib s i = some (t, out)) : (∀ e ∈ out, e.Drawn) ↔ Drawn lib s i := by
  cases i with
  | lwipRand drawn =>
    cases h
    exact iff_of_true (by simp) trivial
  | tunnel action =>
    simp only [platformStep] at h
    cases hstep : step lib.drawing s.tunnel action with
    | none => simp [hstep] at h
    | some r =>
      simp only [hstep, Option.some.injEq, Prod.mk.injEq] at h
      obtain ⟨-, rfl⟩ := h
      rw [forall_drawn_iff]
      simp only [mem_sentInitiations_step hstep, Drawn, Wireguard.drawing]
      constructor
      · intro h draws peer hinitiating hpeer hcreated
        obtain ⟨initiation, hinitiation⟩ := Option.isSome_iff_exists.mp hcreated
        refine h (initiation, draws) ⟨draws, peer, hinitiating, hpeer, ?_⟩
        rw [hinitiation]
        rfl
      · rintro h p ⟨draws, peer, hinitiating, hpeer, hcreated⟩
        obtain ⟨initiation, hinitiation, rfl⟩ := Option.map_eq_some_iff.mp hcreated
        exact h draws peer hinitiating hpeer (by rw [hinitiation]; rfl)

/-- In every run, all initiations that were sent have an ephemeral key from the kernel if and only
if the kernel did not fail in a step that sent one. -/
theorem initiations_drawn_iff {start : Platform K H I} {inputs : List Call}
    (h : Run (ofStep (platformStep lib)) start inputs events s) :
    (∀ p ∈ sentInitiations events, 0 ≤ p.2.ephemeral.result) ↔
      Run (restrict (ofStep (platformStep lib)) (Drawn lib)) start inputs events s := by
  rw [← forall_drawn_iff]
  exact h.restrict_iff fun s i out t hs => platformStep_drawn_iff hs

end Platform

/-- The symbolic library takes the first index that is not zero. -/
def symbolicFilled : Wireguard SymbolicKey SymbolicHandshake Filled UInt32 :=
  { symbolic with
    createHandshakeInitiation := fun filled => symbolic.createHandshakeInitiation
      ((filled.2.map fun bytes => UInt32.ofNat (ofBytes bytes.toList)).find? (· ≠ 0)) }

def symbolicPlatform : Platform SymbolicKey SymbolicHandshake UInt32 :=
  ⟨initialState ⟨1, 2⟩ none (0, true) 0, 0⟩

/-- The kernel fails once, for the index of the first initiation. -/
def indexRetryRun : List Call :=
  [.lwipRand ⟨0, #v[1, 2, 3, 4]⟩,
    .tunnel (.connect ⟨⟨0, .replicate 32 9⟩, [⟨-1, #v[5, 5, 5, 5]⟩, ⟨0, #v[7, 0, 0, 0]⟩]⟩ 148 10)]

theorem initiations_drawn_iff_retry :
    ∃ events s, Run (ofStep (platformStep symbolicFilled)) symbolicPlatform indexRetryRun events s ∧
      (sentInitiations events).map Prod.fst = [7] ∧
      Run (restrict (ofStep (platformStep symbolicFilled)) (Drawn symbolicFilled)) symbolicPlatform
        indexRetryRun events s := by
  have hview : (exec (platformStep symbolicFilled) symbolicPlatform indexRetryRun).map
      (fun r => sentInitiations r.2) =
      some [(7, ⟨⟨0, .replicate 32 9⟩, [⟨-1, #v[5, 5, 5, 5]⟩, ⟨0, #v[7, 0, 0, 0]⟩]⟩)] := by
    decide +kernel
  obtain ⟨r, hr, hsent⟩ := Option.map_eq_some_iff.mp hview
  refine ⟨r.2, r.1, run_of_exec hr, by rw [hsent]; rfl, ?_⟩
  refine (initiations_drawn_iff (run_of_exec hr)).mp ?_
  rw [hsent]
  simp

/-- The kernel fails for the ephemeral key. -/
def undrawn : Draws := ⟨⟨-1, .replicate 32 9⟩, [⟨0, #v[7, 0, 0, 0]⟩]⟩

theorem initiation_sent_undrawn :
    ∃ events s, Run (ofStep (platformStep symbolicFilled)) symbolicPlatform
        [.tunnel (.connect undrawn 148 10)] events s ∧
      ∃ p ∈ sentInitiations events, p.2.ephemeral.result < 0 ∧
        p.2.filled.1 = .replicate 32 0 := by
  have hview : (exec (platformStep symbolicFilled) symbolicPlatform
      [.tunnel (.connect undrawn 148 10)]).map (fun r => sentInitiations r.2) =
      some [(7, undrawn)] := by
    decide +kernel
  obtain ⟨r, hr, hsent⟩ := Option.map_eq_some_iff.mp hview
  refine ⟨r.2, r.1, run_of_exec hr, (7, undrawn), ?_, by decide, by decide⟩
  rw [hsent]
  exact List.mem_singleton_self _

end MoonlightVita.Tunnel
