import MoonlightVita.TunnelSessions

/-!
# What the tunnel hands to lwIP

Every packet that reaches `tcpip_input` was sealed under a live receiving key, is
the front of its plaintext, and is handed over once, also across rekeys: the replay
window of a live keypair remembers every counter accepted under its key.
-/
namespace MoonlightVita.Tunnel
open ReplayWindow LittleEndian Transition

variable {K H R I : Type} [DecidableEq K]

def Event.accepted? (key : K) : Event K H I → Option UInt64
  | .accepted key' counter => if key' = key then some counter else none
  | _ => none

/-- The counters that the replay window has accepted under a key. -/
def acceptedOf (key : K) (events : List (Event K H I)) : List UInt64 :=
  events.filterMap (Event.accepted? key)

def Event.delivered? : Event K H I → Option (K × UInt64)
  | .tcpipInput key counter _ => some (key, counter)
  | _ => none

/-- The key and the counter of every packet handed to lwIP. -/
def deliveries (events : List (Event K H I)) : List (K × UInt64) :=
  events.filterMap Event.delivered?

@[simp] lemma acceptedOf_append (key : K) (es fs : List (Event K H I)) :
    acceptedOf key (es ++ fs) = acceptedOf key es ++ acceptedOf key fs := List.filterMap_append

omit [DecidableEq K] in
@[simp] lemma deliveries_append (es fs : List (Event K H I)) :
    deliveries (es ++ fs) = deliveries es ++ deliveries fs := List.filterMap_append

lemma acceptedOf_accept (key key' : K) (counter : UInt64) (packets : List Bytes) :
    acceptedOf key (.accepted key' counter :: packets.map (.tcpipInput key' counter) :
      List (Event K H I)) = if key' = key then [counter] else [] := by
  by_cases h : key' = key <;> simp [acceptedOf, Event.accepted?, h]

omit [DecidableEq K] in
lemma deliveries_accept (key : K) (counter : UInt64) (packets : List Bytes) :
    deliveries (.accepted key counter :: packets.map (.tcpipInput key counter) :
      List (Event K H I)) = List.replicate packets.length (key, counter) := by
  induction packets with
  | nil => rfl
  | cons packet packets ih =>
    simp only [deliveries, List.map_cons, List.filterMap_cons, Event.delivered?] at ih ⊢
    rw [ih, List.length_cons, List.replicate_succ]

section Indices
variable {lib : Wireguard K H R I} {m : Meaning K H I}

/-- No two live keypairs share an index, nor does a pending handshake share one with them. -/
structure IndexInv (lib : Wireguard K H R I) (m : Meaning K H I) (g : TunnelContext K H) :
    Prop where
  distinct : ∀ peer, g.peer = some peer → peer.Distinct
  unused : ∀ peer i, g.peer = some peer → m.initiation peer.handshake = some i →
    peer.Unused (lib.sender i)

def SameIndex (keypair keypair' : Keypair K) : Prop :=
  keypair.valid = keypair'.valid ∧ keypair.localIndex = keypair'.localIndex

omit [DecidableEq K] in
lemma SameIndex.refl (keypair : Keypair K) : SameIndex keypair keypair := ⟨rfl, rfl⟩

omit [DecidableEq K] in
lemma IndexInv.keep {g g' : TunnelContext K H} {peer peer' : Peer K H} (h : IndexInv lib m g)
    (hpeer : g.peer = some peer) (hpeer' : g'.peer = some peer')
    (hsame : ∀ slot, SameIndex (peer'.keypair slot) (peer.keypair slot))
    (hstate : m.initiation peer'.handshake = none ∨
      m.initiation peer'.handshake = m.initiation peer.handshake) : IndexInv lib m g' where
  distinct := by
    intro p hp slot slot' hv hv' hindex
    cases hpeer'.symm.trans hp
    rw [(hsame slot).1] at hv
    rw [(hsame slot').1] at hv'
    rw [(hsame slot).2, (hsame slot').2] at hindex
    exact h.distinct peer hpeer slot slot' hv hv' hindex
  unused := by
    intro p i hp hi slot hv
    cases hpeer'.symm.trans hp
    rw [(hsame slot).1] at hv
    rw [(hsame slot).2]
    rcases hstate with hnone | hstate
    · rw [hnone] at hi
      cases hi
    · exact h.unused peer i hpeer (hstate ▸ hi) slot hv

omit [DecidableEq K] in
theorem indexInv_move {g g' : TunnelContext K H} {out : List (Event K H I)}
    {datagram : Option Bytes} (hl : Lawful lib m) (h : IndexInv lib m g)
    (hm : Move lib m datagram g out g') : IndexInv lib m g' := by
  cases hm with
  | quiet peer' => exact ⟨peer' ▸ h.distinct, peer' ▸ h.unused⟩
  | encrypt _ _ hpeer _ peer' =>
    exact h.keep hpeer peer' (set_keypair_rel SameIndex.refl ⟨rfl, rfl⟩) (Or.inr rfl)
  | initiateFailed hpeer peer' state => exact h.keep hpeer peer' (fun _ => SameIndex.refl _) state
  | @initiate _ _ _ peer _ i sent hpeer peer' state _ unused =>
    constructor
    · intro p hp
      cases peer'.symm.trans hp
      exact h.distinct peer hpeer
    · intro p j hp hj
      cases peer'.symm.trans hp
      obtain rfl : i = j := Option.some.inj (state.symm.trans hj)
      exact unused
  | @session _ _ peer handshake i response hpeer before state answer _ peer' =>
    obtain ⟨remoteIndex, hcurr⟩ := hl.start_curr { peer with handshake := handshake } i response
      state answer
    constructor
    · intro p hp
      cases peer'.symm.trans hp
      refine hl.start_distinct _ (h.distinct peer hpeer) ?_
      rw [hcurr]
      exact h.unused peer i hpeer before
    · intro p j hp hj
      cases peer'.symm.trans hp
      rw [hl.start_ends] at hj
      cases hj
  | accept _ _ _ hpeer _ _ peer' =>
    exact h.keep hpeer peer' (set_keypair_rel SameIndex.refl ⟨rfl, rfl⟩) (Or.inr rfl)
  | replayed _ _ hpeer _ _ peer' =>
    exact h.keep hpeer peer' (set_keypair_rel SameIndex.refl ⟨rfl, rfl⟩) (Or.inr rfl)

omit [DecidableEq K] in
lemma indexInv_initial (endpoint : Endpoint) {handshake : H} (key : K) (clock : UInt64)
    (hidle : m.initiation handshake = none) :
    IndexInv lib m (initialState (I := I) endpoint handshake key clock).g where
  distinct := by
    intro peer hp slot slot' hv
    cases hp
    cases hv
  unused := by
    intro peer i hp hi
    cases hp
    rw [hidle] at hi
    cases hi

end Indices

/-- A live keypair belongs to a session and remembers what was accepted under its key. -/
structure Live (lib : Wireguard K H R I) (m : Meaning K H I) (events : List (Event K H I))
    (keypair : Keypair K) : Prop where
  session : ∃ i response, some i ∈ sessions m events ∧
    keypair.receivingKey = m.receivingKey i response ∧ keypair.localIndex = lib.sender i
  remembers : Remembers keypair.replay (counterSet (acceptedOf keypair.receivingKey events))

structure DeliveryInv (lib : Wireguard K H R I) (m : Meaning K H I) (events : List (Event K H I))
    (g : TunnelContext K H) : Prop where
  live : ∀ peer slot, g.peer = some peer → (peer.keypair slot).valid →
    Live lib m events (peer.keypair slot)
  keyed : ∀ key, acceptedOf key events ≠ [] →
    ∃ i response, some i ∈ sessions m events ∧ key = m.receivingKey i response
  accepted : ∀ d ∈ deliveries events, d.2 ∈ acceptedOf d.1 events
  once : (deliveries events).Nodup

/-- What receiving depends on in a keypair. -/
def SameReceiving (keypair keypair' : Keypair K) : Prop :=
  keypair.valid = keypair'.valid ∧ keypair.receivingKey = keypair'.receivingKey ∧
    keypair.localIndex = keypair'.localIndex ∧ keypair.replay = keypair'.replay

variable {lib : Wireguard K H R I} {m : Meaning K H I}

omit [DecidableEq K] in
lemma SameReceiving.refl (keypair : Keypair K) : SameReceiving keypair keypair :=
  ⟨rfl, rfl, rfl, rfl⟩

lemma Live.mono {events out : List (Event K H I)} {keypair keypair' : Keypair K}
    (h : Live lib m events keypair) (hsame : SameReceiving keypair' keypair)
    (hout : acceptedOf keypair.receivingKey out = []) : Live lib m (events ++ out) keypair' where
  session := by
    obtain ⟨i, response, hi, hkey, hindex⟩ := h.session
    exact ⟨i, response, by simp [hi], hsame.2.1.trans hkey, hsame.2.2.1.trans hindex⟩
  remembers := by
    rw [hsame.2.1, hsame.2.2.2]
    simpa [hout] using h.remembers

/-- A move that accepts nothing and keeps what receiving depends on. -/
lemma DeliveryInv.keep {events out : List (Event K H I)} {g g' : TunnelContext K H}
    (h : DeliveryInv lib m events g) (hout : ∀ key, acceptedOf key out = [])
    (hdeliveries : deliveries out = [])
    (hpeer : ∀ peer', g'.peer = some peer' → ∃ peer, g.peer = some peer ∧
      ∀ slot, SameReceiving (peer'.keypair slot) (peer.keypair slot)) :
    DeliveryInv lib m (events ++ out) g' where
  live := by
    intro peer' slot hp hv
    obtain ⟨peer, hpeer, hsame⟩ := hpeer peer' hp
    exact (h.live peer slot hpeer ((hsame slot).1 ▸ hv)).mono (hsame slot) (hout _)
  keyed := by
    intro key hne
    obtain ⟨i, response, hi, hkey⟩ := h.keyed key (by simpa [hout] using hne)
    exact ⟨i, response, by simp [hi], hkey⟩
  accepted := by simpa [hout, hdeliveries] using h.accepted
  once := by simpa [hdeliveries] using h.once

/-- Live keypairs in different slots have different receiving keys. -/
lemma DeliveryInv.slot_eq {events : List (Event K H I)} {g : TunnelContext K H} {peer : Peer K H}
    {slot slot' : Slot} (hl : Lawful lib m) (hi : IndexInv lib m g) (h : DeliveryInv lib m events g)
    (hpeer : g.peer = some peer) (hv : (peer.keypair slot).valid)
    (hv' : (peer.keypair slot').valid)
    (hkey : (peer.keypair slot).receivingKey = (peer.keypair slot').receivingKey) :
    slot = slot' := by
  obtain ⟨i, response, -, hk, hindex⟩ := (h.live peer slot hpeer hv).session
  obtain ⟨i', response', -, hk', hindex'⟩ := (h.live peer slot' hpeer hv').session
  have hsame : i = i' := hl.receivingKey_inj i response i' response' (by rw [← hk, hkey, hk'])
  refine hi.distinct peer hpeer slot slot' hv hv' ?_
  rw [hindex, hindex', hsame]

/-- The replay window decides as the counters accepted so far demand. -/
lemma Live.check {events : List (Event K H I)} {keypair : Keypair K} (hl : Lawful lib m)
    (h : Live lib m events keypair) (counter : UInt64) :
    (∃ replay, wireguardCheckReplay lib.rejectAfterMessages keypair.replay counter =
        (true, replay) ∧ counter ∉ acceptedOf keypair.receivingKey events ∧
      Remembers replay (counterSet (acceptedOf keypair.receivingKey events ++ [counter]))) ∨
    wireguardCheckReplay lib.rejectAfterMessages keypair.replay counter =
      (false, keypair.replay) := by
  by_cases hadmits : Admits lib.rejectAfterMessages.toNat
      (counterSet (acceptedOf keypair.receivingKey events)) counter.toNat
  · obtain ⟨replay, hcheck, hrem⟩ :=
      wireguardCheckReplay_accept hl.reject_bound h.remembers hadmits
    refine Or.inl ⟨replay, hcheck, ?_, by rwa [counterSet_concat]⟩
    simpa using hadmits.2.1
  · exact Or.inr (wireguardCheckReplay_reject hl.reject_bound h.remembers hadmits)

lemma DeliveryInv.accept {events : List (Event K H I)} {g g' : TunnelContext K H}
    {peer : Peer K H} {replay : Replay} {slot : Slot} {counter : UInt64} {packets : List Bytes}
    (hl : Lawful lib m) (hi : IndexInv lib m g) (h : DeliveryInv lib m events g)
    (hpeer : g.peer = some peer) (hv : (peer.keypair slot).valid)
    (hcheck : wireguardCheckReplay lib.rejectAfterMessages (peer.keypair slot).replay counter =
      (true, replay))
    (hpeer' : g'.peer = some (peer.set slot { peer.keypair slot with replay := replay }))
    (hpackets : packets.length ≤ 1) :
    DeliveryInv lib m (events ++ .accepted (peer.keypair slot).receivingKey counter ::
      packets.map (.tcpipInput (peer.keypair slot).receivingKey counter)) g' := by
  have hlive := h.live peer slot hpeer hv
  rcases hlive.check hl counter with ⟨replay', htrue, hnew, hrem⟩ | hfalse
  case inr =>
    rw [hcheck] at hfalse
    cases hfalse
  obtain rfl : replay = replay' := congrArg Prod.snd (hcheck.symm.trans htrue)
  obtain ⟨i, response, hsession, hkey, hindex⟩ := hlive.session
  constructor
  case live =>
    intro p slot' hp hv'
    cases hpeer'.symm.trans hp
    by_cases hslot : slot' = slot
    · subst hslot
      rw [set_keypair_self]
      refine ⟨⟨i, response, by simp [hsession], hkey, hindex⟩, ?_⟩
      rw [acceptedOf_append, acceptedOf_accept, if_pos rfl]
      exact hrem
    · rw [set_keypair_of_ne hslot] at hv' ⊢
      refine (h.live peer slot' hpeer hv').mono (SameReceiving.refl _) ?_
      rw [acceptedOf_accept, if_neg]
      exact fun he => hslot (h.slot_eq hl hi hpeer hv hv' he).symm
  case keyed =>
    intro key hne
    by_cases hk : (peer.keypair slot).receivingKey = key
    · subst hk
      exact ⟨i, response, by simp [hsession], hkey⟩
    · rw [acceptedOf_append, acceptedOf_accept, if_neg hk, List.append_nil] at hne
      obtain ⟨j, response', hj, hkey'⟩ := h.keyed key hne
      exact ⟨j, response', by simp [hj], hkey'⟩
  case accepted =>
    intro d hd
    rw [deliveries_append, deliveries_accept, List.mem_append] at hd
    rw [acceptedOf_append, List.mem_append]
    rcases hd with hd | hd
    · exact Or.inl (h.accepted d hd)
    · rw [List.eq_of_mem_replicate hd, acceptedOf_accept, if_pos rfl]
      exact Or.inr (by simp)
  case once =>
    rw [deliveries_append, deliveries_accept]
    refine List.nodup_append.mpr ⟨h.once, List.nodup_replicate.mpr hpackets, ?_⟩
    intro d hd d' hd' hdd
    rw [List.eq_of_mem_replicate hd'] at hdd
    rw [hdd] at hd
    exact hnew (h.accepted _ hd)

/-- A new session has a key that nothing was accepted under. -/
lemma DeliveryInv.session {events : List (Event K H I)} {g g' : TunnelContext K H}
    {peer : Peer K H} {handshake : H} {i : I} {response : Bytes} (hl : Lawful lib m)
    (h : DeliveryInv lib m events g) (hpeer : g.peer = some peer)
    (hnot : some i ∉ sessions m events) (hstate : m.initiation handshake = some i)
    (hanswer : m.response handshake = some response)
    (hpeer' : g'.peer = some (lib.startSession { peer with handshake := handshake })) :
    DeliveryInv lib m (events ++ [.startSession handshake]) g' := by
  have haccepted : ∀ key, acceptedOf key ([.startSession handshake] : List (Event K H I)) = [] :=
    fun _ => rfl
  have hdeliveries : deliveries ([.startSession handshake] : List (Event K H I)) = [] := rfl
  have hsessions : sessions m ([.startSession handshake] : List (Event K H I)) = [some i] := by
    simp [sessions, Event.session?, hstate]
  constructor
  case live =>
    intro p slot hp hv
    cases hpeer'.symm.trans hp
    by_cases hslot : slot = .curr
    · subst hslot
      obtain ⟨remoteIndex, hcurr⟩ := hl.start_curr { peer with handshake := handshake } i response
        hstate hanswer
      rw [hcurr]
      have hunused : acceptedOf (m.receivingKey i response) events = [] := by
        by_contra hne
        obtain ⟨j, response', hj, hkey⟩ := h.keyed _ hne
        rw [hl.receivingKey_inj _ _ _ _ hkey] at hnot
        exact hnot hj
      refine ⟨⟨i, response, by simp [hsessions], rfl, rfl⟩, ?_⟩
      rw [acceptedOf_append, haccepted, hunused]
      simpa [counterSet] using remembers_zero
    · obtain ⟨slot', hrotated⟩ := hl.start_rotates _ slot hslot hv
      rw [hrotated] at hv ⊢
      exact (h.live peer slot' hpeer hv).mono (SameReceiving.refl _) (haccepted _)
  case keyed =>
    intro key hne
    obtain ⟨j, response', hj, hkey⟩ := h.keyed key (by simpa [haccepted] using hne)
    exact ⟨j, response', by simp [hj], hkey⟩
  case accepted => simpa [haccepted, hdeliveries] using h.accepted
  case once => simpa [hdeliveries] using h.once

theorem deliveryInv_move {events out : List (Event K H I)} {g g' : TunnelContext K H}
    {datagram : Option Bytes} (hl : Lawful lib m) (hs : SessionInv m events g)
    (hi : IndexInv lib m g) (h : DeliveryInv lib m events g) (hm : Move lib m datagram g out g') :
    DeliveryInv lib m (events ++ out) g' := by
  cases hm with
  | quiet peer' _ out_quiet =>
    have haccepted : ∀ key, acceptedOf key out = [] := fun _ =>
      filterMap_quiet (fun _ _ _ => rfl) (fun _ => rfl) (fun _ => rfl) out_quiet
    have hdeliveries : deliveries out = [] :=
      filterMap_quiet (fun _ _ _ => rfl) (fun _ => rfl) (fun _ => rfl) out_quiet
    exact h.keep haccepted hdeliveries fun p hp =>
      ⟨p, peer' ▸ hp, fun _ => SameReceiving.refl _⟩
  | @encrypt _ _ _ peer _ _ hpeer _ peer' =>
    refine h.keep (fun _ => rfl) rfl fun p hp => ⟨peer, hpeer, ?_⟩
    cases peer'.symm.trans hp
    exact set_keypair_rel SameReceiving.refl ⟨rfl, rfl, rfl, rfl⟩
  | @initiateFailed _ _ _ peer _ hpeer peer' =>
    refine h.keep (fun _ => rfl) rfl fun p hp => ⟨peer, hpeer, ?_⟩
    cases peer'.symm.trans hp
    exact fun _ => SameReceiving.refl _
  | @initiate _ _ _ peer _ _ _ hpeer peer' =>
    refine h.keep (fun _ => rfl) rfl fun p hp => ⟨peer, hpeer, ?_⟩
    cases peer'.symm.trans hp
    exact fun _ => SameReceiving.refl _
  | @session _ _ peer _ i _ hpeer before state answer _ peer' =>
    exact h.session hl hpeer (hs.pending peer i hpeer before).2 state answer peer'
  | accept _ _ _ hpeer valid check peer' _ once =>
    exact h.accept hl hi hpeer valid check peer' once
  | @replayed _ _ peer replay _ slot counter hpeer valid check peer' =>
    refine h.keep (fun _ => rfl) rfl fun p hp => ⟨peer, hpeer, ?_⟩
    cases peer'.symm.trans hp
    rcases (h.live peer slot hpeer valid).check hl counter with ⟨replay', htrue, -⟩ | hfalse
    · rw [check] at htrue
      cases htrue
    · obtain rfl : replay = (peer.keypair slot).replay :=
        congrArg Prod.snd (check.symm.trans hfalse)
      exact set_keypair_rel SameReceiving.refl ⟨rfl, rfl, rfl, rfl⟩

lemma deliveryInv_initial (endpoint : Endpoint) (handshake : H) (key : K) (clock : UInt64) :
    DeliveryInv lib m [] (initialState (I := I) endpoint handshake key clock).g where
  live := by
    intro peer slot hp hv
    cases hp
    cases hv
  keyed := fun _ h => absurd rfl h
  accepted := by simp [deliveries]
  once := List.nodup_nil

section Authenticity
omit [DecidableEq K]

/-- The packet is the front of what the datagram seals under a live receiving key. -/
def Authentic (m : Meaning K H I) (g : TunnelContext K H) (incoming : Bytes) (key : K)
    (counter : UInt64) (packet : Bytes) : Prop :=
  ∃ peer slot plaintext, g.peer = some peer ∧ Sealed m peer incoming slot counter plaintext ∧
    (peer.keypair slot).receivingKey = key ∧ Deliverable plaintext packet

variable {g : TunnelContext K H} {key : K} {counter : UInt64} {packet : Bytes}

lemma processHandshakeResponseLocked_input {incoming : Bytes} {processTime : UInt64}
    {r : Result K H I} (hl : Lawful lib m)
    (h : processHandshakeResponseLocked lib g incoming processTime = some r) :
    .tcpipInput key counter packet ∉ r.events := by
  rcases processHandshakeResponseLocked_cases hl h with ⟨-, -, hevents⟩ |
    ⟨peer, handshake, i, -, -, -, -, -, rfl⟩
  · simp [hevents]
  · simp

lemma processTransportLocked_authentic {incoming : Bytes} {delivery : Delivery} {r : Result K H I}
    (hl : Lawful lib m) (h : processTransportLocked lib g incoming delivery = some r)
    (hin : .tcpipInput key counter packet ∈ r.events) :
    Authentic m g incoming key counter packet := by
  rcases processTransportLocked_cases hl h with ⟨-, hevents⟩ |
    ⟨peer, slot, n, plaintext, hpeer, hsealed, -, -, hcheck⟩
  · simp [hevents] at hin
  rcases hcheck with ⟨-, hevents⟩ | ⟨-, hevents | ⟨packet', hdeliverable, hevents⟩⟩
  · simp [hevents] at hin
  · simp [hevents] at hin
  · simp only [hevents, List.mem_cons, reduceCtorEq, Event.tcpipInput.injEq, List.not_mem_nil,
      or_false, false_or] at hin
    obtain ⟨rfl, rfl, rfl⟩ := hin
    exact ⟨peer, slot, plaintext, hpeer, hsealed, rfl, hdeliverable⟩

lemma processLocked_authentic {incoming : Bytes} {delivery : Delivery} {processTime : UInt64}
    {r : Result K H I} (hl : Lawful lib m)
    (h : processLocked lib g incoming delivery processTime = some r)
    (hin : .tcpipInput key counter packet ∈ r.events) :
    Authentic m g incoming key counter packet := by
  unfold processLocked at h
  split_ifs at h
  · exact absurd hin (processHandshakeResponseLocked_input hl h)
  · exact processTransportLocked_authentic hl h hin
  · cases h
    simp at hin

lemma Move.input {datagram : Option Bytes} {g' : TunnelContext K H} {out : List (Event K H I)}
    (h : Move lib m datagram g out g') (hin : .tcpipInput key counter packet ∈ out) :
    ∃ incoming, datagram = some incoming := by
  cases h with
  | quiet _ _ out_quiet => exact (out_quiet _ hin).elim
  | encrypt | initiateFailed | initiate | session | replayed => simp at hin
  | accept => exact ⟨_, rfl⟩

lemma MoveRun.input {datagram : Option Bytes} {g' : TunnelContext K H}
    {out : List (Event K H I)} (h : MoveRun lib m datagram g out g')
    (hin : .tcpipInput key counter packet ∈ out) : ∃ incoming, datagram = some incoming := by
  obtain ⟨n, hrun⟩ := h
  obtain ⟨u, d, out', v, hd, hmove, hmem⟩ := hrun.mem_origin hin
  rw [← List.eq_of_mem_replicate hd]
  exact Move.input hmove hmem

lemma receiveDatagram_authentic {received : Received} {delivery : Delivery} {processTime : UInt64}
    {r : TunnelContext K H × List (Event K H I)} (hl : Lawful lib m)
    (h : receiveDatagram lib g received delivery processTime = some r)
    (hin : .tcpipInput key counter packet ∈ r.2) :
    ∃ source incoming, received = some (source, incoming) ∧
      Authentic m g incoming key counter packet := by
  rcases received with _ | ⟨source, incoming⟩
  · cases h
    simp at hin
  refine ⟨source, incoming, rfl, ?_⟩
  simp only [receiveDatagram] at h
  by_cases hpeer : 0 < incoming.length ∧ sourceIsPeer g source
  · rw [if_pos hpeer] at h
    simp only [Option.bind_eq_bind, Option.bind_eq_some_iff] at h
    obtain ⟨q, hq, h⟩ := h
    split_ifs at h
    · cases h
      rcases List.mem_append.mp hin with hin | hin
      · exact processLocked_authentic hl hq hin
      · have hmove : Move lib m none q.g _ _ := recordTransportRejection_move none q.g q.result
        obtain ⟨_, hnone⟩ := hmove.input hin
        cases hnone
    · cases h
      exact processLocked_authentic hl hq hin
  · rw [if_neg hpeer] at h
    cases h
    simp at hin

lemma Stepped.authentic {s : State K H I} {a : Action R} {out : List (Event K H I)}
    {g' : TunnelContext K H} (hl : Lawful lib m) (h : Stepped lib s a g' out)
    (hin : .tcpipInput key counter packet ∈ out) :
    ∃ incoming, a.datagram? = some incoming ∧ Authentic m s.g incoming key counter packet := by
  obtain ⟨incoming, hdatagram⟩ := (h.moveRun hl).input hin
  cases h with
  | still => simp at hin
  | connect | maintain | output => cases hdatagram
  | await call => exact absurd hin (processHandshakeResponseLocked_input hl call)
  | receive call =>
    obtain ⟨source, incoming, rfl, hauthentic⟩ := receiveDatagram_authentic hl call hin
    exact ⟨incoming, rfl, hauthentic⟩

end Authenticity

/-- Whatever arrives and however the sessions change: no packet is handed over twice, no
access leaves a buffer, and every step hands over authentic packets only. -/
theorem deliveries_authentic (hl : Lawful lib m) {endpoint : Endpoint} {handshake : H} {key : K}
    {clock : UInt64} {inputs : List (Action R)} {events : List (Event K H I)} {s : State K H I}
    (hidle : m.initiation handshake = none) (hfresh : Fresh events)
    (h : Run (ofStep (step lib)) (initialState endpoint handshake key clock) inputs events s) :
    (deliveries events).Nodup ∧ .fault ∉ events ∧
    ∀ a s' out, step lib s a = some (s', out) → .fault ∉ out ∧
      ∀ k counter packet, .tcpipInput k counter packet ∈ out →
        ∃ incoming, a.datagram? = some incoming ∧ Authentic m s.g incoming k counter packet := by
  obtain ⟨⟨is, hmoves⟩, -⟩ := run_moves hl h
  obtain ⟨-, -, hdelivery⟩ := moves_invariant hl (sessionInv_initial endpoint key clock hidle)
    (P := fun events g => IndexInv lib m g ∧ DeliveryInv lib m events g)
    ⟨indexInv_initial endpoint key clock hidle, deliveryInv_initial endpoint handshake key clock⟩
    (fun _ _ _ _ _ _ hs hd hm =>
      ⟨indexInv_move hl hd.1 hm, deliveryInv_move hl hs hd.1 hd.2 hm⟩) hmoves hfresh
  refine ⟨hdelivery.once, no_fault_of_moves hmoves, ?_⟩
  intro a s' out hs
  obtain ⟨hstepped, -⟩ := step_steps hl (peer_isSome_of_moves hmoves rfl) hs
  obtain ⟨n, hrun⟩ := hstepped.moveRun hl
  exact ⟨no_fault_of_moves hrun, fun k counter packet hin => hstepped.authentic hl hin⟩

/-- An IPv4 packet of 20 bytes for the tunnel, padded and sealed with a counter. -/
def symbolicDatagram (i : UInt32) (counter : UInt64) : Bytes :=
  transportHeader i counter ++ symbolicAead (i, false) counter
    (pad ([0x45, 0, 0, 20] ++ List.replicate 12 0 ++ [10, 77, 0, 2]))

/-- A packet arrives, a new session starts, the packet arrives again, and so does one of
the new session. -/
def deliveryRun : List (Action (Option UInt32)) :=
  [.connect (some 7) 148 10, .await 20 (some (⟨1, 2⟩, symbolicResponse 7)) 30,
    .receive (some (⟨1, 2⟩, symbolicDatagram 7 0)) ⟨true, true⟩ 40, .readClock 100000030,
    .maintain (some 8) 148 48 100000040,
    .receive (some (⟨1, 2⟩, symbolicResponse 8)) ⟨true, true⟩ 100000050, .readClock 100000060,
    .maintain none 0 0 100000070,
    .receive (some (⟨1, 2⟩, symbolicDatagram 7 0)) ⟨true, true⟩ 100000080, .readClock 100000090,
    .maintain none 0 0 100000100,
    .receive (some (⟨1, 2⟩, symbolicDatagram 8 0)) ⟨true, true⟩ 100000110]

theorem deliveries_authentic_rekey :
    ∃ events s, Run (ofStep (step symbolic)) (initialState ⟨1, 2⟩ none (0, true) 0) deliveryRun
        events s ∧ deliveries events = [((7, false), 0), ((8, false), 0)] ∧
      (deliveries events).Nodup ∧ .fault ∉ events := by
  have hview : (exec (step symbolic) (initialState ⟨1, 2⟩ none (0, true) 0) deliveryRun).map
      (fun r => (deliveries r.2, created r.2)) =
        some ([((7, false), 0), ((8, false), 0)], [7, 8]) := by decide +kernel
  obtain ⟨r, hr, hview⟩ := Option.map_eq_some_iff.mp hview
  simp only [Prod.mk.injEq] at hview
  obtain ⟨hdeliveries, hcreated⟩ := hview
  have hfresh : Fresh r.2 := by
    unfold Fresh
    rw [hcreated]
    decide
  obtain ⟨honce, hfault, -⟩ := deliveries_authentic symbolic_lawful rfl hfresh (run_of_exec hr)
  exact ⟨r.2, r.1, run_of_exec hr, hdeliveries, honce, hfault⟩

end MoonlightVita.Tunnel
