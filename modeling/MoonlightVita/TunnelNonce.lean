import MoonlightVita.TunnelSessions

/-!
# No nonce is used twice

Under each session key the tunnel uses the counters 0, 1, 2 and so on in this order,
over any run and with any outcome of the sends. The counter that a datagram carries
is the one that it was sealed with.
-/
namespace MoonlightVita.Tunnel
open LittleEndian Transition

variable {K H R I : Type} [DecidableEq K]

def Event.nonce? (key : K) : Event K H I → Option UInt64
  | .transport key' counter _ _ _ => if key' = key then some counter else none
  | _ => none

/-- The counters of all encryptions under a key. -/
def noncesOf (key : K) (events : List (Event K H I)) : List UInt64 :=
  events.filterMap (Event.nonce? key)

@[simp] lemma noncesOf_append (key : K) (es fs : List (Event K H I)) :
    noncesOf key (es ++ fs) = noncesOf key es ++ noncesOf key fs := List.filterMap_append

lemma noncesOf_transport (key key' : K) (counter : UInt64) (plaintext datagram : Bytes) (sent : ℤ) :
    noncesOf key ([.transport key' counter plaintext datagram sent] : List (Event K H I)) =
      if key' = key then [counter] else [] := by
  unfold noncesOf Event.nonce?
  by_cases h : key' = key <;> simp [h]

/-- The sending keypair counts the encryptions under its key. -/
structure NonceInv (m : Meaning K H I) (events : List (Event K H I)) (g : TunnelContext K H) :
    Prop where
  counted : ∀ key, noncesOf key events =
    (List.range (noncesOf key events).length).map UInt64.ofNat
  keyed : ∀ key, noncesOf key events ≠ [] →
    ∃ i response, some i ∈ sessions m events ∧ key = m.sendingKey i response
  current : ∀ peer, g.peer = some peer → (peer.keypair .curr).sendingValid →
    (peer.keypair .curr).sendingCounter =
        UInt64.ofNat (noncesOf (peer.keypair .curr).sendingKey events).length ∧
      ∃ i response, some i ∈ sessions m events ∧
        (peer.keypair .curr).sendingKey = m.sendingKey i response

variable {lib : Wireguard K H R I} {m : Meaning K H I}

/-- What sending depends on in a keypair. -/
def SameSending (keypair keypair' : Keypair K) : Prop :=
  keypair.sendingValid = keypair'.sendingValid ∧ keypair.sendingKey = keypair'.sendingKey ∧
    keypair.sendingCounter = keypair'.sendingCounter

omit [DecidableEq K] in
lemma SameSending.refl (keypair : Keypair K) : SameSending keypair keypair := ⟨rfl, rfl, rfl⟩

/-- A move that encrypts nothing and keeps the sending keypair. -/
lemma NonceInv.keep {events out : List (Event K H I)} {g g' : TunnelContext K H}
    (h : NonceInv m events g) (hnonces : ∀ key, noncesOf key out = [])
    (hpeer : ∀ peer', g'.peer = some peer' → ∃ peer, g.peer = some peer ∧
      SameSending (peer'.keypair .curr) (peer.keypair .curr)) :
    NonceInv m (events ++ out) g' where
  counted := by
    intro key
    simpa [hnonces] using h.counted key
  keyed := by
    intro key hne
    obtain ⟨i, response, hi, hkey⟩ := h.keyed key (by simpa [hnonces] using hne)
    exact ⟨i, response, by simp [hi], hkey⟩
  current := by
    intro peer' hp hv
    obtain ⟨peer, hpeer, hvalid, hkey, hcounter⟩ := hpeer peer' hp
    rw [hvalid] at hv
    obtain ⟨hcount, i, response, hi, hk⟩ := h.current peer hpeer hv
    rw [hkey, hcounter]
    exact ⟨by simpa [hnonces] using hcount, i, response, by simp [hi], hk⟩

lemma NonceInv.encrypt {events : List (Event K H I)} {g g' : TunnelContext K H} {peer : Peer K H}
    {plaintext datagram : Bytes} {sent : ℤ} (h : NonceInv m events g) (hpeer : g.peer = some peer)
    (hvalid : (peer.keypair .curr).sendingValid)
    (hpeer' : g'.peer = some (peer.set .curr { peer.keypair .curr with
      sendingCounter := (peer.keypair .curr).sendingCounter + 1 })) :
    NonceInv m (events ++ [.transport (peer.keypair .curr).sendingKey
      (peer.keypair .curr).sendingCounter plaintext datagram sent]) g' := by
  obtain ⟨hcount, i, response, hi, hkey⟩ := h.current peer hpeer hvalid
  constructor
  case counted =>
    intro key
    rw [noncesOf_append, noncesOf_transport]
    by_cases hk : (peer.keypair .curr).sendingKey = key
    · subst hk
      rw [if_pos rfl, List.length_append, List.length_singleton, List.range_succ, List.map_append,
        ← h.counted, List.map_singleton, hcount]
    · rw [if_neg hk, List.append_nil]
      exact h.counted key
  case keyed =>
    intro key hne
    rw [noncesOf_append, noncesOf_transport] at hne
    by_cases hk : (peer.keypair .curr).sendingKey = key
    · subst hk
      exact ⟨i, response, by simp [hi], hkey⟩
    · rw [if_neg hk, List.append_nil] at hne
      obtain ⟨j, response', hj, hkey'⟩ := h.keyed key hne
      exact ⟨j, response', by simp [hj], hkey'⟩
  case current =>
    intro peer' hp _
    rw [← Option.some.inj (hpeer'.symm.trans hp)]
    simp only [set_keypair_self]
    refine ⟨?_, i, response, by simp [hi], hkey⟩
    rw [noncesOf_append, noncesOf_transport, if_pos rfl, List.length_append,
      List.length_singleton, hcount, UInt64.ofNat_add]
    rfl

/-- A new session has a key that nothing was encrypted under. -/
lemma NonceInv.session {events : List (Event K H I)} {g g' : TunnelContext K H} {peer : Peer K H}
    {handshake : H} {i : I} {response : Bytes} (hl : Lawful lib m) (h : NonceInv m events g)
    (hnot : some i ∉ sessions m events) (hstate : m.initiation handshake = some i)
    (hanswer : m.response handshake = some response)
    (hpeer' : g'.peer = some (lib.startSession { peer with handshake := handshake })) :
    NonceInv m (events ++ [.startSession handshake]) g' := by
  have hnonces : ∀ key, noncesOf key ([.startSession handshake] : List (Event K H I)) = [] :=
    fun _ => rfl
  have hsessions : sessions m ([.startSession handshake] : List (Event K H I)) = [some i] := by
    simp [sessions, Event.session?, hstate]
  constructor
  case counted =>
    intro key
    simpa [hnonces] using h.counted key
  case keyed =>
    intro key hne
    obtain ⟨j, response', hj, hkey⟩ := h.keyed key (by simpa [hnonces] using hne)
    exact ⟨j, response', by simp [hj], hkey⟩
  case current =>
    intro peer' hp _
    obtain ⟨remoteIndex, hcurr⟩ := hl.start_curr { peer with handshake := handshake } i response
      hstate hanswer
    rw [← Option.some.inj (hpeer'.symm.trans hp), hcurr]
    have hunused : noncesOf (m.sendingKey i response) events = [] := by
      by_contra hne
      obtain ⟨j, response', hj, hkey⟩ := h.keyed _ hne
      rw [hl.sendingKey_inj _ _ _ _ hkey] at hnot
      exact hnot hj
    refine ⟨?_, i, response, by simp [hsessions], rfl⟩
    simp [hnonces, hunused]

theorem nonceInv_move {events out : List (Event K H I)} {g g' : TunnelContext K H}
    {datagram : Option Bytes} (hl : Lawful lib m) (hs : SessionInv m events g)
    (h : NonceInv m events g) (hm : Move lib m datagram g out g') :
    NonceInv m (events ++ out) g' := by
  cases hm with
  | quiet peer' _ out_quiet =>
    have hnonces : ∀ key, noncesOf key out = [] := fun _ =>
      filterMap_quiet (fun _ _ _ => rfl) (fun _ => rfl) (fun _ => rfl) out_quiet
    exact h.keep hnonces fun p hp => ⟨p, peer' ▸ hp, SameSending.refl _⟩
  | encrypt _ _ hpeer valid peer' => exact h.encrypt hpeer valid peer'
  | @initiateFailed _ _ _ peer _ hpeer peer' =>
    refine h.keep (fun _ => rfl) fun p hp => ⟨peer, hpeer, ?_⟩
    cases peer'.symm.trans hp
    exact SameSending.refl _
  | @initiate _ _ _ peer _ _ _ hpeer peer' =>
    refine h.keep (fun _ => rfl) fun p hp => ⟨peer, hpeer, ?_⟩
    cases peer'.symm.trans hp
    exact SameSending.refl _
  | @session _ _ peer _ i _ hpeer before state answer _ peer' =>
    exact h.session hl (hs.pending peer i hpeer before).2 state answer peer'
  | @accept _ _ peer _ _ slot _ _ hpeer _ _ peer' =>
    refine h.keep (fun key => by simp [noncesOf, Event.nonce?]) fun p hp => ⟨peer, hpeer, ?_⟩
    cases peer'.symm.trans hp
    refine set_keypair_rel SameSending.refl ?_ .curr
    exact ⟨rfl, rfl, rfl⟩
  | @replayed _ _ peer _ _ slot _ hpeer _ _ peer' =>
    refine h.keep (fun _ => rfl) fun p hp => ⟨peer, hpeer, ?_⟩
    cases peer'.symm.trans hp
    refine set_keypair_rel SameSending.refl ?_ .curr
    exact ⟨rfl, rfl, rfl⟩

lemma nonceInv_initial (m : Meaning K H I) (endpoint : Endpoint) (handshake : H) (key : K)
    (clock : UInt64) : NonceInv m [] (initialState (I := I) endpoint handshake key clock).g where
  counted := fun _ => rfl
  keyed := fun _ h => absurd rfl h
  current := by
    intro peer hp hv
    cases hp
    cases hv

/-- Counters that start at 0 do not repeat before they wrap. -/
lemma nodup_map_ofNat {n : ℕ} (h : n ≤ 2 ^ 64) : ((List.range n).map UInt64.ofNat).Nodup := by
  refine List.Nodup.map_on ?_ List.nodup_range
  intro a ha b hb hab
  rw [List.mem_range] at ha hb
  have ha' : (UInt64.ofNat a).toNat = a := UInt64.toNat_ofNat_of_lt (by simp [UInt64.size]; omega)
  have hb' : (UInt64.ofNat b).toNat = b := UInt64.toNat_ofNat_of_lt (by simp [UInt64.size]; omega)
  rw [← ha', ← hb', hab]

/-- The counter field of a transport message. -/
def headerCounter (datagram : Bytes) : Option UInt64 :=
  (bytesAt datagram 8 8).map fun bytes => UInt64.ofNat (ofBytes bytes)

lemma headerCounter_transportHeader (receiver : UInt32) (counter : UInt64) (body : Bytes) :
    headerCounter (transportHeader receiver counter ++ body) = some counter := by
  have hbytes : bytesAt (transportHeader receiver counter ++ body) 8 8 =
      some (toBytes 8 counter.toNat) := bytesAt_append (by simp) (by simp)
  have hlt : counter.toNat < 256 ^ 8 := counter.toNat_lt
  rw [headerCounter, hbytes, Option.map_some, ofBytes_toBytes hlt, UInt64.ofNat_toNat]

omit [DecidableEq K] in
lemma Move.sealed {datagram : Option Bytes} {g g' : TunnelContext K H} {out : List (Event K H I)}
    {key : K} {counter : UInt64} {plaintext sealed : Bytes} {sent : ℤ}
    (h : Move lib m datagram g out g')
    (he : .transport key counter plaintext sealed sent ∈ out) :
    ∃ receiver, sealed = transportHeader receiver counter ++ m.aead key counter plaintext := by
  cases h with
  | quiet _ _ out_quiet => exact (out_quiet _ he).elim
  | initiateFailed | initiate | session | accept | replayed => simp at he
  | encrypt =>
    simp only [List.mem_singleton, Event.transport.injEq] at he
    obtain ⟨rfl, rfl, rfl, rfl, rfl⟩ := he
    exact ⟨_, rfl⟩

/-- However the threads interleave, whatever the sends return and whatever arrives: no
nonce is used twice under a key before the counter wraps, every datagram carries the
nonce of its body, and every initiation starts at most one session. -/
theorem nonces_unique (hl : Lawful lib m) {endpoint : Endpoint} {handshake : H} {key : K}
    {clock : UInt64} {inputs : List (Action R)} {events : List (Event K H I)} {s : State K H I}
    (hidle : m.initiation handshake = none) (hfresh : Fresh events)
    (h : Run (ofStep (step lib)) (initialState endpoint handshake key clock) inputs events s) :
    (∀ k, (noncesOf k events).length ≤ 2 ^ 64 → (noncesOf k events).Nodup) ∧
    (∀ k counter plaintext datagram sent,
      .transport k counter plaintext datagram sent ∈ events → headerCounter datagram = some counter ∧
        datagram.drop sizeofTransportData = m.aead k counter plaintext) ∧
    (sessions m events).Nodup ∧ (∀ o ∈ sessions m events, ∃ i ∈ created events, o = some i) ∧
    (Run (restrict (ofStep (step lib)) (Genuine m)) (initialState endpoint handshake key clock)
        inputs events s → ∀ o ∈ sessions m events, ∃ i ∈ sentInitiations events, o = some i) := by
  obtain ⟨⟨is, hmoves⟩, -⟩ := run_moves hl h
  obtain ⟨hsession, hnonce⟩ := moves_invariant hl (sessionInv_initial endpoint key clock hidle)
    (nonceInv_initial m endpoint handshake key clock)
    (fun _ _ _ _ _ _ hs hn hm => nonceInv_move hl hs hn hm) hmoves hfresh
  refine ⟨?_, ?_, hsession.once, hsession.known, sessions_sent hl⟩
  · intro k hk
    rw [hnonce.counted k]
    exact nodup_map_ofNat hk
  · intro k counter plaintext datagram sent he
    obtain ⟨u, d, out, v, -, hm, hmem⟩ := hmoves.mem_origin he
    obtain ⟨receiver, rfl⟩ := Move.sealed hm hmem
    refine ⟨headerCounter_transportHeader receiver counter _, ?_⟩
    exact List.drop_left' (by simp [transportHeader, sizeofTransportData])

/-- A handshake, a packet that is sent, one that is not, and the response once more. -/
def sessionRun : List (Action (Option UInt32)) :=
  [.connect (some 7) 148 10, .await 20 (some (⟨1, 2⟩, symbolicResponse 7)) 30,
    .output (some ⟨3, [1, 2, 3]⟩) 48 40, .output (some ⟨3, [1, 2, 3]⟩) (-1) 50,
    .receive (some (⟨1, 2⟩, symbolicResponse 7)) ⟨true, true⟩ 60]

theorem nonces_unique_session :
    ∃ events s, Run (ofStep (step symbolic)) (initialState ⟨1, 2⟩ none (0, true) 0) sessionRun
        events s ∧ noncesOf (7, true) events = [0, 1] ∧ (noncesOf (7, true) events).Nodup ∧
      sessions symbolicMeaning events = [some 7] ∧ (sessions symbolicMeaning events).Nodup := by
  have hview : (exec (step symbolic) (initialState ⟨1, 2⟩ none (0, true) 0) sessionRun).map
      (fun r => (noncesOf (7, true) r.2, sessions symbolicMeaning r.2, created r.2)) =
        some ([0, 1], [some 7], [7]) := by decide +kernel
  obtain ⟨r, hr, hview⟩ := Option.map_eq_some_iff.mp hview
  simp only [Prod.mk.injEq] at hview
  obtain ⟨hnonces, hsessions, hcreated⟩ := hview
  have hfresh : Fresh r.2 := by
    unfold Fresh
    rw [hcreated]
    simp
  obtain ⟨hunique, -, honce, -⟩ := nonces_unique symbolic_lawful rfl hfresh (run_of_exec hr)
  exact ⟨r.2, r.1, run_of_exec hr, hnonces, hunique _ (by simp [hnonces]), hsessions, honce⟩

end MoonlightVita.Tunnel
