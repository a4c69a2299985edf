import MoonlightVita.LittleEndian
import MoonlightVita.ReplayWindow

/-!
# The peer of the tunnel and the WireGuard library

Keypairs and peers, and the library calls of `tunnel.c` as parameters. `Lawful`
states what the tunnel relies on in them: the handshake, the installation of a
session and the packet cipher. The library itself is not part of the repository.
-/
namespace MoonlightVita.Tunnel
open ReplayWindow LittleEndian

structure Keypair (K : Type) where
  valid : Bool
  sendingValid : Bool
  receivingValid : Bool
  sendingKey : K
  receivingKey : K
  sendingCounter : UInt64
  localIndex : UInt32
  remoteIndex : UInt32
  replay : Replay

inductive Slot
  | curr | prev | next
  deriving DecidableEq, Repr

structure Peer (K H : Type) where
  handshake : H
  keypair : Slot → Keypair K

/-- Every live keypair has a local index of its own. -/
def Peer.Distinct {K H : Type} (peer : Peer K H) : Prop :=
  ∀ slot slot', (peer.keypair slot).valid → (peer.keypair slot').valid →
    (peer.keypair slot).localIndex = (peer.keypair slot').localIndex → slot = slot'

/-- No live keypair has this local index. -/
def Peer.Unused {K H : Type} (peer : Peer K H) (index : UInt32) : Prop :=
  ∀ slot, (peer.keypair slot).valid → (peer.keypair slot).localIndex ≠ index

/-- The calls of the library. `K` are the session keys, `H` the state of a handshake,
`R` what an initiation draws at random and `I` the initiation messages. -/
structure Wireguard (K H R I : Type) where
  getMessageType : List UInt8 → UInt8
  createHandshakeInitiation : R → Peer K H → Option I × H
  sender : I → UInt32
  checkMac1 : List UInt8 → List UInt8 → Bool
  processHandshakeResponse : H → List UInt8 → Bool × H
  startSession : Peer K H → Peer K H
  getPeerKeypairForIdx : Peer K H → UInt32 → Option Slot
  encryptPacket : List UInt8 → Keypair K → List UInt8 × Keypair K
  decryptPacket : List UInt8 → UInt64 → Keypair K → Option (List UInt8)
  rejectAfterMessages : UInt64

/-- What the state of the library stands for: the initiation that a handshake waits for
an answer to, the answer it has got, the keys that both give, and the cipher. -/
structure Meaning (K H I : Type) where
  initiation : H → Option I
  response : H → Option (List UInt8)
  answers : I → List UInt8 → Prop
  sendingKey : I → List UInt8 → K
  receivingKey : I → List UInt8 → K
  aead : K → UInt64 → List UInt8 → List UInt8

def authtagLen : ℕ := 16

structure Lawful {K H R I : Type} (lib : Wireguard K H R I) (m : Meaning K H I) : Prop where
  create_some : ∀ r p i h', lib.createHandshakeInitiation r p = (some i, h') →
    m.initiation h' = some i ∧ lib.sender i ≠ 0 ∧ p.Unused (lib.sender i)
  create_none : ∀ r p h', lib.createHandshakeInitiation r p = (none, h') →
    m.initiation h' = none ∨ m.initiation h' = m.initiation p.handshake
  process_true : ∀ h response h', lib.processHandshakeResponse h response = (true, h') →
    ∃ i, m.initiation h = some i ∧ m.initiation h' = some i ∧ m.response h' = some response ∧
      m.answers i response
  process_false : ∀ h response h', lib.processHandshakeResponse h response = (false, h') → h' = h
  start_curr : ∀ p i response, m.initiation p.handshake = some i →
    m.response p.handshake = some response → ∃ remoteIndex,
      (lib.startSession p).keypair .curr = ⟨true, true, true, m.sendingKey i response,
        m.receivingKey i response, 0, lib.sender i, remoteIndex, Replay.zero⟩
  start_rotates : ∀ p slot, slot ≠ .curr → ((lib.startSession p).keypair slot).valid →
    ∃ slot', (lib.startSession p).keypair slot = p.keypair slot'
  start_distinct : ∀ p, p.Distinct → p.Unused ((lib.startSession p).keypair .curr).localIndex →
    (lib.startSession p).Distinct
  start_ends : ∀ p, m.initiation (lib.startSession p).handshake = none
  lookup : ∀ p index slot, lib.getPeerKeypairForIdx p index = some slot →
    (p.keypair slot).valid ∧ (p.keypair slot).localIndex = index
  encrypt : ∀ plaintext keypair, lib.encryptPacket plaintext keypair =
    (m.aead keypair.sendingKey keypair.sendingCounter plaintext,
      { keypair with sendingCounter := keypair.sendingCounter + 1 })
  decrypt : ∀ ciphertext counter keypair plaintext,
    lib.decryptPacket ciphertext counter keypair = some plaintext →
      ciphertext = m.aead keypair.receivingKey counter plaintext
  aead_length : ∀ key counter plaintext,
    (m.aead key counter plaintext).length = plaintext.length + authtagLen
  sendingKey_inj : ∀ i response i' response',
    m.sendingKey i response = m.sendingKey i' response' → i = i'
  receivingKey_inj : ∀ i response i' response',
    m.receivingKey i response = m.receivingKey i' response' → i = i'
  reject_bound : lib.rejectAfterMessages.toNat ≤ 2 ^ 64 - 2 ^ 13 - 1

section Symbolic

/-- A session key of the symbolic library names its initiation and its direction. -/
abbrev SymbolicKey : Type := UInt32 × Bool

abbrev SymbolicHandshake : Type := Option (UInt32 × Option (List UInt8))

def symbolicAnswers (i : UInt32) (response : List UInt8) : Bool :=
  bytesAt response 8 4 = some (toBytes 4 i.toNat)

/-- The tag of a sealed packet names the key and the counter. -/
def symbolicAead (key : SymbolicKey) (counter : UInt64) (plaintext : List UInt8) : List UInt8 :=
  plaintext ++ (toBytes 4 key.1.toNat ++ toBytes 8 counter.toNat ++ [if key.2 then 1 else 0, 0, 0, 0])

def symbolicKeypair (i : UInt32) (response : List UInt8) : Keypair SymbolicKey :=
  ⟨true, true, true, (i, true), (i, false), 0, i,
    UInt32.ofNat (ofBytes ((response.drop 4).take 4)), Replay.zero⟩

def symbolicStart (p : Peer SymbolicKey SymbolicHandshake) : Peer SymbolicKey SymbolicHandshake :=
  match p.handshake with
  | some (i, some response) =>
    ⟨none, fun
      | .curr => symbolicKeypair i response
      | .prev => if (p.keypair .next).valid then p.keypair .next else p.keypair .curr
      | .next => { p.keypair .next with valid := false }⟩
  | _ => { p with handshake := none }

def symbolicLookup (p : Peer SymbolicKey SymbolicHandshake) (index : UInt32) : Option Slot :=
  [.curr, .next, .prev].find? fun slot =>
    (p.keypair slot).valid && (p.keypair slot).localIndex == index

/-- A library that keeps the messages themselves in place of hashes and keys. -/
def symbolic : Wireguard SymbolicKey SymbolicHandshake (Option UInt32) UInt32 where
  getMessageType := fun bytes => bytes.headD 0
  createHandshakeInitiation
    | some i, p =>
      if i = 0 ∨ (symbolicLookup p i).isSome then (none, p.handshake) else (some i, some (i, none))
    | none, p => (none, p.handshake)
  sender := id
  checkMac1 := fun _ _ => true
  processHandshakeResponse := fun h response =>
    match h with
    | some (i, previous) =>
      if symbolicAnswers i response then (true, some (i, some response))
      else (false, some (i, previous))
    | none => (false, none)
  startSession := symbolicStart
  getPeerKeypairForIdx := symbolicLookup
  encryptPacket := fun plaintext keypair =>
    (symbolicAead keypair.sendingKey keypair.sendingCounter plaintext,
      { keypair with sendingCounter := keypair.sendingCounter + 1 })
  decryptPacket := fun ciphertext counter keypair =>
    let plaintext := ciphertext.take (ciphertext.length - authtagLen)
    if ciphertext = symbolicAead keypair.receivingKey counter plaintext then some plaintext
    else none
  rejectAfterMessages := 18446744073709543423

/-- The answer of a responder with index 9 to an initiation. -/
def symbolicResponse (i : UInt32) : List UInt8 :=
  [2, 0, 0, 0] ++ toBytes 4 9 ++ toBytes 4 i.toNat ++ List.replicate 80 0

def symbolicMeaning : Meaning SymbolicKey SymbolicHandshake UInt32 where
  initiation := fun h => h.map Prod.fst
  response := fun h => h.bind Prod.snd
  answers := fun i response => symbolicAnswers i response
  sendingKey := fun i _ => (i, true)
  receivingKey := fun i _ => (i, false)
  aead := symbolicAead

lemma symbolicLookup_unused {p : Peer SymbolicKey SymbolicHandshake} {index : UInt32}
    (h : symbolicLookup p index = none) : p.Unused index := by
  intro slot hv he
  have hnone := List.find?_eq_none.mp h slot (by cases slot <;> simp)
  simp [hv, he] at hnone

lemma symbolicStart_distinct {p : Peer SymbolicKey SymbolicHandshake} (hp : p.Distinct)
    (hnew : p.Unused ((symbolicStart p).keypair .curr).localIndex) : (symbolicStart p).Distinct := by
  unfold symbolicStart at hnew ⊢
  split at hnew
  · rename_i i response _
    have hprev : ∀ keypair : Keypair SymbolicKey,
        (if (p.keypair .next).valid then p.keypair .next else p.keypair .curr) = keypair →
          keypair.valid → keypair.localIndex ≠ (symbolicKeypair i response).localIndex := by
      intro keypair hk hv
      split_ifs at hk <;> subst hk
      · exact hnew .next hv
      · exact hnew .curr hv
    intro slot slot' hv hv' he
    cases slot <;> cases slot' <;> simp only [Bool.false_eq_true] at hv hv' he ⊢
    · exact absurd he.symm (hprev _ rfl hv')
    · exact absurd he (hprev _ rfl hv)
  · exact hp

theorem symbolic_lawful : Lawful symbolic symbolicMeaning where
  create_some := by
    intro r p i h' hc
    cases r with
    | none => simp [symbolic] at hc
    | some j =>
      simp only [symbolic] at hc
      split_ifs at hc with hj
      · simp at hc
      · push Not at hj
        simp only [Prod.mk.injEq, Option.some.injEq] at hc
        obtain ⟨rfl, rfl⟩ := hc
        have hlookup : symbolicLookup p j = none := by simpa using hj.2
        exact ⟨rfl, hj.1, symbolicLookup_unused hlookup⟩
  create_none := by
    intro r p h' hc
    cases r with
    | none =>
      simp only [symbolic, Prod.mk.injEq, true_and] at hc
      exact Or.inr (by rw [hc])
    | some j =>
      simp only [symbolic] at hc
      split_ifs at hc
      · simp only [Prod.mk.injEq, true_and] at hc
        exact Or.inr (by rw [hc])
      · simp at hc
  process_true := by
    intro h response h' hp
    cases h with
    | none => simp [symbolic] at hp
    | some q =>
      simp only [symbolic] at hp
      split_ifs at hp with ha
      · cases hp
        exact ⟨q.1, rfl, rfl, rfl, ha⟩
      · simp at hp
  process_false := by
    intro h response h' hp
    cases h with
    | none =>
      simp only [symbolic, Prod.mk.injEq, true_and] at hp
      exact hp.symm
    | some q =>
      simp only [symbolic] at hp
      split_ifs at hp with ha
      · simp at hp
      · cases hp
        rfl
  start_curr := by
    intro p i response hi hr
    rcases hh : p.handshake with _ | ⟨j, response'⟩
    · simp [symbolicMeaning, hh] at hi
    · simp only [symbolicMeaning, hh, Option.map_some, Option.some.injEq, Option.bind_some]
        at hi hr
      subst hi hr
      refine ⟨UInt32.ofNat (ofBytes ((response.drop 4).take 4)), ?_⟩
      simp only [symbolic, symbolicStart, hh, symbolicKeypair, symbolicMeaning, id]
  start_rotates := by
    intro p slot hne _
    simp only [symbolic, symbolicStart] at *
    split at *
    · cases slot with
      | curr => exact absurd rfl hne
      | prev =>
        split_ifs
        · exact ⟨.next, rfl⟩
        · exact ⟨.curr, rfl⟩
      | next => simp_all
    · exact ⟨slot, rfl⟩
  start_distinct := fun p hp hnew => symbolicStart_distinct hp hnew
  start_ends := by
    intro p
    simp only [symbolic, symbolicStart]
    split <;> rfl
  lookup := by
    intro p index slot hl
    have h := List.find?_some hl
    simpa using h
  encrypt := fun _ _ => rfl
  decrypt := by
    intro ciphertext counter keypair plaintext hd
    simp only [symbolic] at hd
    split_ifs at hd with hc
    cases hd
    exact hc
  aead_length := by
    intro key counter plaintext
    simp [symbolicMeaning, symbolicAead, authtagLen]
  sendingKey_inj := by
    intro i response i' response' h
    simpa [symbolicMeaning] using h
  receivingKey_inj := by
    intro i response i' response' h
    simpa [symbolicMeaning] using h
  reject_bound := by decide

end Symbolic

end MoonlightVita.Tunnel
