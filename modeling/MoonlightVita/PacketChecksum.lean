import MoonlightVita.EndAroundCarry

/-!
# The Internet checksum of `ip_udp_packet.c`

The sums of the code live in 32-bit words. `wordSum` is the same sum over
unbounded numbers, which the accumulator equals as long as it does not overflow.
-/
namespace MoonlightVita.Packet
open EndAroundCarry

def ipv4ProtocolUdp : UInt8 := 17

/-- Two bytes in network order. -/
def be16 (high low : UInt8) : UInt16 := (high.toUInt16 <<< 8) ||| low.toUInt16

def readBe16 (input : List UInt8) (offset : ℕ) : UInt16 :=
  be16 (input.getD offset 0) (input.getD (offset+1) 0)

def be16Bytes (value : UInt16) : List UInt8 := [(value >>> 8).toUInt8, value.toUInt8]

/-- An odd last byte counts as the high byte of a word. -/
def checksumAdd (sum : UInt32) : List UInt8 → UInt32
  | high :: low :: data => checksumAdd (sum + (be16 high low).toUInt32) data
  | [last] => sum + (last.toUInt16 <<< 8).toUInt32
  | [] => sum

lemma foldRound_toNat (sum : UInt32) :
    ((sum &&& (0xFFFF : UInt32)) + (sum >>> 16)).toNat = fold (2 ^ 16) sum.toNat := by
  have hlow : (sum &&& (0xFFFF : UInt32)).toNat = sum.toNat % 2 ^ 16 :=
    (UInt32.toNat_and _ _).trans (Nat.and_two_pow_sub_one_eq_mod sum.toNat 16)
  have hhigh : (sum >>> 16).toNat = sum.toNat / 2 ^ 16 := by
    rw [UInt32.toNat_shiftRight, Nat.shiftRight_eq_div_pow]
    rfl
  have hlt := UInt32.toNat_lt sum
  rw [UInt32.toNat_add, hlow, hhigh, fold, Nat.mod_eq_of_lt (by omega)]

lemma carries_ne_zero_iff (sum : UInt32) : sum >>> 16 ≠ 0 ↔ 2 ^ 16 ≤ sum.toNat := by
  rw [Ne, ← UInt32.toNat_inj, UInt32.toNat_shiftRight, Nat.shiftRight_eq_div_pow]
  change ¬ sum.toNat / 2 ^ 16 = 0 ↔ _
  omega

/-- The folding loop of `checksum_finish`. -/
def foldCarries (sum : UInt32) : UInt32 :=
  if sum >>> 16 ≠ 0 then foldCarries ((sum &&& (0xFFFF : UInt32)) + (sum >>> 16)) else sum
termination_by sum.toNat
decreasing_by
  rename_i h
  rw [foldRound_toNat]
  exact fold_lt (by norm_num) ((carries_ne_zero_iff sum).mp h)

def checksumFinish (sum : UInt32) : UInt16 := (~~~ foldCarries sum).toUInt16

def ipv4Checksum (header : List UInt8) : UInt16 :=
  checksumFinish (checksumAdd 0 (header.take 20))

def udpChecksum (sourceIp destinationIp udp : List UInt8) (udpSize : ℕ) : UInt16 :=
  let sum := checksumAdd 0 (sourceIp.take 4)
  let sum := checksumAdd sum (destinationIp.take 4)
  let sum := sum + ipv4ProtocolUdp.toUInt32
  let sum := sum + (UInt16.ofNat udpSize).toUInt32
  checksumFinish (checksumAdd sum (udp.take udpSize))

theorem foldCarries_folded (sum : UInt32) : Folded (2 ^ 16) sum.toNat (foldCarries sum).toNat := by
  induction sum using foldCarries.induct with
  | case1 sum h ih =>
    rw [foldCarries, if_pos h]
    rw [foldRound_toNat] at ih
    exact ih.step (by norm_num)
  | case2 sum h =>
    rw [foldCarries, if_neg h]
    rw [carries_ne_zero_iff, Nat.not_le] at h
    exact Folded.refl h

theorem checksumFinish_toNat (sum : UInt32) :
    (checksumFinish sum).toNat = 2 ^ 16 - 1 - (foldCarries sum).toNat := by
  have hlt := (foldCarries_folded sum).digit
  rw [checksumFinish, UInt32.toNat_toUInt16, UInt32.toNat_not]
  change (2 ^ 32 - 1 - (foldCarries sum).toNat) % 2 ^ 16 = _
  omega

theorem checksumFinish_eq_zero_iff (sum : UInt32) :
    checksumFinish sum = 0 ↔ sum.toNat ≠ 0 ∧ 65535 ∣ sum.toNat := by
  have hf := foldCarries_folded sum
  have hlt := hf.digit
  rw [← UInt16.toNat_inj, checksumFinish_toNat, UInt16.toNat_zero]
  refine Iff.trans ?_ (hf.eq_ones_iff (by norm_num))
  omega

theorem dvd_add_checksumFinish (sum : UInt32) :
    65535 ∣ sum.toNat + (checksumFinish sum).toNat := by
  rw [checksumFinish_toNat]
  exact (foldCarries_folded sum).dvd_add_complement

/-- The words of a byte string, summed without overflow. -/
def wordSum : List UInt8 → ℕ
  | high :: low :: data => (be16 high low).toNat + wordSum data
  | [last] => last.toNat * 256
  | [] => 0

lemma be16_toNat (high low : UInt8) : (be16 high low).toNat = high.toNat * 256 + low.toNat := by
  have hh := UInt8.toNat_lt high
  have hl := UInt8.toNat_lt low
  have hs : (high.toUInt16 <<< 8).toNat = high.toNat <<< 8 := by
    rw [UInt16.toNat_shiftLeft, UInt8.toNat_toUInt16]
    change high.toNat <<< 8 % 2 ^ 16 = high.toNat <<< 8
    rw [Nat.shiftLeft_eq, Nat.mod_eq_of_lt (by omega)]
  rw [be16, UInt16.toNat_or, hs, UInt8.toNat_toUInt16, ← Nat.shiftLeft_add_eq_or_of_lt hl,
    Nat.shiftLeft_eq]

lemma last_toNat (last : UInt8) : (last.toUInt16 <<< 8).toUInt32.toNat = last.toNat * 256 := by
  have h := be16_toNat last 0
  simpa [be16] using h

theorem checksumAdd_toNat (sum : UInt32) (data : List UInt8) :
    (checksumAdd sum data).toNat = (sum.toNat + wordSum data) % 2 ^ 32 := by
  induction sum, data using checksumAdd.induct with
  | case1 sum high low data ih =>
    rw [checksumAdd, ih, UInt32.toNat_add, UInt16.toNat_toUInt32, wordSum, Nat.mod_add_mod,
      Nat.add_assoc]
  | case2 sum last =>
    rw [checksumAdd, UInt32.toNat_add, last_toNat, wordSum]
  | case3 sum =>
    rw [checksumAdd, wordSum, Nat.add_zero, Nat.mod_eq_of_lt (UInt32.toNat_lt sum)]

theorem wordSum_le (data : List UInt8) : 2 * wordSum data ≤ 65535 * (data.length + 1) := by
  induction data using wordSum.induct with
  | case1 high low data ih =>
    have := UInt16.toNat_lt (be16 high low)
    simp only [wordSum, List.length_cons]
    omega
  | case2 last =>
    have := UInt8.toNat_lt last
    simp only [wordSum, List.length_cons, List.length_nil]
    omega
  | case3 => simp [wordSum]

@[simp] lemma be16_bytes (value : UInt16) : be16 (value >>> 8).toUInt8 value.toUInt8 = value := by
  have hv := UInt16.toNat_lt value
  rw [← UInt16.toNat_inj, be16_toNat, UInt16.toNat_toUInt8, UInt16.toNat_toUInt8,
    UInt16.toNat_shiftRight, Nat.shiftRight_eq_div_pow]
  change value.toNat / 2 ^ 8 % 2 ^ 8 * 256 + value.toNat % 2 ^ 8 = value.toNat
  omega

end MoonlightVita.Packet
