import MoonlightVita.BigEndian

/-!
# Timestamps of handshake initiations: `wireguard_tai64n_now`

The seconds of a timestamp come from the wall clock and its nanoseconds from the
process clock. Where a second of the process clock begins inside one of the wall
clock, the later timestamp is the smaller one.
-/
namespace MoonlightVita.Tai64n
open BigEndian

/-- The twelve bytes that are written, from what both clocks show. -/
def wireguardTai64nNow (time : Int64) (processTime : UInt64) : List UInt8 :=
  let seconds : UInt64 := 0x400000000000000a + time.toUInt64
  let nanos : UInt32 := (processTime % 1000000 * 1000).toUInt32
  toBytes 8 seconds.toNat ++ toBytes 4 nanos.toNat

/-- What the clocks show at the real microsecond `t`, with their offsets. -/
structure Reads (a b t : ℤ) (time : Int64) (processTime : UInt64) : Prop where
  wall : time.toInt = (t + a) / 1000000
  process : (processTime.toNat : ℤ) = t + b

/-- The time with the label zero. Earlier times have no label; their seconds wrap. -/
def firstLabel : ℤ := -0x400000000000000a

lemma seconds_toNat (time : Int64) :
    ((0x400000000000000a + time.toUInt64).toNat : ℤ) =
      if time.toInt < firstLabel then 2 ^ 64 + time.toInt - firstLabel else time.toInt - firstLabel := by
  have hlt := time.toUInt64.toNat_lt
  have hint : time.toInt = if 2 * time.toUInt64.toNat < 2 ^ 64 then (time.toUInt64.toNat : ℤ)
      else (time.toUInt64.toNat : ℤ) - (2 ^ 64 : ℕ) := BitVec.toInt_eq_toNat_cond time.toBitVec
  have hbase : (0x400000000000000a : UInt64).toNat = 4611686018427387914 := rfl
  rw [UInt64.toNat_add, hbase]
  unfold firstLabel
  split_ifs at hint ⊢ <;> omega

lemma nanos_toNat (processTime : UInt64) :
    (processTime % 1000000 * 1000).toUInt32.toNat = processTime.toNat % 1000000 * 1000 := by
  have hmod : (processTime % 1000000).toNat = processTime.toNat % 1000000 := by
    rw [UInt64.toNat_mod]
    rfl
  have hthousand : (1000 : UInt64).toNat = 1000 := rfl
  rw [UInt64.toNat_toUInt32, UInt64.toNat_mul, hmod, hthousand]
  omega

/-- Timestamps compare by seconds first. -/
lemma tai64n_lt_iff (time time' : Int64) (processTime processTime' : UInt64) :
    wireguardTai64nNow time processTime < wireguardTai64nNow time' processTime' ↔
      (0x400000000000000a + time.toUInt64).toNat < (0x400000000000000a + time'.toUInt64).toNat ∨
        time.toInt = time'.toInt ∧ processTime.toNat % 1000000 < processTime'.toNat % 1000000 := by
  have hs := seconds_toNat time
  have hs' := seconds_toNat time'
  have hseconds := (0x400000000000000a + time.toUInt64).toNat_lt
  have hseconds' := (0x400000000000000a + time'.toUInt64).toNat_lt
  have hnanos := (processTime % 1000000 * 1000).toUInt32.toNat_lt
  have hnanos' := (processTime' % 1000000 * 1000).toUInt32.toNat_lt
  have hequal : (0x400000000000000a + time.toUInt64).toNat =
      (0x400000000000000a + time'.toUInt64).toNat ↔ time.toInt = time'.toInt := by
    have hrange := time.toInt_lt
    have hrange' := time'.toInt_lt
    have hle := time.le_toInt
    have hle' := time'.le_toInt
    unfold firstLabel at hs hs'
    split_ifs at hs hs' <;> omega
  simp only [wireguardTai64nNow]
  rw [append_lt_append_iff (by simp), toBytes_lt_iff (by omega) (by omega),
    toBytes_inj (by omega) (by omega), toBytes_lt_iff (by omega) (by omega),
    nanos_toNat, nanos_toNat, hequal]
  omega

/-- Of two calls the later one does not give the smaller timestamp if and only if between
them the wall clock enters a new second or the process clock does not, and both or none of
them come before the first label. -/
theorem tai64n_not_smaller_iff {a b t₁ t₂ : ℤ} {time₁ time₂ : Int64}
    {processTime₁ processTime₂ : UInt64} (h₁ : Reads a b t₁ time₁ processTime₁)
    (h₂ : Reads a b t₂ time₂ processTime₂) (hle : t₁ ≤ t₂) :
    ¬ wireguardTai64nNow time₂ processTime₂ < wireguardTai64nNow time₁ processTime₁ ↔
      ((t₁ + a) / 1000000 < (t₂ + a) / 1000000 ∨ (t₁ + b) / 1000000 = (t₂ + b) / 1000000) ∧
        ((t₁ + a) / 1000000 < firstLabel → (t₂ + a) / 1000000 < firstLabel) := by
  obtain ⟨hwall₁, hprocess₁⟩ := h₁
  obtain ⟨hwall₂, hprocess₂⟩ := h₂
  have hmono : (t₁ + a) / 1000000 ≤ (t₂ + a) / 1000000 := by omega
  have hs₁ := seconds_toNat time₁
  have hs₂ := seconds_toNat time₂
  have hrange₁ := time₁.le_toInt
  have hrange₂ := time₂.toInt_lt
  rw [tai64n_lt_iff]
  unfold firstLabel at hs₁ hs₂ ⊢
  split_ifs at hs₁ hs₂ <;> omega

theorem tai64n_not_smaller_aligned :
    ¬ wireguardTai64nNow 3 3200000 < wireguardTai64nNow 2 2900000 := by
  have h₁ : Reads 0 0 2900000 2 2900000 := ⟨by decide, by decide⟩
  have h₂ : Reads 0 0 3200000 3 3200000 := ⟨by decide, by decide⟩
  have hlabel : ¬ (2900000 + 0) / 1000000 < firstLabel := by decide
  exact (tai64n_not_smaller_iff h₁ h₂ (by norm_num)).mpr
    ⟨Or.inl (by norm_num), fun h => absurd h hlabel⟩

/-- The process clock is half a second ahead. -/
theorem tai64n_smaller :
    Reads 0 500000 499999 0 999999 ∧ Reads 0 500000 500000 0 1000000 ∧
      wireguardTai64nNow 0 1000000 < wireguardTai64nNow 0 999999 :=
  ⟨⟨by decide, by decide⟩, ⟨by decide, by decide⟩, by decide +kernel⟩

end MoonlightVita.Tai64n
