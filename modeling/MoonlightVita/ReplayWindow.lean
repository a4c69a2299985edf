import MoonlightVita.RingWindow

/-!
# The replay window of a WireGuard keypair

`wireguardCheckReplay` is the patched `wireguard_check_replay`. The bound
`REJECT_AFTER_MESSAGES` comes from the unpatched header and stays a parameter.
Counters are shifted by one before they enter the ring, so that a zeroed
keypair has seen nothing.
-/
namespace MoonlightVita.ReplayWindow
open RingWindow

def replayBitsTotal : UInt64 := 8192
def replayWordBits : UInt64 := 32
def replayWords : UInt64 := replayBitsTotal / replayWordBits
def replayWindowSize : UInt64 := replayBitsTotal - replayWordBits

@[simp] lemma replayWordBits_toNat : replayWordBits.toNat = 32 := rfl
@[simp] lemma replayWords_toNat : replayWords.toNat = 256 := rfl
@[simp] lemma replayWindowSize_toNat : replayWindowSize.toNat = 8160 := rfl

abbrev Bitmap : Type := Vector UInt32 256

/-- The replay fields of `struct wireguard_keypair`. -/
structure Replay where
  replayCounter : UInt64
  replayBitmap : Bitmap
  deriving DecidableEq

/-- What `wireguard_start_session` installs, and what `memset` leaves. -/
def Replay.zero : Replay := ⟨0, Vector.replicate 256 0⟩

lemma and_words_lt (index : UInt64) : (index &&& (replayWords - 1)).toNat < 256 := by
  rw [UInt64.toNat_and]
  exact Nat.lt_succ_of_le Nat.and_le_right

def wordSlot (index : UInt64) : Fin 256 := ⟨(index &&& (replayWords - 1)).toNat, and_words_lt index⟩

def wordBit (seq : UInt64) : UInt32 := 1 <<< (seq &&& (replayWordBits - 1)).toUInt32

/-- The clearing loop, for `word` from 1 to the given bound. -/
def clearWords (bitmap : Bitmap) (currentIndex : UInt64) : ℕ → Bitmap
  | 0 => bitmap
  | word+1 =>
    (clearWords bitmap currentIndex word).set (wordSlot (UInt64.ofNat (word+1) + currentIndex)) 0

/-- Move the window up to a counter beyond the newest one. -/
def slide (keypair : Replay) (seq : UInt64) : Replay :=
  if keypair.replayCounter < seq then
    let currentIndex := keypair.replayCounter / replayWordBits
    let wordsToClear := seq / replayWordBits - currentIndex
    let wordsToClear := if replayWords < wordsToClear then replayWords else wordsToClear
    ⟨seq, clearWords keypair.replayBitmap currentIndex wordsToClear.toNat⟩
  else keypair

def wireguardCheckReplay (rejectAfterMessages : UInt64) (keypair : Replay) (seq : UInt64) :
    Bool × Replay :=
  if rejectAfterMessages ≤ seq then (false, keypair)
  else
    let seq := seq + 1
    if replayWindowSize + seq < keypair.replayCounter then (false, keypair)
    else
      let keypair := slide keypair seq
      let index := wordSlot (seq / replayWordBits)
      if keypair.replayBitmap[index] &&& wordBit seq ≠ 0 then (false, keypair)
      else (true, { keypair with
        replayBitmap := keypair.replayBitmap.set index (keypair.replayBitmap[index] ||| wordBit seq) })

/-- The bitmap as a ring of words, in the sense of `RingWindow`. -/
def ring (bitmap : Bitmap) (w b : ℕ) : Prop :=
  ∃ h : w < 256, bitmap[w].toNat.testBit b = true

lemma wordSlot_val (index : UInt64) : (wordSlot index).val = index.toNat % 256 := by
  exact (UInt64.toNat_and _ _).trans (Nat.and_two_pow_sub_one_eq_mod index.toNat 8)

lemma wordBit_toNat (seq : UInt64) : (wordBit seq).toNat = 2 ^ (seq.toNat % 32) := by
  have hand : (seq &&& (replayWordBits - 1)).toNat = seq.toNat % 32 :=
    (UInt64.toNat_and _ _).trans (Nat.and_two_pow_sub_one_eq_mod seq.toNat 5)
  have hlt : seq.toNat % 32 < 32 := Nat.mod_lt _ (by norm_num)
  have hpow : 2 ^ (seq.toNat % 32) < 2 ^ 32 := Nat.pow_lt_pow_right (by norm_num) hlt
  have hmod : seq.toNat % 32 % 2 ^ 32 % 32 = seq.toNat % 32 := by omega
  rw [wordBit, UInt32.toNat_shiftLeft, UInt64.toNat_toUInt32, hand, hmod, Nat.shiftLeft_eq,
    UInt32.toNat_one, Nat.one_mul, Nat.mod_eq_of_lt hpow]

lemma and_bit_ne_zero (x bit : UInt32) {k : ℕ} (hbit : bit.toNat = 2 ^ k) :
    x &&& bit ≠ 0 ↔ x.toNat.testBit k = true := by
  rw [Ne, ← UInt32.toNat_inj, UInt32.toNat_and, hbit, Nat.and_two_pow]
  simp

lemma or_bit_testBit (x bit : UInt32) {k : ℕ} (hbit : bit.toNat = 2 ^ k) (b : ℕ) :
    (x ||| bit).toNat.testBit b = true ↔ x.toNat.testBit b = true ∨ b = k := by
  rw [UInt32.toNat_or, hbit, Nat.testBit_or, Nat.testBit_two_pow]
  simp only [Bool.or_eq_true, decide_eq_true_eq, eq_comm (a := k)]

lemma ring_set_zero (bitmap : Bitmap) (i : Fin 256) (w b : ℕ) :
    ring (bitmap.set i 0) w b ↔ ring bitmap w b ∧ w ≠ i := by
  simp only [ring, Vector.getElem_set]
  constructor
  · rintro ⟨h, hb⟩
    split_ifs at hb with he
    · simp at hb
    · exact ⟨⟨h, hb⟩, fun hw => he hw.symm⟩
  · rintro ⟨⟨h, hb⟩, hw⟩
    exact ⟨h, by rw [if_neg (fun he => hw he.symm)]; exact hb⟩

lemma ring_set_or (bitmap : Bitmap) (i : Fin 256) {bit : UInt32} {k : ℕ}
    (hbit : bit.toNat = 2 ^ k) (w b : ℕ) (hw : w < 256) :
    ring (bitmap.set i (bitmap[i] ||| bit)) w b ↔ ring bitmap w b ∨ (w = i ∧ b = k) := by
  simp only [ring, Vector.getElem_set, hw, exists_true_left]
  by_cases he : (i : ℕ) = w
  · subst he
    simpa using or_bit_testBit bitmap[i] bit hbit b
  · have hne : ¬ w = i := fun h => he h.symm
    simp [he, hne]

/-- The loop clears exactly the words that follow the current one. -/
lemma clearWords_ring (bitmap : Bitmap) (currentIndex : UInt64) (n : ℕ)
    (hn : n + currentIndex.toNat < 2 ^ 64) (w b : ℕ) :
    ring (clearWords bitmap currentIndex n) w b ↔
      ring bitmap w b ∧ ∀ k, 1 ≤ k → k ≤ n → w ≠ (k + currentIndex.toNat) % 256 := by
  induction n with
  | zero =>
    simp only [clearWords]
    exact (and_iff_left fun k hk hn => by omega).symm
  | succ n ih =>
    have hslot : (wordSlot (UInt64.ofNat (n+1) + currentIndex)).val =
        (n + 1 + currentIndex.toNat) % 256 := by
      rw [wordSlot_val, UInt64.toNat_add, UInt64.toNat_ofNat', Nat.mod_eq_of_lt (b := 2 ^ 64)
        (a := n+1) (by omega), Nat.mod_eq_of_lt hn]
    rw [clearWords, ring_set_zero, ih (by omega), hslot, and_assoc]
    refine and_congr_right fun _ => ⟨?_, ?_⟩
    · rintro ⟨hall, hlast⟩ k hk hle
      rcases Nat.lt_or_ge k (n+1) with hlt | hge
      · exact hall k hk (by omega)
      · rwa [show k = n+1 by omega]
    · intro hall
      exact ⟨fun k hk hle => hall k hk (by omega), hall (n+1) (by omega) le_rfl⟩

/-- The purpose of the window: a counter is admitted once, below the message
limit and at most the window size behind the newest admitted one. -/
def Admits (rejectAfterMessages : ℕ) (accepted : Set ℕ) (n : ℕ) : Prop :=
  n < rejectAfterMessages ∧ n ∉ accepted ∧ ∀ m ∈ accepted, m ≤ n + replayWindowSize.toNat

/-- The keypair remembers a set of accepted counters. -/
structure Remembers (keypair : Replay) (accepted : Set ℕ) : Prop where
  tracks : Tracks 256 32 (ring keypair.replayBitmap)
    keypair.replayCounter.toNat {s | ∃ a ∈ accepted, s = a + 1}
  newest : accepted = ∅ ∧ keypair.replayCounter.toNat = 0 ∨
    ∃ m ∈ accepted, keypair.replayCounter.toNat = m + 1

lemma remembers_zero : Remembers Replay.zero ∅ := by
  have hr : ∀ w b, ¬ ring Replay.zero.replayBitmap w b := by
    rintro w b ⟨h, hb⟩
    simp [Replay.zero] at hb
  have ht := tracks_empty (W := 256) (B := 32) hr Replay.zero.replayCounter.toNat
  exact ⟨by simpa using ht, Or.inl ⟨rfl, rfl⟩⟩

lemma Remembers.le_counter {keypair : Replay} {accepted : Set ℕ} (h : Remembers keypair accepted)
    {m : ℕ} (hm : m ∈ accepted) : m + 1 ≤ keypair.replayCounter.toNat :=
  h.tracks.bounded _ ⟨m, hm, rfl⟩

/-- The window test of the code compares with the newest accepted counter. -/
lemma Remembers.window_iff {keypair : Replay} {accepted : Set ℕ} (h : Remembers keypair accepted)
    (n : ℕ) : keypair.replayCounter.toNat ≤ replayWindowSize.toNat + (n+1) ↔
      ∀ m ∈ accepted, m ≤ n + replayWindowSize.toNat := by
  constructor
  · intro hc m hm
    have := h.le_counter hm
    omega
  · intro hall
    rcases h.newest with ⟨_, hz⟩ | ⟨m, hm, he⟩
    · omega
    · have := hall m hm
      omega

lemma slide_counter (keypair : Replay) (seq : UInt64) :
    (slide keypair seq).replayCounter.toNat = max keypair.replayCounter.toNat seq.toNat := by
  by_cases h : keypair.replayCounter < seq
  · have hn := UInt64.lt_iff_toNat_lt.mp h
    simp only [slide, h, if_true]
    exact (max_eq_right hn.le).symm
  · have hn := UInt64.lt_iff_toNat_lt.not.mp h
    simp only [slide, h, if_false]
    exact (max_eq_left (by omega)).symm

/-- The clamped clear count of the code, without machine arithmetic. -/
lemma wordsToClear_toNat {current seq : UInt64} (h : current < seq) :
    (if replayWords < seq / replayWordBits - current / replayWordBits then replayWords
      else seq / replayWordBits - current / replayWordBits).toNat =
      min (seq.toNat / 32 - current.toNat / 32) 256 := by
  have hdiv := Nat.div_le_div_right (c := 32) (UInt64.lt_iff_toNat_lt.mp h).le
  have hsub : (seq / replayWordBits - current / replayWordBits).toNat =
      seq.toNat / 32 - current.toNat / 32 := by
    rw [UInt64.toNat_sub_of_le, UInt64.toNat_div, UInt64.toNat_div, replayWordBits_toNat]
    rw [UInt64.le_iff_toNat_le, UInt64.toNat_div, UInt64.toNat_div]
    exact hdiv
  split_ifs with hc <;> rw [UInt64.lt_iff_toNat_lt, hsub, replayWords_toNat] at hc
  · rw [replayWords_toNat]
    omega
  · rw [hsub]
    omega

lemma slide_tracks {keypair : Replay} (seq : UInt64) {seen : Set ℕ}
    (h : Tracks 256 32 (ring keypair.replayBitmap) keypair.replayCounter.toNat seen) :
    Tracks 256 32 (ring (slide keypair seq).replayBitmap)
      (slide keypair seq).replayCounter.toNat seen := by
  by_cases hlt : keypair.replayCounter < seq
  · have hn := UInt64.lt_iff_toNat_lt.mp hlt
    have hs := UInt64.toNat_lt seq
    have hcur : (keypair.replayCounter / replayWordBits).toNat =
        keypair.replayCounter.toNat / 32 := UInt64.toNat_div _ _
    simp only [slide, hlt, if_true]
    refine h.advance hn.le fun w b => ?_
    rw [wordsToClear_toNat hlt, clearWords_ring _ _ _ (by rw [hcur]; omega), hcur]
  · simpa only [slide, hlt, if_false] using h

lemma slide_of_le {keypair : Replay} {seq : UInt64} (h : seq ≤ keypair.replayCounter) :
    slide keypair seq = keypair := by
  rw [slide, if_neg (UInt64.not_lt.mpr h)]

lemma seen_insert (accepted : Set ℕ) (n : ℕ) :
    insert (n+1) {s | ∃ a ∈ accepted, s = a + 1} = {s | ∃ a ∈ insert n accepted, s = a + 1} := by
  ext s
  simp

section Step
variable {rejectAfterMessages n : UInt64} {keypair : Replay} {accepted : Set ℕ}

/-- Below the message limit the shifted counter does not overflow. -/
lemma shifted_toNat (hr : rejectAfterMessages.toNat ≤ 2 ^ 64 - 2 ^ 13 - 1)
    (hn : n < rejectAfterMessages) :
    (n + 1).toNat = n.toNat + 1 ∧ (replayWindowSize + (n + 1)).toNat = 8160 + (n.toNat + 1) := by
  have hlt := UInt64.lt_iff_toNat_lt.mp hn
  have h1 : (n + 1).toNat = n.toNat + 1 := by
    rw [UInt64.toNat_add, UInt64.toNat_one, Nat.mod_eq_of_lt (by omega)]
  refine ⟨h1, ?_⟩
  rw [UInt64.toNat_add, h1, replayWindowSize_toNat, Nat.mod_eq_of_lt (by omega)]

/-- After sliding, the bit that the code tests says whether the counter was accepted. -/
lemma tested_bit_iff (hrem : Remembers keypair accepted) (hs : (n + 1).toNat = n.toNat + 1)
    (hw : keypair.replayCounter.toNat ≤ 8160 + (n.toNat + 1)) :
    (slide keypair (n+1)).replayBitmap[wordSlot ((n+1) / replayWordBits)] &&& wordBit (n+1) ≠ 0 ↔
      n.toNat ∈ accepted := by
  have ht := slide_tracks (n+1) hrem.tracks
  have htop := slide_counter keypair (n+1)
  have hin : InWindow 256 32 (slide keypair (n+1)).replayCounter.toNat (n+1).toNat :=
    inWindow_of_le (by norm_num) (by omega) (by omega) (by norm_num)
  have hslot : (wordSlot ((n+1) / replayWordBits)).val = (n+1).toNat / 32 % 256 := by
    rw [wordSlot_val, UInt64.toNat_div, replayWordBits_toNat]
  rw [and_bit_ne_zero _ _ (wordBit_toNat (n+1))]
  have hb := ht.exact_bits _ hin
  rw [← hslot] at hb
  simp only [ring, Fin.is_lt, exists_true_left] at hb
  refine hb.trans ?_
  rw [hs]
  simp

/-- A counter that is not admitted leaves the keypair alone. -/
theorem wireguardCheckReplay_reject (hr : rejectAfterMessages.toNat ≤ 2 ^ 64 - 2 ^ 13 - 1)
    (hrem : Remembers keypair accepted)
    (hno : ¬ Admits rejectAfterMessages.toNat accepted n.toNat) :
    wireguardCheckReplay rejectAfterMessages keypair n = (false, keypair) := by
  rw [wireguardCheckReplay]
  by_cases hlim : rejectAfterMessages ≤ n
  · rw [if_pos hlim]
  · rw [if_neg hlim]
    obtain ⟨hs, hwin⟩ := shifted_toNat hr (UInt64.not_le.mp hlim)
    by_cases hold : replayWindowSize + (n+1) < keypair.replayCounter
    · simp only [hold, if_true]
    · have hw : keypair.replayCounter.toNat ≤ 8160 + (n.toNat + 1) := by
        rw [UInt64.lt_iff_toNat_lt, hwin] at hold
        omega
      have hmem : n.toNat ∈ accepted := by
        by_contra hm
        exact hno ⟨UInt64.lt_iff_toNat_lt.mp (UInt64.not_le.mp hlim), hm,
          (hrem.window_iff n.toNat).mp hw⟩
      have hle : n + 1 ≤ keypair.replayCounter := by
        rw [UInt64.le_iff_toNat_le, hs]
        exact hrem.le_counter hmem
      have hbit := (tested_bit_iff hrem hs hw).mpr hmem
      rw [slide_of_le hle] at hbit
      simp only [hold, if_false, slide_of_le hle, hbit, if_true, ne_eq, not_false_eq_true]

/-- An admitted counter is accepted and remembered. -/
theorem wireguardCheckReplay_accept (hr : rejectAfterMessages.toNat ≤ 2 ^ 64 - 2 ^ 13 - 1)
    (hrem : Remembers keypair accepted)
    (hadm : Admits rejectAfterMessages.toNat accepted n.toNat) :
    ∃ keypair', wireguardCheckReplay rejectAfterMessages keypair n = (true, keypair') ∧
      Remembers keypair' (insert n.toNat accepted) := by
  obtain ⟨hlim, hfresh, hwindow⟩ := hadm
  have hlt : n < rejectAfterMessages := UInt64.lt_iff_toNat_lt.mpr hlim
  obtain ⟨hs, hwin⟩ := shifted_toNat hr hlt
  have hw := (hrem.window_iff n.toNat).mpr hwindow
  rw [replayWindowSize_toNat] at hw
  have hold : ¬ replayWindowSize + (n+1) < keypair.replayCounter := by
    rw [UInt64.lt_iff_toNat_lt, hwin]
    omega
  have hbit := (tested_bit_iff hrem hs hw).not.mpr hfresh
  have htop := slide_counter keypair (n+1)
  have hle : (n+1).toNat ≤ (slide keypair (n+1)).replayCounter.toNat := by omega
  have hin : InWindow 256 32 (slide keypair (n+1)).replayCounter.toNat (n+1).toNat :=
    inWindow_of_le (by norm_num) hle (by omega) (by norm_num)
  rw [wireguardCheckReplay, if_neg (UInt64.not_le.mpr hlt)]
  simp only [hold, if_false, hbit]
  refine ⟨_, rfl, ?_, ?_⟩
  · rw [← seen_insert, ← hs]
    refine (slide_tracks (n+1) hrem.tracks).mark (by norm_num) hle hin ?_
    intro w b hwlt _
    rw [ring_set_or _ _ (wordBit_toNat (n+1)) w b hwlt, wordSlot_val, UInt64.toNat_div,
      replayWordBits_toNat]
  · refine Or.inr ?_
    rcases hrem.newest with ⟨_, hz⟩ | ⟨m, hm, he⟩
    · exact ⟨n.toNat, Set.mem_insert _ _, by simp only; omega⟩
    · by_cases hmn : m ≤ n.toNat
      · exact ⟨n.toNat, Set.mem_insert _ _, by simp only; omega⟩
      · exact ⟨m, Set.mem_insert_of_mem _ hm, by simp only; omega⟩

end Step

/-- Accepted 64-bit counters as a set of numbers. -/
def counterSet (accepted : List UInt64) : Set ℕ := {m | ∃ a ∈ accepted, a.toNat = m}

@[simp] lemma toNat_mem_counterSet {accepted : List UInt64} {n : UInt64} :
    n.toNat ∈ counterSet accepted ↔ n ∈ accepted := by
  constructor
  · rintro ⟨a, ha, he⟩
    rwa [← UInt64.toNat_inj.mp he]
  · intro h
    exact ⟨n, h, rfl⟩

lemma counterSet_concat (accepted : List UInt64) (n : UInt64) :
    counterSet (accepted ++ [n]) = insert n.toNat (counterSet accepted) := by
  ext m
  simp only [counterSet, Set.mem_ofPred_eq, Set.mem_insert_iff, List.mem_append,
    List.mem_singleton]
  constructor
  · rintro ⟨a, ha | rfl, rfl⟩
    · exact Or.inr ⟨a, ha, rfl⟩
    · exact Or.inl rfl
  · rintro (rfl | ⟨a, ha, rfl⟩)
    · exact ⟨n, Or.inr rfl, rfl⟩
    · exact ⟨a, Or.inl ha, rfl⟩

lemma admits_counterSet {rejectAfterMessages n : UInt64} {accepted : List UInt64} :
    Admits rejectAfterMessages.toNat (counterSet accepted) n.toNat ↔
      n < rejectAfterMessages ∧ n ∉ accepted ∧
        ∀ m ∈ accepted, m.toNat ≤ n.toNat + replayWindowSize.toNat := by
  rw [Admits, toNat_mem_counterSet, UInt64.lt_iff_toNat_lt]
  refine and_congr_right fun _ => and_congr_right fun _ => ⟨?_, ?_⟩
  · intro h m hm
    exact h m.toNat ⟨m, hm, rfl⟩
  · rintro h m ⟨a, ha, rfl⟩
    exact h a ha

/-- The keypair and the accepted counters after a sequence of calls on a zeroed keypair. -/
def checkReplayAll (rejectAfterMessages : UInt64) (calls : List UInt64) : Replay × List UInt64 :=
  calls.foldl (fun r n =>
    let c := wireguardCheckReplay rejectAfterMessages r.1 n
    (c.2, if c.1 then r.2 ++ [n] else r.2)) (Replay.zero, [])

lemma checkReplayAll_concat (rejectAfterMessages : UInt64) (calls : List UInt64) (n : UInt64) :
    checkReplayAll rejectAfterMessages (calls ++ [n]) =
      let r := checkReplayAll rejectAfterMessages calls
      let c := wireguardCheckReplay rejectAfterMessages r.1 n
      (c.2, if c.1 then r.2 ++ [n] else r.2) := by
  rw [checkReplayAll, List.foldl_append]
  rfl

lemma checkReplayAll_remembers {rejectAfterMessages : UInt64}
    (hr : rejectAfterMessages.toNat ≤ 2 ^ 64 - 2 ^ 13 - 1) (calls : List UInt64) :
    Remembers (checkReplayAll rejectAfterMessages calls).1
      (counterSet (checkReplayAll rejectAfterMessages calls).2) := by
  induction calls using List.reverseRecOn with
  | nil => simpa [checkReplayAll, counterSet] using remembers_zero
  | append_singleton calls n ih =>
    rw [checkReplayAll_concat]
    by_cases hadm : Admits rejectAfterMessages.toNat
        (counterSet (checkReplayAll rejectAfterMessages calls).2) n.toNat
    · obtain ⟨keypair', he, hk⟩ := wireguardCheckReplay_accept hr ih hadm
      simpa only [he, if_true, counterSet_concat] using hk
    · simpa [wireguardCheckReplay_reject hr ih hadm] using ih

/-- Every call of every sequence: the verdict is the one the window is for, and a
refused call changes nothing. -/
theorem wireguardCheckReplay_exact {rejectAfterMessages : UInt64}
    (hr : rejectAfterMessages.toNat ≤ 2 ^ 64 - 2 ^ 13 - 1) (earlier : List UInt64) (n : UInt64) :
    ((wireguardCheckReplay rejectAfterMessages
        (checkReplayAll rejectAfterMessages earlier).1 n).1 = true ↔
      n < rejectAfterMessages ∧ n ∉ (checkReplayAll rejectAfterMessages earlier).2 ∧
        ∀ m ∈ (checkReplayAll rejectAfterMessages earlier).2,
          m.toNat ≤ n.toNat + replayWindowSize.toNat) ∧
    ((wireguardCheckReplay rejectAfterMessages
        (checkReplayAll rejectAfterMessages earlier).1 n).1 = false →
      (wireguardCheckReplay rejectAfterMessages
        (checkReplayAll rejectAfterMessages earlier).1 n).2 =
        (checkReplayAll rejectAfterMessages earlier).1) := by
  have hrem := checkReplayAll_remembers hr earlier
  rw [← admits_counterSet]
  by_cases h : Admits rejectAfterMessages.toNat
      (counterSet (checkReplayAll rejectAfterMessages earlier).2) n.toNat
  · obtain ⟨keypair', he, _⟩ := wireguardCheckReplay_accept hr hrem h
    simp [he, h]
  · simp [wireguardCheckReplay_reject hr hrem h, h]

/-- A replay, a counter that comes late and a jump past the whole window. -/
def sampleCounters : List UInt64 := [1000, 1000, 5, 20000]

/-- The limit of the WireGuard protocol meets the assumption. After these calls the oldest counter
of the window is taken, the one before it is refused. -/
theorem wireguardCheckReplay_exact_jump :
    (wireguardCheckReplay 0xFFFFFFFFFFFFDFFF
      (checkReplayAll 0xFFFFFFFFFFFFDFFF sampleCounters).1 11840).1 = true ∧
    (wireguardCheckReplay 0xFFFFFFFFFFFFDFFF
      (checkReplayAll 0xFFFFFFFFFFFFDFFF sampleCounters).1 11839).1 = false ∧
    (wireguardCheckReplay 0xFFFFFFFFFFFFDFFF
      (checkReplayAll 0xFFFFFFFFFFFFDFFF sampleCounters).1 11839).2 =
        (checkReplayAll 0xFFFFFFFFFFFFDFFF sampleCounters).1 := by
  have hlimit : (0xFFFFFFFFFFFFDFFF : UInt64).toNat ≤ 2 ^ 64 - 2 ^ 13 - 1 := by decide
  have haccepted : (checkReplayAll 0xFFFFFFFFFFFFDFFF sampleCounters).2 = [1000, 5, 20000] := by
    decide +kernel
  constructor
  · rw [(wireguardCheckReplay_exact hlimit sampleCounters 11840).1, haccepted]
    simp only [replayWindowSize_toNat, List.mem_cons, forall_eq_or_imp]
    simp
  · obtain ⟨hiff, hkeeps⟩ := wireguardCheckReplay_exact hlimit sampleCounters 11839
    have hrefused : (wireguardCheckReplay 0xFFFFFFFFFFFFDFFF
        (checkReplayAll 0xFFFFFFFFFFFFDFFF sampleCounters).1 11839).1 = false := by
      rw [Bool.eq_false_iff, Ne, hiff, haccepted]
      simp
    exact ⟨hrefused, hkeeps hrefused⟩

end MoonlightVita.ReplayWindow
