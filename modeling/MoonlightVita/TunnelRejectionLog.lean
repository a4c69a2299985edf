import MoonlightVita.TunnelMachine

/-!
# How much is logged about rejected packets

A counter of rejected packets is logged at its first four values and then at every
power of two. A flood of bad packets fills the log with one line for each doubling.
-/
namespace MoonlightVita.Tunnel
open Transition

variable {K H I : Type}

/-- The kind of rejection that a result stands for. -/
def reasonOf (result : ℤ) : Reason :=
  if result = -42 then .autenticacao else if result = -47 then .replayJanela else .outro

def counter (g : TunnelContext K H) : Reason → UInt64
  | .autenticacao => g.decryptRejects
  | .replayJanela => g.replayRejects
  | .outro => g.otherRejects

/-- One rejection after another. Between them the loop may do anything that leaves the
counters alone. -/
def rejecting : System (TunnelContext K H) ℤ (Event K H I) :=
  fun g result out t => ∃ between : TunnelContext K H,
    (∀ reason, counter between reason = counter g reason) ∧
      recordTransportRejection between result = (t, out)

def Event.logs (reason : Reason) : Event K H I → Bool
  | .rejection _ reason' _ => reason' = reason
  | _ => false

/-- The number of log lines about a kind of rejection. -/
def logLines (reason : Reason) (events : List (Event K H I)) : ℕ := events.countP (Event.logs reason)

/-- The number of log lines about so many rejections of one kind. -/
def linesFor (n : ℕ) : ℕ := if n < 4 then n else n.log2 + 2

lemma shouldLogRejection_iff {count : UInt64} (h : count.toNat ≠ 0) :
    shouldLogRejection count = true ↔ count.toNat ≤ 4 ∨ count.toNat.isPowerOfTwo := by
  have hpred : (count - 1).toNat = count.toNat - 1 := by
    have hone : (1 : UInt64) ≤ count := by
      rw [UInt64.le_iff_toNat_le]
      exact Nat.one_le_iff_ne_zero.mpr h
    rw [UInt64.toNat_sub_of_le _ _ hone]
    rfl
  have hpower := Nat.and_sub_one_eq_zero_iff_isPowerOfTwo h
  rw [shouldLogRejection, decide_eq_true_eq, UInt64.le_iff_toNat_le, ← UInt64.toNat_inj,
    UInt64.toNat_and, hpred]
  exact or_congr Iff.rfl hpower

/-- The logarithm grows by one where a power of two is reached, and nowhere else. -/
lemma log2_succ_of_isPowerOfTwo {n : ℕ} (h : n ≠ 0) (hpower : (n + 1).isPowerOfTwo) :
    (n + 1).log2 = n.log2 + 1 := by
  obtain ⟨k, hk⟩ := hpower
  cases k with
  | zero => omega
  | succ k =>
    have hdouble : 2 ^ (k + 1) = 2 * 2 ^ k := Nat.pow_succ'
    have hpos := Nat.two_pow_pos k
    have hlog : n.log2 = k := (Nat.log2_eq_iff h).mpr ⟨by omega, by omega⟩
    rw [hk, Nat.log2_two_pow, hlog]

lemma log2_succ_of_not_isPowerOfTwo {n : ℕ} (h : n ≠ 0) (hpower : ¬ (n + 1).isPowerOfTwo) :
    (n + 1).log2 = n.log2 := by
  have hle := Nat.log2_self_le h
  have hlt : n < 2 ^ (n.log2 + 1) := Nat.lt_log2_self
  have hne : n + 1 ≠ 2 ^ (n.log2 + 1) := fun he => hpower ⟨_, he⟩
  exact (Nat.log2_eq_iff (Nat.succ_ne_zero n)).mpr ⟨by omega, by omega⟩

/-- One more rejection is one more line exactly if its number is logged. -/
lemma linesFor_succ {n : ℕ} {count : UInt64} (hcount : count.toNat = n + 1) :
    linesFor (n + 1) = linesFor n + if shouldLogRejection count then 1 else 0 := by
  have hne : count.toNat ≠ 0 := by omega
  have hlogged := shouldLogRejection_iff hne
  rw [hcount] at hlogged
  unfold linesFor
  by_cases hsmall : n + 1 ≤ 4
  · rw [if_pos (hlogged.mpr (Or.inl hsmall)), if_pos (show n < 4 by omega)]
    split_ifs with hfour
    · rfl
    · obtain rfl : n = 3 := by omega
      rfl
  rw [if_neg (show ¬ n + 1 < 4 by omega), if_neg (show ¬ n < 4 by omega)]
  by_cases hpower : (n + 1).isPowerOfTwo
  · rw [if_pos (hlogged.mpr (Or.inr hpower)), log2_succ_of_isPowerOfTwo (by omega) hpower]
  · rw [if_neg (fun h => (hlogged.mp h).elim hsmall hpower),
      log2_succ_of_not_isPowerOfTwo (by omega) hpower]

lemma logLines_append (reason : Reason) (es fs : List (Event K H I)) :
    logLines reason (es ++ fs) = logLines reason es + logLines reason fs := List.countP_append

section Record
variable {g g' : TunnelContext K H}

lemma counter_recordTransportRejection (g : TunnelContext K H) (result : ℤ) (reason : Reason) :
    counter (recordTransportRejection (I := I) g result).1 reason =
      if reasonOf result = reason then counter g reason + 1 else counter g reason := by
  unfold recordTransportRejection reasonOf
  split_ifs <;> cases reason <;> simp_all [counter]

lemma logLines_recordTransportRejection (g : TunnelContext K H) (result : ℤ) (reason : Reason) :
    logLines reason (recordTransportRejection (I := I) g result).2 =
      if reasonOf result = reason ∧ shouldLogRejection (counter g reason + 1) then 1 else 0 := by
  have hrecord : (recordTransportRejection (I := I) g result).2 =
      rejectionLog result (reasonOf result) (counter g (reasonOf result) + 1) := by
    unfold recordTransportRejection reasonOf
    split_ifs <;> rfl
  rw [hrecord, rejectionLog]
  by_cases hreason : reasonOf result = reason
  · subst hreason
    split_ifs <;> simp_all [logLines, Event.logs]
  · split_ifs <;> simp_all [logLines, Event.logs]

/-- After every sequence of rejections the counter of a kind is their number, and so many lines
have been written about them. -/
theorem rejecting_run {reason : Reason} {results : List ℤ} {events : List (Event K H I)}
    (hzero : counter g reason = 0) (h : Run rejecting g results events g')
    (hcount : results.countP (reasonOf · = reason) < 2 ^ 64) :
    (counter g' reason).toNat = results.countP (reasonOf · = reason) ∧
      logLines reason events = linesFor (results.countP (reasonOf · = reason)) := by
  induction h with
  | nil => exact ⟨by rw [hzero]; rfl, rfl⟩
  | @snoc results events out s t result prior step ih =>
    obtain ⟨between, hbetween, hrecord⟩ := step
    have ht : counter t reason = if reasonOf result = reason then counter s reason + 1
        else counter s reason := by
      rw [← hbetween, ← counter_recordTransportRejection (I := I) between result, hrecord]
    have hout : logLines reason out = if reasonOf result = reason ∧
        shouldLogRejection (counter s reason + 1) then 1 else 0 := by
      rw [← hbetween, ← logLines_recordTransportRejection (I := I) between result, hrecord]
    rw [List.countP_append] at hcount
    obtain ⟨hcounter, hlines⟩ := ih (by omega)
    rw [List.countP_append, logLines_append, hlines, hout]
    by_cases hreason : reasonOf result = reason
    · have hone : [result].countP (reasonOf · = reason) = 1 := by simp [hreason]
      rw [hone] at hcount ⊢
      have hnext : (counter s reason + 1).toNat = results.countP (reasonOf · = reason) + 1 := by
        rw [UInt64.toNat_add, hcounter]
        exact Nat.mod_eq_of_lt hcount
      rw [ht, if_pos hreason, linesFor_succ hnext]
      simp only [hreason, true_and]
      exact ⟨hnext, trivial⟩
    · have hnone : [result].countP (reasonOf · = reason) = 0 := by simp [hreason]
      rw [hnone, ht, if_neg hreason, if_neg fun hlogs => hreason hlogs.1]
      exact ⟨hcounter, rfl⟩

/-- A counter that rejections take from zero to `n` has been logged `log2 n + 2` times, whatever
other rejections there were. -/
theorem rejections_logged {reason : Reason} {results : List ℤ} {events : List (Event K H I)}
    {n : ℕ} (hzero : counter g reason = 0) (h : Run rejecting g results events g')
    (hresults : results.countP (reasonOf · = reason) = n) (hfour : 4 ≤ n) (hn : n < 2 ^ 64) :
    (counter g' reason).toNat = n ∧ logLines reason events = n.log2 + 2 := by
  subst hresults
  obtain ⟨hcounter, hlines⟩ := rejecting_run hzero h hn
  rw [linesFor, if_neg (by omega)] at hlines
  exact ⟨hcounter, hlines⟩

end Record

/-- Rejections may come in every order. -/
lemma exists_rejecting_run (g : TunnelContext K H) (results : List ℤ) :
    ∃ events g', Run (rejecting (I := I)) g results events g' := by
  induction results using List.reverseRecOn with
  | nil => exact ⟨[], g, Run.nil⟩
  | append_singleton results result ih =>
    obtain ⟨events, g', hrun⟩ := ih
    exact ⟨_, _, hrun.snoc ⟨g', fun _ => rfl, rfl⟩⟩

/-- Five packets that do not authenticate, with a replay and an unknown index between them. -/
theorem rejections_logged_five :
    ∃ events g', Run (rejecting (I := Unit)) (initialState (I := Unit) ⟨1, 2⟩ () () 0).g
        [-42, -47, -42, -42, -41, -42, -42] events g' ∧
      (counter g' .autenticacao).toNat = 5 ∧ logLines .autenticacao events = 4 := by
  obtain ⟨events, g', hrun⟩ := exists_rejecting_run (I := Unit)
    (initialState (I := Unit) ⟨1, 2⟩ () () 0).g [-42, -47, -42, -42, -41, -42, -42]
  exact ⟨events, g', hrun, rejections_logged rfl hrun (by decide) (by decide) (by decide)⟩

end MoonlightVita.Tunnel
