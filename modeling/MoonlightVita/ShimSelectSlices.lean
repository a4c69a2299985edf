import MoonlightVita.SampledLoop
import MoonlightVita.ShimSelect

/-!
# Selecting in place

The loops of `__wrap_select` over the memory of the caller. The backends overwrite
the sets that they are given, so every slice rebuilds them from the saved originals.
Every slice is a turn of the loops that get the originals directly.
-/
namespace MoonlightVita.ShimSelect
open ShimDescriptors SampledLoop

/-- A call of a backend: of lwIP or of the native one. -/
structure Call where
  lwip : Bool
  maxDescriptor : ℤ
  sets : Sets
  timeout : Option Timeval

def Call.answer (call : Call) (sample : Sample) : Answer :=
  (if call.lwip then sample.lwipSelect else sample.realSelect) call.maxDescriptor call.sets
    call.timeout

@[simp] lemma Call.answer_lwip (maxDescriptor : ℤ) (sets : Sets) (timeout : Option Timeval)
    (sample : Sample) : (⟨true, maxDescriptor, sets, timeout⟩ : Call).answer sample =
      sample.lwipSelect maxDescriptor sets timeout := rfl

@[simp] lemma Call.answer_native (maxDescriptor : ℤ) (sets : Sets) (timeout : Option Timeval)
    (sample : Sample) : (⟨false, maxDescriptor, sets, timeout⟩ : Call).answer sample =
      sample.realSelect maxDescriptor sets timeout := rfl

/-- The sets of the caller as the last slice has left them, and the calls of every slice. -/
structure SliceState where
  sets : Sets
  slices : List (List Call)

structure Returned where
  outcome : Outcome
  slices : List (List Call)

/-- The saved originals. Where the pointer is null nothing is saved, and the local set keeps
what it had. -/
def original (sets : Sets) (uninitialised : Which → Finset ℕ) : Which → Finset ℕ :=
  fun w => (sets w).getD (uninitialised w)

/-- One slice of the loop over lwIP alone. -/
def virtualSlice (maxDescriptor : ℤ) (original : Which → Finset ℕ) (timeout started : UInt64)
    (s : SliceState) (sample : Sample) : SliceState ⊕ Returned :=
  let restored := s.sets.fill original
  let call : Call := ⟨true, maxDescriptor, restored, some zero⟩
  let answer := call.answer sample
  let slices := s.slices ++ [[call]]
  if answer.result ≠ 0 ∨ timeout = 0 then
    .inr ⟨⟨answer.result, some answer.errno, restored.fill answer.ready⟩, slices⟩
  else if timeout ≠ uint64Max ∧ timeout ≤ sample.processTime - started then
    .inr ⟨⟨0, none, restored.fill answer.ready⟩, slices⟩
  else .inl ⟨restored.fill answer.ready, slices⟩

/-- One descriptor of the loop that splits the originals. -/
def splitStep (sets : Sets) (original : Which → Finset ℕ)
    (parts : (Which → Finset ℕ) × (Which → Finset ℕ)) (descriptor : ℕ) :
    (Which → Finset ℕ) × (Which → Finset ℕ) :=
  let requested := fun w => (sets w).isSome && decide (descriptor ∈ original w)
  if isVirtualSocket descriptor then
    (fun w => if requested w then insert descriptor (parts.1 w) else parts.1 w, parts.2)
  else (parts.1, fun w => if requested w then insert descriptor (parts.2 w) else parts.2 w)

def splitLoop (maxDescriptor : ℤ) (sets : Sets) (original : Which → Finset ℕ) :
    (Which → Finset ℕ) × (Which → Finset ℕ) :=
  (List.range maxDescriptor.toNat).foldl (splitStep sets original) (fun _ => ∅, fun _ => ∅)

/-- One descriptor of the loop that merges the answers and counts. -/
def mergeStep (sets : Sets) (virtual real : Which → Finset ℕ) (merged : (Which → Finset ℕ) × ℕ)
    (descriptor : ℕ) : (Which → Finset ℕ) × ℕ :=
  let ready := fun w =>
    (sets w).isSome && (decide (descriptor ∈ virtual w) || decide (descriptor ∈ real w))
  (fun w => if ready w then insert descriptor (merged.1 w) else merged.1 w,
    if ready .read || ready .write || ready .error then merged.2 + 1 else merged.2)

def mergeLoop (maxDescriptor : ℤ) (sets : Sets) (virtual real : Which → Finset ℕ) :
    (Which → Finset ℕ) × ℕ :=
  (List.range maxDescriptor.toNat).foldl (mergeStep sets virtual real) (fun _ => ∅, 0)

/-- One slice of the loop over both backends. After an error the sets of the caller are as the
slice before has left them. -/
def mixedSlice (maxDescriptor : ℤ) (original : Which → Finset ℕ) (timeout started : UInt64)
    (s : SliceState) (sample : Sample) : SliceState ⊕ Returned :=
  let parts := splitLoop maxDescriptor s.sets original
  let lwip : Call := ⟨true, maxDescriptor, s.sets.fill parts.1, some zero⟩
  let native : Call := ⟨false, maxDescriptor, s.sets.fill parts.2, some zero⟩
  let virtual := lwip.answer sample
  let real := native.answer sample
  let slices := s.slices ++ [[lwip, native]]
  if virtual.result < 0 ∨ real.result < 0 then
    .inr ⟨⟨-1, some (if virtual.result < 0 then virtual.errno else real.errno), s.sets⟩, slices⟩
  else
    let merged := mergeLoop maxDescriptor s.sets virtual.ready real.ready
    let sets := s.sets.fill merged.1
    if 0 < merged.2 ∨ timeout = 0 then .inr ⟨⟨merged.2, none, sets⟩, slices⟩
    else if timeout ≠ uint64Max ∧ timeout ≤ sample.processTime - started then
      .inr ⟨⟨0, none, sets⟩, slices⟩
    else .inl ⟨sets, slices⟩

def wrapSelectInPlace (maxDescriptor : ℤ) (sets : Sets) (timeout : Option Timeval)
    (started : UInt64) (uninitialised : Which → Finset ℕ) (samples : List Sample) :
    Option Returned :=
  if !hasVirtual maxDescriptor sets then
    samples.head?.map fun sample =>
      let call : Call := ⟨false, maxDescriptor, sets, timeout⟩
      let answer := call.answer sample
      ⟨⟨answer.result, some answer.errno, sets.fill answer.ready⟩, [[call]]⟩
  else if !hasReal maxDescriptor sets then
    loop (virtualSlice maxDescriptor (original sets uninitialised) (timeoutUs timeout) started)
      ⟨sets, []⟩ samples
  else
    loop (mixedSlice maxDescriptor (original sets uninitialised) (timeoutUs timeout) started)
      ⟨sets, []⟩ samples

section Memory
variable {maxDescriptor : ℤ} {sets : Sets} {uninitialised : Which → Finset ℕ}

/-- The same pointers are null. -/
def SamePointers (sets sets' : Sets) : Prop := ∀ w, (sets' w).isSome = (sets w).isSome

lemma samePointers_fill (sets : Sets) (content : Which → Finset ℕ) :
    SamePointers sets (sets.fill content) := fun _ => Option.isSome_map

lemma SamePointers.fill_eq {sets' : Sets} (h : SamePointers sets sets')
    (content : Which → Finset ℕ) : sets'.fill content = sets.fill content := by
  funext w
  have hw := h w
  unfold Sets.fill
  cases hs : sets w with
  | none =>
    rw [hs] at hw
    have hnone : sets' w = none := by simpa using hw
    rw [hnone]
  | some set =>
    rw [hs] at hw
    obtain ⟨set', hset'⟩ := Option.isSome_iff_exists.mp hw
    rw [hset']
    rfl

/-- Restoring gives back what was requested. -/
lemma fill_original (sets : Sets) (uninitialised : Which → Finset ℕ) :
    sets.fill (original sets uninitialised) = sets := by
  funext w
  unfold Sets.fill original
  cases sets w <;> rfl

/-- The split loop has put every requested descriptor so far into one of its parts. -/
lemma mem_splitLoop (sets : Sets) (saved : Which → Finset ℕ) (n : ℕ) (w : Which) (d : ℕ) :
    let parts := (List.range n).foldl (splitStep sets saved) (fun _ => ∅, fun _ => ∅)
    (d ∈ parts.1 w ↔ d < n ∧ (sets w).isSome ∧ d ∈ saved w ∧ isVirtualSocket d = true) ∧
      (d ∈ parts.2 w ↔ d < n ∧ (sets w).isSome ∧ d ∈ saved w ∧ isVirtualSocket d = false) := by
  induction n with
  | zero => simp
  | succ n ih =>
    obtain ⟨hvirtual, hreal⟩ := ih
    simp only [List.range_succ, List.foldl_append, List.foldl_cons, List.foldl_nil]
    set parts := (List.range n).foldl (splitStep sets saved) (fun _ => ∅, fun _ => ∅)
    have hlt : d < n + 1 ↔ d < n ∨ d = n := by omega
    cases hn : isVirtualSocket n with
    | true =>
      simp only [splitStep, hn, if_true, hlt]
      refine ⟨?_, ?_⟩
      · split_ifs with hrequested
        · rw [Bool.and_eq_true, decide_eq_true_eq] at hrequested
          rw [Finset.mem_insert, hvirtual]
          grind
        · rw [Bool.and_eq_true, decide_eq_true_eq] at hrequested
          rw [hvirtual]
          grind
      · rw [hreal]
        grind
    | false =>
      simp only [splitStep, hn, Bool.false_eq_true, if_false, hlt]
      refine ⟨?_, ?_⟩
      · rw [hvirtual]
        grind
      · split_ifs with hrequested
        · rw [Bool.and_eq_true, decide_eq_true_eq] at hrequested
          rw [Finset.mem_insert, hreal]
          grind
        · rw [Bool.and_eq_true, decide_eq_true_eq] at hrequested
          rw [hreal]
          grind

lemma fill_splitLoop {sets' : Sets} (h : SamePointers sets sets') :
    sets'.fill (splitLoop maxDescriptor sets' (original sets uninitialised)).1 =
        split maxDescriptor sets true ∧
      sets'.fill (splitLoop maxDescriptor sets' (original sets uninitialised)).2 =
        split maxDescriptor sets false := by
  have hmem := mem_splitLoop sets' (original sets uninitialised) maxDescriptor.toNat
  rw [h.fill_eq, h.fill_eq]
  constructor
  all_goals
    funext w
    have hw := h w
    unfold Sets.fill split
    cases hs : sets w with
    | none => rfl
    | some set =>
      rw [hs, Option.isSome_some] at hw
      simp only [Option.map_some, Option.some.injEq]
      ext d
      simp only [splitLoop, hmem w d, hw, original, hs, Option.getD_some, Finset.mem_filter,
        Finset.mem_range, true_and]

/-- The merge loop has set every reported descriptor so far, and counted it once. -/
lemma mergeLoop_step (sets : Sets) (virtual real : Which → Finset ℕ) (n : ℕ) :
    let merged := (List.range n).foldl (mergeStep sets virtual real) (fun _ => ∅, 0)
    (∀ w d, d ∈ merged.1 w ↔ d < n ∧ (sets w).isSome ∧ (d ∈ virtual w ∨ d ∈ real w)) ∧
      merged.2 = (List.range n).countP fun d =>
        decide (∃ w, (sets w).isSome ∧ (d ∈ virtual w ∨ d ∈ real w)) := by
  induction n with
  | zero => simp
  | succ n ih =>
    obtain ⟨hmem, hcount⟩ := ih
    simp only [List.range_succ, List.foldl_append, List.foldl_cons, List.foldl_nil,
      List.countP_append, List.countP_singleton]
    set merged := (List.range n).foldl (mergeStep sets virtual real) (fun _ => ∅, 0)
    refine ⟨?_, ?_⟩
    · intro w d
      have hlt : d < n + 1 ↔ d < n ∨ d = n := by omega
      simp only [mergeStep, hlt]
      split_ifs with hready
      · simp only [Bool.and_eq_true, Bool.or_eq_true, decide_eq_true_eq] at hready
        rw [Finset.mem_insert, hmem]
        grind
      · simp only [Bool.and_eq_true, Bool.or_eq_true, decide_eq_true_eq] at hready
        rw [hmem]
        grind
    · have hany : (∃ w, (sets w).isSome ∧ (n ∈ virtual w ∨ n ∈ real w)) ↔
          ((sets .read).isSome ∧ (n ∈ virtual .read ∨ n ∈ real .read) ∨
            (sets .write).isSome ∧ (n ∈ virtual .write ∨ n ∈ real .write)) ∨
            (sets .error).isSome ∧ (n ∈ virtual .error ∨ n ∈ real .error) := by
        constructor
        · rintro ⟨w, hw⟩
          cases w with
          | read => exact Or.inl (Or.inl hw)
          | write => exact Or.inl (Or.inr hw)
          | error => exact Or.inr hw
        · rintro ((hw | hw) | hw)
          · exact ⟨_, hw⟩
          · exact ⟨_, hw⟩
          · exact ⟨_, hw⟩
      simp only [mergeStep, hcount, hany, Bool.or_eq_true, Bool.and_eq_true, decide_eq_true_eq]
      split_ifs <;> rfl

lemma mergeLoop_eq {sets' : Sets} (h : SamePointers sets sets') (virtual real : Which → Finset ℕ) :
    sets'.fill (mergeLoop maxDescriptor sets' virtual real).1 =
        merge maxDescriptor sets virtual real ∧
      (mergeLoop maxDescriptor sets' virtual real).2 =
        readyCount maxDescriptor (merge maxDescriptor sets virtual real) := by
  obtain ⟨hmem, hcount⟩ := mergeLoop_step sets' virtual real maxDescriptor.toNat
  constructor
  · rw [h.fill_eq, merge]
    funext w
    have hw := h w
    unfold Sets.fill
    cases hs : sets w with
    | none => rfl
    | some set =>
      rw [hs, Option.isSome_some] at hw
      simp only [Option.map_some, Option.some.injEq]
      ext d
      simp only [mergeLoop, hmem w d, hw, Finset.mem_filter, Finset.mem_range, true_and]
  · rw [mergeLoop, hcount, readyCount]
    refine List.countP_congr fun d hd => ?_
    rw [List.mem_range] at hd
    rw [decide_eq_true_eq, selected_iff]
    refine exists_congr fun w => ?_
    rw [h w, merge, getD_fill]
    split_ifs with hw
    · simp [hw, hd]
    · simp [hw]

end Memory

/-- A slice in any state with the pointers of the call is a turn over the originals, and makes
the same calls every time. After an error the sets are of no concern. -/
structure Follows (sets : Sets) (slice : SliceState → Sample → SliceState ⊕ Returned)
    (turn : Sample → Option Outcome) (calls : List Call) : Prop where
  goesOn : ∀ s sample t, SamePointers sets s.sets → slice s sample = .inl t →
    turn sample = none ∧ SamePointers sets t.sets ∧ t.slices = s.slices ++ [calls]
  returns : ∀ s sample r, SamePointers sets s.sets → slice s sample = .inr r →
    r.slices = s.slices ++ [calls] ∧ ∃ o, turn sample = some o ∧
      r.outcome.result = o.result ∧ (0 ≤ o.result → r.outcome = o)

section Slices
variable {maxDescriptor : ℤ} {sets : Sets} {uninitialised : Which → Finset ℕ}
  {timeout started : UInt64} {slice : SliceState → Sample → SliceState ⊕ Returned}
  {turn : Sample → Option Outcome} {calls : List Call}

lemma virtualSlice_follows :
    Follows sets (virtualSlice maxDescriptor (original sets uninitialised) timeout started)
      (virtualTurn maxDescriptor sets timeout started)
      [⟨true, maxDescriptor, sets, some zero⟩] where
  goesOn := by
    intro s sample t hs h
    simp only [virtualSlice, hs.fill_eq, fill_original, Call.answer_lwip] at h
    split_ifs at h with hret hexpired
    cases h
    refine ⟨?_, samePointers_fill _ _, rfl⟩
    simp only [virtualTurn]
    rw [if_neg hret, if_neg hexpired]
  returns := by
    intro s sample r hs h
    simp only [virtualSlice, hs.fill_eq, fill_original, Call.answer_lwip] at h
    split_ifs at h with hret hexpired
    · cases h
      refine ⟨rfl, _, if_pos hret, rfl, fun _ => rfl⟩
    · cases h
      refine ⟨rfl, _, ?_, rfl, fun _ => rfl⟩
      simp only [virtualTurn]
      rw [if_neg hret, if_pos hexpired]

lemma mixedSlice_follows :
    Follows sets (mixedSlice maxDescriptor (original sets uninitialised) timeout started)
      (mixedTurn maxDescriptor sets timeout started)
      [⟨true, maxDescriptor, split maxDescriptor sets true, some zero⟩,
        ⟨false, maxDescriptor, split maxDescriptor sets false, some zero⟩] where
  goesOn := by
    intro s sample t hs h
    simp only [mixedSlice, (fill_splitLoop hs).1, (fill_splitLoop hs).2, (mergeLoop_eq hs _ _).1,
      (mergeLoop_eq hs _ _).2, Call.answer_lwip, Call.answer_native] at h
    split_ifs at h with herror hret hexpired
    cases h
    refine ⟨?_, samePointers_fill _ _, rfl⟩
    simp only [mixedTurn]
    rw [if_neg herror, if_neg hret, if_neg hexpired]
  returns := by
    intro s sample r hs h
    simp only [mixedSlice, (fill_splitLoop hs).1, (fill_splitLoop hs).2, (mergeLoop_eq hs _ _).1,
      (mergeLoop_eq hs _ _).2, Call.answer_lwip, Call.answer_native] at h
    by_cases herror : (sample.lwipSelect maxDescriptor (split maxDescriptor sets true)
        (some zero)).result < 0 ∨ (sample.realSelect maxDescriptor (split maxDescriptor sets false)
          (some zero)).result < 0
    · rw [if_pos herror] at h
      cases h
      refine ⟨rfl, _, if_pos herror, rfl, fun hok => ?_⟩
      simp at hok
    rw [if_neg herror] at h
    split_ifs at h with hret hexpired
    · cases h
      refine ⟨rfl, _, ?_, rfl, fun _ => rfl⟩
      simp only [mixedTurn]
      rw [if_neg herror, if_pos hret]
    · cases h
      refine ⟨rfl, _, ?_, rfl, fun _ => rfl⟩
      simp only [mixedTurn]
      rw [if_neg herror, if_neg hret, if_pos hexpired]

/-- Slice after slice, a loop over the memory of the caller follows the turns. -/
theorem Follows.loop_return (h : Follows sets slice turn calls) {samples : List Sample}
    {last : Sample} {s : SliceState} {r : Returned} (hs : SamePointers sets s.sets)
    (hwaiting : loop slice s samples = none) (hreturn : loop slice s (samples ++ [last]) = some r) :
    samples.findSome? turn = none ∧
      r.slices = s.slices ++ List.replicate (samples.length + 1) calls ∧
      ∃ o, turn last = some o ∧ r.outcome.result = o.result ∧ (0 ≤ o.result → r.outcome = o) := by
  induction samples generalizing s with
  | nil =>
    cases hl : slice s last with
    | inl t => simp [loop, hl] at hreturn
    | inr r' =>
      simp only [List.nil_append, loop, hl, Option.some.injEq] at hreturn
      subst hreturn
      obtain ⟨hslices, ho⟩ := h.returns s last r' hs hl
      exact ⟨rfl, hslices, ho⟩
  | cons sample samples ih =>
    cases hl : slice s sample with
    | inl t =>
      simp only [loop, hl] at hwaiting
      simp only [List.cons_append, loop, hl] at hreturn
      obtain ⟨hturn, ht, hslices⟩ := h.goesOn s sample t hs hl
      obtain ⟨hnone, hcalls, ho⟩ := ih ht hwaiting hreturn
      refine ⟨?_, ?_, ho⟩
      · rw [List.findSome?_cons, hturn]
        exact hnone
      · rw [hcalls, hslices, List.append_assoc]
        rfl
    | inr r' => simp [loop, hl] at hwaiting

end Slices

end MoonlightVita.ShimSelect
