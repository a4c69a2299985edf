import MoonlightVita.ShimSelectSlices

/-!
# What a select over two backends reports

The returned sets are what the backend of each requested descriptor has reported in
the last slice, every slice asks each backend about its own descriptors only, and
nothing is reported only once the timeout has passed.
-/
namespace MoonlightVita.ShimSelect
open ShimDescriptors SampledLoop

/-- A backend that replaces its sets by their ready part, of the descriptors below the bound. -/
def Replaces (select : Select) : Prop :=
  ∀ maxDescriptor sets timeout, 0 ≤ (select maxDescriptor sets timeout).result → ∀ w d,
    d ∈ (select maxDescriptor sets timeout).ready w →
      d ∈ (sets w).getD ∅ ∧ d < maxDescriptor.toNat

/-- The microseconds of a timeout. -/
def Timeval.total (timeout : Timeval) : ℤ := timeout.tvSec * 1000000 + timeout.tvUsec

structure Timeval.Valid (timeout : Timeval) : Prop where
  tvSec : 0 ≤ timeout.tvSec
  tvUsec : 0 ≤ timeout.tvUsec
  total : timeout.total < 2 ^ 64 - 1

/-- The backend of a descriptor reports it to one of these calls. -/
def ReportedBy (calls : List Call) (sample : Sample) (w : Which) (d : ℕ) : Prop :=
  ∃ call ∈ calls, call.lwip = isVirtualSocket d ∧ d ∈ (call.answer sample).ready w

/-- The calls ask about each requested descriptor, and each asks about the descriptors of its
own backend only. -/
structure AsksOwn (maxDescriptor : ℤ) (sets : Sets) (calls : List Call) : Prop where
  bound : ∀ call ∈ calls, call.maxDescriptor = maxDescriptor
  own : ∀ call ∈ calls, ∀ w d, d ∈ (call.sets w).getD ∅ → d < call.maxDescriptor.toNat →
    isVirtualSocket d = call.lwip
  all : ∀ w d, d ∈ (sets w).getD ∅ → d < maxDescriptor.toNat →
    ∃ call ∈ calls, call.lwip = isVirtualSocket d ∧ d ∈ (call.sets w).getD ∅

section Timeout
variable {timeout : Option Timeval} {started now : UInt64}

lemma timeoutUs_toNat {tv : Timeval} (h : tv.Valid) :
    ((timeoutUs (some tv)).toNat : ℤ) = tv.total := by
  obtain ⟨hsec, husec, htotal⟩ := h
  unfold Timeval.total at htotal
  have hsec' : (UInt64.ofInt tv.tvSec).toNat = tv.tvSec.toNat := by
    rw [UInt64.ofInt, UInt64.toNat_ofNat']
    omega
  have husec' : (UInt64.ofInt tv.tvUsec).toNat = tv.tvUsec.toNat := by
    rw [UInt64.ofInt, UInt64.toNat_ofNat']
    omega
  have hmillion : (1000000 : UInt64).toNat = 1000000 := rfl
  rw [timeoutUs, UInt64.toNat_add, UInt64.toNat_mul, hsec', husec', hmillion, Timeval.total]
  omega

/-- The loops end without a result only once the timeout has passed. -/
lemma elapsed_of_expired (hvalid : ∀ tv, timeout = some tv → tv.Valid) (hclock : started ≤ now)
    (h : timeoutUs timeout = 0 ∨
      timeoutUs timeout ≠ uint64Max ∧ timeoutUs timeout ≤ now - started) :
    ∃ tv, timeout = some tv ∧ tv.total ≤ (now.toNat : ℤ) - started.toNat := by
  have hle := UInt64.le_iff_toNat_le.mp hclock
  cases timeout with
  | none =>
    simp only [timeoutUs] at h
    rcases h with h | h
    · exact absurd h (by decide)
    · exact absurd rfl h.1
  | some tv =>
    refine ⟨tv, rfl, ?_⟩
    rw [← timeoutUs_toNat (hvalid tv rfl)]
    rcases h with h | h
    · rw [h, UInt64.toNat_zero]
      omega
    · have hexpired := UInt64.le_iff_toNat_le.mp h.2
      rw [UInt64.toNat_sub_of_le _ _ hclock] at hexpired
      omega

end Timeout

section Turns
variable {maxDescriptor : ℤ} {sets : Sets} {timeout started : UInt64} {sample : Sample}
  {o : Outcome}

lemma isVirtual_of_not_hasReal (hreal : hasReal maxDescriptor sets = false) {w : Which} {d : ℕ}
    (hd : d ∈ (sets w).getD ∅) (hlt : d < maxDescriptor.toNat) : isVirtualSocket d = true := by
  by_contra hnot
  have hany : hasReal maxDescriptor sets = true := by
    refine List.any_eq_true.mpr ⟨d, List.mem_range.mpr hlt, ?_⟩
    rw [Bool.and_eq_true, selected_iff]
    exact ⟨⟨w, hd⟩, by simpa using hnot⟩
  rw [hreal] at hany
  cases hany

lemma mem_split {virtualFd : Bool} {w : Which} {d : ℕ} :
    d ∈ (split maxDescriptor sets virtualFd w).getD ∅ ↔
      d ∈ (sets w).getD ∅ ∧ d < maxDescriptor.toNat ∧ isVirtualSocket d = virtualFd := by
  unfold split
  cases sets w with
  | none => simp
  | some set =>
    simp only [Option.map_some, Option.getD_some, Finset.mem_filter, Finset.mem_range]
    tauto

/-- What is filled in is what the backends have reported, if they report requests only. -/
lemma mem_fill {ready : Which → Finset ℕ} {w : Which} {d : ℕ}
    (h : d ∈ ready w → d ∈ (sets w).getD ∅) :
    d ∈ (sets.fill ready w).getD ∅ ↔ d ∈ (sets w).getD ∅ ∧ d ∈ ready w := by
  rw [getD_fill]
  cases hs : sets w with
  | none => simp
  | some set =>
    rw [hs] at h
    simpa using h

lemma virtualTurn_reported (hlwip : Replaces sample.lwipSelect)
    (hreal : hasReal maxDescriptor sets = false)
    (h : virtualTurn maxDescriptor sets timeout started sample = some o) (hok : 0 ≤ o.result) :
    (∀ w, (o.sets w).isSome = (sets w).isSome) ∧
      (∀ w d, d ∈ (o.sets w).getD ∅ ↔ d ∈ (sets w).getD ∅ ∧ d < maxDescriptor.toNat ∧
        ReportedBy [⟨true, maxDescriptor, sets, some zero⟩] sample w d) ∧
      (o.result = 0 → timeout = 0 ∨
        timeout ≠ uint64Max ∧ timeout ≤ sample.processTime - started) := by
  have hsets : ∀ answer, answer = sample.lwipSelect maxDescriptor sets (some zero) →
      0 ≤ answer.result → ∀ w d, d ∈ (sets.fill answer.ready w).getD ∅ ↔
        d ∈ (sets w).getD ∅ ∧ d < maxDescriptor.toNat ∧
          ReportedBy [⟨true, maxDescriptor, sets, some zero⟩] sample w d := by
    rintro answer rfl hnonneg w d
    have hreplaces := hlwip maxDescriptor sets (some zero) hnonneg w d
    rw [mem_fill fun hd => (hreplaces hd).1]
    constructor
    · rintro ⟨hd, hready⟩
      have hlt := (hreplaces hready).2
      exact ⟨hd, hlt, _, List.mem_singleton_self _, (isVirtual_of_not_hasReal hreal hd hlt).symm,
        hready⟩
    · rintro ⟨hd, -, call, hcall, -, hready⟩
      obtain rfl := List.mem_singleton.mp hcall
      exact ⟨hd, hready⟩
  simp only [virtualTurn] at h
  split_ifs at h with hret hexpired
  · cases h
    refine ⟨samePointers_fill _ _, hsets _ rfl hok, fun hzero => Or.inl ?_⟩
    exact hret.resolve_left fun hne => hne hzero
  · cases h
    push Not at hret
    exact ⟨samePointers_fill _ _, hsets _ rfl hret.1.ge, fun _ => Or.inr hexpired⟩

lemma mixedTurn_reported (hlwip : Replaces sample.lwipSelect) (hnative : Replaces sample.realSelect)
    (h : mixedTurn maxDescriptor sets timeout started sample = some o) (hok : 0 ≤ o.result) :
    (∀ w, (o.sets w).isSome = (sets w).isSome) ∧
      (∀ w d, d ∈ (o.sets w).getD ∅ ↔ d ∈ (sets w).getD ∅ ∧ d < maxDescriptor.toNat ∧
        ReportedBy [⟨true, maxDescriptor, split maxDescriptor sets true, some zero⟩,
          ⟨false, maxDescriptor, split maxDescriptor sets false, some zero⟩] sample w d) ∧
      (o.result = 0 → timeout = 0 ∨
        timeout ≠ uint64Max ∧ timeout ≤ sample.processTime - started) := by
  obtain ⟨-, hsets⟩ := mixedTurn_eq h hok
  unfold mixedTurn at h
  by_cases herror : (sample.lwipSelect maxDescriptor (split maxDescriptor sets true)
      (some zero)).result < 0 ∨ (sample.realSelect maxDescriptor (split maxDescriptor sets false)
        (some zero)).result < 0
  · rw [if_pos herror] at h
    cases h
    simp at hok
  simp only [if_neg herror] at h
  push Not at herror
  refine ⟨?_, ?_, ?_⟩
  · rw [hsets]
    exact samePointers_fill _ _
  · intro w d
    have hvirtual : d ∈ (sample.lwipSelect maxDescriptor (split maxDescriptor sets true)
        (some zero)).ready w → _ := fun hd => mem_split.mp (hlwip _ _ _ herror.1 w d hd).1
    have hreal : d ∈ (sample.realSelect maxDescriptor (split maxDescriptor sets false)
        (some zero)).ready w → _ := fun hd => mem_split.mp (hnative _ _ _ herror.2 w d hd).1
    rw [hsets, mem_mergeSample]
    constructor
    · rintro ⟨-, hlt, hready | hready⟩
      · obtain ⟨hd, -, hown⟩ := hvirtual hready
        exact ⟨hd, hlt, _, List.mem_cons_self, hown.symm, hready⟩
      · obtain ⟨hd, -, hown⟩ := hreal hready
        exact ⟨hd, hlt, _, List.mem_cons_of_mem _ List.mem_cons_self, hown.symm, hready⟩
    · rintro ⟨hd, hlt, call, hcall, -, hready⟩
      have hsome : (sets w).isSome := by
        cases hs : sets w with
        | none => simp [hs] at hd
        | some set => rfl
      rcases List.mem_pair.mp hcall with rfl | rfl
      · exact ⟨hsome, hlt, Or.inl hready⟩
      · exact ⟨hsome, hlt, Or.inr hready⟩
  · intro hzero
    split_ifs at h with hret hexpired
    · cases h
      exact Or.inl (hret.resolve_left fun hpos => hpos.ne' (by simpa using hzero))
    · exact Or.inr hexpired

lemma asksOwn_virtual (hreal : hasReal maxDescriptor sets = false) :
    AsksOwn maxDescriptor sets [⟨true, maxDescriptor, sets, some zero⟩] where
  bound := by simp
  own := by
    intro call hcall w d hd hlt
    obtain rfl := List.mem_singleton.mp hcall
    exact isVirtual_of_not_hasReal hreal hd hlt
  all := by
    intro w d hd hlt
    exact ⟨_, List.mem_singleton_self _, (isVirtual_of_not_hasReal hreal hd hlt).symm, hd⟩

lemma asksOwn_mixed :
    AsksOwn maxDescriptor sets [⟨true, maxDescriptor, split maxDescriptor sets true, some zero⟩,
      ⟨false, maxDescriptor, split maxDescriptor sets false, some zero⟩] where
  bound := by simp
  own := by
    intro call hcall w d hd _
    rcases List.mem_pair.mp hcall with rfl | rfl
    · exact (mem_split.mp hd).2.2
    · exact (mem_split.mp hd).2.2
  all := by
    intro w d hd hlt
    cases hown : isVirtualSocket d with
    | true => exact ⟨_, List.mem_cons_self, rfl, mem_split.mpr ⟨hd, hlt, hown⟩⟩
    | false =>
      exact ⟨_, List.mem_cons_of_mem _ List.mem_cons_self, rfl, mem_split.mpr ⟨hd, hlt, hown⟩⟩

end Turns

/-- A call over both backends that returns without error reports what the backend of each
requested descriptor has reported in the last slice. No slice asks a backend about a descriptor
of the other one, and each asks about every requested descriptor. The call returns zero only
once its timeout has passed. -/
theorem wrapSelectInPlace_reports {maxDescriptor : ℤ} {sets : Sets} {timeout : Option Timeval}
    {started : UInt64} {uninitialised : Which → Finset ℕ} {samples : List Sample} {last : Sample}
    {r : Returned} (hlwip : Replaces last.lwipSelect) (hnative : Replaces last.realSelect)
    (hvirtual : hasVirtual maxDescriptor sets) (hclock : started ≤ last.processTime)
    (hvalid : ∀ tv, timeout = some tv → tv.Valid)
    (hwaiting : wrapSelectInPlace maxDescriptor sets timeout started uninitialised samples = none)
    (hreturn : wrapSelectInPlace maxDescriptor sets timeout started uninitialised
      (samples ++ [last]) = some r) (hok : 0 ≤ r.outcome.result) :
    wrapSelect maxDescriptor sets timeout started (samples ++ [last]) = some r.outcome ∧
    (∃ calls, r.slices = List.replicate (samples.length + 1) calls ∧
      AsksOwn maxDescriptor sets calls ∧
      (∀ w, (r.outcome.sets w).isSome = (sets w).isSome) ∧
      ∀ w d, d ∈ (r.outcome.sets w).getD ∅ ↔
        d ∈ (sets w).getD ∅ ∧ d < maxDescriptor.toNat ∧ ReportedBy calls last w d) ∧
    (r.outcome.result = 0 → ∃ tv, timeout = some tv ∧
      tv.total ≤ (last.processTime.toNat : ℤ) - started.toNat) := by
  have hpointers : SamePointers sets sets := fun _ => rfl
  simp only [wrapSelectInPlace, hvirtual, Bool.not_true, Bool.false_eq_true, if_false]
    at hwaiting hreturn
  simp only [wrapSelect, hvirtual, Bool.not_true, Bool.false_eq_true, if_false]
  cases hreal : hasReal maxDescriptor sets with
  | false =>
    simp only [hreal, Bool.not_false, if_true] at hwaiting hreturn ⊢
    obtain ⟨hnone, hslices, o, ho, hresult, houtcome⟩ :=
      virtualSlice_follows.loop_return hpointers hwaiting hreturn
    obtain rfl := houtcome (hresult ▸ hok)
    obtain ⟨hsome, hsets, hexpired⟩ := virtualTurn_reported hlwip hreal ho hok
    refine ⟨?_, ⟨_, hslices, asksOwn_virtual hreal, hsome, hsets⟩,
      fun hzero => elapsed_of_expired hvalid hclock (hexpired hzero)⟩
    rw [List.findSome?_append, hnone, Option.none_or, List.findSome?_singleton, ho]
  | true =>
    simp only [hreal, Bool.not_true, Bool.false_eq_true, if_false] at hwaiting hreturn ⊢
    obtain ⟨hnone, hslices, o, ho, hresult, houtcome⟩ :=
      mixedSlice_follows.loop_return hpointers hwaiting hreturn
    obtain rfl := houtcome (hresult ▸ hok)
    obtain ⟨hsome, hsets, hexpired⟩ := mixedTurn_reported hlwip hnative ho hok
    refine ⟨?_, ⟨_, hslices, asksOwn_mixed, hsome, hsets⟩,
      fun hzero => elapsed_of_expired hvalid hclock (hexpired hzero)⟩
    rw [List.findSome?_append, hnone, Option.none_or, List.findSome?_singleton, ho]

/-- A backend in which these descriptors are ready, if they are below the bound. -/
def boundedBackend (ready : Which → Finset ℕ) : Select := fun maxDescriptor sets _ =>
  let left := fun w => {d ∈ (sets w).getD ∅ ∩ ready w | d < maxDescriptor.toNat}
  ⟨bitCount (sets.fill left), 0, left⟩

lemma replaces_boundedBackend (ready : Which → Finset ℕ) : Replaces (boundedBackend ready) := by
  intro maxDescriptor sets timeout _ w d hd
  simp only [boundedBackend, Finset.mem_filter, Finset.mem_inter] at hd
  exact ⟨hd.1.1, hd.2⟩

/-- Nothing is ready in the first slice, and descriptor 128 is in the second. -/
def quietSample : Sample := ⟨boundedBackend fun _ => ∅, boundedBackend fun _ => ∅, 20⟩

def readySample : Sample := ⟨boundedBackend fun _ => {128}, boundedBackend fun _ => ∅, 30⟩

theorem wrapSelectInPlace_reports_second :
    ∃ r, wrapSelectInPlace 129 (requested {5, 128} {5}) (some ⟨1, 0⟩) 10 (fun _ => {7})
        ([quietSample] ++ [readySample]) = some r ∧ 128 ∈ (r.outcome.sets .read).getD ∅ := by
  have hwaiting : (wrapSelectInPlace 129 (requested {5, 128} {5}) (some ⟨1, 0⟩) 10 (fun _ => {7})
      [quietSample]).isNone = true := by decide +kernel
  have hview : (wrapSelectInPlace 129 (requested {5, 128} {5}) (some ⟨1, 0⟩) 10 (fun _ => {7})
      ([quietSample] ++ [readySample])).map (fun r => r.outcome.result) = some 1 := by
    decide +kernel
  obtain ⟨r, hreturn, hresult⟩ := Option.map_eq_some_iff.mp hview
  have hvalid : ∀ tv, some (⟨1, 0⟩ : Timeval) = some tv → tv.Valid := by
    rintro tv ⟨⟩
    exact ⟨by norm_num, by norm_num, by norm_num [Timeval.total]⟩
  obtain ⟨-, ⟨calls, -, hasks, -, hsets⟩, -⟩ := wrapSelectInPlace_reports
    (replaces_boundedBackend _) (replaces_boundedBackend _) (by decide +kernel) (by decide) hvalid
    (Option.isNone_iff_eq_none.mp hwaiting) hreturn (by omega)
  refine ⟨r, hreturn, (hsets .read 128).mpr ⟨by decide, by decide, ?_⟩⟩
  obtain ⟨call, hcall, hown, hasked⟩ := hasks.all .read 128 (by decide) (by decide)
  have hlwip : call.lwip = true := hown
  have hready : (128 : ℕ) < call.maxDescriptor.toNat := by rw [hasks.bound call hcall]; decide
  refine ⟨call, hcall, hown, ?_⟩
  simp only [Call.answer, hlwip, if_true, readySample, boundedBackend, Finset.mem_filter,
    Finset.mem_inter, Finset.mem_singleton]
  exact ⟨⟨hasked, trivial⟩, hready⟩

end MoonlightVita.ShimSelect
