import MoonlightVita.ShimDescriptors

/-!
# Selecting over two backends

`__wrap_select`: the scan of the descriptor sets, the loop that samples lwIP alone
and the loop that samples both backends and merges their answers. A call is fed
with the answers of the backends and the clock, one sample for each turn of the
loop; `none` means that it is still waiting.
-/
namespace MoonlightVita.ShimSelect
open ShimDescriptors

inductive Which
  | read | write | error
  deriving DecidableEq, Repr

instance : Fintype Which := ⟨{.read, .write, .error}, fun w => by cases w <;> decide⟩

/-- The three descriptor sets of a call; `none` is a null pointer. -/
abbrev Sets : Type := Which → Option (Finset ℕ)

/-- The same pointers with other contents. -/
def Sets.fill (sets : Sets) (content : Which → Finset ℕ) : Sets :=
  fun w => (sets w).map fun _ => content w

def fdIsset (sets : Sets) (w : Which) (descriptor : ℕ) : Bool :=
  (sets w).any fun set => descriptor ∈ set

/-- The number of bits set in all sets. -/
def bitCount (sets : Sets) : ℕ := ∑ w, ((sets w).getD ∅).card

structure Timeval where
  tvSec : ℤ
  tvUsec : ℤ
  deriving DecidableEq, Repr

/-- What a backend returns and leaves in the sets that it was given. -/
structure Answer where
  result : ℤ
  errno : ℤ
  ready : Which → Finset ℕ

abbrev Select : Type := ℤ → Sets → Option Timeval → Answer

/-- One turn of a loop: both backends, then the clock. -/
structure Sample where
  lwipSelect : Select
  realSelect : Select
  processTime : UInt64

structure Outcome where
  result : ℤ
  errno : Option ℤ
  sets : Sets

def selected (sets : Sets) (descriptor : ℕ) : Bool :=
  fdIsset sets .read descriptor || fdIsset sets .write descriptor || fdIsset sets .error descriptor

def hasVirtual (maxDescriptor : ℤ) (sets : Sets) : Bool :=
  (List.range maxDescriptor.toNat).any fun d => selected sets d && isVirtualSocket d

def hasReal (maxDescriptor : ℤ) (sets : Sets) : Bool :=
  (List.range maxDescriptor.toNat).any fun d => selected sets d && !isVirtualSocket d

def uint64Max : UInt64 := 18446744073709551615

def timeoutUs : Option Timeval → UInt64
  | none => uint64Max
  | some timeout => UInt64.ofInt timeout.tvSec * 1000000 + UInt64.ofInt timeout.tvUsec

def zero : Timeval := ⟨0, 0⟩

/-- One turn over lwIP alone, after the sets have been restored; `none` goes on. -/
def virtualTurn (maxDescriptor : ℤ) (sets : Sets) (timeout started : UInt64) (sample : Sample) :
    Option Outcome :=
  let answer := sample.lwipSelect maxDescriptor sets (some zero)
  if answer.result ≠ 0 ∨ timeout = 0 then
    some ⟨answer.result, some answer.errno, sets.fill answer.ready⟩
  else if timeout ≠ uint64Max ∧ timeout ≤ sample.processTime - started then
    some ⟨0, none, sets.fill answer.ready⟩
  else none

/-- The requested descriptors of one backend. -/
def split (maxDescriptor : ℤ) (sets : Sets) (virtualFd : Bool) : Sets := fun w =>
  (sets w).map fun set =>
    {d ∈ Finset.range maxDescriptor.toNat | d ∈ set ∧ isVirtualSocket d = virtualFd}

/-- The sets after the merge loop. -/
def merge (maxDescriptor : ℤ) (sets : Sets) (virtual real : Which → Finset ℕ) : Sets :=
  sets.fill fun w => {d ∈ Finset.range maxDescriptor.toNat | d ∈ virtual w ∨ d ∈ real w}

/-- The counter of the merge loop. -/
def readyCount (maxDescriptor : ℤ) (merged : Sets) : ℕ :=
  (List.range maxDescriptor.toNat).countP (selected merged)

/-- One turn over both backends; `none` goes on. -/
def mixedTurn (maxDescriptor : ℤ) (sets : Sets) (timeout started : UInt64) (sample : Sample) :
    Option Outcome :=
  let virtual := sample.lwipSelect maxDescriptor (split maxDescriptor sets true) (some zero)
  let real := sample.realSelect maxDescriptor (split maxDescriptor sets false) (some zero)
  if virtual.result < 0 ∨ real.result < 0 then
    some ⟨-1, some (if virtual.result < 0 then virtual.errno else real.errno), sets⟩
  else
    let merged := merge maxDescriptor sets virtual.ready real.ready
    let ready := readyCount maxDescriptor merged
    if 0 < ready ∨ timeout = 0 then some ⟨ready, none, merged⟩
    else if timeout ≠ uint64Max ∧ timeout ≤ sample.processTime - started then
      some ⟨0, none, merged⟩
    else none

/-- Without a virtual descriptor the native call gets the timeout and may block. -/
def wrapSelect (maxDescriptor : ℤ) (sets : Sets) (timeout : Option Timeval) (started : UInt64)
    (samples : List Sample) : Option Outcome :=
  if !hasVirtual maxDescriptor sets then
    samples.head?.map fun sample =>
      let answer := sample.realSelect maxDescriptor sets timeout
      ⟨answer.result, some answer.errno, sets.fill answer.ready⟩
  else if !hasReal maxDescriptor sets then
    samples.findSome? (virtualTurn maxDescriptor sets (timeoutUs timeout) started)
  else samples.findSome? (mixedTurn maxDescriptor sets (timeoutUs timeout) started)

/-- A backend that returns the number of bits that it leaves set. -/
def Counts (select : Select) : Prop :=
  ∀ maxDescriptor sets timeout, 0 ≤ (select maxDescriptor sets timeout).result →
    (select maxDescriptor sets timeout).result =
      bitCount (sets.fill (select maxDescriptor sets timeout).ready)

/-- A descriptor below the bound that a backend reports in a set of the call. -/
def Reported (maxDescriptor : ℤ) (sets : Sets) (sample : Sample) (w : Which) (d : ℕ) : Prop :=
  (sets w).isSome ∧ d < maxDescriptor.toNat ∧
    (d ∈ (sample.lwipSelect maxDescriptor (split maxDescriptor sets true) (some zero)).ready w ∨
      d ∈ (sample.realSelect maxDescriptor (split maxDescriptor sets false) (some zero)).ready w)

/-- No descriptor is reported in two sets. -/
def ReportedOnce (maxDescriptor : ℤ) (sets : Sets) (sample : Sample) : Prop :=
  ∀ d w w', Reported maxDescriptor sets sample w d → Reported maxDescriptor sets sample w' d →
    w = w'

section Counting
variable {ι α : Type*} [Fintype ι] [DecidableEq α]

lemma image_sigma_snd (f : ι → Finset α) :
    (Finset.univ.sigma f).image Sigma.snd = Finset.univ.biUnion f := by
  ext a
  simp

/-- The sizes of the sets add up to the size of their union just when no element is shared. -/
lemma card_biUnion_eq_iff (f : ι → Finset α) :
    (Finset.univ.biUnion f).card = ∑ i, (f i).card ↔ ∀ a i j, a ∈ f i → a ∈ f j → i = j := by
  rw [← Finset.card_sigma, ← image_sigma_snd, Finset.card_image_iff]
  constructor
  · intro hinj a i j hi hj
    have h := @hinj ⟨i, a⟩ (by simpa using hi) ⟨j, a⟩ (by simpa using hj) rfl
    exact congrArg Sigma.fst h
  · rintro hone ⟨i, a⟩ hi ⟨j, b⟩ hj hab
    simp only [Finset.coe_sigma, Set.mem_sigma_iff, Finset.mem_coe] at hi hj hab
    subst hab
    rw [hone a i j hi.2 hj.2]

end Counting

@[simp] lemma getD_fill (sets : Sets) (content : Which → Finset ℕ) (w : Which) :
    (sets.fill content w).getD ∅ = if (sets w).isSome then content w else ∅ := by
  unfold Sets.fill
  cases sets w <;> rfl

lemma fdIsset_iff (sets : Sets) (w : Which) (d : ℕ) :
    fdIsset sets w d = true ↔ d ∈ (sets w).getD ∅ := by
  unfold fdIsset
  cases sets w <;> simp

lemma selected_iff (sets : Sets) (d : ℕ) :
    selected sets d = true ↔ ∃ w, d ∈ (sets w).getD ∅ := by
  simp only [selected, Bool.or_eq_true, fdIsset_iff]
  constructor
  · rintro ((h | h) | h)
    · exact ⟨_, h⟩
    · exact ⟨_, h⟩
    · exact ⟨_, h⟩
  · rintro ⟨w, h⟩
    cases w <;> simp [h]

/-- The merge loop counts descriptors, each one once. -/
lemma readyCount_eq (maxDescriptor : ℤ) {merged : Sets}
    (hmax : ∀ w, (merged w).getD ∅ ⊆ Finset.range maxDescriptor.toNat) :
    readyCount maxDescriptor merged =
      (Finset.univ.biUnion fun w => (merged w).getD ∅).card := by
  have hset : ((List.range maxDescriptor.toNat).filter (selected merged)).toFinset =
      Finset.univ.biUnion fun w => (merged w).getD ∅ := by
    ext d
    simp only [List.mem_toFinset, List.mem_filter, List.mem_range, selected_iff,
      Finset.mem_biUnion, Finset.mem_univ, true_and, and_iff_right_iff_imp]
    intro ⟨w, hd⟩
    exact Finset.mem_range.mp (hmax w hd)
  have hnodup : ((List.range maxDescriptor.toNat).filter (selected merged)).Nodup :=
    List.nodup_range.filter _
  rw [readyCount, List.countP_eq_length_filter, ← hset, List.toFinset_card_of_nodup hnodup]

lemma merge_subset (maxDescriptor : ℤ) (sets : Sets) (virtual real : Which → Finset ℕ)
    (w : Which) : (merge maxDescriptor sets virtual real w).getD ∅ ⊆
      Finset.range maxDescriptor.toNat := by
  intro d hd
  simp only [merge, getD_fill] at hd
  split_ifs at hd
  · exact (Finset.mem_filter.mp hd).1
  · simp at hd

/-- The sets that a mixed sample leaves behind. -/
def mergeSample (maxDescriptor : ℤ) (sets : Sets) (sample : Sample) : Sets :=
  merge maxDescriptor sets
    (sample.lwipSelect maxDescriptor (split maxDescriptor sets true) (some zero)).ready
    (sample.realSelect maxDescriptor (split maxDescriptor sets false) (some zero)).ready

lemma mem_mergeSample {maxDescriptor : ℤ} {sets : Sets} {sample : Sample} {w : Which} {d : ℕ} :
    d ∈ (mergeSample maxDescriptor sets sample w).getD ∅ ↔
      Reported maxDescriptor sets sample w d := by
  simp only [mergeSample, merge, getD_fill, Reported]
  split_ifs with hs
  · simp [hs]
  · simp [hs]

theorem readyCount_eq_bitCount_iff (maxDescriptor : ℤ) (sets : Sets) (sample : Sample) :
    readyCount maxDescriptor (mergeSample maxDescriptor sets sample) =
        bitCount (mergeSample maxDescriptor sets sample) ↔
      ReportedOnce maxDescriptor sets sample := by
  have hmax : ∀ w, (mergeSample maxDescriptor sets sample w).getD ∅ ⊆
      Finset.range maxDescriptor.toNat := merge_subset maxDescriptor sets _ _
  rw [readyCount_eq maxDescriptor hmax, bitCount, card_biUnion_eq_iff]
  simp only [mem_mergeSample, ReportedOnce]

lemma virtualTurn_count {maxDescriptor : ℤ} {sets : Sets} {timeout started : UInt64}
    {sample : Sample} {o : Outcome} (hcounts : Counts sample.lwipSelect)
    (h : virtualTurn maxDescriptor sets timeout started sample = some o) (hok : 0 ≤ o.result) :
    o.result = bitCount o.sets := by
  have hbits := hcounts maxDescriptor sets (some zero)
  simp only [virtualTurn] at h
  split_ifs at h with hret hexpired
  · cases h
    exact hbits hok
  · cases h
    have hzero : (sample.lwipSelect maxDescriptor sets (some zero)).result = 0 := by
      by_contra hne
      exact hret (Or.inl hne)
    exact hzero ▸ hbits hzero.ge

lemma mixedTurn_eq {maxDescriptor : ℤ} {sets : Sets} {timeout started : UInt64}
    {sample : Sample} {o : Outcome}
    (h : mixedTurn maxDescriptor sets timeout started sample = some o) (hok : 0 ≤ o.result) :
    o.result = readyCount maxDescriptor (mergeSample maxDescriptor sets sample) ∧
      o.sets = mergeSample maxDescriptor sets sample := by
  unfold mixedTurn at h
  by_cases herror : (sample.lwipSelect maxDescriptor (split maxDescriptor sets true)
      (some zero)).result < 0 ∨ (sample.realSelect maxDescriptor (split maxDescriptor sets false)
        (some zero)).result < 0
  · rw [if_pos herror] at h
    cases h
    simp at hok
  simp only [if_neg herror] at h
  split_ifs at h with hret hexpired
  · cases h
    exact ⟨rfl, rfl⟩
  · cases h
    have hzero : readyCount maxDescriptor (mergeSample maxDescriptor sets sample) = 0 := by
      by_contra hne
      exact hret (Or.inl (Nat.pos_of_ne_zero hne))
    exact ⟨by simp [hzero], rfl⟩

/-- The call returns the number of bits that it leaves set, unless native descriptors are
selected too and a descriptor is reported in two sets by the sample that ends the call. -/
theorem wrapSelect_count_iff {maxDescriptor : ℤ} {sets : Sets} {timeout : Option Timeval}
    {started : UInt64} {samples : List Sample} {last : Sample} {o : Outcome}
    (hcounts : Counts last.lwipSelect) (hvirtual : hasVirtual maxDescriptor sets)
    (hwaiting : wrapSelect maxDescriptor sets timeout started samples = none)
    (hreturn : wrapSelect maxDescriptor sets timeout started (samples ++ [last]) = some o)
    (hok : 0 ≤ o.result) :
    o.result = bitCount o.sets ↔
      hasReal maxDescriptor sets = false ∨ ReportedOnce maxDescriptor sets last := by
  simp only [wrapSelect, hvirtual, Bool.not_true, Bool.false_eq_true, if_false] at hwaiting hreturn
  cases hreal : hasReal maxDescriptor sets with
  | false =>
    simp only [hreal, Bool.not_false, if_true] at hwaiting hreturn
    rw [List.findSome?_append, hwaiting, Option.none_or, List.findSome?_singleton] at hreturn
    simpa using virtualTurn_count hcounts hreturn hok
  | true =>
    simp only [hreal, Bool.not_true, Bool.false_eq_true, if_false] at hwaiting hreturn
    rw [List.findSome?_append, hwaiting, Option.none_or, List.findSome?_singleton] at hreturn
    obtain ⟨hresult, hsets⟩ := mixedTurn_eq hreturn hok
    rw [hresult, hsets, Nat.cast_inj, readyCount_eq_bitCount_iff]
    simp

/-- A backend in which these descriptors are ready. -/
def readyBackend (ready : Which → Finset ℕ) : Select := fun _ sets _ =>
  let left := fun w => (sets w).getD ∅ ∩ ready w
  ⟨bitCount (sets.fill left), 0, left⟩

lemma counts_readyBackend (ready : Which → Finset ℕ) : Counts (readyBackend ready) :=
  fun _ _ _ _ => rfl

/-- Descriptor 128 is readable and writable, native descriptor 5 is not ready. -/
def readWriteSample : Sample :=
  ⟨readyBackend fun _ => {128}, readyBackend fun _ => ∅, 0⟩

def requested (readers writers : Finset ℕ) : Sets
  | .read => some readers
  | .write => some writers
  | .error => none

theorem wrapSelect_count_mixed :
    ∃ o, wrapSelect 129 (requested {5, 128} {5}) none 0 ([] ++ [readWriteSample]) = some o ∧
      0 ≤ o.result ∧ o.result = bitCount o.sets := by
  have hview : (wrapSelect 129 (requested {5, 128} {5}) none 0 ([] ++ [readWriteSample])).map
      Outcome.result = some 1 := by decide +kernel
  obtain ⟨o, hreturn, hresult⟩ := Option.map_eq_some_iff.mp hview
  have hok : 0 ≤ o.result := by omega
  refine ⟨o, hreturn, hok, (wrapSelect_count_iff (counts_readyBackend _) (by decide +kernel)
    (by decide +kernel) hreturn hok).mpr (Or.inr ?_)⟩
  intro d w w' h h'
  obtain ⟨-, hd, h⟩ := h
  obtain ⟨-, -, h'⟩ := h'
  have hread : ∀ v, d ∈ (readyBackend (fun _ => {128}) 129 (split 129 (requested {5, 128} {5})
      true) (some zero)).ready v ∨ d ∈ (readyBackend (fun _ => ∅) 129
        (split 129 (requested {5, 128} {5}) false) (some zero)).ready v → v = .read := by
    intro v hv
    cases v with
    | read => rfl
    | write | error => simp_all [readyBackend, split, requested, isVirtualSocket]
  rw [hread w h, hread w' h']

theorem wrapSelect_counts_descriptors :
    ∃ o, wrapSelect 129 (requested {5, 128} {128}) none 0 [readWriteSample] = some o ∧
      Counts readWriteSample.lwipSelect ∧ Counts readWriteSample.realSelect ∧
      hasVirtual 129 (requested {5, 128} {128}) ∧ o.result = 1 ∧ bitCount o.sets = 2 := by
  have hview : (wrapSelect 129 (requested {5, 128} {128}) none 0 [readWriteSample]).map
      (fun o => (o.result, bitCount o.sets)) = some (1, 2) := by decide +kernel
  obtain ⟨o, hreturn, hresult⟩ := Option.map_eq_some_iff.mp hview
  simp only [Prod.mk.injEq] at hresult
  exact ⟨o, hreturn, counts_readyBackend _, counts_readyBackend _, by decide +kernel,
    hresult.1, hresult.2⟩

end MoonlightVita.ShimSelect
