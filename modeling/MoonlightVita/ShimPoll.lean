import MoonlightVita.SampledLoop
import MoonlightVita.ShimDescriptors

/-!
# Polling over two backends

`__wrap_poll`: the loop that samples lwIP alone and the loop that splits the array,
samples both backends and merges their answers. The two loops keep their arrays
from one sample to the next, as the source does.
-/
namespace MoonlightVita.ShimPoll
open ShimDescriptors SampledLoop

@[ext] structure Pollfd where
  fd : ℤ
  events : UInt16
  revents : UInt16
  deriving DecidableEq, Repr

abbrev Pollfds (n : ℕ) : Type := Fin n → Pollfd

structure Answer (n : ℕ) where
  result : ℤ
  errno : ℤ
  descriptors : Pollfds n

abbrev Poll : Type := (n : ℕ) → Pollfds n → Int32 → Answer n

/-- One turn of a loop: both backends, then the clock. -/
structure Sample where
  lwipPoll : Poll
  realPoll : Poll
  processTime : UInt64

/-- What a call returns, and the arrays that it gave to the backends. -/
structure Outcome (n : ℕ) where
  result : ℤ
  errno : Option ℤ
  descriptors : Pollfds n
  lwipCalls : List (Pollfds n)
  realCalls : List (Pollfds n)

def enomem : ℤ := 12

section Model
variable {n : ℕ}

def pollHasVirtual (descriptors : Pollfds n) : Bool := ∃ i, isVirtualSocket (descriptors i).fd

def hasReal (descriptors : Pollfds n) : Bool :=
  ∃ i, 0 ≤ (descriptors i).fd ∧ !isVirtualSocket (descriptors i).fd

def readyCount (descriptors : Pollfds n) : ℕ :=
  (Finset.univ.filter fun i => (descriptors i).revents ≠ 0).card

def expired (timeout : Int32) (started processTime : UInt64) : Bool :=
  0 < timeout ∧ UInt64.ofInt timeout.toInt * 1000 ≤ processTime - started

structure VirtualState (n : ℕ) where
  descriptors : Pollfds n
  lwipCalls : List (Pollfds n)

def virtualTurn (timeout : Int32) (started : UInt64) (s : VirtualState n) (sample : Sample) :
    VirtualState n ⊕ Outcome n :=
  let answer := sample.lwipPoll n s.descriptors 0
  let calls := s.lwipCalls ++ [s.descriptors]
  if answer.result ≠ 0 ∨ timeout = 0 then
    .inr ⟨answer.result, some answer.errno, answer.descriptors, calls, []⟩
  else if expired timeout started sample.processTime then
    .inr ⟨0, none, answer.descriptors, calls, []⟩
  else .inl ⟨answer.descriptors, calls⟩

def pollVirtual (descriptors : Pollfds n) (timeout : Int32) (started : UInt64) :
    List Sample → Option (Outcome n) :=
  loop (virtualTurn timeout started) ⟨descriptors, []⟩

def virtualSet (descriptors : Pollfds n) : Pollfds n := fun i =>
  if isVirtualSocket (descriptors i).fd then descriptors i else { descriptors i with fd := -1 }

def realSet (descriptors : Pollfds n) : Pollfds n := fun i =>
  if isVirtualSocket (descriptors i).fd then { descriptors i with fd := -1 } else descriptors i

def merge (descriptors virtual real : Pollfds n) : Pollfds n := fun i =>
  { descriptors i with revents := (virtual i).revents ||| (real i).revents }

structure MixedState (n : ℕ) where
  descriptors : Pollfds n
  virtualSet : Pollfds n
  realSet : Pollfds n
  lwipCalls : List (Pollfds n)
  realCalls : List (Pollfds n)

def mixedTurn (timeout : Int32) (started : UInt64) (s : MixedState n) (sample : Sample) :
    MixedState n ⊕ Outcome n :=
  let virtual := sample.lwipPoll n s.virtualSet 0
  let real := sample.realPoll n s.realSet 0
  let lwipCalls := s.lwipCalls ++ [s.virtualSet]
  let realCalls := s.realCalls ++ [s.realSet]
  if virtual.result < 0 ∨ real.result < 0 then
    .inr ⟨-1, some (if virtual.result < 0 then virtual.errno else real.errno), s.descriptors,
      lwipCalls, realCalls⟩
  else
    let descriptors := merge s.descriptors virtual.descriptors real.descriptors
    let ready := readyCount descriptors
    if 0 < ready ∨ timeout = 0 then .inr ⟨ready, none, descriptors, lwipCalls, realCalls⟩
    else if expired timeout started sample.processTime then
      .inr ⟨0, none, descriptors, lwipCalls, realCalls⟩
    else .inl ⟨descriptors, virtual.descriptors, real.descriptors, lwipCalls, realCalls⟩

def pollMixed (descriptors : Pollfds n) (timeout : Int32) (started : UInt64) :
    List Sample → Option (Outcome n) :=
  loop (mixedTurn timeout started)
    ⟨descriptors, virtualSet descriptors, realSet descriptors, [], []⟩

/-- `allocated` says whether both copies of the array could be allocated. -/
def wrapPoll (descriptors : Pollfds n) (timeout : Int32) (allocated : Bool) (started : UInt64)
    (samples : List Sample) : Option (Outcome n) :=
  if !pollHasVirtual descriptors then
    samples.head?.map fun sample =>
      let answer := sample.realPoll n descriptors timeout
      ⟨answer.result, some answer.errno, answer.descriptors, [], [descriptors]⟩
  else if !hasReal descriptors then pollVirtual descriptors timeout started samples
  else if !allocated then some ⟨-1, some enomem, descriptors, [], []⟩
  else pollMixed descriptors timeout started samples

/-- The arrays agree in all but `revents`. -/
def SameRequest (ds ds' : Pollfds n) : Prop :=
  ∀ i, (ds i).fd = (ds' i).fd ∧ (ds i).events = (ds' i).events

/-- The arrays ask for the same; negative descriptors ask for nothing. -/
def SameQuestion (ds ds' : Pollfds n) : Prop :=
  ∀ i, (ds i).events = (ds' i).events ∧
    ((ds i).fd = (ds' i).fd ∨ (ds i).fd < 0 ∧ (ds' i).fd < 0)

end Model

/-- What is relied on in a backend. -/
structure Polls (poll : Poll) : Prop where
  keeps : ∀ n (ds : Pollfds n) timeout, SameRequest (poll n ds timeout).descriptors ds
  ignores : ∀ n (ds : Pollfds n) timeout i, 0 ≤ (poll n ds timeout).result → (ds i).fd < 0 →
    ((poll n ds timeout).descriptors i).revents = 0
  counts : ∀ n (ds : Pollfds n) timeout, 0 ≤ (poll n ds timeout).result →
    (poll n ds timeout).result = readyCount (poll n ds timeout).descriptors
  fails : ∀ n (ds : Pollfds n) timeout, (poll n ds timeout).result < 0 →
    (poll n ds timeout).result = -1
  answers : ∀ n (ds ds' : Pollfds n) timeout, SameQuestion ds ds' →
    (poll n ds timeout).result = (poll n ds' timeout).result ∧
    (poll n ds timeout).errno = (poll n ds' timeout).errno ∧
    ∀ i, ((poll n ds timeout).descriptors i).revents = ((poll n ds' timeout).descriptors i).revents

/-- The answer of lwIP for an entry, and that of the native stack. -/
def lwipAnswer {n : ℕ} (sample : Sample) (ds : Pollfds n) (i : Fin n) : UInt16 :=
  ((sample.lwipPoll n (virtualSet ds) 0).descriptors i).revents

def realAnswer {n : ℕ} (sample : Sample) (ds : Pollfds n) (i : Fin n) : UInt16 :=
  ((sample.realPoll n (realSet ds) 0).descriptors i).revents

/-- A call that returns with this sample behaves as one poll over the whole array. -/
structure Correct {n : ℕ} (ds : Pollfds n) (timeout : Int32) (started : UInt64) (last : Sample)
    (o : Outcome n) : Prop where
  count : o.result = readyCount o.descriptors
  kept : SameRequest o.descriptors ds
  virtual : ∀ i, isVirtualSocket (ds i).fd → (o.descriptors i).revents = lwipAnswer last ds i
  native : ∀ i, 0 ≤ (ds i).fd → isVirtualSocket (ds i).fd = false →
    (o.descriptors i).revents = realAnswer last ds i
  negative : ∀ i, (ds i).fd < 0 → (o.descriptors i).revents = 0
  lwipCalls : ∀ call ∈ o.lwipCalls, ∀ i, (call i).fd < 0 ∨ isVirtualSocket (call i).fd
  realCalls : ∀ call ∈ o.realCalls, ∀ i, isVirtualSocket (call i).fd = false
  timeout : o.result = 0 → timeout = 0 ∨ 0 < timeout ∧
    timeout.toInt * 1000 ≤ last.processTime.toNat - started.toNat

section Requests
variable {n : ℕ} {ds ds' ds'' : Pollfds n}

lemma SameRequest.refl (ds : Pollfds n) : SameRequest ds ds := fun _ => ⟨rfl, rfl⟩

lemma SameRequest.trans (h : SameRequest ds ds') (h' : SameRequest ds' ds'') :
    SameRequest ds ds'' := fun i => ⟨(h i).1.trans (h' i).1, (h i).2.trans (h' i).2⟩

lemma SameRequest.question (h : SameRequest ds ds') : SameQuestion ds ds' :=
  fun i => ⟨(h i).2, Or.inl (h i).1⟩

lemma SameQuestion.trans_request (h : SameRequest ds ds') (h' : SameQuestion ds' ds'') :
    SameQuestion ds ds'' := by
  intro i
  obtain ⟨hfd, hevents⟩ := h i
  rw [hfd, hevents]
  exact h' i

lemma virtualSet_fd (ds : Pollfds n) (i : Fin n) :
    (virtualSet ds i).fd < 0 ∨ isVirtualSocket (virtualSet ds i).fd := by
  unfold virtualSet
  split_ifs with h
  · exact Or.inr h
  · exact Or.inl (by norm_num)

lemma realSet_fd (ds : Pollfds n) (i : Fin n) : isVirtualSocket (realSet ds i).fd = false := by
  unfold realSet
  split_ifs with h
  · exact (by decide : isVirtualSocket (-1) = false)
  · simpa using h

lemma SameRequest.merge (h : SameRequest ds ds') (virtual real : Pollfds n) :
    SameRequest (merge ds virtual real) ds' := h

/-- Without native descriptors the split array asks lwIP what the array itself asks. -/
lemma virtualSet_question (hreal : hasReal ds = false) : SameQuestion ds (virtualSet ds) := by
  intro i
  unfold virtualSet
  split_ifs with h
  · exact ⟨rfl, Or.inl rfl⟩
  · have hneg : (ds i).fd < 0 := by
      by_contra hge
      simp only [hasReal, decide_eq_false_iff_not, not_exists, not_and] at hreal
      exact hreal i (not_lt.mp hge) (by simpa using h)
    exact ⟨rfl, Or.inr ⟨hneg, by norm_num⟩⟩

lemma realSet_negative (hreal : hasReal ds = false) (i : Fin n) : (realSet ds i).fd < 0 := by
  unfold realSet
  split_ifs with h
  · norm_num
  · by_contra hge
    simp only [hasReal, decide_eq_false_iff_not, not_exists, not_and] at hreal
    exact hreal i (not_lt.mp hge) (by simpa using h)

lemma readyCount_congr (h : ∀ i, (ds i).revents = (ds' i).revents) :
    readyCount ds = readyCount ds' := by
  simp [readyCount, h]

end Requests

/-- On a clock that does not run backwards a call expires only after its timeout. -/
lemma elapsed_of_expired {timeout : Int32} {started now : UInt64} (hclock : started ≤ now)
    (h : expired timeout started now = true) :
    0 < timeout ∧ timeout.toInt * 1000 ≤ now.toNat - started.toNat := by
  simp only [expired, decide_eq_true_eq] at h
  obtain ⟨hpos, hle⟩ := h
  have hlt := timeout.toInt_lt
  have hpos' : 0 < timeout.toInt := by
    rw [Int32.lt_iff_toInt_lt, Int32.toInt_zero] at hpos
    exact hpos
  have hcast : (UInt64.ofInt timeout.toInt).toNat = timeout.toInt.toNat := by
    rw [UInt64.ofInt, UInt64.toNat_ofNat']
    omega
  rw [UInt64.le_iff_toNat_le, UInt64.toNat_sub_of_le _ _ hclock, UInt64.toNat_mul, hcast,
    UInt64.toNat_ofNat, Nat.mod_eq_of_lt (by norm_num : 1000 < 2 ^ 64)] at hle
  rw [UInt64.le_iff_toNat_le] at hclock
  refine ⟨hpos, ?_⟩
  omega

section Virtual
variable {n : ℕ} {ds : Pollfds n} {timeout : Int32} {started : UInt64} {sample : Sample}

def VirtualOk (ds : Pollfds n) (s : VirtualState n) : Prop :=
  SameRequest s.descriptors ds ∧ ∀ call ∈ s.lwipCalls, SameRequest call ds

lemma VirtualOk.calls {s : VirtualState n} (hs : VirtualOk ds s) :
    ∀ call ∈ s.lwipCalls ++ [s.descriptors], SameRequest call ds :=
  List.forall_mem_append.mpr ⟨hs.2, List.forall_mem_singleton.mpr hs.1⟩

lemma virtualTurn_continue (hp : Polls sample.lwipPoll) {s t : VirtualState n}
    (hs : VirtualOk ds s) (h : virtualTurn timeout started s sample = .inl t) :
    VirtualOk ds t := by
  simp only [virtualTurn] at h
  split_ifs at h
  cases h
  exact ⟨(hp.keeps n s.descriptors 0).trans hs.1, hs.calls⟩

/-- Whatever the entries of this call ask, lwIP has answered it as in the split array. -/
lemma VirtualOk.answers (hp : Polls sample.lwipPoll) (hreal : hasReal ds = false)
    {s : VirtualState n} (hs : VirtualOk ds s) (i : Fin n) :
    ((sample.lwipPoll n s.descriptors 0).descriptors i).revents = lwipAnswer sample ds i :=
  (hp.answers n _ _ 0 (SameQuestion.trans_request hs.1 (virtualSet_question hreal))).2.2 i

lemma virtualTurn_return (hp : Polls sample.lwipPoll) (hreal : hasReal ds = false)
    (hclock : started ≤ sample.processTime) {s : VirtualState n} {o : Outcome n}
    (hs : VirtualOk ds s) (h : virtualTurn timeout started s sample = .inr o)
    (hok : 0 ≤ o.result) : Correct ds timeout started sample o := by
  have hfd : ∀ i, (ds i).fd < 0 ∨ isVirtualSocket (ds i).fd := by
    intro i
    by_contra hn
    simp only [not_or, not_lt, Bool.not_eq_true] at hn
    simp only [hasReal, decide_eq_false_iff_not, not_exists, not_and] at hreal
    exact hreal i hn.1 (by simp [hn.2])
  have hshape : o.descriptors = (sample.lwipPoll n s.descriptors 0).descriptors ∧
      o.result = (sample.lwipPoll n s.descriptors 0).result ∧
      o.lwipCalls = s.lwipCalls ++ [s.descriptors] ∧ o.realCalls = [] ∧
      (o.result = 0 → timeout = 0 ∨ expired timeout started sample.processTime = true) := by
    simp only [virtualTurn] at h
    split_ifs at h with hret hexpired
    · cases h
      exact ⟨rfl, rfl, rfl, rfl, fun h0 => Or.inl (hret.resolve_left (not_not.mpr h0))⟩
    · cases h
      push Not at hret
      exact ⟨rfl, hret.1.symm, rfl, rfl, fun _ => Or.inr hexpired⟩
  obtain ⟨hdesc, hresult, hlwip, hnative, htimeout⟩ := hshape
  rw [hresult] at hok
  constructor
  case count => rw [hresult, hdesc, hp.counts n s.descriptors 0 hok]
  case kept =>
    rw [hdesc]
    exact (hp.keeps n s.descriptors 0).trans hs.1
  case virtual =>
    intro i _
    rw [hdesc, hs.answers hp hreal]
  case native =>
    intro i hge hn
    rcases hfd i with hlt | hv
    · omega
    · simp [hn] at hv
  case negative =>
    intro i hlt
    rw [hdesc]
    exact hp.ignores n s.descriptors 0 i hok (by rw [(hs.1 i).1]; exact hlt)
  case lwipCalls =>
    intro call hc i
    rw [hlwip] at hc
    rw [(hs.calls call hc i).1]
    exact hfd i
  case realCalls => simp [hnative]
  case timeout =>
    intro h0
    exact (htimeout h0).imp id (elapsed_of_expired hclock)

end Virtual

section Mixed
variable {n : ℕ} {ds : Pollfds n} {timeout : Int32} {started : UInt64} {sample : Sample}

structure MixedOk (ds : Pollfds n) (s : MixedState n) : Prop where
  descriptors : SameRequest s.descriptors ds
  virtualSet : SameRequest s.virtualSet (virtualSet ds)
  realSet : SameRequest s.realSet (realSet ds)
  lwipCalls : ∀ call ∈ s.lwipCalls, SameRequest call (ShimPoll.virtualSet ds)
  realCalls : ∀ call ∈ s.realCalls, SameRequest call (ShimPoll.realSet ds)

lemma mixedTurn_continue (hlwip : Polls sample.lwipPoll) (hreal : Polls sample.realPoll)
    {s t : MixedState n} (hs : MixedOk ds s)
    (h : mixedTurn timeout started s sample = .inl t) : MixedOk ds t := by
  simp only [mixedTurn] at h
  split_ifs at h
  cases h
  constructor
  case descriptors => exact hs.descriptors.merge _ _
  case virtualSet => exact (hlwip.keeps n s.virtualSet 0).trans hs.virtualSet
  case realSet => exact (hreal.keeps n s.realSet 0).trans hs.realSet
  case lwipCalls =>
    exact List.forall_mem_append.mpr ⟨hs.lwipCalls, List.forall_mem_singleton.mpr hs.virtualSet⟩
  case realCalls =>
    exact List.forall_mem_append.mpr ⟨hs.realCalls, List.forall_mem_singleton.mpr hs.realSet⟩

/-- The backend that an entry does not belong to reports nothing for it. -/
lemma merge_revents (hlwip : Polls sample.lwipPoll) (hreal : Polls sample.realPoll)
    {s : MixedState n} (hs : MixedOk ds s)
    (hv : 0 ≤ (sample.lwipPoll n s.virtualSet 0).result)
    (hr : 0 ≤ (sample.realPoll n s.realSet 0).result) (i : Fin n) :
    (merge s.descriptors (sample.lwipPoll n s.virtualSet 0).descriptors
      (sample.realPoll n s.realSet 0).descriptors i).revents =
      if isVirtualSocket (ds i).fd then lwipAnswer sample ds i else realAnswer sample ds i := by
  have hvirtual := (hlwip.answers n _ _ 0 hs.virtualSet.question).2.2 i
  have hnative := (hreal.answers n _ _ 0 hs.realSet.question).2.2 i
  unfold merge
  split_ifs with hi
  · have hzero : ((sample.realPoll n s.realSet 0).descriptors i).revents = 0 := by
      refine hreal.ignores n s.realSet 0 i hr ?_
      rw [(hs.realSet i).1]
      simp [realSet, hi]
    simp only [hzero, hvirtual, lwipAnswer, UInt16.or_zero]
  · have hzero : ((sample.lwipPoll n s.virtualSet 0).descriptors i).revents = 0 := by
      refine hlwip.ignores n s.virtualSet 0 i hv ?_
      rw [(hs.virtualSet i).1]
      simp [virtualSet, hi]
    simp only [hzero, hnative, realAnswer, UInt16.zero_or]

lemma realAnswer_negative (hreal : Polls sample.realPoll) {s : MixedState n} (hs : MixedOk ds s)
    (hr : 0 ≤ (sample.realPoll n s.realSet 0).result) {i : Fin n} (hi : (ds i).fd < 0) :
    realAnswer sample ds i = 0 := by
  have hanswer := hreal.answers n _ _ 0 hs.realSet.question
  rw [hanswer.1] at hr
  refine hreal.ignores n (realSet ds) 0 i hr ?_
  simp [realSet, isVirtualSocket_of_neg hi, hi]

lemma mixedTurn_return (hlwip : Polls sample.lwipPoll) (hreal : Polls sample.realPoll)
    (hclock : started ≤ sample.processTime) {s : MixedState n} {o : Outcome n}
    (hs : MixedOk ds s) (h : mixedTurn timeout started s sample = .inr o)
    (hok : 0 ≤ o.result) : Correct ds timeout started sample o := by
  unfold mixedTurn at h
  by_cases herror : (sample.lwipPoll n s.virtualSet 0).result < 0 ∨
      (sample.realPoll n s.realSet 0).result < 0
  · simp only [if_pos herror] at h
    cases h
    simp at hok
  simp only [if_neg herror] at h
  push Not at herror
  obtain ⟨hv, hr⟩ := herror
  have hshape : o.descriptors = merge s.descriptors
        (sample.lwipPoll n s.virtualSet 0).descriptors
        (sample.realPoll n s.realSet 0).descriptors ∧
      o.result = readyCount o.descriptors ∧
      o.lwipCalls = s.lwipCalls ++ [s.virtualSet] ∧ o.realCalls = s.realCalls ++ [s.realSet] ∧
      (o.result = 0 → timeout = 0 ∨ expired timeout started sample.processTime = true) := by
    split_ifs at h with hret hexpired
    · cases h
      refine ⟨rfl, rfl, rfl, rfl, fun h0 => Or.inl (hret.resolve_left ?_)⟩
      simpa using h0
    · cases h
      push Not at hret
      refine ⟨rfl, ?_, rfl, rfl, fun _ => Or.inr hexpired⟩
      simp [Nat.le_zero.mp hret.1]
  obtain ⟨hdesc, hresult, hlwipCalls, hrealCalls, htimeout⟩ := hshape
  have hrevents := merge_revents hlwip hreal hs hv hr
  rw [← hdesc] at hrevents
  constructor
  case count => exact hresult
  case kept =>
    rw [hdesc]
    exact hs.descriptors.merge _ _
  case virtual =>
    intro i hi
    rw [hrevents i, if_pos hi]
  case native =>
    intro i _ hi
    rw [hrevents i, hi]
    rfl
  case negative =>
    intro i hi
    rw [hrevents i, isVirtualSocket_of_neg hi]
    exact realAnswer_negative hreal hs hr hi
  case lwipCalls =>
    intro call hc i
    rw [hlwipCalls] at hc
    rcases List.mem_append.mp hc with hc | hc
    · rw [(hs.lwipCalls call hc i).1]
      exact virtualSet_fd ds i
    · rw [List.mem_singleton.mp hc, (hs.virtualSet i).1]
      exact virtualSet_fd ds i
  case realCalls =>
    intro call hc i
    rw [hrealCalls] at hc
    rcases List.mem_append.mp hc with hc | hc
    · rw [(hs.realCalls call hc i).1]
      exact realSet_fd ds i
    · rw [List.mem_singleton.mp hc, (hs.realSet i).1]
      exact realSet_fd ds i
  case timeout =>
    intro h0
    exact (htimeout h0).imp id (elapsed_of_expired hclock)

end Mixed

/-- Two calls that a caller cannot tell apart. -/
structure SameResult {n : ℕ} (o o' : Outcome n) : Prop where
  result : o.result = o'.result
  errno : o.result < 0 → o.errno = o'.errno
  descriptors : 0 ≤ o.result → o.descriptors = o'.descriptors

/-- The native stack does not fail when it is asked about the native descriptors of this array. -/
def NativeAnswers {n : ℕ} (ds : Pollfds n) (sample : Sample) : Prop :=
  0 ≤ (sample.realPoll n (realSet ds) 0).result

section Equivalence
variable {n : ℕ} {ds : Pollfds n} {timeout : Int32} {started : UInt64} {sample : Sample}

lemma NativeAnswers.result (hidle : NativeAnswers ds sample) (hreal : Polls sample.realPoll)
    {t : MixedState n} (ht : MixedOk ds t) : 0 ≤ (sample.realPoll n t.realSet 0).result := by
  rw [(hreal.answers n _ _ 0 ht.realSet.question).1]
  exact hidle

/-- On arrays without native descriptors both loops read the same array from a sample. -/
lemma merge_eq (hlwip : Polls sample.lwipPoll) (hreal : Polls sample.realPoll)
    (hidle : NativeAnswers ds sample) (hnone : hasReal ds = false) {s : VirtualState n}
    {t : MixedState n} (hs : VirtualOk ds s) (ht : MixedOk ds t) :
    merge t.descriptors (sample.lwipPoll n t.virtualSet 0).descriptors
      (sample.realPoll n t.realSet 0).descriptors =
        (sample.lwipPoll n s.descriptors 0).descriptors := by
  have hneg : ∀ i, (t.realSet i).fd < 0 := by
    intro i
    rw [(ht.realSet i).1]
    exact realSet_negative hnone i
  have hr := hidle.result hreal ht
  funext i
  have hkept := ((hlwip.keeps n s.descriptors 0).trans hs.1) i
  have hzero := hreal.ignores n t.realSet 0 i hr (hneg i)
  have hvirtual := (hlwip.answers n _ _ 0 ht.virtualSet.question).2.2 i
  apply Pollfd.ext
  · exact (ht.descriptors i).1.trans hkept.1.symm
  · exact (ht.descriptors i).2.trans hkept.2.symm
  · rw [hs.answers hlwip hnone i, lwipAnswer, ← hvirtual]
    simp [merge, hzero]

lemma turn_rel (hlwip : Polls sample.lwipPoll) (hreal : Polls sample.realPoll)
    (hidle : NativeAnswers ds sample) (hnone : hasReal ds = false) {s : VirtualState n}
    {t : MixedState n} (hs : VirtualOk ds s) (ht : MixedOk ds t) :
    Sum.LiftRel (fun s t => VirtualOk ds s ∧ MixedOk ds t) SameResult
      (virtualTurn timeout started s sample) (mixedTurn timeout started t sample) := by
  have hquestion : SameQuestion s.descriptors (virtualSet ds) :=
    SameQuestion.trans_request hs.1 (virtualSet_question hnone)
  have hpure := hlwip.answers n _ _ 0 hquestion
  have hmixed := hlwip.answers n _ _ 0 ht.virtualSet.question
  have hresult : (sample.lwipPoll n t.virtualSet 0).result =
      (sample.lwipPoll n s.descriptors 0).result := hmixed.1.trans hpure.1.symm
  have herrno : (sample.lwipPoll n t.virtualSet 0).errno =
      (sample.lwipPoll n s.descriptors 0).errno := hmixed.2.1.trans hpure.2.1.symm
  have hr : 0 ≤ (sample.realPoll n t.realSet 0).result := hidle.result hreal ht
  by_cases hneg : (sample.lwipPoll n s.descriptors 0).result < 0
  · have hfail := hlwip.fails n s.descriptors 0 hneg
    have hv : virtualTurn timeout started s sample = .inr ⟨-1,
        some (sample.lwipPoll n s.descriptors 0).errno,
        (sample.lwipPoll n s.descriptors 0).descriptors, s.lwipCalls ++ [s.descriptors], []⟩ := by
      simp [virtualTurn, hfail]
    have hm : mixedTurn timeout started t sample = .inr ⟨-1,
        some (sample.lwipPoll n s.descriptors 0).errno, t.descriptors,
        t.lwipCalls ++ [t.virtualSet], t.realCalls ++ [t.realSet]⟩ := by
      simp [mixedTurn, hresult, herrno, hneg]
    rw [hv, hm, Sum.liftRel_inr_inr]
    exact ⟨rfl, fun _ => rfl, fun h => by simp at h⟩
  · have hok := not_lt.mp hneg
    have hmerge := merge_eq hlwip hreal hidle hnone hs ht
    have hcount := hlwip.counts n s.descriptors 0 hok
    have hnoerror : ¬ ((sample.lwipPoll n t.virtualSet 0).result < 0 ∨
        (sample.realPoll n t.realSet 0).result < 0) := by
      rw [hresult]
      omega
    have hiff : ((sample.lwipPoll n s.descriptors 0).result ≠ 0 ∨ timeout = 0) ↔
        (0 < readyCount (sample.lwipPoll n s.descriptors 0).descriptors ∨ timeout = 0) := by
      rw [hcount]
      simp [Nat.pos_iff_ne_zero]
    by_cases hret : (sample.lwipPoll n s.descriptors 0).result ≠ 0 ∨ timeout = 0
    · simp only [virtualTurn, mixedTurn, if_neg hnoerror, hmerge, if_pos hret,
        if_pos (hiff.mp hret)]
      exact Sum.LiftRel.inr ⟨hcount, fun h => absurd h hneg, fun _ => rfl⟩
    have hret' := mt hiff.mpr hret
    by_cases hexpired : expired timeout started sample.processTime
    · simp only [virtualTurn, mixedTurn, if_neg hnoerror, hmerge, if_neg hret, if_neg hret',
        if_pos hexpired]
      exact Sum.LiftRel.inr ⟨rfl, fun _ => rfl, fun _ => rfl⟩
    · have hv : virtualTurn timeout started s sample = .inl
          ⟨(sample.lwipPoll n s.descriptors 0).descriptors, s.lwipCalls ++ [s.descriptors]⟩ := by
        simp only [virtualTurn, if_neg hret, if_neg hexpired]
      have hm : mixedTurn timeout started t sample = .inl
          ⟨(sample.lwipPoll n s.descriptors 0).descriptors,
            (sample.lwipPoll n t.virtualSet 0).descriptors,
            (sample.realPoll n t.realSet 0).descriptors, t.lwipCalls ++ [t.virtualSet],
            t.realCalls ++ [t.realSet]⟩ := by
        simp only [mixedTurn, if_neg hnoerror, hmerge, if_neg hret', if_neg hexpired]
      rw [hv, hm]
      exact Sum.LiftRel.inl
        ⟨virtualTurn_continue hlwip hs hv, mixedTurn_continue hlwip hreal ht hm⟩

end Equivalence

lemma virtualOk_initial {n : ℕ} (ds : Pollfds n) : VirtualOk ds ⟨ds, []⟩ :=
  ⟨.refl ds, by simp⟩

lemma mixedOk_initial {n : ℕ} (ds : Pollfds n) :
    MixedOk ds ⟨ds, virtualSet ds, realSet ds, [], []⟩ where
  descriptors := .refl ds
  virtualSet := .refl _
  realSet := .refl _
  lwipCalls := by simp
  realCalls := by simp

/-- A call with a timeout returns as soon as it is sampled after the timeout. -/
theorem wrapPoll_returns {n : ℕ} {ds : Pollfds n} {timeout : Int32} {allocated : Bool}
    {started : UInt64} {samples : List Sample} {x : Sample} (hx : x ∈ samples)
    (h : timeout = 0 ∨ expired timeout started x.processTime) :
    (wrapPoll ds timeout allocated started samples).isSome := by
  have hvirtual : ∀ s : VirtualState n, (virtualTurn timeout started s x).isRight := by
    intro s
    simp only [virtualTurn]
    split_ifs with hret hexpired
    · rfl
    · rfl
    · simp_all
  have hmixed : ∀ s : MixedState n, (mixedTurn timeout started s x).isRight := by
    intro s
    simp only [mixedTurn]
    split_ifs with herror hneg hret hexpired <;> simp_all
  unfold wrapPoll
  split_ifs
  · cases samples with
    | nil => cases hx
    | cons y ys => rfl
  · exact loop_isSome hx hvirtual _
  · rfl
  · exact loop_isSome hx hmixed _

/-- Whatever the backends answer and however long it takes, a call that returns without
an error has polled the whole array, and the loop over lwIP alone does what the loop over
both backends would, as long as the native stack would not fail in it. -/
theorem wrapPoll_correct {n : ℕ} {ds : Pollfds n} {timeout : Int32} {allocated : Bool}
    {started : UInt64} {samples : List Sample} (hvirtual : pollHasVirtual ds)
    (hlwip : ∀ x ∈ samples, Polls x.lwipPoll) (hreal : ∀ x ∈ samples, Polls x.realPoll)
    (hclock : (started :: samples.map Sample.processTime).Pairwise (· ≤ ·)) :
    (∀ earlier last o, samples = earlier ++ [last] →
      wrapPoll ds timeout allocated started earlier = none →
      wrapPoll ds timeout allocated started samples = some o → 0 ≤ o.result →
      Correct ds timeout started last o) ∧
    (hasReal ds = false → (∀ x ∈ samples, NativeAnswers ds x) →
      Option.Rel SameResult (wrapPoll ds timeout allocated started samples)
        (pollMixed ds timeout started samples)) := by
  constructor
  · intro earlier last o hsamples hwaiting hreturn hok
    subst hsamples
    have hlast : started ≤ last.processTime := by
      rw [List.pairwise_cons] at hclock
      exact hclock.1 _ (by simp)
    simp only [wrapPoll, hvirtual, Bool.not_true, Bool.false_eq_true, if_false]
      at hwaiting hreturn
    cases hnone : hasReal ds with
    | false =>
      simp only [hnone, Bool.not_false, if_true, pollVirtual] at hwaiting hreturn
      obtain ⟨t, ht, hturn⟩ := loop_return (virtualOk_initial ds)
        (fun s hs x hx t => virtualTurn_continue (hlwip x (List.mem_append_left _ hx)) hs)
        hwaiting hreturn
      exact virtualTurn_return (hlwip last (by simp)) hnone hlast ht hturn hok
    | true =>
      cases allocated with
      | false => simp [hnone] at hwaiting
      | true =>
        simp only [hnone, Bool.not_true, Bool.false_eq_true, if_false, pollMixed]
          at hwaiting hreturn
        obtain ⟨t, ht, hturn⟩ := loop_return (mixedOk_initial ds)
          (fun s hs x hx t => mixedTurn_continue (hlwip x (List.mem_append_left _ hx))
            (hreal x (List.mem_append_left _ hx)) hs) hwaiting hreturn
        exact mixedTurn_return (hlwip last (by simp)) (hreal last (by simp)) hlast ht hturn hok
  · intro hnone hidle
    simp only [wrapPoll, hvirtual, hnone, Bool.not_true, Bool.not_false, Bool.false_eq_true,
      if_false, if_true]
    refine loop_rel (R := fun s t => VirtualOk ds s ∧ MixedOk ds t)
      ⟨virtualOk_initial ds, mixedOk_initial ds⟩
      fun x hx s t hst => ?_
    exact turn_rel (hlwip x hx) (hreal x hx) (hidle x hx) hnone hst.1 hst.2

/-- A backend in which these descriptors are ready. -/
def readyPoll (ready : ℤ → UInt16) : Poll := fun _ ds _ =>
  let left := fun i => { ds i with
    revents := if (ds i).fd < 0 then 0 else (ds i).events &&& ready (ds i).fd }
  ⟨readyCount left, 0, left⟩

lemma polls_readyPoll (ready : ℤ → UInt16) : Polls (readyPoll ready) where
  keeps := fun _ _ _ _ => ⟨rfl, rfl⟩
  ignores := fun _ ds _ i _ h => if_pos h
  counts := fun _ _ _ _ => rfl
  fails := fun _ ds _ h => absurd h (by simp [readyPoll])
  answers := by
    intro n ds ds' timeout h
    have hrevents : ∀ i, ((readyPoll ready n ds timeout).descriptors i).revents =
        ((readyPoll ready n ds' timeout).descriptors i).revents := by
      intro i
      obtain ⟨hevents, hfd | ⟨hneg, hneg'⟩⟩ := h i
      · simp [readyPoll, hevents, hfd]
      · simp [readyPoll, hneg, hneg']
    exact ⟨congrArg Nat.cast (readyCount_congr hrevents), rfl, hrevents⟩

/-- A virtual, a native and a negative descriptor; lwIP is ready in the second sample. -/
def mixedArray : Pollfds 3 := ![⟨128, 1, 0⟩, ⟨5, 1, 0⟩, ⟨-7, 1, 0⟩]

def quietSample : Sample := ⟨readyPoll fun _ => 0, readyPoll fun _ => 0, 150⟩

def readySample : Sample := ⟨readyPoll fun _ => 1, readyPoll fun _ => 0, 1200⟩

/-- A virtual descriptor and a negative one. -/
def virtualArray : Pollfds 2 := ![⟨128, 1, 0⟩, ⟨-7, 1, 0⟩]

theorem wrapPoll_correct_ready :
    (∃ o, wrapPoll mixedArray 10 true 100 [quietSample, readySample] = some o ∧
      Correct mixedArray 10 100 readySample o) ∧
    ∃ o o', wrapPoll virtualArray 10 true 100 [quietSample, readySample] = some o ∧
      pollMixed virtualArray 10 100 [quietSample, readySample] = some o' ∧ SameResult o o' := by
  have hlwip : ∀ x ∈ [quietSample, readySample], Polls x.lwipPoll := by
    simp [quietSample, readySample, polls_readyPoll]
  have hreal : ∀ x ∈ [quietSample, readySample], Polls x.realPoll := by
    simp [quietSample, readySample, polls_readyPoll]
  have hclock : ((100 : UInt64) :: [quietSample, readySample].map Sample.processTime).Pairwise
      (· ≤ ·) := by decide
  constructor
  · have hview : (wrapPoll mixedArray 10 true 100 [quietSample, readySample]).map
        Outcome.result = some 1 := by decide +kernel
    obtain ⟨o, hreturn, hresult⟩ := Option.map_eq_some_iff.mp hview
    have hwaiting : (wrapPoll mixedArray 10 true 100 [quietSample]).map Outcome.result = none := by
      decide +kernel
    exact ⟨o, hreturn, (wrapPoll_correct (by decide) hlwip hreal hclock).1 [quietSample]
      readySample o rfl (Option.map_eq_none_iff.mp hwaiting) hreturn (by omega)⟩
  · have hview : (wrapPoll virtualArray 10 true 100 [quietSample, readySample]).map
        Outcome.result = some 1 := by decide +kernel
    obtain ⟨o, hreturn, -⟩ := Option.map_eq_some_iff.mp hview
    have hnative : ∀ x ∈ [quietSample, readySample], NativeAnswers virtualArray x := by
      simp [NativeAnswers, quietSample, readySample, readyPoll]
    have hsame : Option.Rel SameResult
        (wrapPoll virtualArray 10 true 100 [quietSample, readySample])
        (pollMixed virtualArray 10 100 [quietSample, readySample]) :=
      (wrapPoll_correct (by decide) hlwip hreal hclock).2 (by decide) hnative
    rw [hreturn] at hsame
    cases hmixed : pollMixed virtualArray 10 100 [quietSample, readySample] with
    | none =>
      rw [hmixed] at hsame
      cases hsame
    | some o' =>
      rw [hmixed, Option.rel_some_some] at hsame
      exact ⟨o, o', hreturn, rfl, hsame⟩

/-- A stack that cannot poll, whatever it is asked. -/
def failingPoll : Poll := fun _ ds _ => ⟨-1, enomem, fun i => { ds i with revents := 0 }⟩

lemma polls_failingPoll : Polls failingPoll where
  keeps := fun _ _ _ _ => ⟨rfl, rfl⟩
  ignores := fun _ _ _ _ _ _ => rfl
  counts := fun _ _ _ h => absurd h (by simp [failingPoll])
  fails := fun _ _ _ _ => rfl
  answers := fun _ _ _ _ _ => ⟨rfl, rfl, fun _ => rfl⟩

/-- lwIP is ready, and the native stack fails. -/
def failingSample : Sample := ⟨readyPoll fun _ => 1, failingPoll, 150⟩

theorem wrapPoll_paths_differ :
    pollHasVirtual virtualArray ∧ hasReal virtualArray = false ∧
      Polls failingSample.lwipPoll ∧ Polls failingSample.realPoll ∧
      ((100 : UInt64) :: [failingSample].map Sample.processTime).Pairwise (· ≤ ·) ∧
      (wrapPoll virtualArray 10 true 100 [failingSample]).map Outcome.result = some 1 ∧
      (pollMixed virtualArray 10 100 [failingSample]).map Outcome.result = some (-1) ∧
      ¬ Option.Rel SameResult (wrapPoll virtualArray 10 true 100 [failingSample])
        (pollMixed virtualArray 10 100 [failingSample]) := by
  have hpoll : (wrapPoll virtualArray 10 true 100 [failingSample]).map Outcome.result =
      some 1 := by decide +kernel
  have hmixed : (pollMixed virtualArray 10 100 [failingSample]).map Outcome.result =
      some (-1) := by decide +kernel
  have hlwip : Polls failingSample.lwipPoll := by
    simp only [failingSample, polls_readyPoll]
  have hreal : Polls failingSample.realPoll := by
    simp only [failingSample, polls_failingPoll]
  refine ⟨by decide, by decide, hlwip, hreal, by decide, hpoll, hmixed, fun hsame => ?_⟩
  obtain ⟨o, ho, hresult⟩ := Option.map_eq_some_iff.mp hpoll
  obtain ⟨o', ho', hresult'⟩ := Option.map_eq_some_iff.mp hmixed
  rw [ho, ho', Option.rel_some_some] at hsame
  have heq := hsame.result
  omega

end MoonlightVita.ShimPoll
