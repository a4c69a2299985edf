import Mathlib

/-!
# Runs of labelled transition systems

A step reads an input, reports a list of events and ends in a next state. An
input that a state does not allow has no step. Runs grow at their end, so an
invariant may speak about the events reported so far.
-/
namespace MoonlightVita.Transition

variable {σ ι ε : Type*}

abbrev System (σ ι ε : Type*) : Type _ := σ → ι → List ε → σ → Prop

/-- The system of an executable step function. -/
def ofStep (f : σ → ι → Option (σ × List ε)) : System σ ι ε :=
  fun s i out t => f s i = some (t, out)

/-- Only the steps that meet a condition on the input and the state before it. -/
def restrict (R : System σ ι ε) (C : σ → ι → Prop) : System σ ι ε :=
  fun s i out t => C s i ∧ R s i out t

/-- An executable step that refuses what a decidable condition excludes. -/
def guarded (f : σ → ι → Option (σ × List ε)) (C : σ → ι → Prop) [∀ s i, Decidable (C s i)] :
    σ → ι → Option (σ × List ε) :=
  fun s i => if C s i then f s i else none

theorem ofStep_guarded (f : σ → ι → Option (σ × List ε)) (C : σ → ι → Prop)
    [∀ s i, Decidable (C s i)] : ofStep (guarded f C) = restrict (ofStep f) C := by
  funext s i out t
  simp [ofStep, guarded, restrict]

inductive Run (R : System σ ι ε) (start : σ) : List ι → List ε → σ → Prop
  | nil : Run R start [] [] start
  | snoc {inputs : List ι} {events out : List ε} {s t : σ} {i : ι}
      (prior : Run R start inputs events s) (step : R s i out t) :
      Run R start (inputs ++ [i]) (events ++ out) t

/-- What one step preserves, together with the events so far, every run preserves. -/
theorem Run.invariant {R : System σ ι ε} {start : σ} {P : List ε → σ → Prop} (hinit : P [] start)
    (hstep : ∀ events s i out t, P events s → R s i out t → P (events ++ out) t)
    {inputs : List ι} {events : List ε} {s : σ} (h : Run R start inputs events s) :
    P events s := by
  induction h with
  | nil => exact hinit
  | snoc _ step ih => exact hstep _ _ _ _ _ ih step

theorem Run.single {R : System σ ι ε} {s t : σ} {i : ι} {out : List ε} (h : R s i out t) :
    Run R s [i] out t := by
  simpa using Run.snoc Run.nil h

theorem Run.append {R : System σ ι ε} {a b c : σ} {is js : List ι} {es fs : List ε}
    (h : Run R a is es b) (g : Run R b js fs c) : Run R a (is ++ js) (es ++ fs) c := by
  induction g with
  | nil => simpa using h
  | snoc _ step ih =>
    rw [← List.append_assoc, ← List.append_assoc]
    exact Run.snoc ih step

theorem Run.of_restrict {R : System σ ι ε} {C : σ → ι → Prop} {start s : σ} {inputs : List ι}
    {events : List ε} (h : Run (restrict R C) start inputs events s) :
    Run R start inputs events s := by
  induction h with
  | nil => exact .nil
  | snoc _ step ih => exact .snoc ih step.2

/-- Every event was reported by one step, after a run that reported no later event. -/
theorem Run.origin {R : System σ ι ε} {start s : σ} {inputs : List ι} {before after : List ε}
    {e : ε} (h : Run R start inputs (before ++ e :: after) s) :
    ∃ inputs' events' u i out v, Run R start inputs' events' u ∧ R u i out v ∧ e ∈ out ∧
      ∃ gap, before = events' ++ gap := by
  generalize hes : before ++ e :: after = events at h
  induction h generalizing after with
  | nil => simp at hes
  | @snoc inputs events out s t i prior step ih =>
    rcases List.append_eq_append_iff.mp hes with ⟨rest, hevents, hout⟩ | ⟨rest, hevents, hout⟩
    · cases rest with
      | nil =>
        simp only [List.append_nil] at hevents
        simp only [List.nil_append] at hout
        exact ⟨_, _, _, _, _, _, prior, step, by simp [← hout], [], by simp [hevents]⟩
      | cons x rest =>
        simp only [List.cons_append, List.cons.injEq] at hout
        obtain ⟨rfl, _⟩ := hout
        exact ih hevents.symm
    · exact ⟨_, _, _, _, _, _, prior, step, by simp [hout], rest, hevents⟩

theorem Run.mem_origin {R : System σ ι ε} {start s : σ} {inputs : List ι} {events : List ε} {e : ε}
    (h : Run R start inputs events s) (he : e ∈ events) :
    ∃ u i out v, i ∈ inputs ∧ R u i out v ∧ e ∈ out := by
  induction h with
  | nil => cases he
  | @snoc inputs events out s t i prior step ih =>
    rcases List.mem_append.mp he with he | he
    · obtain ⟨u, j, out', v, hj, hstep, hmem⟩ := ih he
      exact ⟨u, j, out', v, List.mem_append_left _ hj, hstep, hmem⟩
    · exact ⟨s, i, out, t, by simp, step, he⟩

/-- Where a condition on the steps says which events they report, it says so of every run. -/
theorem Run.restrict_iff {R : System σ ι ε} {C : σ → ι → Prop} {P : ε → Prop} {start s : σ}
    {inputs : List ι} {events : List ε}
    (hstep : ∀ s i out t, R s i out t → ((∀ e ∈ out, P e) ↔ C s i))
    (h : Run R start inputs events s) :
    (∀ e ∈ events, P e) ↔ Run (restrict R C) start inputs events s := by
  constructor
  · intro hevents
    induction h with
    | nil => exact Run.nil
    | snoc prior step ih =>
      rw [List.forall_mem_append] at hevents
      exact Run.snoc (ih hevents.1) ⟨(hstep _ _ _ _ step).mp hevents.2, step⟩
  · intro hrun
    refine hrun.invariant (P := fun events _ => ∀ e ∈ events, P e) (by simp) ?_
    rintro events s i out t hp ⟨hcondition, hs⟩
    exact List.forall_mem_append.mpr ⟨hp, (hstep _ _ _ _ hs).mpr hcondition⟩

/-- Run an executable step function over a list of inputs. -/
def exec (f : σ → ι → Option (σ × List ε)) : σ → List ι → Option (σ × List ε)
  | s, [] => some (s, [])
  | s, i :: is =>
    match f s i with
    | none => none
    | some (t, out) =>
      match exec f t is with
      | none => none
      | some (u, outs) => some (u, out ++ outs)

lemma exec_cons {f : σ → ι → Option (σ × List ε)} {s t : σ} {i : ι} {is : List ι}
    {events : List ε} (h : exec f s (i :: is) = some (t, events)) :
    ∃ u out outs, f s i = some (u, out) ∧ exec f u is = some (t, outs) ∧ events = out ++ outs := by
  cases hf : f s i with
  | none => simp [exec, hf] at h
  | some r =>
    cases hr : exec f r.1 is with
    | none => simp [exec, hf, hr] at h
    | some q =>
      simp only [exec, hf, hr, Option.some.injEq, Prod.mk.injEq] at h
      obtain ⟨rfl, rfl⟩ := h
      exact ⟨r.1, r.2, q.2, rfl, hr, rfl⟩

theorem run_of_exec {f : σ → ι → Option (σ × List ε)} {s t : σ} {inputs : List ι}
    {events : List ε} (h : exec f s inputs = some (t, events)) :
    Run (ofStep f) s inputs events t := by
  induction inputs generalizing s events with
  | nil =>
    simp only [exec, Option.some.injEq, Prod.mk.injEq] at h
    obtain ⟨rfl, rfl⟩ := h
    exact Run.nil
  | cons i is ih =>
    obtain ⟨u, out, outs, hf, hr, rfl⟩ := exec_cons h
    have hone : Run (ofStep f) s [i] out u := Run.single hf
    exact hone.append (ih hr)

/-- It is enough to compute the events of a run; its last state need not be written out. -/
theorem run_of_events {f : σ → ι → Option (σ × List ε)} {s : σ} {inputs : List ι}
    {events : List ε} (h : (exec f s inputs).map Prod.snd = some events) :
    ∃ t, Run (ofStep f) s inputs events t := by
  obtain ⟨r, hr, rfl⟩ := Option.map_eq_some_iff.mp h
  exact ⟨r.1, run_of_exec hr⟩

end MoonlightVita.Transition
