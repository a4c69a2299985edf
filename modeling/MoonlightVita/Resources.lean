import Mathlib

/-!
# Taking and giving back

Resources that a program acquires and releases, some of which need others to be held. A
sequence of operations is lawful if nothing is acquired twice or before what it needs, and
nothing is released that is not held or that a held resource still needs.
-/
namespace MoonlightVita.Resources

variable {ρ : Type*} [DecidableEq ρ]

inductive Op (ρ : Type*)
  | acquire (r : ρ)
  | release (r : ρ)
  deriving DecidableEq, Repr

abbrev Held (ρ : Type*) : Type _ := ρ → Bool

def nothing : Held ρ := fun _ => false

def Held.set (held : Held ρ) (r : ρ) (value : Bool) : Held ρ := Function.update held r value

/-- What a lawful sequence of operations leaves held. -/
inductive Leaves (needs : ρ → ρ → Prop) : Held ρ → List (Op ρ) → Held ρ → Prop
  | nil {held : Held ρ} : Leaves needs held [] held
  | acquire {held held' : Held ρ} {ops : List (Op ρ)} {r : ρ} (absent : held r = false)
      (ready : ∀ d, needs r d → held d = true) (rest : Leaves needs (held.set r true) ops held') :
      Leaves needs held (.acquire r :: ops) held'
  | release {held held' : Held ρ} {ops : List (Op ρ)} {r : ρ} (present : held r = true)
      (unneeded : ∀ u, needs u r → held u = false)
      (rest : Leaves needs (held.set r false) ops held') :
      Leaves needs held (.release r :: ops) held'

section Set
variable (held : Held ρ) {r s : ρ} (value value' : Bool)

@[simp] lemma set_self : held.set r value r = value := by
  simp [Held.set]

lemma set_of_ne (h : s ≠ r) : held.set r value s = held s := Function.update_of_ne h _ _

@[simp] lemma set_set : (held.set r value).set r value' = held.set r value' := by
  simp [Held.set]

lemma set_eq (h : held r = value) : held.set r value = held := by
  subst h
  exact Function.update_eq_self r held

end Set

variable {needs : ρ → ρ → Prop} {held held' held'' : Held ρ} {ops ops' : List (Op ρ)} {r : ρ}

theorem Leaves.append (h : Leaves needs held ops held') (h' : Leaves needs held' ops' held'') :
    Leaves needs held (ops ++ ops') held'' := by
  induction h with
  | nil => exact h'
  | acquire absent ready _ ih => exact .acquire absent ready (ih h')
  | release present unneeded _ ih => exact .release present unneeded (ih h')

/-- Fewer needs ask for less. -/
theorem Leaves.mono {needs' : ρ → ρ → Prop} (hneeds : ∀ r d, needs' r d → needs r d)
    (h : Leaves needs held ops held') : Leaves needs' held ops held' := by
  induction h with
  | nil => exact .nil
  | acquire absent ready _ ih => exact .acquire absent (fun d hd => ready d (hneeds _ _ hd)) ih
  | release present unneeded _ ih =>
    exact .release present (fun u hu => unneeded u (hneeds _ _ hu)) ih

lemma leaves_acquire (absent : held r = false) (ready : ∀ d, needs r d → held d = true) :
    Leaves needs held [.acquire r] (held.set r true) :=
  .acquire absent ready .nil

lemma leaves_release (present : held r = true) (unneeded : ∀ u, needs u r → held u = false) :
    Leaves needs held [.release r] (held.set r false) :=
  .release present unneeded .nil

/-- Work between taking a resource and giving it back. -/
theorem leaves_bracket (absent : held r = false) (ready : ∀ d, needs r d → held d = true)
    (self : ¬ needs r r) (unneeded : ∀ u, needs u r → held u = false)
    (body : Leaves needs (held.set r true) ops (held.set r true)) :
    Leaves needs held (.acquire r :: ops ++ [.release r]) held := by
  have hunneeded : ∀ u, needs u r → held.set r true u = false := by
    intro u hu
    have hne : u ≠ r := by
      rintro rfl
      exact self hu
    rw [set_of_ne _ _ hne]
    exact unneeded u hu
  have hrelease := leaves_release (set_self held true) hunneeded
  rw [set_set, set_eq held false absent] at hrelease
  exact .acquire absent ready (body.append hrelease)

/-- At any time a resource has been released as often as acquired, or once less if it is held. -/
theorem Leaves.balance (h : Leaves needs held ops held') (r : ρ) :
    ops.count (.acquire r) + (held r).toNat = ops.count (.release r) + (held' r).toNat := by
  induction h with
  | nil => rfl
  | @acquire held held' ops q absent ready rest ih =>
    by_cases hq : q = r
    · subst hq
      simp only [set_self, Bool.toNat_true] at ih
      simp [absent]
      omega
    · rw [set_of_ne _ _ (Ne.symm hq)] at ih
      simpa [hq] using ih
  | @release held held' ops q present unneeded rest ih =>
    by_cases hq : q = r
    · subst hq
      simp only [set_self, Bool.toNat_false] at ih
      simp [present]
      omega
    · rw [set_of_ne _ _ (Ne.symm hq)] at ih
      simpa [hq] using ih

end MoonlightVita.Resources
