import Mathlib

/-!
# Files and the calls that change them

A file system holds the contents of each path that exists. A call may fail with a
negative code, and a call that reads or writes may stop short.
-/
namespace MoonlightVita.Files

abbrev ErrorCode : Type := {code : ℤ // code < 0}

/-- The bytes that are read into a buffer of a given size: at most `n` of them. -/
def readFront (contents : List UInt8) (size n : ℕ) : List UInt8 := contents.take (min n size)

variable {P : Type*} [DecidableEq P]

abbrev FileSystem (P : Type*) : Type _ := P → Option (List UInt8)

/-- A file is created, or its contents are replaced. -/
def put (fs : FileSystem P) (path : P) (contents : List UInt8) : FileSystem P :=
  Function.update fs path (some contents)

def remove (fs : FileSystem P) (path : P) : FileSystem P := Function.update fs path none

/-- The file that was under the new name is replaced. -/
def rename (fs : FileSystem P) (old new : P) : FileSystem P := remove (Function.update fs new (fs old)) old

section Updates
variable (fs : FileSystem P) (path : P) (contents : List UInt8)

@[simp] lemma put_self : put fs path contents path = some contents := Function.update_self _ _ _

lemma put_put (contents' : List UInt8) :
    put (put fs path contents) path contents' = put fs path contents' := Function.update_idem _ _ _

@[simp] lemma remove_put : remove (put fs path contents) path = remove fs path :=
  Function.update_idem _ _ _

variable {fs path contents}

lemma put_eq_iff : put fs path contents = fs ↔ fs path = some contents := by
  rw [put, Function.update_eq_self_iff, eq_comm]

lemma remove_eq_iff : remove fs path = fs ↔ fs path = none := by
  rw [remove, Function.update_eq_self_iff, eq_comm]

lemma rename_new {old new : P} (h : old ≠ new) : rename fs old new new = fs old := by
  rw [rename, remove, Function.update_of_ne h.symm, Function.update_self]

end Updates

end MoonlightVita.Files
