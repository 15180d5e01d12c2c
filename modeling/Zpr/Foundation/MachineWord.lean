import Mathlib.Algebra.Group.Nat.Defs

namespace Zpr

/-! # Unsigned machine words

A word holds the numbers below a power of two. Whether a sum that no word holds wraps around
or ends the program is decided when the program is built. -/

inductive Overflow
  | wraps
  | panics
  deriving DecidableEq, Repr

structure MachineWord where
  bits : Nat
  overflow : Overflow
  deriving DecidableEq, Repr

namespace MachineWord

variable {word : MachineWord} {left right : Nat}

def size (word : MachineWord) : Nat := 2 ^ word.bits

/-- `left + right`, or `none` where the program ends. -/
def add (word : MachineWord) (left right : Nat) : Option Nat :=
  if left + right < word.size then
    some (left + right)
  else
    match word.overflow with
    | .wraps => some ((left + right) % word.size)
    | .panics => none

theorem add_of_lt (fits : left + right < word.size) :
    word.add left right = some (left + right) :=
  if_pos fits

/-- A sum that has wrapped is smaller than what has been added to. -/
theorem add_lt_left (bound : right < word.size) (overflow : word.size ≤ left + right)
    {sum : Nat} (added : word.add left right = some sum) : sum < left := by
  rw [add, if_neg (Nat.not_lt.mpr overflow)] at added
  cases mode : word.overflow with
  | panics =>
      rw [mode] at added
      cases added
  | wraps =>
      rw [mode] at added
      cases added
      have wrapped : (left + right) % word.size ≤ left + right - word.size := by
        rw [Nat.mod_eq_sub_mod overflow]
        exact Nat.mod_le _ _
      omega

end MachineWord

end Zpr
