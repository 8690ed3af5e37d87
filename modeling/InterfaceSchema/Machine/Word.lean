import Mathlib.Algebra.Group.Nat.Defs

/-!
# Arithmetic in machine words

The reader of a reflection schema counts positions in natural numbers, which cannot overflow. A machine
counts them in words of 64 bits, and there a sum, a difference or a product that does not fit its word
**stops the program**. Such a stop is a `Fault`, and a computation in words is one that may fault.

Unsigned words hold positions and lengths. A signed word is needed once, for the distance back from a table
to its vtable, which may lead to either side.
-/

namespace InterfaceSchema.Machine

/-- **What stops a program that computes in words.** -/
inductive Fault where
  /-- A sum that is no word. -/
  | addition
  /-- A difference below zero. -/
  | subtraction
  /-- A product that is no word. -/
  | multiplication
  /-- A difference of signed words that is no signed word. -/
  | distance
  /-- An index or a slice beyond the end. -/
  | index
  deriving DecidableEq

/-- **A computation that may fault.** -/
abbrev Checked (α : Type) := Except Fault α

/-- The sum of two words. -/
def add (a c : UInt64) : Checked UInt64 :=
  if a.toNat + c.toNat < 2 ^ 64 then .ok (a + c) else .error .addition

/-- The difference of two words. -/
def sub (a c : UInt64) : Checked UInt64 :=
  if c.toNat ≤ a.toNat then .ok (a - c) else .error .subtraction

/-- The product of two words. -/
def mul (a c : UInt64) : Checked UInt64 :=
  if a.toNat * c.toNat < 2 ^ 64 then .ok (a * c) else .error .multiplication

/-- The difference of two signed words. -/
def distance (a c : Int64) : Checked Int64 :=
  if Int64.minValue.toInt ≤ a.toInt - c.toInt ∧ a.toInt - c.toInt ≤ Int64.maxValue.toInt then
    .ok (a - c)
  else .error .distance

/-- **A sum that is given up** where it is no word, and stops nothing. -/
def add? (a c : UInt64) : Option UInt64 := (add a c).toOption

/-- **A difference that stops at zero.** -/
def monus (a c : UInt64) : UInt64 := if c ≤ a then a - c else 0

/-! ## What fits -/

theorem add_of_lt {a c : UInt64} (h : a.toNat + c.toNat < 2 ^ 64) :
    add a c = .ok (a + c) ∧ (a + c).toNat = a.toNat + c.toNat := by
  refine ⟨if_pos h, ?_⟩
  rw [UInt64.toNat_add, Nat.mod_eq_of_lt h]

theorem sub_of_le {a c : UInt64} (h : c.toNat ≤ a.toNat) :
    sub a c = .ok (a - c) ∧ (a - c).toNat = a.toNat - c.toNat :=
  ⟨if_pos h, UInt64.toNat_sub_of_le _ _ (UInt64.le_iff_toNat_le.mpr h)⟩

theorem mul_of_lt {a c : UInt64} (h : a.toNat * c.toNat < 2 ^ 64) :
    mul a c = .ok (a * c) ∧ (a * c).toNat = a.toNat * c.toNat := by
  refine ⟨if_pos h, ?_⟩
  rw [UInt64.toNat_mul, Nat.mod_eq_of_lt h]

theorem distance_of_inRange {a c : Int64} (hlow : Int64.minValue.toInt ≤ a.toInt - c.toInt)
    (hhigh : a.toInt - c.toInt ≤ Int64.maxValue.toInt) :
    distance a c = .ok (a - c) ∧ (a - c).toInt = a.toInt - c.toInt := by
  refine ⟨if_pos ⟨hlow, hhigh⟩, ?_⟩
  have hmin : Int64.minValue.toInt = -2 ^ 63 := rfl
  have hmax : Int64.maxValue.toInt = 2 ^ 63 - 1 := rfl
  rw [Int64.toInt_sub, Int.bmod_eq_of_le (by omega) (by omega)]

theorem toNat_monus (a c : UInt64) : (monus a c).toNat = a.toNat - c.toNat := by
  unfold monus
  split
  · rename_i h
    exact UInt64.toNat_sub_of_le _ _ h
  · rename_i h
    rw [UInt64.not_le, UInt64.lt_iff_toNat_lt] at h
    show 0 = _
    omega

end InterfaceSchema.Machine
