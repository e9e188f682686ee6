import Mathlib.Algebra.Order.Field.Rat
import Mathlib.Data.Rat.Defs

/-!
# Extended rationals

The rational numbers with what a floating-point value may be beside a number: an infinity of
either sign, or not a number at all.  The finite values compute exactly; the other ones
compare and compute as in IEEE arithmetic, so that nothing compares with what is not a
number.

`isFinite_of_le_of_le` is how a check establishes that a value is finite, and
`isFinite_add`, `isFinite_sub` and `isFinite_of_mul` how finiteness travels through a
computation, in both directions.
-/

namespace ThermalGovernor.Lib

inductive Extended
  | nan
  | negInf
  | finite (q : ℚ)
  | posInf
  deriving DecidableEq

namespace Extended

def isFinite : Extended → Bool
  | finite _ => true
  | nan | negInf | posInf => false

theorem isFinite_iff {x : Extended} : x.isFinite = true ↔ ∃ q, x = finite q := by
  cases x with
  | finite q => exact ⟨fun _ => ⟨q, rfl⟩, fun _ => rfl⟩
  | nan | negInf | posInf => exact ⟨fun h => (by cases h), fun ⟨_, h⟩ => (by cases h)⟩

/-! ### Comparisons -/

def le : Extended → Extended → Bool
  | nan, _ | _, nan => false
  | negInf, _ | _, posInf => true
  | finite a, finite b => a ≤ b
  | finite _, negInf | posInf, negInf | posInf, finite _ => false

def lt : Extended → Extended → Bool
  | finite a, finite b => a < b
  | negInf, finite _ | negInf, posInf | finite _, posInf => true
  | _, _ => false

@[simp] theorem le_finite (a b : ℚ) : le (finite a) (finite b) = decide (a ≤ b) := rfl

@[simp] theorem lt_finite (a b : ℚ) : lt (finite a) (finite b) = decide (a < b) := rfl

/-- **A value between two finite ones is finite.** -/
theorem isFinite_of_le_of_le {a b : ℚ} {x : Extended} (hlow : le (finite a) x = true)
    (hhigh : le x (finite b) = true) : x.isFinite = true := by
  cases x with
  | finite q => rfl
  | nan | negInf => cases hlow
  | posInf => cases hhigh

/-- A value that is above a finite one is finite or the upper infinity. -/
theorem eq_posInf_of_lt {a : ℚ} {x : Extended} (h : lt (finite a) x = true)
    (hx : x.isFinite = false) : x = posInf := by
  cases x with
  | finite q => cases hx
  | nan | negInf => cases h
  | posInf => rfl

/-- One of the values is at most the other. -/
def comparable (x y : Extended) : Bool := le x y || le y x

theorem comparable_of_isFinite {x y : Extended} (hx : x.isFinite = true)
    (hy : y.isFinite = true) : comparable x y = true := by
  obtain ⟨a, rfl⟩ := isFinite_iff.mp hx
  obtain ⟨b, rfl⟩ := isFinite_iff.mp hy
  unfold comparable
  rw [le_finite, le_finite, Bool.or_eq_true, decide_eq_true_eq, decide_eq_true_eq]
  exact le_total a b

/-! ### Arithmetic -/

def add : Extended → Extended → Extended
  | nan, _ | _, nan => nan
  | finite a, finite b => finite (a + b)
  | posInf, negInf | negInf, posInf => nan
  | posInf, _ | _, posInf => posInf
  | negInf, _ | _, negInf => negInf

def neg : Extended → Extended
  | nan => nan
  | negInf => posInf
  | finite q => finite (-q)
  | posInf => negInf

def sub (x y : Extended) : Extended := add x y.neg

/-- The sign of a value that is a number. -/
def sign : Extended → Int
  | nan => 0
  | negInf => -1
  | finite q => q.num.sign
  | posInf => 1

/-- The product; an infinity times zero is not a number. -/
def mul : Extended → Extended → Extended
  | nan, _ | _, nan => nan
  | finite a, finite b => finite (a * b)
  | x, y =>
    if 0 < x.sign * y.sign then posInf
    else if x.sign * y.sign < 0 then negInf
    else nan

@[simp] theorem add_finite (a b : ℚ) : add (finite a) (finite b) = finite (a + b) := rfl

@[simp] theorem sub_finite (a b : ℚ) : sub (finite a) (finite b) = finite (a - b) := by
  show finite (a + -b) = _
  rw [sub_eq_add_neg]

@[simp] theorem mul_finite (a b : ℚ) : mul (finite a) (finite b) = finite (a * b) := rfl

theorem isFinite_add {x y : Extended} :
    (add x y).isFinite = true ↔ x.isFinite = true ∧ y.isFinite = true := by
  cases x <;> cases y <;> simp [add, isFinite]

theorem isFinite_neg (x : Extended) : x.neg.isFinite = x.isFinite := by
  cases x <;> rfl

/-- **A difference is finite when both of its terms are.** -/
theorem isFinite_sub {x y : Extended} :
    (sub x y).isFinite = true ↔ x.isFinite = true ∧ y.isFinite = true := by
  rw [sub, isFinite_add, isFinite_neg]

/-- A product with a finite factor is finite only when the other one is. -/
theorem isFinite_of_mul {x : Extended} {b : ℚ} :
    (mul x (finite b)).isFinite = true ↔ x.isFinite = true := by
  cases x with
  | finite a => exact Iff.rfl
  | nan => exact Iff.rfl
  | negInf | posInf =>
    refine ⟨fun h => ?_, fun h => (by cases h)⟩
    rw [mul] at h
    · split at h
      · cases h
      split at h
      · cases h
      · cases h
    all_goals simp

end Extended

end ThermalGovernor.Lib
