import Mathlib.Algebra.Order.Floor.Semiring
import Mathlib.Data.Int.Log
import Mathlib.Data.Rat.Floor

/-!
# Doubles

A double is its pattern of 64 bits: a sign, an exponent of 11 bits and a fraction of 52.  Its
`value` is a rational number or an infinity, and a pattern that is not a number has none.
Comparisons are those of the values, so that nothing compares with what is not a number.

`ofRat` is the double nearest to a rational number, and of two that are as near the even one.
-/

namespace ThermalGovernor.Lib

structure Double where
  bits : UInt64
  deriving DecidableEq

namespace Double

instance : Zero Double := ⟨⟨0⟩⟩

/-! ### Values -/

def negative (x : Double) : Bool := 2 ^ 63 ≤ x.bits.toNat

def exponent (x : Double) : Nat := x.bits.toNat / 2 ^ 52 % 2 ^ 11

def fraction (x : Double) : Nat := x.bits.toNat % 2 ^ 52

/-- The size of a finite double; without an exponent there is no leading bit. -/
def magnitude (x : Double) : ℚ :=
  if x.exponent = 0 then x.fraction / 2 ^ 1074
  else (2 ^ 52 + x.fraction) * 2 ^ ((x.exponent : Int) - 1075)

def finite (x : Double) : ℚ := if x.negative then -x.magnitude else x.magnitude

def isFinite (x : Double) : Bool := x.exponent ≠ 2047

def isNaN (x : Double) : Bool := ! x.isFinite && x.fraction ≠ 0

/-- What a double stands for. -/
def value (x : Double) : Option (WithBot (WithTop ℚ)) :=
  if x.isNaN then none
  else if x.isFinite then some ((x.finite : WithTop ℚ) : WithBot (WithTop ℚ))
  else if x.negative then some ⊥
  else some ⊤

/-! ### Comparisons -/

def le (x y : Double) : Bool :=
  match x.value, y.value with
  | some a, some b => a ≤ b
  | _, _ => false

def lt (x y : Double) : Bool :=
  match x.value, y.value with
  | some a, some b => a < b
  | _, _ => false

theorem le_iff {x y : Double} :
    le x y = true ↔ ∃ a ∈ x.value, ∃ b ∈ y.value, a ≤ b := by
  rw [le]
  cases x.value with
  | none => simp
  | some a => cases y.value <;> simp

/-- **Between two numbers there are only numbers.** -/
theorem exists_of_le {x y z : Double} {a b : ℚ} (hx : x.value = some ((a : WithTop ℚ)))
    (hz : z.value = some ((b : WithTop ℚ))) (hxy : le x y = true) (hyz : le y z = true) :
    ∃ q : ℚ, y.value = some ((q : WithTop ℚ)) ∧ a ≤ q ∧ q ≤ b := by
  obtain ⟨_, ha, v, hv, hav⟩ := le_iff.mp hxy
  obtain ⟨v', hv', _, hb, hvb⟩ := le_iff.mp hyz
  obtain rfl : v = v' := Option.mem_unique hv hv'
  obtain rfl := Option.mem_unique hx ha
  obtain rfl := Option.mem_unique hz hb
  cases v with
  | bot => simp at hav
  | coe w =>
    cases w with
    | top => simp at hvb
    | coe q => exact ⟨q, hv, by simpa using hav, by simpa using hvb⟩

/-! ### Rounding -/

/-- The nearest natural number, and of two that are as near the even one. -/
def nearestEven (q : ℚ) : Nat :=
  let below := ⌊q⌋₊
  if q - below < 1 / 2 then below
  else if 1 / 2 < q - below then below + 1
  else below + below % 2

/-- The pattern of the infinity above all doubles. -/
def infinity : Nat := 2047 * 2 ^ 52

/-- The pattern of the double nearest to a number that is not negative.  A fraction that is
rounded up to the next power of two carries into the exponent. -/
def pattern (q : ℚ) : Nat :=
  if q = 0 then 0
  else
    let e := max (Int.log 2 q) (-1022)
    min ((e + 1022).toNat * 2 ^ 52 + nearestEven (q / 2 ^ (e - 52))) infinity

def ofRat (q : ℚ) : Double :=
  ⟨.ofNat (if q < 0 then 2 ^ 63 + pattern (-q) else pattern q)⟩

example : (ofRat (-5463 / 20)).bits = 0xC071126666666666 := by decide +kernel

def negate (x : Double) : Double := ⟨x.bits ^^^ 0x8000000000000000⟩

def nan : Double := ⟨.ofNat (infinity + 2 ^ 51)⟩

/-- `x - y`.  The difference of equal numbers is zero, and negative only for a negative zero
less a positive one; there is no difference of two infinities of one sign. -/
def sub (x y : Double) : Double :=
  if x.isNaN || y.isNaN then nan
  else if x.isFinite && y.isFinite then
    if x.finite ≠ y.finite then ofRat (x.finite - y.finite)
    else if x.negative && ! y.negative then negate 0
    else 0
  else if y.isFinite then x
  else if x.isFinite || x.negative ≠ y.negative then negate y
  else nan

end Double

end ThermalGovernor.Lib
