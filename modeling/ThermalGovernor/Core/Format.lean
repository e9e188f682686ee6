import ThermalGovernor.Core.Identity

/-!
# Deterministic rendering

The source's number formatting.  `number` writes a value within `1e-9` of an
integer as that integer and anything else with at most three decimals, trailing
zeros removed.  It is lossy: two readings that differ by less than half a
thousandth may have one text.

The C library rounds the printed decimals to the nearest, ties to even, on the
exact value; `round` itself rounds ties away from zero.
-/

namespace ThermalGovernor.Format

/-- `std::round`: to the nearest integer, ties away from zero. -/
def round (value : ℚ) : Int :=
  if 0 ≤ value then (value + 1 / 2).floor else -(-value + 1 / 2).floor

/-- Rounding of printed decimals: to the nearest integer, ties to even. -/
def roundEven (value : ℚ) : Int :=
  let below := value.floor
  let rest := value - below
  if rest < 1 / 2 then below
  else if 1 / 2 < rest then below + 1
  else if below % 2 = 0 then below
  else below + 1

/-- A sign, from the value and not from its rounding. -/
def sign (value : ℚ) : String := if value < 0 then "-" else ""

/-- The three digits after the point. -/
def thousandths (n : Nat) : String :=
  toString (n / 100 % 10) ++ toString (n / 10 % 10) ++ toString (n % 10)

/-- Drop trailing zeros, then a trailing point. -/
def trim (text : String) : String :=
  match text.toList.reverse.dropWhile (· == '0') with
  | '.' :: rest => String.ofList rest.reverse
  | rest => String.ofList rest.reverse

/-- Three decimals, trimmed, with no negative zero. -/
def fixed (value : ℚ) : String :=
  let scaled := (roundEven (value * 1000)).natAbs
  let text := trim (sign value ++ toString (scaled / 1000) ++ "." ++ thousandths (scaled % 1000))
  if text = "-0" then "0" else text

/-- The source's `number`. -/
def number (value : ℚ) : String :=
  let rounded := round value
  if |value - rounded| < 1 / 1000000000 ∧ |(rounded : ℚ)| < 1000000000000000 then
    sign value ++ toString rounded.natAbs
  else fixed value

/-- The source's `signed_number`. -/
def signedNumber (value : ℚ) : String :=
  let magnitude := number value
  match magnitude.toList with
  | [] => magnitude
  | c :: _ => if c = '-' then magnitude else "+" ++ magnitude

/-- The source's `unsigned_decimal`. -/
def unsignedDecimal (value : Nat) : String := toString value

/-- The source's `temperature`, without the unit. -/
def temperature (value : DegreesCelsius) : String := number value

/-- The source's `percent`. -/
def percent (value : ℚ) : String := number value

/-- The source's `millis`. -/
def millis (value : Milliseconds) : String := toString value

/-- The source's `join`. -/
def join (parts : List String) (separator : String) : String := String.intercalate separator parts

example : number (151 / 2) = "75.5" := by decide +kernel
example : number (-80 : ℚ) = "-80" := by decide +kernel
example : number (1 / 1500) = "0.001" := by decide +kernel

end ThermalGovernor.Format
