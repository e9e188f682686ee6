import Mathlib.Data.List.TakeWhile
import ThermalGovernor.Core.Decimal
import ThermalGovernor.Lib.Bytes
import ThermalGovernor.Session.Render

/-!
# The arguments of commands

Arguments are texts.  `parseU64` is what `strtoull` in base ten makes of one, a sign and leading
blanks included: C sees a text up to its first zero, and a negative number is taken as the word
that it wraps to.  An enumeration is looked up by its name (`parseName`).
-/

namespace ThermalGovernor.Session

open Lib Format

/-! ### Numbers -/

/-- What C sees of a text. -/
def cString (text : String) : List Char := text.toList.takeWhile fun c => c ≠ Char.ofNat 0

/-- `isspace` of the C locale. -/
def isSpace (c : Char) : Bool := c = ' ' || 9 ≤ c.toNat && c.toNat ≤ 13

/-- The value of decimal digits. -/
def digitsValue (digits : List Char) : Nat :=
  digits.foldl (fun value c => 10 * value + (c.toNat - '0'.toNat)) 0

/-- An unsigned decimal argument. -/
def parseU64 (text : String) : Option Nat :=
  if text.isEmpty then none
  else
    match cString text with
    -- nothing is converted, and nothing is left before the zero
    | [] => some 0
    | c :: chars =>
      let body := (c :: chars).dropWhile isSpace
      let negative := body.head? = some '-'
      let digits := if negative || body.head? = some '+' then body.tail else body
      if digits.isEmpty || ! digits.all Char.isDigit then none
      else
        let value := digitsValue digits
        if wordSize ≤ value then none
        else some (if negative then (wordSize - value) % wordSize else value)

theorem isSpace_of_isDigit {c : Char} (h : c.isDigit = true) : isSpace c = false := by
  obtain ⟨hlow, -⟩ := Char.isDigit_iff_toNat.mp h
  have hzero : '0'.toNat = 48 := rfl
  have hblank : decide (c = ' ') = false := by
    refine decide_eq_false fun hc => ?_
    rw [hc] at h
    exact absurd h (by decide)
  have hcontrol : decide (c.toNat ≤ 13) = false := decide_eq_false (by omega)
  rw [isSpace, hblank, hcontrol, Bool.and_false, Bool.or_false]

theorem ne_of_isDigit {c c' : Char} (h : c.isDigit = true) (h' : c'.isDigit = false) :
    c ≠ c' := by
  rintro rfl
  rw [h] at h'
  cases h'

/-- **A word is parsed as it was written.** -/
theorem parseU64_decimal (n : Nat) : parseU64 (decimal n) = some (n % wordSize) := by
  have hdigits : (decimal n).toList = Nat.toDigits 10 (n % wordSize) := toList_unsignedDecimal _
  have hdigit : ∀ c ∈ (decimal n).toList, c.isDigit = true := by
    rw [hdigits]
    exact fun c h => isDigit_of_mem_toDigits h
  have hvalue : digitsValue (decimal n).toList = n % wordSize := by
    rw [hdigits]
    exact Nat.ofDigitChars_ten_toDigits
  have hall : cString (decimal n) = (decimal n).toList :=
    List.takeWhile_eq_self_iff.mpr fun c hc =>
      decide_eq_true (ne_of_isDigit (hdigit c hc) (by decide))
  have hnonempty : (decimal n).isEmpty = false := by
    rw [String.isEmpty_eq_false_iff]
    intro hempty
    rw [hempty] at hdigits
    exact Nat.toDigits_ne_nil hdigits.symm
  unfold parseU64
  rw [if_neg (by rw [hnonempty]; decide), hall]
  cases hlist : (decimal n).toList with
  | nil => exact absurd (hdigits.symm.trans hlist) Nat.toDigits_ne_nil
  | cons c chars =>
    rw [hlist] at hdigit hvalue
    have hc : c.isDigit = true := hdigit c List.mem_cons_self
    have hspace : (c :: chars).dropWhile isSpace = c :: chars := by
      rw [List.dropWhile_cons_of_neg (by rw [isSpace_of_isDigit hc]; decide)]
    have hminus : ¬ some c = some '-' := fun h =>
      ne_of_isDigit hc (by decide) (Option.some.inj h)
    have hplus : ¬ some c = some '+' := fun h =>
      ne_of_isDigit hc (by decide) (Option.some.inj h)
    have hword : ¬ wordSize ≤ n % wordSize := Nat.not_le_of_lt (Nat.mod_lt _ (by decide))
    simp only [hspace, List.head?_cons, hminus, hplus, decide_false, Bool.or_false,
      Bool.false_eq_true, if_false, List.isEmpty_cons, List.all_eq_true.mpr hdigit, Bool.not_true,
      hvalue, hword]

/-! ### Bytes -/

def hexValue (c : Char) : Option Nat :=
  if '0' ≤ c ∧ c ≤ '9' then some (c.toNat - '0'.toNat)
  else if 'a' ≤ c ∧ c ≤ 'f' then some (c.toNat - 'a'.toNat + 10)
  else if 'A' ≤ c ∧ c ≤ 'F' then some (c.toNat - 'A'.toNat + 10)
  else none

/-- The bytes written as pairs of hexadecimal digits. -/
def hexBytes : List Char → Option Bytes
  | [] => some []
  | [_] => none
  | high :: low :: rest => do
    let high ← hexValue high
    let low ← hexValue low
    let bytes ← hexBytes rest
    pure (UInt8.ofNat (16 * high + low) :: bytes)

def fromHex (text : String) : Option Bytes := hexBytes text.toList

/-! ### Names -/

/-- The value of a name. -/
def parseName {α : Type} (names : List (String × α)) (text : String) : Option α :=
  names.lookup text

def parseDomainType : String → Option ThermalDomainType :=
  parseName
    [("ACCELERATOR", .accelerator), ("ACCELERATOR_PARTITION", .acceleratorPartition),
     ("NODE", .node), ("CHASSIS", .chassis), ("RACK", .rack), ("COOLING_ZONE", .coolingZone),
     ("COUPLED_RESOURCE_GROUP", .coupledResourceGroup)]

def parseAggregation : String → Option AggregationRule :=
  parseName
    [("HOTTEST_MEMBER_GOVERNS", .hottestMemberGoverns),
     ("CONFIGURED_WEIGHTED_RULE", .configuredWeightedRule),
     ("NODE_SENSOR_GOVERNS", .nodeSensorGoverns),
     ("SYNTHETIC_AGGREGATION", .syntheticAggregation)]

def parseCouplingType : String → Option CouplingType :=
  parseName
    [("UNKNOWN_COUPLING", .unknownCoupling), ("SHARES_CHASSIS", .sharesChassis),
     ("SHARES_AIRFLOW_PATH", .sharesAirflowPath), ("SHARES_COOLING_ZONE", .sharesCoolingZone),
     ("SHARES_HEATSINK", .sharesHeatsink), ("THERMALLY_COUPLED", .thermallyCoupled),
     ("SYNTHETIC_COUPLING", .syntheticCoupling)]

def parseProvenance : String → Option Provenance :=
  parseName [("REAL", .real), ("SYNTHETIC", .synthetic), ("UNSUPPORTED", .unsupported)]

def parseCapabilityState : String → Option CapabilityState :=
  parseName
    [("UNKNOWN", .unknown), ("SUPPORTED_REAL", .supportedReal),
     ("SUPPORTED_READ_ONLY", .supportedReadOnly), ("SUPPORTED_SYNTHETIC", .supportedSynthetic),
     ("UNSUPPORTED", .unsupported)]

def parseIntent : String → Option MitigationIntent :=
  parseName (((List.range MitigationIntent.count).map MitigationIntent.ofNat).map fun intent =>
    (intent.text, intent))

/-- A profile that is not named is unknown. -/
def parseProfile (text : String) : WorkloadThermalProfile :=
  (parseName ([.unknownProfile, .lowThermalIntensity, .moderateThermalIntensity,
    .highThermalIntensity, .burstyThermalProfile, .custom].map fun profile =>
      (WorkloadThermalProfile.text profile, profile)) text).getD .unknownProfile

/-! ### Members -/

/-- `split`: the parts between the separators, at least one. -/
def split (text : String) (separator : Char) : List String :=
  (text.toList.splitOn separator).map String.ofList

/-- A member of a domain: the letter of its kind, its id, and its generation if it has one. -/
def parseTypedMember (token : String) : Option DomainMember :=
  match split token ':' with
  | [kind, id, generation] => do
    let id ← parseU64 id
    let generation ← parseU64 generation
    match kind with
    | "d" => some { subject := .forDevice id generation }
    | "n" => some { subject := { kind := .node, node := id, nodeGeneration := generation } }
    | "r" => some { subject := { kind := .rack, rack := id, rackGeneration := generation } }
    | _ => none
  | [kind, id] =>
    if kind = "z" then do
      let id ← parseU64 id
      some { subject := { kind := .coolingZone, coolingZone := id } }
    else none
  | _ => none

example : parseU64 " +42" = some 42 := by decide +kernel
example : parseU64 "-1" = some (wordSize - 1) := by decide +kernel
example : parseU64 "18446744073709551616" = none := by decide +kernel

end ThermalGovernor.Session
