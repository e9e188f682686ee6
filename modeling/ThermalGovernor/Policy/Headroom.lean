import ThermalGovernor.Policy.Policy
import Mathlib.Tactic.Linarith

/-!
# Thermal headroom

Usable headroom is never merely limit minus temperature.  The governing limit is
the policy's critical threshold, tightened by a vendor limit when that limit was
measured (`Provenance.real`); the safety margin and the sensor uncertainty are
then taken off.  The result is not clamped, so a deficit stays visible.

`le_governingLimit_of_meetsDemand` is the reading that admission rests on: a
demand that is met fits under the governing limit together with both margins.
-/

namespace ThermalGovernor

/-- Inputs to the headroom computation. -/
structure HeadroomInput where
  currentTemperature : DegreesCelsius
  policyCritical : DegreesCelsius
  vendorLimit : Option DegreesCelsius := none
  vendorLimitProvenance : Provenance := .unknown
  uncertaintyMargin : ℚ := 0
  policySafetyMargin : ℚ := 0
  recoveryMargin : ℚ := 0
  recoveryThreshold : DegreesCelsius := 0

/-- Full, auditable headroom breakdown. -/
structure HeadroomBreakdown where
  policyCritical : DegreesCelsius := 0
  vendorLimit : Option DegreesCelsius := none
  governingLimit : DegreesCelsius := 0
  currentTemperature : DegreesCelsius := 0
  rawHeadroom : ℚ := 0
  policySafetyMargin : ℚ := 0
  uncertaintyMargin : ℚ := 0
  effectiveHeadroom : ℚ := 0
  recoveryThreshold : DegreesCelsius := 0
  recoveryMargin : ℚ := 0
  distanceAboveRecoveryGate : ℚ := 0

/-- The effective headroom covers a demand. -/
def HeadroomBreakdown.meetsDemand (h : HeadroomBreakdown) (demand : ℚ) : Bool :=
  demand ≤ h.effectiveHeadroom

/-- The sensor uncertainty left after a confidence claim; no claim leaves it all. -/
def uncertaintyFromConfidence (confidence : Option ℚ) (configured : ℚ) : ℚ :=
  match confidence with
  | none => configured
  | some c => configured * (1 - max 0 (min c 1))

/-- Only a real vendor limit may tighten the governing ceiling. -/
def governingLimit (input : HeadroomInput) : DegreesCelsius :=
  match input.vendorLimit with
  | none => input.policyCritical
  | some limit =>
    if limit.valid && input.vendorLimitProvenance = .real && limit < input.policyCritical then
      limit
    else input.policyCritical

/-- Compute the full headroom breakdown. -/
def computeHeadroom (input : HeadroomInput) : HeadroomBreakdown :=
  let governing := governingLimit input
  let raw := governing - input.currentTemperature
  { policyCritical := input.policyCritical
    vendorLimit := input.vendorLimit.filter fun limit => limit.valid
    governingLimit := governing
    currentTemperature := input.currentTemperature
    rawHeadroom := raw
    policySafetyMargin := input.policySafetyMargin
    uncertaintyMargin := input.uncertaintyMargin
    effectiveHeadroom := raw - input.policySafetyMargin - input.uncertaintyMargin
    recoveryThreshold := input.recoveryThreshold
    recoveryMargin := input.recoveryMargin
    distanceAboveRecoveryGate :=
      input.currentTemperature - (input.recoveryThreshold + input.recoveryMargin) }

/-! ### What the breakdown means -/

theorem governingLimit_le_policyCritical (input : HeadroomInput) :
    governingLimit input ≤ input.policyCritical := by
  unfold governingLimit
  split
  · exact le_refl _
  · split
    · rename_i h
      simp only [Bool.and_eq_true, decide_eq_true_eq] at h
      exact le_of_lt h.2
    · exact le_refl _

/-- A measured vendor limit is never exceeded by the governing limit. -/
theorem governingLimit_le_vendorLimit {input : HeadroomInput} {limit : DegreesCelsius}
    (hl : input.vendorLimit = some limit) (hv : limit.valid = true)
    (hr : input.vendorLimitProvenance = .real) : governingLimit input ≤ limit := by
  unfold governingLimit
  rw [hl]
  simp only [hv, hr, Bool.true_and, decide_true, decide_eq_true_eq]
  split
  · exact le_refl _
  · rename_i h
    exact not_lt.mp h

/-- The governing limit is the smaller of the two limits when the vendor limit was
measured, and the policy's critical threshold otherwise. -/
theorem governingLimit_eq (input : HeadroomInput) :
    governingLimit input =
      match input.vendorLimit with
      | some limit =>
        if limit.valid = true ∧ input.vendorLimitProvenance = .real then
          min input.policyCritical limit
        else input.policyCritical
      | none => input.policyCritical := by
  unfold governingLimit
  cases input.vendorLimit with
  | none => rfl
  | some limit =>
    simp only [Bool.and_eq_true, decide_eq_true_eq]
    by_cases h : limit.valid = true ∧ input.vendorLimitProvenance = .real
    · rw [if_pos h]
      by_cases hlt : limit < input.policyCritical
      · rw [if_pos ⟨h, hlt⟩, min_eq_right (le_of_lt hlt)]
      · rw [if_neg fun hc => hlt hc.2, min_eq_left (not_lt.mp hlt)]
    · rw [if_neg h, if_neg fun hc => h hc.1]

@[simp] theorem computeHeadroom_governingLimit (input : HeadroomInput) :
    (computeHeadroom input).governingLimit = governingLimit input := rfl

@[simp] theorem computeHeadroom_effectiveHeadroom (input : HeadroomInput) :
    (computeHeadroom input).effectiveHeadroom =
      governingLimit input - input.currentTemperature - input.policySafetyMargin
        - input.uncertaintyMargin := rfl

/-- **A demand that is met fits under the governing limit with both margins.** -/
theorem le_governingLimit_of_meetsDemand {input : HeadroomInput} {demand : ℚ}
    (h : (computeHeadroom input).meetsDemand demand = true) :
    input.currentTemperature + input.policySafetyMargin + input.uncertaintyMargin + demand ≤
      governingLimit input := by
  have hd := of_decide_eq_true h
  rw [computeHeadroom_effectiveHeadroom] at hd
  linarith

/-- Confidence never makes the uncertainty negative, and never larger than configured. -/
theorem uncertaintyFromConfidence_bounds {configured : ℚ} (h : 0 ≤ configured)
    (confidence : Option ℚ) :
    0 ≤ uncertaintyFromConfidence confidence configured ∧
      uncertaintyFromConfidence confidence configured ≤ configured := by
  cases confidence with
  | none => exact ⟨h, le_refl _⟩
  | some c =>
    have h0 : (0 : ℚ) ≤ max 0 (min c 1) := le_max_left _ _
    have h1 : max 0 (min c 1) ≤ (1 : ℚ) := max_le (by norm_num) (min_le_right _ _)
    simp only [uncertaintyFromConfidence]
    exact ⟨mul_nonneg h (by linarith), by nlinarith⟩

end ThermalGovernor
