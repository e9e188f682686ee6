import ThermalGovernor.Lib.Extended
import ThermalGovernor.Evaluation.AllowSound

/-!
# Policies with values that are not finite

The governor's numbers are doubles, and a policy may come with an infinity or with what is
not a number.  `validatePolicy` asks for finite ceilings and thresholds, since a comparison
on either side lets nothing else through.  The margins, the improvement epsilon, the minimum
headroom and the extra demands are only refused when they are negative, which neither an
upper infinity nor a value that is not a number is.

What an evaluation computes with a policy is stated over any numbers, and is the evaluation's
own at the rationals (`computed_eq`).  `finitePolicy_iff` says which accepted policies are
finite.
-/

namespace ThermalGovernor

open Lib

/-! ### What an evaluation computes with a policy -/

/-- The arithmetic of an evaluation. -/
class ScalarArithmetic (R : Type) extends Scalar R where
  add : R → R → R
  mul : R → R → R

instance : ScalarArithmetic ℚ where
  add a b := a + b
  mul a b := a * b

instance : Scalar Extended where
  ofRat := .finite
  lt := Extended.lt
  le := Extended.le
  sub := Extended.sub

instance : ScalarArithmetic Extended where
  add := Extended.add
  mul := Extended.mul

/-- The numbers of the evidence that the headroom is computed from. -/
structure Reading (R : Type) where
  temperature : R
  vendorLimit : Option R
  vendorLimitReal : Bool
  confidence : Option R

section Computed

variable {R : Type} [ScalarArithmetic R]

/-- A confidence brought between zero and one. -/
def clampConfidence (c : R) : R :=
  if Scalar.lt c (Scalar.ofRat 0) then Scalar.ofRat 0
  else if Scalar.lt (Scalar.ofRat 1) c then Scalar.ofRat 1
  else c

namespace PolicyOver

variable (p : PolicyOver R) (reading : Reading R)

def uncertainty : R :=
  match reading.confidence with
  | none => p.margins.uncertaintyMargin
  | some c =>
    ScalarArithmetic.mul p.margins.uncertaintyMargin
      (Scalar.sub (Scalar.ofRat 1) (clampConfidence c))

def governingLimit : R :=
  match reading.vendorLimit with
  | none => p.thresholds.critical
  | some limit =>
    if Scalar.isReading limit && reading.vendorLimitReal &&
        Scalar.lt limit p.thresholds.critical then limit
    else p.thresholds.critical

def effectiveHeadroom : R :=
  Scalar.sub (Scalar.sub (Scalar.sub (p.governingLimit reading) reading.temperature)
    p.margins.policySafetyMargin) (p.uncertainty reading)

/-- The gate that a temperature has to be below before recovery. -/
def gate : R := ScalarArithmetic.add p.thresholds.recovery p.margins.recoveryMargin

def distanceAboveGate : R := Scalar.sub reading.temperature p.gate

/-- The headroom demanded of a workload profile. -/
def demand (profile : WorkloadThermalProfile) : R :=
  ScalarArithmetic.add p.admission.minEffectiveHeadroom
    (match p.workloadRestrictions.find? fun r => r.profile = profile with
      | some r => r.extraHeadroomDemand
      | none => Scalar.ofRat 0)

end PolicyOver

end Computed

/-- The numbers of an evidence as the evaluation takes them. -/
def readingOf (input : EvaluationInput) (evidence : ThermalEvidence) : Reading ℚ where
  temperature := evidence.temperature
  vendorLimit := (headroomInputFor input evidence).vendorLimit
  vendorLimitReal := (headroomInputFor input evidence).vendorLimitProvenance = .real
  confidence := evidence.confidence

theorem clampConfidence_rat (c : ℚ) : clampConfidence c = max 0 (min c 1) := by
  show (if decide (c < 0) = true then (0 : ℚ) else if decide (1 < c) = true then 1 else c) = _
  simp only [decide_eq_true_eq]
  rcases lt_or_ge c 0 with hneg | hpos
  · rw [if_pos hneg, max_eq_left ((min_le_left _ _).trans (le_of_lt hneg))]
  · rw [if_neg (not_lt.mpr hpos)]
    rcases lt_or_ge 1 c with hbig | hsmall
    · rw [if_pos hbig, min_eq_right (le_of_lt hbig), max_eq_right zero_le_one]
    · rw [if_neg (not_lt.mpr hsmall), min_eq_left hsmall, max_eq_right hpos]

/-- **At the rationals these are the numbers of the evaluation.** -/
theorem computed_eq (input : EvaluationInput) (evidence : ThermalEvidence) :
    (evaluateResolved input evidence).headroom.effectiveHeadroom =
      input.policy.effectiveHeadroom (readingOf input evidence) ∧
    (evaluateResolved input evidence).headroom.distanceAboveRecoveryGate =
      input.policy.distanceAboveGate (readingOf input evidence) ∧
    input.policy.admission.minEffectiveHeadroom +
        (workloadTerms input.policy input.workloadProfile).demand =
      input.policy.demand input.workloadProfile := by
  have huncertainty : (headroomInputFor input evidence).uncertaintyMargin =
      input.policy.uncertainty (readingOf input evidence) := by
    show uncertaintyFromConfidence evidence.confidence _ = _
    unfold PolicyOver.uncertainty uncertaintyFromConfidence readingOf
    cases evidence.confidence with
    | none => rfl
    | some c =>
      show _ = input.policy.margins.uncertaintyMargin * (1 - clampConfidence c)
      rw [clampConfidence_rat]
  have hlimit : governingLimit (headroomInputFor input evidence) =
      input.policy.governingLimit (readingOf input evidence) := by
    unfold governingLimit PolicyOver.governingLimit readingOf
    dsimp only
    cases (headroomInputFor input evidence).vendorLimit <;> rfl
  refine ⟨?_, rfl, ?_⟩
  · show governingLimit _ - _ - _ - _ = _
    rw [hlimit, huncertainty]
    rfl
  · rw [demand_workloadTerms]
    unfold workloadHeadroomDemand PolicyOver.demand
    cases input.policy.workloadRestrictions.find? fun r => r.profile = input.workloadProfile <;>
      rfl

/-! ### Accepted policies -/

namespace PolicyOver

/-- Every number of the policy is finite. -/
structure FiniteNumbers (p : PolicyOver Extended) : Prop where
  thresholds : p.thresholds.warning.isFinite = true ∧ p.thresholds.derating.isFinite = true ∧
    p.thresholds.critical.isFinite = true ∧ p.thresholds.recovery.isFinite = true
  band : p.thresholds.nearLimitBand.isFinite = true
  margins : p.margins.policySafetyMargin.isFinite = true ∧
    p.margins.uncertaintyMargin.isFinite = true ∧ p.margins.recoveryMargin.isFinite = true
  epsilon : p.verification.improvementEpsilon.isFinite = true
  minimum : p.admission.minEffectiveHeadroom.isFinite = true
  ceilings : p.concurrency.normal.isFinite = true ∧ p.concurrency.warm.isFinite = true ∧
    p.concurrency.nearLimit.isFinite = true ∧ p.concurrency.derated.isFinite = true ∧
    p.concurrency.critical.isFinite = true
  demands : ∀ r ∈ p.workloadRestrictions, r.extraHeadroomDemand.isFinite = true

/-- The numbers that are only refused when they are negative are finite. -/
structure SignCheckedFinite (p : PolicyOver Extended) : Prop where
  margins : p.margins.policySafetyMargin.isFinite = true ∧
    p.margins.uncertaintyMargin.isFinite = true ∧ p.margins.recoveryMargin.isFinite = true
  epsilon : p.verification.improvementEpsilon.isFinite = true
  minimum : p.admission.minEffectiveHeadroom.isFinite = true
  demands : ∀ r ∈ p.workloadRestrictions, r.extraHeadroomDemand.isFinite = true

end PolicyOver

/-- Finite evidence. -/
structure Reading.IsFinite (reading : Reading Extended) : Prop where
  temperature : reading.temperature.isFinite = true
  vendorLimit : ∀ limit, reading.vendorLimit = some limit → limit.isFinite = true
  confidence : ∀ c, reading.confidence = some c → c.isFinite = true

/-- What an evaluation computes from finite evidence is finite, and the headroom compares
with the demand. -/
structure ComputesFinite (p : PolicyOver Extended) (reading : Reading Extended) : Prop where
  headroom : (p.effectiveHeadroom reading).isFinite = true
  gate : p.gate.isFinite = true
  distance : (p.distanceAboveGate reading).isFinite = true
  demand : ∀ profile, (p.demand profile).isFinite = true
  comparable : ∀ profile,
    Extended.comparable (p.demand profile) (p.effectiveHeadroom reading) = true

section Accepted

variable {p : PolicyOver Extended}

/-- A reading in range is finite. -/
theorem isFinite_of_isReading {t : Extended} (h : Scalar.isReading t = true) :
    t.isFinite = true := by
  obtain ⟨hlow, hhigh⟩ := Bool.and_eq_true_iff.mp h
  exact Extended.isFinite_of_le_of_le hlow hhigh

theorem isFinite_of_isPercent {t : Extended} (h : Scalar.isPercent t = true) :
    t.isFinite = true := by
  obtain ⟨hlow, hhigh⟩ := Bool.and_eq_true_iff.mp h
  exact Extended.isFinite_of_le_of_le hlow hhigh

theorem thresholds_isFinite (h : validatePolicy p = .ok ()) :
    p.thresholds.warning.isFinite = true ∧ p.thresholds.derating.isFinite = true ∧
    p.thresholds.critical.isFinite = true ∧ p.thresholds.recovery.isFinite = true := by
  have hreadings := holds_of_valid h (i := 0) rfl
  simp only [orInvalid, Bool.and_eq_true] at hreadings
  obtain ⟨⟨⟨hwarning, hderating⟩, hcritical⟩, hrecovery⟩ := hreadings
  exact ⟨isFinite_of_isReading hwarning, isFinite_of_isReading hderating,
    isFinite_of_isReading hcritical, isFinite_of_isReading hrecovery⟩

/-- An infinite band would start below every warning threshold. -/
theorem band_isFinite (h : validatePolicy p = .ok ()) :
    p.thresholds.nearLimitBand.isFinite = true := by
  obtain ⟨hwarning, hderating, -, -⟩ := thresholds_isFinite h
  obtain ⟨warning, hwarning⟩ := Extended.isFinite_iff.mp hwarning
  obtain ⟨derating, hderating⟩ := Extended.isFinite_iff.mp hderating
  have hpositive := holds_of_valid h (i := 4) rfl
  have hstart := holds_of_valid h (i := 5) rfl
  by_contra hinfinite
  have hband := Extended.eq_posInf_of_lt hpositive (Bool.eq_false_iff.mpr hinfinite)
  have hbelow : Extended.le p.thresholds.warning
      (Extended.sub p.thresholds.derating p.thresholds.nearLimitBand) = true := hstart
  rw [hwarning, hderating, hband] at hbelow
  cases hbelow

theorem ceilings_isFinite (h : validatePolicy p = .ok ()) :
    p.concurrency.normal.isFinite = true ∧ p.concurrency.warm.isFinite = true ∧
    p.concurrency.nearLimit.isFinite = true ∧ p.concurrency.derated.isFinite = true ∧
    p.concurrency.critical.isFinite = true := by
  have hpercents := holds_of_valid h (i := 15) rfl
  simp only [orInvalid, Bool.and_eq_true] at hpercents
  obtain ⟨⟨⟨⟨hnormal, hwarm⟩, hnear⟩, hderated⟩, hcritical⟩ := hpercents
  exact ⟨isFinite_of_isPercent hnormal, isFinite_of_isPercent hwarm,
    isFinite_of_isPercent hnear, isFinite_of_isPercent hderated, isFinite_of_isPercent hcritical⟩

theorem clampConfidence_isFinite {c : Extended} (h : c.isFinite = true) :
    (clampConfidence c).isFinite = true := by
  unfold clampConfidence
  split
  · rfl
  split
  · rfl
  · exact h

theorem governingLimit_isFinite {reading : Reading Extended} (hreading : reading.IsFinite)
    (h : p.thresholds.critical.isFinite = true) : (p.governingLimit reading).isFinite = true := by
  unfold PolicyOver.governingLimit
  split
  · exact h
  · rename_i limit hlimit
    split
    · exact hreading.vendorLimit limit hlimit
    · exact h

theorem uncertainty_isFinite {reading : Reading Extended} (hreading : reading.IsFinite) :
    (p.uncertainty reading).isFinite = true ↔ p.margins.uncertaintyMargin.isFinite = true := by
  unfold PolicyOver.uncertainty
  split
  · exact Iff.rfl
  · rename_i c hc
    obtain ⟨q, hq⟩ :=
      Extended.isFinite_iff.mp (clampConfidence_isFinite (hreading.confidence c hc))
    rw [hq]
    exact Extended.isFinite_of_mul

/-- Finite thresholds and numbers give finite computations. -/
theorem computesFinite_of_finite {reading : Reading Extended} (hreading : reading.IsFinite)
    (h : p.FiniteNumbers) : ComputesFinite p reading := by
  have hgate : p.gate.isFinite = true :=
    Extended.isFinite_add.mpr ⟨h.thresholds.2.2.2, h.margins.2.2⟩
  have hlimit := governingLimit_isFinite hreading h.thresholds.2.2.1
  have huncertainty := (uncertainty_isFinite hreading).mpr h.margins.2.1
  have hheadroom : (p.effectiveHeadroom reading).isFinite = true :=
    Extended.isFinite_sub.mpr ⟨Extended.isFinite_sub.mpr
      ⟨Extended.isFinite_sub.mpr ⟨hlimit, hreading.temperature⟩, h.margins.1⟩, huncertainty⟩
  have hdemand : ∀ profile, (p.demand profile).isFinite = true := by
    intro profile
    refine Extended.isFinite_add.mpr ⟨h.minimum, ?_⟩
    split
    · rename_i r hfind
      exact h.demands r (List.mem_of_find?_eq_some hfind)
    · rfl
  exact ⟨hheadroom, hgate, Extended.isFinite_sub.mpr ⟨hreading.temperature, hgate⟩, hdemand,
    fun profile => Extended.comparable_of_isFinite (hdemand profile) hheadroom⟩

/-- **An accepted policy is finite, and computes finite values from finite evidence, when its
margins, its epsilon, its minimum headroom and its extra demands are finite.** -/
theorem finitePolicy_iff (h : validatePolicy p = .ok ()) :
    (p.FiniteNumbers ∧ ∀ reading : Reading Extended, reading.IsFinite →
      ComputesFinite p reading) ↔ p.SignCheckedFinite := by
  constructor
  · rintro ⟨hfinite, -⟩
    exact ⟨hfinite.margins, hfinite.epsilon, hfinite.minimum, hfinite.demands⟩
  · intro hchecked
    have hfinite : p.FiniteNumbers :=
      ⟨thresholds_isFinite h, band_isFinite h, hchecked.margins, hchecked.epsilon,
        hchecked.minimum, ceilings_isFinite h, hchecked.demands⟩
    exact ⟨hfinite, fun reading hreading => computesFinite_of_finite hreading hfinite⟩

end Accepted

/-! ### The governor's own policies -/

/-- The policy with each of its numbers replaced. -/
def PolicyOver.mapNumbers {R S : Type} (f : R → S) (p : PolicyOver R) : PolicyOver S where
  id := p.id
  generation := p.generation
  label := p.label
  thresholds :=
    { warning := f p.thresholds.warning
      derating := f p.thresholds.derating
      critical := f p.thresholds.critical
      recovery := f p.thresholds.recovery
      nearLimitBand := f p.thresholds.nearLimitBand }
  margins :=
    { policySafetyMargin := f p.margins.policySafetyMargin
      uncertaintyMargin := f p.margins.uncertaintyMargin
      recoveryMargin := f p.margins.recoveryMargin }
  freshness := p.freshness
  recovery := p.recovery
  verification :=
    { required := p.verification.required
      improvementEpsilon := f p.verification.improvementEpsilon
      requiredSamples := p.verification.requiredSamples }
  admission :=
    { minEffectiveHeadroom := f p.admission.minEffectiveHeadroom
      allowDeratedAdmission := p.admission.allowDeratedAdmission
      allowDefer := p.admission.allowDefer }
  concurrency :=
    { normal := f p.concurrency.normal
      warm := f p.concurrency.warm
      nearLimit := f p.concurrency.nearLimit
      derated := f p.concurrency.derated
      critical := f p.concurrency.critical }
  emergency := p.emergency
  coupling := p.coupling
  unknownBehavior := p.unknownBehavior
  unsupportedBehavior := p.unsupportedBehavior
  allowedIntents := p.allowedIntents
  workloadRestrictions := p.workloadRestrictions.map fun r =>
    { profile := r.profile
      allowed := r.allowed
      requiredClass := r.requiredClass
      extraHeadroomDemand := f r.extraHeadroomDemand }

theorem restrictionChecks_finite : ∀ (restrictions : List (WorkloadRestriction ℚ))
    (seen : List WorkloadThermalProfile),
    restrictionChecks seen (restrictions.map fun r =>
      { profile := r.profile
        allowed := r.allowed
        requiredClass := r.requiredClass
        extraHeadroomDemand := Extended.finite r.extraHeadroomDemand }) =
      restrictionChecks seen restrictions := by
  intro restrictions
  induction restrictions with
  | nil => intro seen; rfl
  | cons r rest ih =>
    intro seen
    rw [List.map_cons, restrictionChecks, restrictionChecks, ih]
    rfl

/-- **On finite numbers the validation is that of the rationals.** -/
theorem validatePolicy_finite (p : ThermalPolicy) :
    validatePolicy (p.mapNumbers Extended.finite) = validatePolicy p := by
  have hstart : (p.mapNumbers Extended.finite).thresholds.nearLimitStart =
      Extended.finite p.thresholds.nearLimitStart := Extended.sub_finite _ _
  have hlength : (p.mapNumbers Extended.finite).workloadRestrictions.length =
      p.workloadRestrictions.length := List.length_map _
  have hrestrictions :
      restrictionChecks [] (p.mapNumbers Extended.finite).workloadRestrictions =
        restrictionChecks [] p.workloadRestrictions := restrictionChecks_finite _ _
  unfold validatePolicy policyChecks
  dsimp only
  rw [hstart, hlength, hrestrictions]
  rfl

theorem signCheckedFinite_finite (p : ThermalPolicy) :
    (p.mapNumbers Extended.finite).SignCheckedFinite := by
  refine ⟨⟨rfl, rfl, rfl⟩, rfl, rfl, fun r hr => ?_⟩
  obtain ⟨s, -, rfl⟩ := List.mem_map.mp hr
  rfl

theorem finitePolicy_makeDefault :
    (PolicyOver.makeDefault.mapNumbers Extended.finite).FiniteNumbers ∧
    ∀ reading : Reading Extended, reading.IsFinite →
      ComputesFinite (PolicyOver.makeDefault.mapNumbers Extended.finite) reading :=
  (finitePolicy_iff ((validatePolicy_finite _).trans validatePolicy_makeDefault)).mpr
    (signCheckedFinite_finite _)

namespace Deployment

/-- The default policy with a safety margin that is not a number. -/
def unnumberedMargin : PolicyOver Extended :=
  { PolicyOver.makeDefault.mapNumbers Extended.finite with
    margins :=
      { policySafetyMargin := .nan, uncertaintyMargin := .finite 1, recoveryMargin := .finite 1 } }

end Deployment

open Deployment

/-- A safety margin that is not a number is accepted, and the headroom of a reading of forty
degrees then compares with no demand. -/
theorem not_finitePolicy_unnumberedMargin :
    validatePolicy unnumberedMargin = .ok () ∧
    ¬ unnumberedMargin.FiniteNumbers ∧
    Extended.comparable (unnumberedMargin.demand .custom)
      (unnumberedMargin.effectiveHeadroom ⟨.finite 40, none, false, none⟩) = false := by
  refine ⟨by decide +kernel, fun h => ?_, by decide +kernel⟩
  have hmargin := h.margins.1
  cases hmargin

end ThermalGovernor
