import ThermalGovernor.Decision.Vocabulary

/-!
# Thermal policy

The complete, versioned policy of a domain and the checks it passes before the
governor stores it.  `PolicyOver R` leaves the type of its real-valued fields
open, since validation only compares and subtracts them (`Scalar`); the governor
works with rationals, `ThermalPolicy`.

`validatePolicy` runs a list of checks, each with the error it answers with;
`validatePolicy_eq_ok` turns an accepted policy into the conjunction of them.
-/

namespace ThermalGovernor

/-- What policy validation asks of a number: constants, comparison, subtraction. -/
class Scalar (R : Type) where
  ofRat : ℚ → R
  lt : R → R → Bool
  le : R → R → Bool
  sub : R → R → R

instance : Scalar ℚ where
  ofRat := id
  lt a b := a < b
  le a b := a ≤ b
  sub a b := a - b

/-- Policy response when thermal evidence is absent or unreadable. -/
inductive UnknownBehavior
  | returnUnknown | revalidationRequired | defer | deny | allowDerated
  deriving DecidableEq

/-- Policy response when a required capability is unsupported. -/
inductive UnsupportedBehavior
  | returnUnsupported | revalidationRequired | defer | deny
  deriving DecidableEq

/-- Ordered temperature thresholds governing a domain. -/
structure ThermalThresholds (R : Type) where
  warning : R
  derating : R
  critical : R
  recovery : R
  nearLimitBand : R

/-- Where the `nearLimit` band begins. -/
def ThermalThresholds.nearLimitStart {R : Type} [Scalar R] (t : ThermalThresholds R) : R :=
  Scalar.sub t.derating t.nearLimitBand

/-- Explicit headroom margins. -/
structure ThermalMargins (R : Type) where
  policySafetyMargin : R
  uncertaintyMargin : R
  recoveryMargin : R

/-- Evidence freshness and recovery-sample requirements. -/
structure FreshnessRequirements where
  maxAge : Milliseconds := 1000
  requiredConsecutiveSamples : Nat := 3
  minEvidenceSpan : Milliseconds := 2000
  minDistinctWitnesses : Nat := 0

/-- Rules governing thermal coupling and propagation. -/
structure CouplingPolicy where
  coDerateCoupledDomains : Bool := true
  maxPropagationDepth : Nat := 2
  requireCoupledRecovery : Bool := true
  escalateToHottestNeighbour : Bool := false

/-- A per-workload-class restriction. -/
structure WorkloadRestriction (R : Type) where
  profile : WorkloadThermalProfile
  allowed : Bool
  requiredClass : ExecutionClass
  extraHeadroomDemand : R

/-- Thermal admission rules. -/
structure AdmissionPolicy (R : Type) where
  minEffectiveHeadroom : R
  allowDeratedAdmission : Bool := true
  allowDefer : Bool := true

/-- Concurrency ceilings per thermal state, as percentages. -/
structure ConcurrencyPolicy (R : Type) where
  normal : R
  warm : R
  nearLimit : R
  derated : R
  critical : R

/-- The ceiling implied by a thermal state. -/
def concurrencyCeiling {R : Type} (policy : ConcurrencyPolicy R) : ThermalState → R
  | .normal => policy.normal
  | .warm => policy.warm
  | .nearLimit => policy.nearLimit
  | .derated | .throttling => policy.derated
  | .critical | .revalidationRequired | .unknown | .unsupported => policy.critical

/-- Policy for thermal emergencies. -/
structure EmergencyPolicy where
  denyAllExecution : Bool := true
  allowContainmentIntent : Bool := true
  allowMigrationIntent : Bool := false
  allowCoolingInterventionIntent : Bool := false

/-- Post-action verification requirements. -/
structure VerificationPolicy (R : Type) where
  required : Bool := true
  improvementEpsilon : R
  requiredSamples : Nat := 1

/-- Recovery gating requirements. -/
structure RecoveryPolicy where
  requireNoThermalThrottle : Bool := true
  requireHeadroomAboveRecoveryMargin : Bool := true
  requireCoupledDomainsRecovered : Bool := true
  requireSameWorkerBoot : Bool := true
  requireSameCoordinatorEpoch : Bool := true
  requireSameDeviceGeneration : Bool := true
  requireExplicitAuthorization : Bool := false
  forbidRecoveryAfterUnsupportedEvidence : Bool := true

/-- A complete, versioned thermal policy. -/
structure PolicyOver (R : Type) where
  id : ThermalPolicyId := 1
  generation : ThermalPolicyGeneration := 1
  label : String := ""
  thresholds : ThermalThresholds R
  margins : ThermalMargins R
  freshness : FreshnessRequirements := {}
  recovery : RecoveryPolicy := {}
  verification : VerificationPolicy R
  admission : AdmissionPolicy R
  concurrency : ConcurrencyPolicy R
  emergency : EmergencyPolicy := {}
  coupling : CouplingPolicy := {}
  unknownBehavior : UnknownBehavior := .returnUnknown
  unsupportedBehavior : UnsupportedBehavior := .returnUnsupported
  allowedIntents : Nat := 0
  workloadRestrictions : List (WorkloadRestriction R) := []

/-- The policies the governor works with. -/
abbrev ThermalPolicy := PolicyOver ℚ

/-- The mask of every defined intent. -/
def allIntentsMask : Nat := 2 ^ MitigationIntent.count - 1

/-- Every intent except taking no action, and one restriction for each workload profile. -/
def PolicyOver.makeDefault : ThermalPolicy where
  label := "default"
  thresholds :=
    { warning := 75, derating := 80, critical := 88, recovery := 72, nearLimitBand := 3 }
  margins := { policySafetyMargin := 2, uncertaintyMargin := 1, recoveryMargin := 1 }
  verification := { improvementEpsilon := 1 / 2 }
  admission := { minEffectiveHeadroom := 2 }
  concurrency := { normal := 100, warm := 100, nearLimit := 75, derated := 50, critical := 0 }
  allowedIntents := allIntentsMask - MitigationIntent.noAction.bit
  workloadRestrictions :=
    [⟨.lowThermalIntensity, true, .unrestricted, 0⟩,
      ⟨.moderateThermalIntensity, true, .unrestricted, 0⟩,
      ⟨.highThermalIntensity, true, .reducedClock, 1⟩,
      ⟨.burstyThermalProfile, true, .reducedConcurrency, 1⟩,
      ⟨.unknownProfile, true, .reducedConcurrency, 2⟩,
      ⟨.custom, true, .unrestricted, 0⟩]

/-! ### Validation -/

section Validation

variable {R : Type} [Scalar R]

/-- A reading between absolute zero and the plausibility bound. -/
def Scalar.isReading (t : R) : Bool :=
  Scalar.le (ofRat DegreesCelsius.absoluteZero) t && Scalar.le t (ofRat DegreesCelsius.maxPlausible)

/-- The number is below zero. -/
def Scalar.negative (t : R) : Bool := Scalar.lt t (Scalar.ofRat 0)

/-- A percentage. -/
def Scalar.isPercent (t : R) : Bool :=
  Scalar.le (Scalar.ofRat 0) t && Scalar.le t (Scalar.ofRat 100)

/-- A check answered with `policyInvalid`. -/
def orInvalid (holds : Bool) (detail : String) : Check := ⟨holds, .policyInvalid, detail⟩

/-- A check of a resource bound. -/
def orLimit (holds : Bool) (detail : String) : Check := ⟨holds, .policyLimitExceeded, detail⟩

/-- The checks of the workload restrictions; `seen` holds the profiles before. -/
def restrictionChecks (seen : List WorkloadThermalProfile) :
    List (WorkloadRestriction R) → List Check
  | [] => []
  | r :: rest =>
    orInvalid (! seen.contains r.profile) "duplicate workload thermal profile restriction" ::
    orInvalid (! Scalar.negative r.extraHeadroomDemand)
      "workload extra headroom demand cannot be negative" ::
    restrictionChecks (seen ++ [r.profile]) rest

/-- The checks of a policy, in the order of the source. -/
def policyChecks (p : PolicyOver R) : List Check :=
  let t := p.thresholds
  let c := p.concurrency
  [ orInvalid (Scalar.isReading t.warning && Scalar.isReading t.derating &&
        Scalar.isReading t.critical && Scalar.isReading t.recovery)
      "threshold values outside the representable range",
    orInvalid (Scalar.lt t.warning t.derating)
      "warning threshold must be strictly below the derating threshold",
    orInvalid (Scalar.lt t.derating t.critical)
      "derating threshold must be strictly below the critical threshold",
    orInvalid (Scalar.lt t.recovery t.derating)
      "recovery threshold must be strictly below the derating threshold",
    orInvalid (Scalar.lt (Scalar.ofRat 0) t.nearLimitBand)
      "near-limit band must be strictly positive",
    orInvalid (Scalar.le t.warning t.nearLimitStart)
      "near-limit band places NEAR_LIMIT below the warning threshold",
    orInvalid (! Scalar.negative p.margins.policySafetyMargin)
      "policy safety margin cannot be negative",
    orInvalid (! Scalar.negative p.margins.uncertaintyMargin)
      "uncertainty margin cannot be negative",
    orInvalid (! Scalar.negative p.margins.recoveryMargin) "recovery margin cannot be negative",
    orInvalid (p.freshness.requiredConsecutiveSamples != 0)
      "at least one consecutive recovery sample must be required",
    orInvalid (0 ≤ p.freshness.maxAge) "evidence maximum age cannot be negative",
    orInvalid (0 ≤ p.freshness.minEvidenceSpan) "minimum evidence span cannot be negative",
    orInvalid (p.freshness.minDistinctWitnesses ≤ p.freshness.requiredConsecutiveSamples)
      "required distinct witnesses cannot exceed the consecutive sample count",
    orInvalid (! Scalar.negative p.verification.improvementEpsilon)
      "verification improvement epsilon cannot be negative",
    orInvalid (! Scalar.negative p.admission.minEffectiveHeadroom)
      "admission minimum effective headroom cannot be negative",
    orInvalid (Scalar.isPercent c.normal && Scalar.isPercent c.warm &&
        Scalar.isPercent c.nearLimit && Scalar.isPercent c.derated && Scalar.isPercent c.critical)
      "concurrency ceilings must lie in [0, 100]",
    orInvalid (Scalar.le c.warm c.normal && Scalar.le c.nearLimit c.warm &&
        Scalar.le c.derated c.nearLimit && Scalar.le c.critical c.derated)
      "concurrency ceilings must be monotonically non-increasing with severity",
    orLimit (p.coupling.maxPropagationDepth ≤ 8)
      "coupling propagation depth above the supported bound",
    orInvalid (p.allowedIntents / 2 ^ MitigationIntent.count == 0)
      "allowed intent mask contains undefined intent bits",
    orLimit (p.workloadRestrictions.length ≤ 64) "too many workload restrictions" ] ++
  restrictionChecks [] p.workloadRestrictions

/-- Deterministic policy validation. -/
def validatePolicy (p : PolicyOver R) : Status := runChecks (policyChecks p)

/-- **An accepted policy passes every check.** -/
theorem validatePolicy_eq_ok {p : PolicyOver R} :
    validatePolicy p = .ok () ↔ ∀ check ∈ policyChecks p, check.holds = true :=
  runChecks_eq_ok

/-- Every check of an accepted policy holds. -/
theorem holds_of_valid {p : PolicyOver R} (h : validatePolicy p = .ok ()) {i : Nat}
    {check : Check} (hi : (policyChecks p)[i]? = some check) : check.holds = true :=
  validatePolicy_eq_ok.mp h check (List.mem_of_getElem? hi)

end Validation

/-- The default policy passes its own validation. -/
theorem validatePolicy_makeDefault : validatePolicy PolicyOver.makeDefault = .ok () := by
  decide +kernel

/-! ### Reading a policy -/

/-- The intent mask permits the intent. -/
def policyAllows {R : Type} (p : PolicyOver R) (i : MitigationIntent) : Bool :=
  p.allowedIntents.testBit i.index

/-- The effective headroom demanded for a workload profile. -/
def workloadHeadroomDemand (p : ThermalPolicy) (profile : WorkloadThermalProfile) : ℚ :=
  match p.workloadRestrictions.find? fun r => r.profile = profile with
  | some r => r.extraHeadroomDemand
  | none => 0

/-- The execution class required for a profile; `none` when it is excluded or unlisted. -/
def workloadExecutionClass (p : ThermalPolicy) (profile : WorkloadThermalProfile) :
    Option ExecutionClass :=
  match p.workloadRestrictions.find? fun r => r.profile = profile with
  | some r => if r.allowed then some r.requiredClass else none
  | none => none

end ThermalGovernor
