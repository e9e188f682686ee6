import Mathlib.Data.List.Sort
import ThermalGovernor.Core.Format
import ThermalGovernor.Core.Identity
import ThermalGovernor.Core.Vocabulary

/-!
# The vocabulary of decisions

What an evaluation answers with: the decision, the derating level, the
mitigation intents it asks adjacent systems for, and the reason codes that
explain it.  A derating level has a restriction rank, and `mostRestrictive`
takes the higher one, so clamping a candidate with the previous level can only
tighten it (`rank_le_mostRestrictive_left` and `…_right`).

Reason codes and intents are kept in canonical order: two evaluations of equal
inputs give equal lists.
-/

namespace ThermalGovernor

/-! ### Workloads -/

/-- Caller-supplied thermal hint about a workload; a policy input, not a measurement. -/
inductive WorkloadThermalProfile
  | unknownProfile | lowThermalIntensity | moderateThermalIntensity | highThermalIntensity
  | burstyThermalProfile | custom
  deriving DecidableEq

def WorkloadThermalProfile.text : WorkloadThermalProfile → String
  | unknownProfile => "UNKNOWN_PROFILE"
  | lowThermalIntensity => "LOW_THERMAL_INTENSITY"
  | moderateThermalIntensity => "MODERATE_THERMAL_INTENSITY"
  | highThermalIntensity => "HIGH_THERMAL_INTENSITY"
  | burstyThermalProfile => "BURSTY_THERMAL_PROFILE"
  | custom => "CUSTOM"

/-- Execution class a workload may require. -/
inductive ExecutionClass
  | unrestricted | reducedConcurrency | reducedClock | bestEffortThermal
  deriving DecidableEq

def ExecutionClass.text : ExecutionClass → String
  | unrestricted => "UNRESTRICTED"
  | reducedConcurrency => "REDUCED_CONCURRENCY"
  | reducedClock => "REDUCED_CLOCK"
  | bestEffortThermal => "BEST_EFFORT_THERMAL"

/-! ### Decisions -/

inductive ThermalDecision
  | allow | allowDerated | defer | deny | revalidationRequired | unknown | unsupported
  deriving DecidableEq

def ThermalDecision.text : ThermalDecision → String
  | allow => "ALLOW"
  | allowDerated => "ALLOW_DERATED"
  | defer => "DEFER"
  | deny => "DENY"
  | revalidationRequired => "REVALIDATION_REQUIRED"
  | unknown => "UNKNOWN"
  | unsupported => "UNSUPPORTED"

/-- Explicit derating forms. -/
inductive DeratingLevel
  | fullCapability | deratedClock | deratedAdmission | deratedConcurrency
  | deratedWorkloadClass | deratedCombined | noSafeExecution | revalidationRequired
  | unknown | unsupported
  deriving DecidableEq

namespace DeratingLevel

def text : DeratingLevel → String
  | fullCapability => "FULL_CAPABILITY"
  | deratedClock => "DERATED_CLOCK"
  | deratedAdmission => "DERATED_ADMISSION"
  | deratedConcurrency => "DERATED_CONCURRENCY"
  | deratedWorkloadClass => "DERATED_WORKLOAD_CLASS"
  | deratedCombined => "DERATED_COMBINED"
  | noSafeExecution => "NO_SAFE_EXECUTION"
  | revalidationRequired => "REVALIDATION_REQUIRED"
  | unknown => "UNKNOWN"
  | unsupported => "UNSUPPORTED"

/-- Restriction severity; higher is more restrictive. -/
def restrictionRank : DeratingLevel → Nat
  | fullCapability => 0
  | deratedWorkloadClass => 1
  | deratedClock => 2
  | deratedAdmission => 3
  | deratedConcurrency => 4
  | deratedCombined => 5
  | noSafeExecution => 6
  | revalidationRequired => 7
  | unknown => 8
  | unsupported => 9

/-- The more restrictive of two levels. -/
def mostRestrictive (a b : DeratingLevel) : DeratingLevel :=
  if b.restrictionRank ≤ a.restrictionRank then a else b

theorem rank_le_mostRestrictive_left (a b : DeratingLevel) :
    a.restrictionRank ≤ (mostRestrictive a b).restrictionRank := by
  unfold mostRestrictive
  split <;> omega

theorem rank_le_mostRestrictive_right (a b : DeratingLevel) :
    b.restrictionRank ≤ (mostRestrictive a b).restrictionRank := by
  unfold mostRestrictive
  split <;> omega

theorem mostRestrictive_eq_or (a b : DeratingLevel) :
    mostRestrictive a b = a ∨ mostRestrictive a b = b := by
  unfold mostRestrictive
  split
  · exact .inl rfl
  · exact .inr rfl

end DeratingLevel

/-! ### Mitigation intents -/

/-- Typed intents emitted toward adjacent systems. -/
inductive MitigationIntent
  | noAction | requestClockReduction | requestClockRestore | requestPowerReduction
  | requestPowerRestore | requestAdmissionReduction | requestAdmissionRestore
  | requestConcurrencyReduction | requestConcurrencyRestore | requestWorkloadMigration
  | requestContainment | requestCoolingIntervention
  deriving DecidableEq

namespace MitigationIntent

/-- The number of intents. -/
def count : Nat := 12

/-- The position of the intent in the enumeration, its bit in an intent mask. -/
def index : MitigationIntent → Nat
  | noAction => 0
  | requestClockReduction => 1
  | requestClockRestore => 2
  | requestPowerReduction => 3
  | requestPowerRestore => 4
  | requestAdmissionReduction => 5
  | requestAdmissionRestore => 6
  | requestConcurrencyReduction => 7
  | requestConcurrencyRestore => 8
  | requestWorkloadMigration => 9
  | requestContainment => 10
  | requestCoolingIntervention => 11

def text : MitigationIntent → String
  | noAction => "NO_ACTION"
  | requestClockReduction => "REQUEST_CLOCK_REDUCTION"
  | requestClockRestore => "REQUEST_CLOCK_RESTORE"
  | requestPowerReduction => "REQUEST_POWER_REDUCTION"
  | requestPowerRestore => "REQUEST_POWER_RESTORE"
  | requestAdmissionReduction => "REQUEST_ADMISSION_REDUCTION"
  | requestAdmissionRestore => "REQUEST_ADMISSION_RESTORE"
  | requestConcurrencyReduction => "REQUEST_CONCURRENCY_REDUCTION"
  | requestConcurrencyRestore => "REQUEST_CONCURRENCY_RESTORE"
  | requestWorkloadMigration => "REQUEST_WORKLOAD_MIGRATION"
  | requestContainment => "REQUEST_CONTAINMENT"
  | requestCoolingIntervention => "REQUEST_COOLING_INTERVENTION"

/-- `intent_bit`. -/
def bit (i : MitigationIntent) : Nat := 2 ^ i.index

/-- The intent relaxes a restriction rather than tightening one. -/
def isRestoring : MitigationIntent → Bool
  | requestClockRestore | requestPowerRestore | requestAdmissionRestore
  | requestConcurrencyRestore => true
  | _ => false

end MitigationIntent

/-- A mitigation instruction.  The source's generation and restriction fields are never
filled in by an evaluation and keep their zero values. -/
structure MitigationIntentRecord where
  intent : MitigationIntent := .noAction
  domain : ThermalDomainId := 0
  domainGeneration : ThermalDomainGeneration := 0
  device : DeviceId := 0
  deviceGeneration : DeviceGeneration := 0
  clockCeiling : Option MegaHertz := none
  concurrencyCeiling : Option ℚ := none
  admissionCeiling : Option ℚ := none
  rationale : String := ""

namespace MitigationIntentRecord

/-- Order by intent, then domain, then rationale. -/
def before (a b : MitigationIntentRecord) : Bool :=
  if a.intent ≠ b.intent then a.intent.index < b.intent.index
  else if a.domain ≠ b.domain then a.domain < b.domain
  else decide (a.rationale < b.rationale)

/-- The fields that make two records duplicates. -/
def same (a b : MitigationIntentRecord) : Bool :=
  a.intent = b.intent && a.domain = b.domain && a.domainGeneration = b.domainGeneration &&
    a.rationale = b.rationale && a.clockCeiling = b.clockCeiling &&
    a.concurrencyCeiling = b.concurrencyCeiling && a.admissionCeiling = b.admissionCeiling

end MitigationIntentRecord

/-- The intents of one evaluation. -/
abbrev MitigationIntentSet := List MitigationIntentRecord

namespace MitigationIntentSet

/-- Keep `kept` and drop what repeats it, as `std::unique` does. -/
def dropRepeated (kept : MitigationIntentRecord) : MitigationIntentSet → MitigationIntentSet
  | [] => [kept]
  | a :: rest => if kept.same a then dropRepeated kept rest else kept :: dropRepeated a rest

/-- Sort into canonical order and drop exact duplicates. -/
def canonicalise (s : MitigationIntentSet) : MitigationIntentSet :=
  match s.insertionSort fun a b => ! b.before a with
  | [] => []
  | a :: rest => dropRepeated a rest

def contains (s : MitigationIntentSet) (intent : MitigationIntent) : Bool :=
  s.any fun r => r.intent = intent

end MitigationIntentSet

/-! ### Reasons -/

/-- Machine-readable reason codes attached to every decision. -/
inductive ThermalReasonCode
  | none
  | temperatureBelowWarning | temperatureInWarningBand | temperatureInNearLimitBand
  | deratingThresholdExceeded | criticalThresholdExceeded
  | thermalThrottleObserved | nonThermalThrottleObserved | noThrottleObserved
  | throttleEvidenceUnsupported | throttleEvidenceUnknown
  | evidenceMissing | evidenceStale | evidenceGenerationInvalidated | evidenceIntegrityFailed
  | evidenceConflict | capabilityUnsupported | policyUnknownBehaviorApplied
  | policyUnsupportedBehaviorApplied | capabilityUnresolved
  | effectiveHeadroomSufficient | effectiveHeadroomBelowDemand | rawHeadroomNegative
  | vendorLimitGoverns | policyLimitGoverns
  | recoveryThresholdSatisfied | recoveryThresholdExceeded | recoverySamplesInsufficient
  | recoveryEvidenceSpanInsufficient | recoveryForbiddenByPolicy
  | recoveryRequiresExplicitAuthorization | recoveryAuthorized | recoveryWitnessesInsufficient
  | recoveryBlockedByCoupledDomain | recoveryBlockedByThrottleEvidence
  | coupledDomainPressure | coupledDomainRecovered | couplingProvenanceSynthetic
  | workloadProfileExcluded | workloadRequiresDerating | workloadHeadroomDemandMet
  | workloadProfileUnknown
  | emergencyContainmentRequired | emergencyExecutionDenied
  | admissionDeferredByPolicy | deratedAdmissionAllowed | deratedAdmissionForbidden
  | concurrencyCeilingApplied
  | stateRetainedByHysteresis | authorityRevalidated | deratingCannotExpand
  deriving DecidableEq

namespace ThermalReasonCode

/-- The numeric value of the code, by which a set is ordered. -/
def value : ThermalReasonCode → Nat
  | none => 0
  | temperatureBelowWarning => 1
  | temperatureInWarningBand => 2
  | temperatureInNearLimitBand => 3
  | deratingThresholdExceeded => 4
  | criticalThresholdExceeded => 5
  | thermalThrottleObserved => 10
  | nonThermalThrottleObserved => 11
  | noThrottleObserved => 12
  | throttleEvidenceUnsupported => 13
  | throttleEvidenceUnknown => 14
  | evidenceMissing => 20
  | evidenceStale => 21
  | evidenceGenerationInvalidated => 22
  | evidenceIntegrityFailed => 23
  | evidenceConflict => 24
  | capabilityUnsupported => 25
  | policyUnknownBehaviorApplied => 26
  | policyUnsupportedBehaviorApplied => 27
  | capabilityUnresolved => 28
  | effectiveHeadroomSufficient => 30
  | effectiveHeadroomBelowDemand => 31
  | rawHeadroomNegative => 32
  | vendorLimitGoverns => 33
  | policyLimitGoverns => 34
  | recoveryThresholdSatisfied => 40
  | recoveryThresholdExceeded => 41
  | recoverySamplesInsufficient => 42
  | recoveryEvidenceSpanInsufficient => 43
  | recoveryForbiddenByPolicy => 44
  | recoveryRequiresExplicitAuthorization => 45
  | recoveryAuthorized => 46
  | recoveryWitnessesInsufficient => 47
  | recoveryBlockedByCoupledDomain => 48
  | recoveryBlockedByThrottleEvidence => 49
  | coupledDomainPressure => 60
  | coupledDomainRecovered => 61
  | couplingProvenanceSynthetic => 62
  | workloadProfileExcluded => 70
  | workloadRequiresDerating => 71
  | workloadHeadroomDemandMet => 72
  | workloadProfileUnknown => 73
  | emergencyContainmentRequired => 80
  | emergencyExecutionDenied => 81
  | admissionDeferredByPolicy => 90
  | deratedAdmissionAllowed => 91
  | deratedAdmissionForbidden => 92
  | concurrencyCeilingApplied => 93
  | stateRetainedByHysteresis => 100
  | authorityRevalidated => 101
  | deratingCannotExpand => 102

def text : ThermalReasonCode → String
  | none => "NONE"
  | temperatureBelowWarning => "TEMPERATURE_BELOW_WARNING"
  | temperatureInWarningBand => "TEMPERATURE_IN_WARNING_BAND"
  | temperatureInNearLimitBand => "TEMPERATURE_IN_NEAR_LIMIT_BAND"
  | deratingThresholdExceeded => "DERATING_THRESHOLD_EXCEEDED"
  | criticalThresholdExceeded => "CRITICAL_THRESHOLD_EXCEEDED"
  | thermalThrottleObserved => "THERMAL_THROTTLE_OBSERVED"
  | nonThermalThrottleObserved => "NON_THERMAL_THROTTLE_OBSERVED"
  | noThrottleObserved => "NO_THROTTLE_OBSERVED"
  | throttleEvidenceUnsupported => "THROTTLE_EVIDENCE_UNSUPPORTED"
  | throttleEvidenceUnknown => "THROTTLE_EVIDENCE_UNKNOWN"
  | evidenceMissing => "EVIDENCE_MISSING"
  | evidenceStale => "EVIDENCE_STALE"
  | evidenceGenerationInvalidated => "EVIDENCE_GENERATION_INVALIDATED"
  | evidenceIntegrityFailed => "EVIDENCE_INTEGRITY_FAILED"
  | evidenceConflict => "EVIDENCE_CONFLICT"
  | capabilityUnsupported => "CAPABILITY_UNSUPPORTED"
  | policyUnknownBehaviorApplied => "POLICY_UNKNOWN_BEHAVIOR_APPLIED"
  | policyUnsupportedBehaviorApplied => "POLICY_UNSUPPORTED_BEHAVIOR_APPLIED"
  | capabilityUnresolved => "CAPABILITY_UNRESOLVED"
  | effectiveHeadroomSufficient => "EFFECTIVE_HEADROOM_SUFFICIENT"
  | effectiveHeadroomBelowDemand => "EFFECTIVE_HEADROOM_BELOW_DEMAND"
  | rawHeadroomNegative => "RAW_HEADROOM_NEGATIVE"
  | vendorLimitGoverns => "VENDOR_LIMIT_GOVERNS"
  | policyLimitGoverns => "POLICY_LIMIT_GOVERNS"
  | recoveryThresholdSatisfied => "RECOVERY_THRESHOLD_SATISFIED"
  | recoveryThresholdExceeded => "RECOVERY_THRESHOLD_EXCEEDED"
  | recoverySamplesInsufficient => "RECOVERY_SAMPLES_INSUFFICIENT"
  | recoveryEvidenceSpanInsufficient => "RECOVERY_EVIDENCE_SPAN_INSUFFICIENT"
  | recoveryForbiddenByPolicy => "RECOVERY_FORBIDDEN_BY_POLICY"
  | recoveryRequiresExplicitAuthorization => "RECOVERY_REQUIRES_EXPLICIT_AUTHORIZATION"
  | recoveryAuthorized => "RECOVERY_AUTHORIZED"
  | recoveryWitnessesInsufficient => "RECOVERY_WITNESSES_INSUFFICIENT"
  | recoveryBlockedByCoupledDomain => "RECOVERY_BLOCKED_BY_COUPLED_DOMAIN"
  | recoveryBlockedByThrottleEvidence => "RECOVERY_BLOCKED_BY_THROTTLE_EVIDENCE"
  | coupledDomainPressure => "COUPLED_DOMAIN_PRESSURE"
  | coupledDomainRecovered => "COUPLED_DOMAIN_RECOVERED"
  | couplingProvenanceSynthetic => "COUPLING_PROVENANCE_SYNTHETIC"
  | workloadProfileExcluded => "WORKLOAD_PROFILE_EXCLUDED"
  | workloadRequiresDerating => "WORKLOAD_REQUIRES_DERATING"
  | workloadHeadroomDemandMet => "WORKLOAD_HEADROOM_DEMAND_MET"
  | workloadProfileUnknown => "WORKLOAD_PROFILE_UNKNOWN"
  | emergencyContainmentRequired => "EMERGENCY_CONTAINMENT_REQUIRED"
  | emergencyExecutionDenied => "EMERGENCY_EXECUTION_DENIED"
  | admissionDeferredByPolicy => "ADMISSION_DEFERRED_BY_POLICY"
  | deratedAdmissionAllowed => "DERATED_ADMISSION_ALLOWED"
  | deratedAdmissionForbidden => "DERATED_ADMISSION_FORBIDDEN"
  | concurrencyCeilingApplied => "CONCURRENCY_CEILING_APPLIED"
  | stateRetainedByHysteresis => "STATE_RETAINED_BY_HYSTERESIS"
  | authorityRevalidated => "AUTHORITY_REVALIDATED"
  | deratingCannotExpand => "DERATING_CANNOT_EXPAND"

end ThermalReasonCode

/-- A reason-code set, in the order of discovery until it is canonicalised. -/
abbrev ReasonCodeSet := List ThermalReasonCode

namespace ReasonCodeSet

/-- Add a code that is not there yet; `none` is never added. -/
def add (s : ReasonCodeSet) (code : ThermalReasonCode) : ReasonCodeSet :=
  if code = .none ∨ code ∈ s then s else s ++ [code]

/-- Add a code under a condition. -/
def addIf (s : ReasonCodeSet) (condition : Bool) (code : ThermalReasonCode) : ReasonCodeSet :=
  if condition then s.add code else s

def canonicalise (s : ReasonCodeSet) : ReasonCodeSet :=
  s.insertionSort fun a b => a.value ≤ b.value

def render (s : ReasonCodeSet) : String :=
  if s.isEmpty then "<none>" else Format.join (s.map ThermalReasonCode.text) ","

theorem mem_add {s : ReasonCodeSet} {code c : ThermalReasonCode} :
    c ∈ s.add code ↔ c ∈ s ∨ (c = code ∧ code ≠ .none) := by
  unfold add
  split
  · rename_i h
    constructor
    · exact .inl
    · rintro (hc | ⟨rfl, hne⟩)
      · exact hc
      · rcases h with rfl | h
        · exact absurd rfl hne
        · exact h
  · rename_i h
    rw [not_or] at h
    simp only [List.mem_append, List.mem_singleton]
    constructor
    · rintro (hc | rfl)
      · exact .inl hc
      · exact .inr ⟨rfl, h.1⟩
    · rintro (hc | ⟨rfl, _⟩)
      · exact .inl hc
      · exact .inr rfl

/-- A set built by `add` has no code twice. -/
theorem nodup_add {s : ReasonCodeSet} (h : s.Nodup) (code : ThermalReasonCode) :
    (s.add code).Nodup := by
  unfold add
  split
  · exact h
  · rename_i hne
    rw [not_or] at hne
    refine List.nodup_append.mpr ⟨h, by simp, ?_⟩
    intro a ha b hb
    obtain rfl := List.mem_singleton.mp hb
    rintro rfl
    exact hne.2 ha

end ReasonCodeSet

end ThermalGovernor
