import ThermalGovernor.Durable.Records
import ThermalGovernor.Governor.Explain
import ThermalGovernor.Session.Texts

/-!
# The records as the coordinator prints them

One text for each kind of record, its lines in the order of the source.  The rows of the
listings come last: a listing is its rows and nothing else.
-/

namespace ThermalGovernor

open Lib Format

/-! ### Names -/

def ThermalCapability.text : ThermalCapability → String
  | deviceIdentity => "DEVICE_IDENTITY"
  | temperature => "TEMPERATURE"
  | temperatureLimit => "TEMPERATURE_LIMIT"
  | temperatureThresholdShutdown => "TEMPERATURE_THRESHOLD_SHUTDOWN"
  | temperatureThresholdSlowdown => "TEMPERATURE_THRESHOLD_SLOWDOWN"
  | throttleReasons => "THROTTLE_REASONS"
  | currentClock => "CURRENT_CLOCK"
  | maxClock => "MAX_CLOCK"
  | fanTelemetry => "FAN_TELEMETRY"
  | coolingTelemetry => "COOLING_TELEMETRY"
  | thermalDomainMetadata => "THERMAL_DOMAIN_METADATA"
  | nodeThermalMetadata => "NODE_THERMAL_METADATA"
  | rackThermalMetadata => "RACK_THERMAL_METADATA"
  | actualThrottleEnforcement => "ACTUAL_THROTTLE_ENFORCEMENT"
  | clockReductionEnforcement => "CLOCK_REDUCTION_ENFORCEMENT"

def UnknownBehavior.text : UnknownBehavior → String
  | returnUnknown => "RETURN_UNKNOWN"
  | revalidationRequired => "REVALIDATION_REQUIRED"
  | defer => "DEFER"
  | deny => "DENY"
  | allowDerated => "ALLOW_DERATED"

def UnsupportedBehavior.text : UnsupportedBehavior → String
  | returnUnsupported => "RETURN_UNSUPPORTED"
  | revalidationRequired => "REVALIDATION_REQUIRED"
  | defer => "DEFER"
  | deny => "DENY"

def ActionLifecycle.text : ActionLifecycle → String
  | planned => "PLANNED"
  | authorized => "AUTHORIZED"
  | dispatched => "DISPATCHED"
  | acknowledged => "ACKNOWLEDGED"
  | verifying => "VERIFYING"
  | effective => "EFFECTIVE"
  | partiallyEffective => "PARTIALLY_EFFECTIVE"
  | ineffective => "INEFFECTIVE"
  | worsened => "WORSENED"
  | failed => "FAILED"
  | superseded => "SUPERSEDED"
  | cancelled => "CANCELLED"
  | outcomeUnknown => "OUTCOME_UNKNOWN"

def CancellationResult.text : CancellationResult → String
  | cancelledBeforeDispatch => "CANCELLED_BEFORE_DISPATCH"
  | cancelledAfterDispatch => "CANCELLED_AFTER_DISPATCH"
  | verificationRequired => "VERIFICATION_REQUIRED"
  | alreadyEffective => "ALREADY_EFFECTIVE"
  | outcomeUnknown => "OUTCOME_UNKNOWN"

def VerificationOutcome.text : VerificationOutcome → String
  | outcomeUnknown => "OUTCOME_UNKNOWN"
  | thermalStateImproved => "THERMAL_STATE_IMPROVED"
  | thermalStateUnchanged => "THERMAL_STATE_UNCHANGED"
  | thermalStateWorsened => "THERMAL_STATE_WORSENED"
  | deratingEffective => "DERATING_EFFECTIVE"
  | deratingPartiallyEffective => "DERATING_PARTIALLY_EFFECTIVE"
  | deratingIneffective => "DERATING_INEFFECTIVE"
  | secondaryViolationCreated => "SECONDARY_VIOLATION_CREATED"
  | recoveryAllowed => "RECOVERY_ALLOWED"
  | recoveryForbidden => "RECOVERY_FORBIDDEN"

/-! ### The state -/

def GovernanceSnapshot.renderSummary (s : GovernanceSnapshot) : String :=
  sheet
    [("CoordinatorId", decimal s.coordinator),
     ("CoordinatorEpoch", decimal s.coordinatorEpoch),
     ("ThermalPolicyGeneration", decimal s.policyGeneration),
     ("TopologyGeneration", decimal s.topologyGeneration),
     ("CapabilityGeneration", decimal s.capabilityGeneration),
     ("Domains", decimal (Table.size s.domains)),
     ("Devices", decimal (Table.size s.devices)),
     ("Workers", decimal (Table.size s.workers)),
     ("Actions", decimal (Table.size s.actions)),
     ("HistoricalTransitions", decimal s.historicalTransitions),
     ("HistoricalActions", decimal s.historicalActions),
     ("HistoricalVerifications", decimal s.historicalVerifications),
     ("Policies", decimal (Table.size s.policies)),
     ("Couplings", decimal s.couplings.length)]

/-- A capability with what is said of it, if anything is. -/
def capabilityText (set : CapabilitySet) (c : ThermalCapability) : String :=
  c.text ++ ": " ++ (set.get c).text ++
    (if (set.details c).isEmpty then "" else " (" ++ set.details c ++ ")")

def CapabilitySet.render (set : CapabilitySet) : String :=
  join (Durable.allCapabilities.map (capabilityText set)) "\n"

/-- The answer about one device. -/
def renderDevice (id : DeviceId) (device : DeviceSnapshot) : String :=
  sheet
    [("DeviceId", decimal id),
     ("DeviceGeneration", decimal device.registration.generation),
     ("ThermalState", device.state.text),
     ("Provenance", device.registration.provenance.text),
     ("Temperature", (device.temperature.map printed).getD "<unknown>")] ++
  device.registration.capabilities.render ++ "\n"

def renderHeadroom (h : HeadroomBreakdown) : String :=
  sheet
    [("PolicyMaximumLegalTemperature", printed h.policyCritical),
     ("VendorTemperatureLimit", (h.vendorLimit.map printed).getD "<unsupported>"),
     ("GoverningLimit", printed h.governingLimit),
     ("CurrentTemperature", printed h.currentTemperature),
     ("RawHeadroom", printed h.rawHeadroom),
     ("PolicySafetyMargin", printed h.policySafetyMargin),
     ("UncertaintyMargin", printed h.uncertaintyMargin),
     ("EffectiveHeadroom", printed h.effectiveHeadroom),
     ("RecoveryThreshold", printed h.recoveryThreshold),
     ("RecoveryMargin", printed h.recoveryMargin),
     ("DistanceAboveRecoveryGate", printed h.distanceAboveRecoveryGate)]

/-- The answer to an evaluation. -/
def renderEvaluation (e : ThermalEvaluation) : String :=
  sheet
    [("State", e.state.text),
     ("Decision", e.decision.text),
     ("Derating", e.derating.text),
     ("Temperature", printed e.headroom.currentTemperature),
     ("Headroom", sixDecimals e.headroom.effectiveHeadroom),
     ("Throttle", e.throttleClass.text),
     ("RecoveryAllowed", Explanation.flag e.recovery.allowed),
     ("Provenance", e.provenance.text),
     ("Reasons", e.reasons.render)]

def renderEnvelope (e : ThermalEnvelope) : String :=
  sheet
    [("ThermalDomainId", decimal e.domain),
     ("ThermalDomainGeneration", decimal e.domainGeneration),
     ("SubjectKind", e.subjectKind.text),
     ("ThermalState", e.state.text),
     ("Derating", e.derating.text),
     ("Decision", e.decision.text),
     ("MaximumLegalTemperature", printed e.maximumLegalTemperature),
     ("VendorTemperatureLimit", (e.vendorTemperatureLimit.map printed).getD "<unsupported>"),
     ("EffectiveHeadroom", printed e.headroom.effectiveHeadroom),
     ("PermittedConcurrency", printed e.permittedConcurrency),
     ("PermittedExecutionClass", e.permittedExecutionClass.text),
     ("PermittedClockCeilingMHz", (e.permittedClockCeiling.map decimal).getD "<unconstrained>"),
     ("PermittedWorkloadIntensity", printed e.permittedWorkloadIntensity),
     ("ThrottleClass", e.throttleClass.text),
     ("Provenance", e.provenance.text)] ++
  itemized "ProhibitedIntents" (e.prohibitedIntents.map MitigationIntent.text) ++
  itemized "RequiredMitigation" (e.requiredMitigation.map fun record => record.intent.text) ++
  sheet
    [("Reasons", e.reasons.render),
     ("CoordinatorEpoch", decimal e.coordinatorEpoch),
     ("ThermalPolicyGeneration", decimal e.policyGeneration),
     ("TelemetryGeneration", decimal e.telemetryGeneration),
     ("CapabilityGeneration", decimal e.capabilityGeneration),
     ("TopologyGeneration", decimal e.topologyGeneration),
     ("RecoveryGeneration", decimal e.recoveryGeneration)]

def renderAdmission (r : ThermalAdmissionResult) : String :=
  sheet
    [("Admission", r.decision.text),
     ("ThermalDomainId", decimal r.domain),
     ("ThermalDomainGeneration", decimal r.domainGeneration),
     ("WorkloadId", decimal r.workload),
     ("WorkloadProfile", r.profile.text),
     ("ThermalState", r.state.text),
     ("Derating", r.derating.text),
     ("PermittedExecutionClass", r.permittedClass.text),
     ("PermittedConcurrency", printed r.permittedConcurrency),
     ("PermittedClockCeilingMHz", (r.permittedClockCeiling.map decimal).getD "<unconstrained>"),
     ("GoverningLimit", printed r.governingLimit),
     ("CurrentTemperature", printed r.currentTemperature),
     ("EffectiveHeadroom", printed r.effectiveHeadroom),
     ("RequiredHeadroom", printed r.requiredHeadroom),
     ("Reasons", r.reasons.render)] ++
  itemized "Constraints" (r.constraints.map Explanation.intentBullet) ++
  sheet
    [("CoordinatorEpoch", decimal r.coordinatorEpoch),
     ("ThermalPolicyGeneration", decimal r.policyGeneration),
     ("TelemetryGeneration", decimal r.telemetryGeneration),
     ("CapabilityGeneration", decimal r.capabilityGeneration),
     ("TopologyGeneration", decimal r.topologyGeneration)]

def renderVerification (v : ActionVerification) : String :=
  sheet
    [("ActionId", decimal v.actionId),
     ("VerificationGeneration", decimal v.generation),
     ("Outcome", v.outcome.text),
     ("ResultingLifecycle", v.resultingLifecycle.text),
     ("TemperatureBefore", printed v.temperatureBefore),
     ("TemperatureAfter", printed v.temperatureAfter),
     ("Delta", printedSigned v.delta),
     ("HeadroomBefore", printed v.headroomBefore),
     ("HeadroomAfter", printed v.headroomAfter),
     ("StateBefore", v.stateBefore.text),
     ("StateAfter", v.stateAfter.text),
     ("DeratingBefore", v.deratingBefore.text),
     ("DeratingAfter", v.deratingAfter.text),
     ("HardConstraintStillViolated", Explanation.flag v.hardConstraintStillViolated),
     ("DeratingStillRequired", Explanation.flag v.deratingStillRequired),
     ("RecoveryConditionsSatisfied", Explanation.flag v.recoveryConditionsSatisfied),
     ("Reasons", v.reasons.render)]

/-- The explanation of an assessment.  The source takes a policy as well and reads nothing of
it. -/
def buildRecoveryExplanation (r : RecoveryAssessment) (_policy : ThermalPolicy) : Explanation where
  sections :=
    [{ title := "Recovery"
       lines :=
        [⟨"Allowed", Explanation.flag r.allowed⟩,
         ⟨"RecoveryThreshold", Format.temperature r.recoveryThreshold⟩,
         ⟨"RecoveryMargin", number r.recoveryMargin⟩,
         ⟨"CurrentTemperature", Format.temperature r.currentTemperature⟩,
         ⟨"EffectiveHeadroom", number r.effectiveHeadroom⟩,
         ⟨"QualifyingSamples", unsignedDecimal r.qualifyingSamples ++ "/" ++
           unsignedDecimal r.requiredSamples⟩,
         ⟨"QualifyingSpanMs", millis r.qualifyingSpan ++ "/" ++ millis r.requiredSpan⟩,
         ⟨"DistinctWitnesses", unsignedDecimal r.distinctWitnesses ++ "/" ++
           unsignedDecimal r.requiredWitnesses⟩,
         ⟨"TemperatureBelowThreshold", Explanation.flag r.temperatureBelowThreshold⟩,
         ⟨"HeadroomSatisfied", Explanation.flag r.headroomRequirementSatisfied⟩,
         ⟨"ThrottleClear", Explanation.flag r.throttleClear⟩,
         ⟨"GenerationBindingOk", Explanation.flag r.generationBindingOk⟩,
         ⟨"CoupledDomainsSatisfied", Explanation.flag r.coupledDomainsSatisfied⟩,
         ⟨"ExplicitAuthorization", Explanation.flag r.explicitAuthorizationPresent⟩,
         ⟨"Reasons", r.blockingReasons.render⟩] }]

/-! ### Policies -/

/-- The intents the policy permits, in their order; taking no action is not one of them. -/
def permittedIntents (policy : ThermalPolicy) : List MitigationIntent :=
  ((List.range MitigationIntent.count).map MitigationIntent.ofNat).filter fun intent =>
    intent ≠ .noAction && policyAllows policy intent

def restrictionText (r : WorkloadRestriction ℚ) : String :=
  r.profile.text ++ " allowed=" ++ Explanation.flag r.allowed ++ " class=" ++
    r.requiredClass.text ++ " extraHeadroom=" ++ printed r.extraHeadroomDemand

def renderPolicy (policy : ThermalPolicy) : String :=
  sheet
    [("Policy", if policy.label.isEmpty then "<unlabelled>" else policy.label),
     ("ThermalPolicyId", decimal policy.id),
     ("ThermalPolicyGeneration", decimal policy.generation),
     ("Warning", printed policy.thresholds.warning),
     ("NearLimitStart", printed policy.thresholds.nearLimitStart),
     ("Derating", printed policy.thresholds.derating),
     ("Critical", printed policy.thresholds.critical),
     ("Recovery", printed policy.thresholds.recovery),
     ("HysteresisWidth", printed (policy.thresholds.derating - policy.thresholds.recovery)),
     ("SafetyMargin", printed policy.margins.policySafetyMargin),
     ("UncertaintyMargin", printed policy.margins.uncertaintyMargin),
     ("RecoveryMargin", printed policy.margins.recoveryMargin),
     ("MaxEvidenceAgeMs", printedMillis policy.freshness.maxAge),
     ("RequiredRecoverySamples", decimal policy.freshness.requiredConsecutiveSamples),
     ("MinEvidenceSpanMs", printedMillis policy.freshness.minEvidenceSpan),
     ("UnknownBehavior", policy.unknownBehavior.text),
     ("UnsupportedBehavior", policy.unsupportedBehavior.text),
     ("CoDerateCoupledDomains", Explanation.flag policy.coupling.coDerateCoupledDomains),
     ("MaxPropagationDepth", decimal policy.coupling.maxPropagationDepth),
     ("RequireCoupledRecovery", Explanation.flag policy.coupling.requireCoupledRecovery)] ++
  ("AllowedIntents:" ++
    (if (permittedIntents policy).isEmpty then " <none>"
     else String.join ((permittedIntents policy).map fun intent => " " ++ intent.text)) ++ "\n") ++
  itemized "WorkloadRestrictions" (policy.workloadRestrictions.map restrictionText)

/-! ### The rows of the listings -/

def domainRow (key : ThermalDomainId) (domain : ThermalDomainSnapshot) : String :=
  decimal key ++ " " ++ domain.state.text ++ " " ++ domain.derating.text ++ "\n"

def deviceRow (key : DeviceId) (device : DeviceSnapshot) : String :=
  decimal key ++ " gen=" ++ decimal device.registration.generation ++ " " ++ device.state.text ++
    ((device.temperature.map fun t => " " ++ printed t ++ "C").getD "") ++ "\n"

def historyRow (r : StateTransitionRecord) : String :=
  decimal r.domain ++ " " ++ r.source.text ++ " -> " ++ r.target.text ++ " epoch=" ++
    decimal r.coordinatorEpoch ++ " seq=" ++ decimal r.sequence ++ "\n"

def renderAction (a : ThermalAction) : String :=
  sheet
    ([("ActionId", decimal a.id),
      ("ActionGeneration", decimal a.generation),
      ("Intent", a.intent.text),
      ("Lifecycle", a.lifecycle.text),
      ("ThermalDomainId", decimal a.authority.domain),
      ("ThermalDomainGeneration", decimal a.authority.domainGeneration),
      ("CoordinatorEpoch", decimal a.authority.coordinatorEpoch),
      ("ThermalPolicyGeneration", decimal a.authority.policyGeneration),
      ("TelemetryGeneration", decimal a.authority.telemetryGeneration),
      ("TopologyGeneration", decimal a.authority.topologyGeneration),
      ("CapabilityGeneration", decimal a.authority.capabilityGeneration),
      ("WorkerId", decimal a.authority.worker),
      ("WorkerBootId", decimal a.authority.workerBoot),
      ("DeviceId", decimal a.authority.device),
      ("DeviceGeneration", decimal a.authority.deviceGeneration)] ++
     (a.requestedClockCeiling.map fun c => ("RequestedClockCeilingMHz", decimal c)).toList ++
     (a.requestedConcurrency.map fun c => ("RequestedConcurrency", printed c)).toList ++
     (a.requestedAdmission.map fun c => ("RequestedAdmission", printed c)).toList ++
     [("Provenance", a.provenance.text),
      ("Reasons", a.reasons.render)] ++
     (if a.detail.isEmpty then [] else [("Detail", a.detail)]) ++
     (a.supersededBy.map fun id => ("SupersededBy", decimal id)).toList)

/-- An action of the listing ends with a rule. -/
def actionRow (a : ThermalAction) : String := renderAction a ++ "--\n"

end ThermalGovernor
