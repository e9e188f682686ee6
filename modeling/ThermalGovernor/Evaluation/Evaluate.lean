import ThermalGovernor.Evaluation.State

/-!
# Thermal evaluation

`evaluateThermal` is the whole evaluation, a pure function of its input.  Five
hard predicates come first, and each of them answers on its own: an unsupported
or unresolved capability, missing evidence, conflicting evidence, evidence that is
not fresh.  What passes them (`resolvedEvidence`) goes through headroom, recovery,
the state machine and the decision in `evaluateResolved`.

`evaluateThermal_cases` separates the two parts once, so that every later statement
about an evaluation is one about `evaluateResolved` or about a refusal.
-/

namespace ThermalGovernor

/-- An alternative that was considered and rejected. -/
structure RejectedAlternative where
  candidate : DeratingLevel
  reason : ThermalReasonCode

/-- Complete, structured evaluation outcome.  The source's clock ceiling is part of the
envelope it fills from here, but no evaluation ever sets one. -/
structure ThermalEvaluation where
  domain : ThermalDomainId := 0
  domainGeneration : ThermalDomainGeneration := 0
  state : ThermalState := .unknown
  derating : DeratingLevel := .unknown
  decision : ThermalDecision := .unknown
  headroom : HeadroomBreakdown := {}
  throttleClass : ThrottleClass := .throttleUnknown
  provenance : Provenance := .unknown
  permittedConcurrency : ℚ := 0
  permittedExecutionClass : ExecutionClass := .bestEffortThermal
  permittedClockCeiling : Option MegaHertz := none
  permittedWorkloadIntensity : ℚ := 0
  prohibitedIntents : List MitigationIntent := []
  intents : MitigationIntentSet := []
  reasons : ReasonCodeSet := []
  rejected : List RejectedAlternative := []
  recovery : RecoveryAssessment := {}
  policyGeneration : ThermalPolicyGeneration := 0
  telemetryGeneration : TelemetryGeneration := 0
  capabilityGeneration : CapabilityGeneration := 0
  topologyGeneration : TopologyGeneration := 0
  coordinatorEpoch : CoordinatorEpoch := 0
  retainedByHysteresis : Bool := false
  unclampedDerating : DeratingLevel := .unknown

/-! ### Tables of the decision -/

def decisionForUnknown : UnknownBehavior → ThermalDecision
  | .returnUnknown => .unknown
  | .revalidationRequired => .revalidationRequired
  | .defer => .defer
  | .deny => .deny
  | .allowDerated => .allowDerated

def decisionForUnsupported : UnsupportedBehavior → ThermalDecision
  | .returnUnsupported => .unsupported
  | .revalidationRequired => .revalidationRequired
  | .defer => .defer
  | .deny => .deny

/-- The derating level implied by a state. -/
def deratingForState (state : ThermalState) (policy : ThermalPolicy)
    (workloadRestricted : Bool) : DeratingLevel :=
  match state with
  | .normal => .fullCapability
  | .warm => if workloadRestricted then .deratedWorkloadClass else .fullCapability
  | .nearLimit => if workloadRestricted then .deratedCombined else .deratedConcurrency
  | .derated =>
    if concurrencyCeiling policy.concurrency state < 100 then .deratedCombined else .deratedClock
  | .throttling => .deratedCombined
  | .critical => .noSafeExecution
  | .revalidationRequired => .revalidationRequired
  | .unknown => .unknown
  | .unsupported => .unsupported

/-- The intents a state prohibits, in enumeration order. -/
def prohibitedIntentsFor (state : ThermalState) (policy : ThermalPolicy) :
    List MitigationIntent :=
  let restoring : List MitigationIntent :=
    if state.isRestrictive || state.isUnresolved then
      [.requestClockRestore, .requestPowerRestore, .requestAdmissionRestore,
        .requestConcurrencyRestore]
    else []
  let containment : List MitigationIntent :=
    if state ≠ .critical then [.requestContainment] else []
  let forbidden (i : MitigationIntent) : List MitigationIntent :=
    if policyAllows policy i then [] else [i]
  ((restoring ++ containment ++ forbidden .requestWorkloadMigration ++
    forbidden .requestCoolingIntervention).insertionSort fun a b => a.index ≤ b.index).dedup

/-- The decision a state leads to, before the admission predicate. -/
def decisionForState (state : ThermalState) (policy : ThermalPolicy) : ThermalDecision :=
  match state with
  | .normal | .warm | .nearLimit => .allow
  | .derated | .throttling => .allowDerated
  | .critical => if policy.emergency.denyAllExecution then .deny else .allowDerated
  | .revalidationRequired => .revalidationRequired
  | .unknown => decisionForUnknown policy.unknownBehavior
  | .unsupported => decisionForUnsupported policy.unsupportedBehavior

/-- The reason the decision switch adds, if any. -/
def decisionReason (state : ThermalState) (policy : ThermalPolicy) : ThermalReasonCode :=
  match state with
  | .critical =>
    if policy.emergency.denyAllExecution then .emergencyExecutionDenied
    else .emergencyContainmentRequired
  | .unknown => .policyUnknownBehaviorApplied
  | .unsupported => .policyUnsupportedBehaviorApplied
  | _ => .none

/-- Why full capability was rejected. -/
def rejectedReason : ThermalState → ThermalReasonCode
  | .critical => .criticalThresholdExceeded
  | .throttling => .thermalThrottleObserved
  | .derated => .deratingThresholdExceeded
  | .nearLimit => .temperatureInNearLimitBand
  | .warm => .temperatureInWarningBand
  | .revalidationRequired => .evidenceStale
  | .unknown => .evidenceMissing
  | .unsupported => .capabilityUnsupported
  | .normal => .workloadRequiresDerating

/-! ### The parts of a resolved evaluation -/

/-- What the workload profile asks for. -/
structure WorkloadTerms where
  executionClass : ExecutionClass
  restricted : Bool
  demand : ℚ

def workloadTerms (policy : ThermalPolicy) (profile : WorkloadThermalProfile) : WorkloadTerms :=
  let demand := workloadHeadroomDemand policy profile
  match workloadExecutionClass policy profile with
  | none => ⟨.bestEffortThermal, true, demand⟩
  | some required => ⟨required, required ≠ .unrestricted || decide (0 < demand), demand⟩

/-- The reasons the workload profile adds. -/
def workloadReasons (policy : ThermalPolicy) (profile : WorkloadThermalProfile)
    (reasons : ReasonCodeSet) : ReasonCodeSet :=
  let listed := (workloadExecutionClass policy profile).isSome
  ((reasons.addIf (! listed) .workloadProfileExcluded).addIf
    (listed && profile = .unknownProfile) .workloadProfileUnknown).addIf
    (0 < workloadHeadroomDemand policy profile) .workloadRequiresDerating

/-- The headroom inputs taken from the evidence and the policy. -/
def headroomInputFor (input : EvaluationInput) (evidence : ThermalEvidence) : HeadroomInput :=
  let policy := input.policy
  let vendor := input.limitCapability ≠ .unsupported && evidence.temperatureLimit.isSome
  { currentTemperature := evidence.temperature
    policyCritical := policy.thresholds.critical
    policySafetyMargin := policy.margins.policySafetyMargin
    recoveryThreshold := policy.thresholds.recovery
    recoveryMargin := policy.margins.recoveryMargin
    vendorLimit := if vendor then evidence.temperatureLimit else none
    vendorLimitProvenance := if vendor then evidence.provenance else .unknown
    uncertaintyMargin :=
      uncertaintyFromConfidence evidence.confidence policy.margins.uncertaintyMargin }

/-- The recovery input with the policy and the headroom of this evaluation filled in. -/
def recoveryInputFor (input : EvaluationInput) (headroom : HeadroomBreakdown) : RecoveryInput :=
  { input.recovery with
    policy := some input.policy
    recoveryThreshold := input.policy.thresholds.recovery
    recoveryMargin := input.policy.margins.recoveryMargin
    headroom := headroom }

/-- A clock ceiling that would lower the current clock. -/
def clampClock (evidence : ThermalEvidence) (concurrency : ℚ) : Option MegaHertz :=
  match evidence.currentClock, evidence.maxClock with
  | some current, some maximum =>
    let ceiling := ((maximum : ℚ) * (concurrency / 100)).floor.toNat
    if current ≤ ceiling then none else some ceiling
  | _, _ => none

/-- An intent of this domain, when the policy permits it. -/
def permittedIntent (input : EvaluationInput) (intent : MitigationIntent) (rationale : String) :
    MitigationIntentSet :=
  if policyAllows input.policy intent then
    [{ intent := intent, domain := input.domain, rationale := rationale }]
  else []

/-- The mitigation intents of a state, before canonicalisation. -/
def intentsFor (input : EvaluationInput) (evidence : ThermalEvidence) (state : ThermalState)
    (concurrency : ℚ) (recovery : RecoveryAssessment) : MitigationIntentSet :=
  let policy := input.policy
  match state with
  | .nearLimit => permittedIntent input .requestConcurrencyReduction "near-limit temperature band"
  | .derated | .throttling =>
    ((permittedIntent input .requestClockReduction
        (if state = .throttling then "thermal throttle observed"
          else "derating threshold exceeded")).map fun r =>
        { r with
          domainGeneration := input.domainGeneration
          clockCeiling := clampClock evidence concurrency }) ++
    ((permittedIntent input .requestConcurrencyReduction "thermal derating").map fun r =>
        { r with
          domainGeneration := input.domainGeneration
          concurrencyCeiling := some concurrency }) ++
    (if state = .throttling then
      permittedIntent input .requestCoolingIntervention "thermal throttling observed" else [])
  | .critical =>
    (if policy.emergency.allowContainmentIntent then
      permittedIntent input .requestContainment "critical thermal threshold exceeded" else []) ++
    (if policy.emergency.allowMigrationIntent then
      permittedIntent input .requestWorkloadMigration "critical thermal threshold exceeded"
      else []) ++
    (if policy.emergency.allowCoolingInterventionIntent then
      permittedIntent input .requestCoolingIntervention "critical thermal threshold exceeded"
      else [])
  | .warm | .normal =>
    -- restoration needs an authorised recovery from a restricted envelope
    if 0 < input.previousDerating.restrictionRank && recovery.allowed then
      permittedIntent input .requestClockRestore "recovery authorised by fresh evidence" ++
      permittedIntent input .requestConcurrencyRestore "recovery authorised by fresh evidence"
    else []
  | .revalidationRequired | .unknown | .unsupported => []

/-- The explicit representation of nothing to request. -/
def orNoAction (input : EvaluationInput) (intents : MitigationIntentSet) : MitigationIntentSet :=
  if intents.isEmpty then
    [{ intent := .noAction, domain := input.domain
       rationale := "no thermal mitigation required" }]
  else intents

/-- The rejected alternatives, in stable order. -/
def rejectedFor (state : ThermalState) (derating : DeratingLevel)
    (intents : MitigationIntentSet) : List RejectedAlternative :=
  (if derating ≠ .fullCapability then [⟨.fullCapability, rejectedReason state⟩] else []) ++
  (if derating ≠ .noSafeExecution then [⟨.noSafeExecution, .criticalThresholdExceeded⟩] else []) ++
  (if ! intents.contains .requestContainment && state ≠ .critical then
    [⟨.noSafeExecution, .emergencyContainmentRequired⟩] else [])

/-- A previous restriction may only be tightened while the state is not healthy. -/
def clampDerating (input : EvaluationInput) (state : ThermalState) (derating : DeratingLevel) :
    DeratingLevel × Bool :=
  if input.previousDerating ≠ .unknown && ! state.isHealthy && state ≠ .revalidationRequired &&
      decide (derating.restrictionRank < input.previousDerating.restrictionRank) then
    (derating.mostRestrictive input.previousDerating, true)
  else (derating, false)

/-- The admission predicate lowers an `allow` whose demand does not fit. -/
def admitHeadroom (policy : ThermalPolicy) (met : Bool) (decision : ThermalDecision)
    (reasons : ReasonCodeSet) : ThermalDecision × ReasonCodeSet :=
  if met then (decision, reasons.add .effectiveHeadroomSufficient)
  else
    let reasons := reasons.add .effectiveHeadroomBelowDemand
    if decision = .allow then
      if policy.admission.allowDeratedAdmission then
        (.allowDerated, reasons.add .deratedAdmissionAllowed)
      else (.deny, reasons.add .deratedAdmissionForbidden)
    else (decision, reasons)

/-! ### The evaluation -/

/-- The fields every outcome has, whichever predicate answers. -/
def evaluationBase (input : EvaluationInput) : ThermalEvaluation where
  domain := input.domain
  domainGeneration := input.domainGeneration
  policyGeneration := input.policyGeneration
  topologyGeneration := input.topologyGeneration
  coordinatorEpoch := input.coordinatorEpoch
  capabilityGeneration := (input.evidence.map ThermalEvidence.capabilityGeneration).getD 0
  telemetryGeneration := (input.evidence.map ThermalEvidence.telemetryGeneration).getD 0
  provenance := (input.evidence.map ThermalEvidence.provenance).getD .unknown
  headroom :=
    { policyCritical := input.policy.thresholds.critical
      recoveryThreshold := input.policy.thresholds.recovery
      recoveryMargin := input.policy.margins.recoveryMargin
      policySafetyMargin := input.policy.margins.policySafetyMargin }

/-- The outcome of a hard predicate. -/
def refuseEvaluation (input : EvaluationInput) (state : ThermalState)
    (decision : ThermalDecision) (derating : DeratingLevel) (concurrency : ℚ)
    (reasons : List ThermalReasonCode) (rejection : ThermalReasonCode) : ThermalEvaluation :=
  { evaluationBase input with
    state := state
    decision := decision
    derating := derating
    unclampedDerating := derating
    reasons := reasons
    permittedConcurrency := concurrency
    permittedExecutionClass := .bestEffortThermal
    rejected := [⟨.fullCapability, rejection⟩]
    prohibitedIntents := prohibitedIntentsFor state input.policy }

/-- Revalidation demanded for one reason. -/
def demandRevalidation (input : EvaluationInput) (reason : ThermalReasonCode) :
    ThermalEvaluation :=
  refuseEvaluation input .revalidationRequired .revalidationRequired .revalidationRequired
    (concurrencyCeiling input.policy.concurrency .revalidationRequired) [reason] reason

/-- Why evidence that is not fresh is refused. -/
def freshnessReason : FreshnessState → ThermalReasonCode
  | .generationInvalidated => .evidenceGenerationInvalidated
  | _ => .evidenceStale

/-- The evidence that passes every hard predicate. -/
def resolvedEvidence (input : EvaluationInput) : Option ThermalEvidence :=
  if input.temperatureCapability.isSupported && ! input.evidenceConflict &&
      input.freshness = .fresh then input.evidence
  else none

/-- The evaluation of evidence that passed the hard predicates. -/
def evaluateResolved (input : EvaluationInput) (evidence : ThermalEvidence) :
    ThermalEvaluation :=
  let policy := input.policy
  let headroom := computeHeadroom (headroomInputFor input evidence)
  let recovery := evaluateRecovery (recoveryInputFor input headroom)
  let next := nextThermalState input evidence recovery []
  let state := next.state
  let vendorGoverns : Bool := headroom.vendorLimit.any fun limit =>
    headroom.governingLimit = limit && limit < policy.thresholds.critical
  let reasons := next.reasons.add
    (if vendorGoverns then .vendorLimitGoverns else .policyLimitGoverns)
  let reasons := reasons.addIf (headroom.rawHeadroom < 0) .rawHeadroomNegative
  let reasons := reasons.add (decisionReason state policy)
  let reasons := workloadReasons policy input.workloadProfile reasons
  let workload := workloadTerms policy input.workloadProfile
  let unclamped := deratingForState state policy workload.restricted
  let clamp := clampDerating input state unclamped
  let reasons := reasons.addIf clamp.2 .deratingCannotExpand
  let concurrency := concurrencyCeiling policy.concurrency state
  let demand := policy.admission.minEffectiveHeadroom + workload.demand
  let admitted := admitHeadroom policy (headroom.meetsDemand demand)
    (decisionForState state policy) reasons
  let reasons := (admitted.2.addIf (concurrency < 100) .concurrencyCeilingApplied).canonicalise
  let intents :=
    (orNoAction input (intentsFor input evidence state concurrency recovery)).canonicalise
  { evaluationBase input with
    state := state
    derating := clamp.1
    unclampedDerating := unclamped
    decision := admitted.1
    headroom := headroom
    throttleClass := next.throttle
    recovery := recovery
    permittedConcurrency := concurrency
    permittedWorkloadIntensity := concurrency / 100
    permittedExecutionClass :=
      if state = .critical then .bestEffortThermal
      else if workload.restricted then workload.executionClass
      else .unrestricted
    intents := intents
    prohibitedIntents := prohibitedIntentsFor state policy
    rejected := rejectedFor state clamp.1 intents
    reasons := reasons
    retainedByHysteresis := decide (.stateRetainedByHysteresis ∈ reasons) }

/-- Evaluate a thermal domain. -/
def evaluateThermal (input : EvaluationInput) : ThermalEvaluation :=
  let policy := input.policy
  if input.temperatureCapability = .unsupported then
    refuseEvaluation input .unsupported (decisionForUnsupported policy.unsupportedBehavior)
      .unsupported 0 [.capabilityUnsupported, .policyUnsupportedBehaviorApplied]
      .capabilityUnsupported
  else if input.temperatureCapability = .unknown then
    refuseEvaluation input .unknown (decisionForUnknown policy.unknownBehavior) .unknown
      (concurrencyCeiling policy.concurrency .unknown)
      [.policyUnknownBehaviorApplied, .capabilityUnresolved] .capabilityUnresolved
  else
    match input.evidence with
    | none => demandRevalidation input .evidenceMissing
    | some evidence =>
      if input.evidenceConflict then demandRevalidation input .evidenceConflict
      else if input.freshness ≠ .fresh then
        demandRevalidation input (freshnessReason input.freshness)
      else evaluateResolved input evidence

/-! ### What an evaluation says -/

/-- Only the healthy states are decided as `allow`. -/
theorem decisionForState_allow {state : ThermalState} {policy : ThermalPolicy}
    (h : decisionForState state policy = .allow) : state.isHealthy = true := by
  cases state with
  | normal => rfl
  | warm => rfl
  | nearLimit => rfl
  | derated => cases h
  | throttling => cases h
  | critical =>
    simp only [decisionForState] at h
    split at h <;> cases h
  | revalidationRequired => cases h
  | unknown =>
    simp only [decisionForState] at h
    cases hb : policy.unknownBehavior <;> rw [hb] at h <;> cases h
  | unsupported =>
    simp only [decisionForState] at h
    cases hb : policy.unsupportedBehavior <;> rw [hb] at h <;> cases h

/-- What a hard predicate answers: an unresolved state with the decision and the prohibitions of
that state, nothing demanded, and no recovery assessed. -/
structure Refuses (input : EvaluationInput) (e : ThermalEvaluation) : Prop where
  unresolved : e.state.isUnresolved = true
  decision : e.decision = decisionForState e.state input.policy
  intents : e.intents = []
  prohibited : e.prohibitedIntents = prohibitedIntentsFor e.state input.policy
  recovery : e.recovery = {}

theorem refuses_refuseEvaluation {input : EvaluationInput} {state : ThermalState}
    (h : state.isUnresolved = true) (derating : DeratingLevel) (concurrency : ℚ)
    (reasons : List ThermalReasonCode) (rejection : ThermalReasonCode) :
    Refuses input (refuseEvaluation input state (decisionForState state input.policy) derating
      concurrency reasons rejection) := ⟨h, rfl, rfl, rfl, rfl⟩

/-- **Either the hard predicates pass, and the evaluation is that of the evidence, or one of
them refuses.** -/
theorem evaluateThermal_cases (input : EvaluationInput) :
    (∃ evidence, resolvedEvidence input = some evidence ∧
      evaluateThermal input = evaluateResolved input evidence) ∨
    (resolvedEvidence input = none ∧ Refuses input (evaluateThermal input)) := by
  unfold evaluateThermal resolvedEvidence
  by_cases hu : input.temperatureCapability = .unsupported
  · refine .inr ?_
    simp only [hu, if_true, CapabilityState.isSupported, Bool.false_and, Bool.false_eq_true,
      if_false, true_and]
    exact refuses_refuseEvaluation rfl _ _ _ _
  by_cases hk : input.temperatureCapability = .unknown
  · refine .inr ?_
    simp only [hk, if_true, CapabilityState.isSupported, Bool.false_and, Bool.false_eq_true,
      if_false, true_and, reduceCtorEq]
    exact refuses_refuseEvaluation rfl _ _ _ _
  have hs : input.temperatureCapability.isSupported = true := by
    cases hc : input.temperatureCapability <;> simp_all [CapabilityState.isSupported]
  have hrevalidates : ∀ reason, Refuses input (demandRevalidation input reason) :=
    fun reason => refuses_refuseEvaluation rfl _ _ _ _
  rw [if_neg hu, if_neg hk, hs]
  cases he : input.evidence with
  | none => exact .inr ⟨by simp, hrevalidates _⟩
  | some evidence =>
    by_cases hc : input.evidenceConflict = true
    · refine .inr ?_
      simp only [hc, if_true, Bool.not_true, Bool.and_false, Bool.false_and, Bool.false_eq_true,
        if_false, true_and]
      exact hrevalidates _
    by_cases hf : input.freshness = .fresh
    · refine .inl ⟨evidence, ?_, ?_⟩
      · simp [hc, hf]
      · simp [hc, hf]
    · refine .inr ?_
      simp only [hc, hf, Bool.false_eq_true, if_false, ne_eq, not_false_eq_true, if_true,
        decide_false, Bool.and_false, true_and]
      exact hrevalidates _

/-- The same, with what most statements need of a refusal. -/
theorem evaluateThermal_eq (input : EvaluationInput) :
    (∃ evidence, resolvedEvidence input = some evidence ∧
      evaluateThermal input = evaluateResolved input evidence) ∨
    (resolvedEvidence input = none ∧ (evaluateThermal input).state.isUnresolved = true ∧
      (evaluateThermal input).recovery = {} ∧ (evaluateThermal input).decision ≠ .allow) := by
  rcases evaluateThermal_cases input with hresolved | ⟨hnone, hrefuses⟩
  · exact .inl hresolved
  · refine .inr ⟨hnone, hrefuses.unresolved, hrefuses.recovery, fun hallow => ?_⟩
    have hhealthy := decisionForState_allow (hrefuses.decision.symm.trans hallow)
    rw [ThermalState.isHealthy_iff, hrefuses.unresolved] at hhealthy
    cases hhealthy.2

/-- The input reaches the hysteresis gate: its evidence passes the hard predicates, and the
band it gives, tightened by coupled pressure, is healthy. -/
def reachesGate (input : EvaluationInput) : Bool :=
  (resolvedEvidence input).any fun evidence => (candidateState input evidence).isHealthy

theorem evaluateResolved_state (input : EvaluationInput) (evidence : ThermalEvidence) :
    (evaluateResolved input evidence).state =
      (nextThermalState input evidence (evaluateResolved input evidence).recovery []).state := rfl

/-- **An evaluation is healthy when its input reaches the gate and the gate lets it
through.** -/
theorem isHealthy_evaluateThermal (input : EvaluationInput) :
    (evaluateThermal input).state.isHealthy = true ↔
      reachesGate input = true ∧
      (input.previousState.isRestrictive = true →
        (evaluateThermal input).recovery.allowed = true) := by
  unfold reachesGate
  rcases evaluateThermal_eq input with ⟨evidence, hres, heq⟩ | ⟨hres, hstate, _, _⟩
  · rw [heq, hres, evaluateResolved_state, isHealthy_nextThermalState]
    rfl
  · rw [hres]
    refine ⟨fun h => ?_, fun h => absurd h.1 (by simp)⟩
    have hh := ((ThermalState.isHealthy_iff _).mp h).2
    rw [hstate] at hh
    cases hh

/-- The evidence that passes the hard predicates is the evidence of the input. -/
theorem resolvedEvidence_eq_some {input : EvaluationInput} {evidence : ThermalEvidence} :
    resolvedEvidence input = some evidence ↔
      input.temperatureCapability.isSupported = true ∧ input.evidenceConflict = false ∧
      input.freshness = .fresh ∧ input.evidence = some evidence := by
  unfold resolvedEvidence
  split
  · rename_i h
    simp only [Bool.and_eq_true, Bool.not_eq_true', decide_eq_true_eq] at h
    simp [h.1.1, h.1.2, h.2]
  · rename_i h
    simp only [Bool.and_eq_true, Bool.not_eq_true', decide_eq_true_eq] at h
    exact ⟨fun hc => (by cases hc), fun hc => absurd ⟨⟨hc.1, hc.2.1⟩, hc.2.2.1⟩ h⟩

/-- The admission predicate leaves an `allow` only when the demand is met. -/
theorem admitHeadroom_allow {policy : ThermalPolicy} {met : Bool} {decision : ThermalDecision}
    {reasons : ReasonCodeSet} (h : (admitHeadroom policy met decision reasons).1 = .allow) :
    met = true ∧ decision = .allow := by
  unfold admitHeadroom at h
  split at h
  · rename_i hmet
    exact ⟨hmet, h⟩
  · dsimp only at h
    split at h
    · split at h <;> cases h
    · rename_i hne
      exact absurd h hne

end ThermalGovernor
