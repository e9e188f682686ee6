import ThermalGovernor.Policy.Recovery
import ThermalGovernor.Topology.Coupling
import ThermalGovernor.Topology.Domain

/-!
# The thermal state machine

`nextThermalState` goes through three stages.  The temperature band and the
throttle evidence give a candidate state (`bandState`); the pressure of coupled
domains may tighten it (`candidateState`); and a healthy candidate then meets the
hysteresis gate, which a restricted domain passes only with an allowed recovery.

The gate looks at the previous state alone.  `isHealthy_nextThermalState` says
what that amounts to: the next state is healthy exactly when the candidate is and
the previous state was not restrictive, unless recovery is allowed.
-/

namespace ThermalGovernor

/-- How far thermal pressure propagates from a hot domain. -/
inductive PropagationClass
  | noPropagation | localOnly | domainWide | coupledDomain | unknown
  deriving DecidableEq

/-- Thermal pressure arriving from a coupled domain. -/
structure CoupledPressure where
  domain : ThermalDomainId := 0
  generation : ThermalDomainGeneration := 0
  state : ThermalState := .unknown
  temperature : DegreesCelsius := 0
  coupling : CouplingType := .unknownCoupling
  propagation : PropagationClass := .unknown
  provenance : Provenance := .unknown
  depth : Nat := 1
  recoveryEligible : Bool := false

/-- Complete input to a thermal evaluation. -/
structure EvaluationInput where
  domain : ThermalDomainId := 0
  domainGeneration : ThermalDomainGeneration := 0
  domainType : ThermalDomainType := .accelerator
  policy : ThermalPolicy := .makeDefault
  previousState : ThermalState := .unknown
  previousDerating : DeratingLevel := .unknown
  evidence : Option ThermalEvidence := none
  freshness : FreshnessState := .unknown
  evidenceConflict : Bool := false
  temperatureCapability : CapabilityState := .unknown
  throttleCapability : CapabilityState := .unknown
  limitCapability : CapabilityState := .unknown
  recovery : RecoveryInput := {}
  coupled : List CoupledPressure := []
  workloadProfile : WorkloadThermalProfile := .unknownProfile
  coordinatorEpoch : CoordinatorEpoch := 0
  policyGeneration : ThermalPolicyGeneration := 0
  topologyGeneration : TopologyGeneration := 0

/-! ### Throttle evidence and temperature band -/

/-- The reason that goes with a throttle class. -/
def throttleReason : ThrottleClass → ThermalReasonCode
  | .thermalThrottleObserved => .thermalThrottleObserved
  | .nonThermalThrottleObserved => .nonThermalThrottleObserved
  | .noThrottleObserved => .noThrottleObserved
  | .throttleUnsupported => .throttleEvidenceUnsupported
  | .throttleUnknown => .throttleEvidenceUnknown

/-- An unsupported throttle source never becomes an absence of throttling. -/
def resolveThrottle (input : EvaluationInput) (evidence : ThermalEvidence) : ThrottleClass :=
  if input.throttleCapability = .unsupported then .throttleUnsupported
  else
    match evidence.throttle with
    | some t => t.classification
    | none => .throttleUnknown

/-- The state of the temperature band; critical dominates throttle evidence, which
dominates the derating threshold. -/
def bandState (t : ThermalThresholds ℚ) (throttle : ThrottleClass) (temperature : DegreesCelsius) :
    ThermalState :=
  if t.critical ≤ temperature then .critical
  else if throttle = .thermalThrottleObserved then .throttling
  else if t.derating ≤ temperature then .derated
  else if t.nearLimitStart ≤ temperature then .nearLimit
  else if t.warning ≤ temperature then .warm
  else .normal

/-- The reason that goes with a band; throttling is explained by its own evidence. -/
def bandReason : ThermalState → ThermalReasonCode
  | .critical => .criticalThresholdExceeded
  | .derated => .deratingThresholdExceeded
  | .nearLimit => .temperatureInNearLimitBand
  | .warm => .temperatureInWarningBand
  | .normal => .temperatureBelowWarning
  | _ => .none

/-- A healthy band is a temperature below the derating threshold without thermal throttling. -/
theorem isHealthy_bandState {t : ThermalThresholds ℚ} {throttle : ThrottleClass}
    {temperature : DegreesCelsius} (h : (bandState t throttle temperature).isHealthy = true) :
    throttle ≠ .thermalThrottleObserved ∧ temperature < t.derating := by
  unfold bandState at h
  split at h
  · cases h
  split at h
  · cases h
  split at h
  · cases h
  · rename_i _ hthrottle hderating
    exact ⟨hthrottle, not_le.mp hderating⟩

/-! ### Coupled domains -/

/-- What the scan over the coupled domains has found so far. -/
structure CouplingScan where
  candidate : ThermalState
  pressured : Bool := false
  reasons : ReasonCodeSet := []

/-- Escalate a candidate to a more severe state. -/
def escalate (candidate state : ThermalState) : ThermalState :=
  if candidate.severity < state.severity then state else candidate

theorem severity_escalate (candidate state : ThermalState) :
    (escalate candidate state).severity = max candidate.severity state.severity := by
  unfold escalate
  split <;> omega

/-- Take one coupled domain into account. -/
def couple (policy : CouplingPolicy) (scan : CouplingScan) (p : CoupledPressure) :
    CouplingScan :=
  let pressured :=
    if p.state.isRestrictive then true
    else if p.state.isUnresolved && policy.escalateToHottestNeighbour then true
    else scan.pressured
  let candidate :=
    if policy.escalateToHottestNeighbour && (p.state.isRestrictive || p.state.isUnresolved) then
      escalate scan.candidate p.state
    else scan.candidate
  { candidate := candidate
    pressured := pressured
    reasons := scan.reasons.addIf (p.provenance = .synthetic) .couplingProvenanceSynthetic }

/-- Scan the coupled domains, unless the policy leaves them out. -/
def scanCoupled (policy : CouplingPolicy) (coupled : List CoupledPressure)
    (candidate : ThermalState) : CouplingScan :=
  if policy.coDerateCoupledDomains then coupled.foldl (couple policy) { candidate := candidate }
  else { candidate := candidate }

/-- Coupled pressure may only tighten the candidate. -/
def CouplingScan.tightened (scan : CouplingScan) : ThermalState :=
  if scan.pressured && scan.candidate.isHealthy then .derated else scan.candidate

theorem pressured_foldl_couple (policy : CouplingPolicy) :
    ∀ (coupled : List CoupledPressure) (scan : CouplingScan),
      scan.pressured = true ∨ (∃ p ∈ coupled, p.state.isRestrictive = true) →
      (coupled.foldl (couple policy) scan).pressured = true := by
  intro coupled
  induction coupled with
  | nil =>
    rintro scan (h | ⟨p, hp, _⟩)
    · exact h
    · cases hp
  | cons p rest ih =>
    intro scan h
    apply ih
    by_cases hp : p.state.isRestrictive = true
    · exact .inl (by simp [couple, hp])
    · rcases h with h | ⟨q, hq, hr⟩
      · exact .inl (by simp [couple, h])
      · rcases List.mem_cons.mp hq with rfl | hq
        · exact absurd hr hp
        · exact .inr ⟨q, hq, hr⟩

/-- The scan leaves a candidate or replaces it by an unhealthy one. -/
theorem candidate_foldl_couple (policy : CouplingPolicy) :
    ∀ (coupled : List CoupledPressure) (scan : CouplingScan),
      (coupled.foldl (couple policy) scan).candidate = scan.candidate ∨
      (coupled.foldl (couple policy) scan).candidate.isHealthy = false := by
  have hstep : ∀ (scan : CouplingScan) (p : CoupledPressure),
      (couple policy scan p).candidate = scan.candidate ∨
      (couple policy scan p).candidate.isHealthy = false := by
    intro scan p
    by_cases hc : (policy.escalateToHottestNeighbour &&
        (p.state.isRestrictive || p.state.isUnresolved)) = true
    · simp only [couple, hc, if_true, escalate]
      by_cases hs : scan.candidate.severity < p.state.severity
      · rw [if_pos hs]
        rw [Bool.and_eq_true, Bool.or_eq_true] at hc
        refine .inr ?_
        rcases ThermalState.trichotomy p.state with h | h | h
        · rcases hc.2 with hr | hr
          · rw [h.2.1] at hr; cases hr
          · rw [h.2.2] at hr; cases hr
        · exact h.1
        · exact h.1
      · rw [if_neg hs]
        exact .inl rfl
    · exact .inl (by simp only [couple, if_neg hc])
  intro coupled
  induction coupled with
  | nil => intro scan; exact .inl rfl
  | cons p rest ih =>
    intro scan
    rw [List.foldl_cons]
    rcases ih (couple policy scan p) with h | h
    · rw [h]; exact hstep scan p
    · exact .inr h

/-- **A healthy state after coupling was healthy before it, and no coupled domain that
counts was restricted.** -/
theorem isHealthy_tightened {policy : CouplingPolicy} {coupled : List CoupledPressure}
    {candidate : ThermalState}
    (h : (scanCoupled policy coupled candidate).tightened.isHealthy = true) :
    (scanCoupled policy coupled candidate).tightened = candidate ∧
    (policy.coDerateCoupledDomains = true →
      ∀ p ∈ coupled, p.state.isRestrictive = false) := by
  unfold CouplingScan.tightened at h ⊢
  split at h
  · cases h
  · rename_i hpress
    rw [if_neg hpress]
    rw [h, Bool.and_true] at hpress
    unfold scanCoupled at h hpress ⊢
    by_cases hco : policy.coDerateCoupledDomains = true
    · rw [if_pos hco] at h hpress ⊢
      refine ⟨?_, fun _ p hp => ?_⟩
      · rcases candidate_foldl_couple policy coupled { candidate := candidate } with hc | hc
        · exact hc
        · rw [hc] at h; cases h
      · by_contra hr
        rw [Bool.not_eq_false] at hr
        exact hpress (pressured_foldl_couple policy coupled _ (.inr ⟨p, hp, hr⟩))
    · rw [if_neg hco]
      exact ⟨rfl, fun hc => absurd hc hco⟩

/-! ### The next state -/

/-- The restriction retained when hysteresis forbids relaxation. -/
def retentionState : ThermalState → ThermalState
  | .throttling | .critical | .derated => .derated
  | previous => previous

theorem isHealthy_retentionState {previous : ThermalState} (h : previous.isRestrictive = true) :
    (retentionState previous).isHealthy = false := by
  cases previous <;> first | rfl | cases h

/-- What `next_thermal_state` returns and writes. -/
structure NextState where
  state : ThermalState
  rawHeadroom : ℚ
  throttle : ThrottleClass
  reasons : ReasonCodeSet

/-- The scan of the coupled domains, from the band of the evidence. -/
def coupledScan (input : EvaluationInput) (evidence : ThermalEvidence) : CouplingScan :=
  scanCoupled input.policy.coupling input.coupled
    (bandState input.policy.thresholds (resolveThrottle input evidence) evidence.temperature)

/-- The candidate state: the band, tightened by coupled pressure. -/
def candidateState (input : EvaluationInput) (evidence : ThermalEvidence) : ThermalState :=
  (coupledScan input evidence).tightened

/-- The hysteresis gate: the state a candidate leads to, and why. -/
def hysteresisGate (previous candidate : ThermalState) (recovery : RecoveryAssessment)
    (reasons : ReasonCodeSet) : ThermalState × ReasonCodeSet :=
  if ! candidate.isHealthy then (candidate, reasons)
  else if ! previous.requiresRecoveryGate then (candidate, reasons)
  else if previous = .revalidationRequired then (candidate, reasons.add .authorityRevalidated)
  else if recovery.allowed then (candidate, reasons.add .recoveryAuthorized)
  else
    (retentionState previous,
      recovery.blockingReasons.foldl ReasonCodeSet.add (reasons.add .stateRetainedByHysteresis))

/-- The thermal state implied by the evidence and the previous state. -/
def nextThermalState (input : EvaluationInput) (evidence : ThermalEvidence)
    (recovery : RecoveryAssessment) (reasons : ReasonCodeSet) : NextState :=
  let throttle := resolveThrottle input evidence
  let band := bandState input.policy.thresholds throttle evidence.temperature
  let scan := coupledScan input evidence
  let couplingReasons := scan.reasons.addIf scan.pressured .coupledDomainPressure
  let reasons := couplingReasons.foldl ReasonCodeSet.add
    ((reasons.add (throttleReason throttle)).add (bandReason band))
  let gate := hysteresisGate input.previousState (candidateState input evidence) recovery reasons
  { state := gate.1
    rawHeadroom := input.policy.thresholds.critical - evidence.temperature
    throttle := throttle
    reasons := gate.2 }

/-- **What the gate lets through**: a healthy candidate, unless the previous state was
restrictive and recovery is not allowed. -/
theorem isHealthy_hysteresisGate (previous candidate : ThermalState)
    (recovery : RecoveryAssessment) (reasons : ReasonCodeSet) :
    (hysteresisGate previous candidate recovery reasons).1.isHealthy = true ↔
      candidate.isHealthy = true ∧
      (previous.isRestrictive = true → recovery.allowed = true) := by
  unfold hysteresisGate
  by_cases hc : candidate.isHealthy = true
  · rw [if_neg (by simp [hc])]
    by_cases hg : previous.requiresRecoveryGate = true
    · rw [if_neg (by simp [hg])]
      by_cases hv : previous = .revalidationRequired
      · rw [if_pos hv]
        subst hv
        simp [hc, ThermalState.isRestrictive]
      · have hr := ThermalState.isRestrictive_of_gate hg hv
        rw [if_neg hv]
        by_cases ha : recovery.allowed = true
        · simp [hc, ha]
        · simp [hc, ha, hr, isHealthy_retentionState hr]
    · have hr : previous.isRestrictive = false := by
        cases previous <;> simp_all [ThermalState.requiresRecoveryGate, ThermalState.isRestrictive]
      rw [if_pos (by simp [hg])]
      simp [hc, hr]
  · rw [if_pos (by simp [hc])]
    simp [hc]

/-- A candidate that the gate does not retain is what the gate answers. -/
theorem hysteresisGate_eq_candidate {previous candidate : ThermalState}
    {recovery : RecoveryAssessment} {reasons : ReasonCodeSet}
    (h : (hysteresisGate previous candidate recovery reasons).1.isHealthy = true) :
    (hysteresisGate previous candidate recovery reasons).1 = candidate := by
  have hiff := (isHealthy_hysteresisGate previous candidate recovery reasons).mp h
  unfold hysteresisGate at h ⊢
  split
  · rfl
  split
  · rfl
  split
  · rfl
  split
  · rfl
  · rename_i hg hv ha
    rw [Bool.not_eq_true, Bool.not_eq_false'] at hg
    exact absurd (hiff.2 (ThermalState.isRestrictive_of_gate hg hv)) ha

theorem isHealthy_nextThermalState (input : EvaluationInput) (evidence : ThermalEvidence)
    (recovery : RecoveryAssessment) (reasons : ReasonCodeSet) :
    (nextThermalState input evidence recovery reasons).state.isHealthy = true ↔
      (candidateState input evidence).isHealthy = true ∧
      (input.previousState.isRestrictive = true → recovery.allowed = true) :=
  isHealthy_hysteresisGate _ _ _ _

/-- **A healthy next state rests on a healthy band**: the temperature is below the
derating threshold, no thermal throttling is observed, and no coupled domain that
counts is restricted. -/
theorem of_isHealthy_nextThermalState {input : EvaluationInput} {evidence : ThermalEvidence}
    {recovery : RecoveryAssessment} {reasons : ReasonCodeSet}
    (h : (nextThermalState input evidence recovery reasons).state.isHealthy = true) :
    resolveThrottle input evidence ≠ .thermalThrottleObserved ∧
    evidence.temperature < input.policy.thresholds.derating ∧
    (input.policy.coupling.coDerateCoupledDomains = true →
      ∀ p ∈ input.coupled, p.state.isRestrictive = false) := by
  have hc := ((isHealthy_nextThermalState input evidence recovery reasons).mp h).1
  have ht := isHealthy_tightened hc
  rw [candidateState, coupledScan, ht.1] at hc
  obtain ⟨hthrottle, htemp⟩ := isHealthy_bandState hc
  exact ⟨hthrottle, htemp, ht.2⟩

end ThermalGovernor
