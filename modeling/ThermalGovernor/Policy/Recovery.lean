import ThermalGovernor.Policy.Headroom

/-!
# Recovery gating

A restricted resource leaves its restriction only through `evaluateRecovery`.
The gate walks the retained samples from the newest backwards and counts the run
of qualifying ones; the first sample that does not qualify ends the run.  The
temperature, the headroom, the length and span of the run, the number of distinct
witnesses, the coupled domains and an explicit authorization must then all be as
the policy asks.

`allowed_assessRecovery` spells out what an allowed recovery means under a given policy.
-/

namespace ThermalGovernor

/-- One observation retained for recovery assessment. -/
structure RecoverySample where
  evidenceId : EvidenceId := 0
  temperature : DegreesCelsius := 0
  atTime : SteadyTimePoint := 0
  workerBoot : WorkerBootId := 0
  worker : WorkerId := 0
  coordinatorEpoch : CoordinatorEpoch := 0
  deviceGeneration : DeviceGeneration := 0
  domainGeneration : ThermalDomainGeneration := 0
  telemetryGeneration : TelemetryGeneration := 0
  throttleClass : ThrottleClass := .throttleUnknown
  provenance : Provenance := .unknown
  admissible : Bool := false

/-- Bounded rolling history, oldest sample first. -/
structure RecoveryHistory where
  capacity : Nat := 64
  samples : List RecoverySample := []

namespace RecoveryHistory

/-- A history of a given capacity, which is at least one. -/
def ofCapacity (capacity : Nat) : RecoveryHistory :=
  { capacity := if capacity = 0 then 1 else capacity }

/-- Drop the oldest samples above the capacity. -/
def trimmed (h : RecoveryHistory) : RecoveryHistory :=
  { h with samples := h.samples.drop (h.samples.length - h.capacity) }

def push (h : RecoveryHistory) (sample : RecoverySample) : RecoveryHistory :=
  { h with samples := h.samples ++ [sample] }.trimmed

def setCapacity (h : RecoveryHistory) (capacity : Nat) : RecoveryHistory :=
  { h with capacity := if capacity = 0 then 1 else capacity }.trimmed

/-- Keep the samples of one boot. -/
def invalidateForBoot (h : RecoveryHistory) (boot : WorkerBootId) : RecoveryHistory :=
  { h with samples := h.samples.filter fun s => s.workerBoot = boot }

theorem length_trimmed_le (h : RecoveryHistory) : h.trimmed.samples.length ≤ h.capacity := by
  simp only [trimmed, List.length_drop]
  omega

/-- **The history never outgrows its capacity.** -/
theorem length_push_le (h : RecoveryHistory) (sample : RecoverySample) :
    (h.push sample).samples.length ≤ h.capacity :=
  length_trimmed_le { h with samples := h.samples ++ [sample] }

end RecoveryHistory

/-- Inputs to a recovery assessment. -/
structure RecoveryInput where
  policy : Option ThermalPolicy := none
  history : Option RecoveryHistory := none
  recoveryThreshold : DegreesCelsius := 0
  recoveryMargin : ℚ := 0
  headroom : HeadroomBreakdown := {}
  evidenceProvenance : Provenance := .unknown
  currentEpoch : CoordinatorEpoch := 0
  currentBoot : WorkerBootId := 0
  currentDeviceGeneration : DeviceGeneration := 0
  currentDomainGeneration : ThermalDomainGeneration := 0
  explicitAuthorization : Bool := false
  coupledDomainsRecovered : Bool := true
  coupledDomainsChecked : Bool := false

/-- The full, auditable outcome of a recovery assessment. -/
structure RecoveryAssessment where
  allowed : Bool := false
  recoveryThreshold : DegreesCelsius := 0
  recoveryMargin : ℚ := 0
  currentTemperature : DegreesCelsius := 0
  effectiveHeadroom : ℚ := 0
  qualifyingSamples : Nat := 0
  requiredSamples : Nat := 0
  qualifyingSpan : Milliseconds := 0
  requiredSpan : Milliseconds := 0
  distinctWitnesses : Nat := 0
  requiredWitnesses : Nat := 0
  temperatureBelowThreshold : Bool := false
  headroomRequirementSatisfied : Bool := false
  throttleClear : Bool := false
  generationBindingOk : Bool := false
  coupledDomainsSatisfied : Bool := false
  explicitAuthorizationPresent : Bool := false
  blockingReasons : ReasonCodeSet := []
  satisfiedReasons : ReasonCodeSet := []

/-- What the backward walk over the samples has counted so far. -/
structure RecoveryWalk where
  qualifying : Nat := 0
  newest : Option SteadyTimePoint := none
  oldest : Option SteadyTimePoint := none
  witnesses : List WorkerBootId := []
  throttleClear : Bool := true
  generationBindingOk : Bool := true

/-- Take one more qualifying sample into the run. -/
def RecoveryWalk.count (w : RecoveryWalk) (s : RecoverySample) : RecoveryWalk :=
  { w with
    qualifying := w.qualifying + 1
    newest := w.newest.or (some s.atTime)
    oldest := some s.atTime
    witnesses := if s.workerBoot ∈ w.witnesses then w.witnesses
      else w.witnesses ++ [s.workerBoot] }

/-- A binding the policy asks for is broken by the sample. -/
def bindingBroken (policy : ThermalPolicy) (input : RecoveryInput) (s : RecoverySample) : Bool :=
  (policy.recovery.requireSameWorkerBoot && s.workerBoot != input.currentBoot) ||
  (policy.recovery.requireSameCoordinatorEpoch && s.coordinatorEpoch != input.currentEpoch) ||
  (policy.recovery.requireSameDeviceGeneration &&
    s.deviceGeneration != input.currentDeviceGeneration)

/-- Walk the samples, newest first, to the first one that does not qualify. -/
def walkSamples (policy : ThermalPolicy) (input : RecoveryInput) :
    List RecoverySample → RecoveryWalk → RecoveryWalk
  | [], w => w
  | s :: rest, w =>
    if ! s.admissible then w
    else if bindingBroken policy input s then { w with generationBindingOk := false }
    else if input.recoveryThreshold + input.recoveryMargin ≤ s.temperature then w
    else if policy.recovery.requireNoThermalThrottle &&
        s.throttleClass = .thermalThrottleObserved then { w with throttleClear := false }
    else walkSamples policy input rest (w.count s)

/-- The span covered by the run. -/
def RecoveryWalk.span (w : RecoveryWalk) : Milliseconds :=
  match w.newest, w.oldest with
  | some newest, some oldest => milliseconds (elapsed newest oldest)
  | _, _ => 0

/-- Why recovery is blocked, in the order of the source. -/
def recoveryReasons (policy : ThermalPolicy) (input : RecoveryInput) (w : RecoveryWalk)
    (below headroomOk : Bool) : ReasonCodeSet :=
  let required := policy.freshness
  ReasonCodeSet.add [] (if below then .recoveryThresholdSatisfied else .recoveryThresholdExceeded)
    |>.addIf policy.recovery.requireHeadroomAboveRecoveryMargin
      (if headroomOk then .effectiveHeadroomSufficient else .effectiveHeadroomBelowDemand)
    |>.addIf (policy.recovery.requireNoThermalThrottle && ! w.throttleClear)
      .recoveryBlockedByThrottleEvidence
    |>.addIf (! w.generationBindingOk) .evidenceGenerationInvalidated
    |>.addIf (w.qualifying < required.requiredConsecutiveSamples) .recoverySamplesInsufficient
    |>.addIf (w.span < required.minEvidenceSpan) .recoveryEvidenceSpanInsufficient
    |>.addIf (w.witnesses.length < required.minDistinctWitnesses) .recoveryWitnessesInsufficient
    |>.addIf (policy.recovery.requireCoupledDomainsRecovered && input.coupledDomainsChecked &&
        ! input.coupledDomainsRecovered) .recoveryBlockedByCoupledDomain
    |>.addIf (policy.recovery.requireExplicitAuthorization && ! input.explicitAuthorization)
      .recoveryRequiresExplicitAuthorization

/-- The assessment of an input whose policy does not forbid recovery outright. -/
def assessRecovery (policy : ThermalPolicy) (input : RecoveryInput) : RecoveryAssessment :=
  let samples := (input.history.map RecoveryHistory.samples).getD []
  let w := walkSamples policy input samples.reverse {}
  let below : Bool := input.headroom.distanceAboveRecoveryGate < 0
  let headroomOk : Bool := ! policy.recovery.requireHeadroomAboveRecoveryMargin ||
    decide (0 < input.headroom.effectiveHeadroom)
  let allowed : Bool := below && headroomOk && w.throttleClear &&
    decide (policy.freshness.requiredConsecutiveSamples ≤ w.qualifying) &&
    decide (policy.freshness.minEvidenceSpan ≤ w.span) &&
    decide (policy.freshness.minDistinctWitnesses ≤ w.witnesses.length) &&
    input.coupledDomainsRecovered &&
    (! policy.recovery.requireExplicitAuthorization || input.explicitAuthorization)
  { allowed := allowed
    recoveryThreshold := input.recoveryThreshold
    recoveryMargin := input.recoveryMargin
    currentTemperature := input.headroom.currentTemperature
    effectiveHeadroom := input.headroom.effectiveHeadroom
    qualifyingSamples := w.qualifying
    requiredSamples := policy.freshness.requiredConsecutiveSamples
    qualifyingSpan := w.span
    requiredSpan := policy.freshness.minEvidenceSpan
    distinctWitnesses := w.witnesses.length
    requiredWitnesses := policy.freshness.minDistinctWitnesses
    temperatureBelowThreshold := below
    headroomRequirementSatisfied := headroomOk
    throttleClear := w.throttleClear
    generationBindingOk := w.generationBindingOk
    coupledDomainsSatisfied := input.coupledDomainsRecovered
    explicitAuthorizationPresent := input.explicitAuthorization
    blockingReasons := if allowed then [.recoveryAuthorized]
      else (recoveryReasons policy input w below headroomOk).canonicalise
    satisfiedReasons := if allowed then [.recoveryAuthorized] else [] }

/-- Deterministically assess whether recovery is permitted. -/
def evaluateRecovery (input : RecoveryInput) : RecoveryAssessment :=
  let refused : RecoveryAssessment :=
    { recoveryThreshold := input.recoveryThreshold
      recoveryMargin := input.recoveryMargin
      currentTemperature := input.headroom.currentTemperature
      effectiveHeadroom := input.headroom.effectiveHeadroom
      blockingReasons := [.recoveryForbiddenByPolicy] }
  match input.policy with
  | none => refused
  | some policy =>
    if input.evidenceProvenance = .unsupported &&
        policy.recovery.forbidRecoveryAfterUnsupportedEvidence then
      { refused with
        requiredSamples := policy.freshness.requiredConsecutiveSamples
        requiredSpan := policy.freshness.minEvidenceSpan
        requiredWitnesses := policy.freshness.minDistinctWitnesses }
    else assessRecovery policy input

/-! ### What an allowed recovery means -/

/-- **An allowed recovery passed every gate the policy sets.** -/
theorem allowed_assessRecovery {policy : ThermalPolicy} {input : RecoveryInput}
    (h : (assessRecovery policy input).allowed = true) :
    input.headroom.distanceAboveRecoveryGate < 0 ∧
    (policy.recovery.requireHeadroomAboveRecoveryMargin = true →
      0 < input.headroom.effectiveHeadroom) ∧
    policy.freshness.requiredConsecutiveSamples ≤
      (assessRecovery policy input).qualifyingSamples ∧
    policy.freshness.minEvidenceSpan ≤ (assessRecovery policy input).qualifyingSpan ∧
    policy.freshness.minDistinctWitnesses ≤ (assessRecovery policy input).distinctWitnesses ∧
    input.coupledDomainsRecovered = true ∧
    (policy.recovery.requireExplicitAuthorization = true → input.explicitAuthorization = true) := by
  simp only [assessRecovery, Bool.and_eq_true, Bool.or_eq_true, Bool.not_eq_true',
    decide_eq_true_eq] at h ⊢
  obtain ⟨⟨⟨⟨⟨⟨⟨hbelow, hhead⟩, _⟩, hsamples⟩, hspan⟩, hwit⟩, hcoupled⟩, hexplicit⟩ := h
  refine ⟨hbelow, fun hr => ?_, hsamples, hspan, hwit, hcoupled, fun hr => ?_⟩
  · rcases hhead with hf | hpos
    · rw [hr] at hf; cases hf
    · exact hpos
  · rcases hexplicit with hf | he
    · rw [hr] at hf; cases hf
    · exact he

/-- A recovery is allowed only by a policy that does not forbid it. -/
theorem evaluateRecovery_allowed {input : RecoveryInput}
    (h : (evaluateRecovery input).allowed = true) :
    ∃ policy, input.policy = some policy ∧
      evaluateRecovery input = assessRecovery policy input := by
  unfold evaluateRecovery at h ⊢
  cases hp : input.policy with
  | none => rw [hp] at h; cases h
  | some policy =>
    rw [hp] at h
    refine ⟨policy, rfl, ?_⟩
    dsimp only at h ⊢
    split
    · rename_i hc
      rw [if_pos hc] at h
      cases h
    · rfl

/-- The walk never counts more samples than there are. -/
theorem qualifying_walkSamples_le (policy : ThermalPolicy) (input : RecoveryInput) :
    ∀ (samples : List RecoverySample) (w : RecoveryWalk),
      (walkSamples policy input samples w).qualifying ≤ w.qualifying + samples.length := by
  intro samples
  induction samples with
  | nil => intro w; exact Nat.le_refl _
  | cons s rest ih =>
    intro w
    rw [walkSamples, List.length_cons]
    split
    · omega
    split
    · show w.qualifying ≤ _
      omega
    split
    · omega
    split
    · show w.qualifying ≤ _
      omega
    · have h := ih (w.count s)
      have hc : (w.count s).qualifying = w.qualifying + 1 := rfl
      omega

end ThermalGovernor
