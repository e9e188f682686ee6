import ThermalGovernor.Action.Record
import ThermalGovernor.Evaluation.Evaluate

/-!
# Post-action verification

The pure half of verification: given the evaluation before the action, the one
after it, and the generations in force, decide what became of the action.  Eight
fences refuse a verification outright (`verificationFence`); what passes them is
classified from the temperature change and the two derating levels
(`classifyOutcome`), and a change of policy generation supersedes the result
whatever it was.
-/

namespace ThermalGovernor

inductive VerificationOutcome
  | outcomeUnknown | thermalStateImproved | thermalStateUnchanged | thermalStateWorsened
  | deratingEffective | deratingPartiallyEffective | deratingIneffective
  | secondaryViolationCreated | recoveryAllowed | recoveryForbidden
  deriving DecidableEq

/-- Inputs to a post-action verification. -/
structure VerificationInput where
  action : Option ThermalAction := none
  before : ThermalEvaluation := {}
  after : ThermalEvaluation := {}
  freshEvidence : Bool := false
  freshness : FreshnessState := .unknown
  current : AuthoritySnapshot := {}
  verificationPolicyGeneration : ThermalPolicyGeneration := 0
  secondaryHardViolation : Bool := false
  now : SteadyTimePoint := 0

/-- The verified result of a mitigation action. -/
structure ActionVerification (R : Type := ℚ) where
  actionId : ActionId := 0
  generation : VerificationGeneration := 0
  outcome : VerificationOutcome := .outcomeUnknown
  temperatureBefore : R := by exact 0
  temperatureAfter : R := by exact 0
  delta : R := by exact 0
  headroomBefore : R := by exact 0
  headroomAfter : R := by exact 0
  stateBefore : ThermalState := .unknown
  stateAfter : ThermalState := .unknown
  deratingBefore : DeratingLevel := .unknown
  deratingAfter : DeratingLevel := .unknown
  resultingLifecycle : ActionLifecycle := .outcomeUnknown
  hardConstraintStillViolated : Bool := false
  deratingStillRequired : Bool := false
  recoveryConditionsSatisfied : Bool := false
  telemetryGeneration : TelemetryGeneration := 0
  policyGeneration : ThermalPolicyGeneration := 0
  coordinatorEpoch : CoordinatorEpoch := 0
  reasons : ReasonCodeSet := []

/-- The fences of a verification, in the order of the source. -/
def verificationChecks (input : VerificationInput) (action : ThermalAction) : List Check :=
  let authority := action.authority
  let current := input.current
  [ ⟨input.freshEvidence, .evidenceStale,
      "post-action verification requires fresh thermal evidence"⟩,
    ⟨input.freshness = .fresh, .evidenceStale,
      "post-action verification evidence is not fresh"⟩,
    ⟨current.coordinatorEpoch == authority.coordinatorEpoch, .staleEpoch,
      "coordinator epoch advanced before verification"⟩,
    ⟨! isValid authority.worker || current.workerBoot == authority.workerBoot, .staleWorker,
      "worker boot identity changed before verification"⟩,
    ⟨! isValid authority.device || current.deviceGeneration == authority.deviceGeneration,
      .staleDeviceGeneration, "device generation advanced before verification"⟩,
    ⟨current.domainGeneration == authority.domainGeneration, .staleDomainGeneration,
      "thermal domain generation advanced before verification"⟩,
    ⟨authority.telemetryGeneration ≤ current.telemetryGeneration, .staleTelemetry,
      "verification telemetry predates the action authority"⟩,
    ⟨action.generation ≤ current.actionGeneration, .staleAction,
      "verification refers to a superseded action generation"⟩ ]

/-- The fences a verification must pass. -/
def verificationFence (input : VerificationInput) (action : ThermalAction) : Status :=
  runChecks (verificationChecks input action)

/-- The smallest temperature change that counts. -/
def verificationEpsilon : ℚ := 1 / 2

/-- The change of temperature that a verification judges. -/
def verificationDelta (input : VerificationInput) : ℚ :=
  input.after.headroom.currentTemperature - input.before.headroom.currentTemperature

/-- Outcome and lifecycle from the temperature change, the derating levels and the state. -/
def classifyOutcome (input : VerificationInput) : VerificationOutcome × ActionLifecycle :=
  let delta := verificationDelta input
  let improved : Bool := delta < -verificationEpsilon
  let worsened : Bool := verificationEpsilon < delta
  let violated := input.after.state.isRestrictive
  let relaxed : Bool :=
    input.after.derating.restrictionRank < input.before.derating.restrictionRank
  let tightened : Bool :=
    input.before.derating.restrictionRank < input.after.derating.restrictionRank
  if input.secondaryHardViolation then (.secondaryViolationCreated, .worsened)
  else if tightened || worsened then (.thermalStateWorsened, .worsened)
  else if ! improved && ! relaxed && violated then (.deratingIneffective, .ineffective)
  else if improved && violated then (.deratingPartiallyEffective, .partiallyEffective)
  else if relaxed then (.deratingEffective, .effective)
  else if improved then (.thermalStateImproved, .effective)
  else (.thermalStateUnchanged, .ineffective)

/-- A restore intent is judged by recovery gating, not by temperature. -/
def judgeIntent (intent : MitigationIntent) (recovered : Bool)
    (classified : VerificationOutcome × ActionLifecycle) :
    VerificationOutcome × ActionLifecycle :=
  if intent.isRestoring then
    if recovered then (.recoveryAllowed, .effective) else (.recoveryForbidden, .ineffective)
  else classified

/-- The policy generation moved since the action was authorised. -/
def policySuperseded (input : VerificationInput) (action : ThermalAction) : Bool :=
  isValid input.verificationPolicyGeneration &&
    input.verificationPolicyGeneration != action.authority.policyGeneration

/-- The record of a verification that passed the fences. -/
def verifiedRecord (input : VerificationInput) (action : ThermalAction) : ActionVerification :=
  let recovered := input.after.recovery.allowed
  let violated := input.after.state.isRestrictive
  let improved : Bool := verificationDelta input < -verificationEpsilon
  let judged := judgeIntent action.intent recovered (classifyOutcome input)
  let superseded := policySuperseded input action
  let reasons : ReasonCodeSet :=
    ReasonCodeSet.addIf [] input.secondaryHardViolation .evidenceConflict
  let reasons := reasons.add (if recovered then .recoveryAuthorized else .recoveryForbiddenByPolicy)
  let reasons := reasons.addIf improved .effectiveHeadroomSufficient
  let reasons := reasons.addIf violated .deratingThresholdExceeded
  { actionId := action.id
    temperatureBefore := input.before.headroom.currentTemperature
    temperatureAfter := input.after.headroom.currentTemperature
    delta := verificationDelta input
    headroomBefore := input.before.headroom.effectiveHeadroom
    headroomAfter := input.after.headroom.effectiveHeadroom
    stateBefore := input.before.state
    stateAfter := input.after.state
    deratingBefore := input.before.derating
    deratingAfter := input.after.derating
    telemetryGeneration := input.current.telemetryGeneration
    policyGeneration := input.verificationPolicyGeneration
    coordinatorEpoch := input.current.coordinatorEpoch
    hardConstraintStillViolated := violated
    deratingStillRequired := input.after.derating ≠ .fullCapability
    recoveryConditionsSatisfied := recovered && ! superseded
    outcome := if superseded then .outcomeUnknown else judged.1
    resultingLifecycle := if superseded then .superseded else judged.2
    reasons := if superseded then [.evidenceGenerationInvalidated] else reasons.canonicalise }

/-- Verify a mitigation action against fresh thermal evidence. -/
def verifyAction (input : VerificationInput) : Result ActionVerification :=
  match input.action with
  | none => failure .invalidArgument "verification requires an action record"
  | some action =>
    match verificationFence input action with
    | .error e => .error e
    | .ok () => .ok (verifiedRecord input action)

/-! ### What a verification says -/

/-- A verification that succeeds passed the fences. -/
theorem verifyAction_eq_ok {input : VerificationInput} {action : ThermalAction}
    (ha : input.action = some action) {record : ActionVerification} :
    verifyAction input = .ok record ↔
      verificationFence input action = .ok () ∧ record = verifiedRecord input action := by
  unfold verifyAction
  rw [ha]
  dsimp only
  split
  · rename_i e he
    rw [he]
    exact ⟨fun h => (by cases h), fun h => (by cases h.1)⟩
  · rename_i he
    rw [he]
    exact ⟨fun h => ⟨rfl, (Except.ok.inj h).symm⟩, fun h => by rw [h.2]⟩

/-- The bindings a verification is fenced by. -/
structure VerificationCurrent (input : VerificationInput) (action : ThermalAction) : Prop where
  freshEvidence : input.freshEvidence = true
  freshness : input.freshness = .fresh
  coordinatorEpoch : input.current.coordinatorEpoch = action.authority.coordinatorEpoch
  workerBoot : action.authority.worker ≠ 0 →
    input.current.workerBoot = action.authority.workerBoot
  deviceGeneration : action.authority.device ≠ 0 →
    input.current.deviceGeneration = action.authority.deviceGeneration
  domainGeneration : input.current.domainGeneration = action.authority.domainGeneration
  telemetryGeneration : action.authority.telemetryGeneration ≤ input.current.telemetryGeneration
  actionGeneration : action.generation ≤ input.current.actionGeneration

/-- **The fences pass exactly when the evidence is fresh and every binding is current.** -/
theorem verificationFence_eq_ok {input : VerificationInput} {action : ThermalAction} :
    verificationFence input action = .ok () ↔ VerificationCurrent input action := by
  rw [verificationFence, runChecks_eq_ok]
  simp only [verificationChecks, List.forall_mem_cons, List.not_mem_nil, false_implies,
    implies_true, and_true, Bool.or_eq_true, Bool.not_eq_true', isValid_eq_false,
    beq_iff_eq, decide_eq_true_eq, or_iff_not_imp_left]
  constructor
  · rintro ⟨h1, h2, h3, h4, h5, h6, h7, h8⟩
    exact ⟨h1, h2, h3, h4, h5, h6, h7, h8⟩
  · rintro ⟨h1, h2, h3, h4, h5, h6, h7, h8⟩
    exact ⟨h1, h2, h3, h4, h5, h6, h7, h8⟩

/-- A verification never leaves the action in a position before an outcome. -/
theorem isTerminal_verifiedRecord (input : VerificationInput) (action : ThermalAction) :
    (verifiedRecord input action).resultingLifecycle.isTerminal = true := by
  simp only [verifiedRecord]
  split
  · rfl
  · unfold judgeIntent classifyOutcome
    dsimp only
    split_ifs <;> rfl

/-- **A verification is superseded exactly when the policy generation it is computed
against is a valid one other than the authorised one.** -/
theorem superseded_verifiedRecord (input : VerificationInput) (action : ThermalAction) :
    (verifiedRecord input action).resultingLifecycle = .superseded ↔
      input.verificationPolicyGeneration ≠ 0 ∧
      input.verificationPolicyGeneration ≠ action.authority.policyGeneration := by
  have hjudged : (judgeIntent action.intent input.after.recovery.allowed
      (classifyOutcome input)).2 ≠ .superseded := by
    unfold judgeIntent classifyOutcome
    dsimp only
    split_ifs <;> exact fun h => by cases h
  have hsup : policySuperseded input action = true ↔
      input.verificationPolicyGeneration ≠ 0 ∧
      input.verificationPolicyGeneration ≠ action.authority.policyGeneration := by
    simp [policySuperseded]
  simp only [verifiedRecord]
  rw [← hsup]
  split
  · rename_i h
    exact ⟨fun _ => h, fun _ => rfl⟩
  · rename_i h
    exact ⟨fun hj => absurd hj hjudged, fun hs => absurd hs h⟩

end ThermalGovernor
