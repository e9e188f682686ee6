import Mathlib.Tactic.MkIffOfInductiveProp
import ThermalGovernor.Decision.Vocabulary

/-!
# Mitigation actions

An action record carries the generations it was authorised under
(`ActionAuthority`).  Immediately before dispatch they are compared with the
current ones (`AuthoritySnapshot`): `revalidateActionAuthority` runs ten fences,
each answering with its own code, and `revalidateActionAuthority_eq_ok` reads an
accepted revalidation back as bindings that are all current.
-/

namespace ThermalGovernor

/-- Lifecycle position of a mitigation action. -/
inductive ActionLifecycle
  | planned | authorized | dispatched | acknowledged | verifying | effective
  | partiallyEffective | ineffective | worsened | failed | superseded | cancelled
  | outcomeUnknown
  deriving DecidableEq

/-- No further transition may leave the lifecycle position. -/
def ActionLifecycle.isTerminal : ActionLifecycle → Bool
  | effective | partiallyEffective | ineffective | worsened | failed | superseded | cancelled
  | outcomeUnknown => true
  | planned | authorized | dispatched | acknowledged | verifying => false

/-- The generation binding of an action. -/
structure ActionAuthority where
  coordinatorEpoch : CoordinatorEpoch := 0
  actionId : ActionId := 0
  actionGeneration : ActionGeneration := 0
  domain : ThermalDomainId := 0
  domainGeneration : ThermalDomainGeneration := 0
  device : DeviceId := 0
  deviceGeneration : DeviceGeneration := 0
  policyGeneration : ThermalPolicyGeneration := 0
  telemetryGeneration : TelemetryGeneration := 0
  worker : WorkerId := 0
  workerBoot : WorkerBootId := 0
  topologyGeneration : TopologyGeneration := 0
  capabilityGeneration : CapabilityGeneration := 0
  deriving DecidableEq

/-- The current generations an action is checked against. -/
structure AuthoritySnapshot where
  coordinatorEpoch : CoordinatorEpoch := 0
  domainGeneration : ThermalDomainGeneration := 0
  deviceGeneration : DeviceGeneration := 0
  policyGeneration : ThermalPolicyGeneration := 0
  telemetryGeneration : TelemetryGeneration := 0
  workerBoot : WorkerBootId := 0
  topologyGeneration : TopologyGeneration := 0
  capabilityGeneration : CapabilityGeneration := 0
  actionGeneration : ActionGeneration := 0

/-- The fences of a dispatch, in the order of the source. -/
def authorityChecks (authority : ActionAuthority) (current : AuthoritySnapshot) : List Check :=
  [ ⟨isValid authority.actionId, .invalidArgument, "action id must be non-zero"⟩,
    ⟨current.coordinatorEpoch == authority.coordinatorEpoch, .staleEpoch,
      "coordinator epoch advanced since the action was authorised"⟩,
    ⟨! isValid authority.worker || current.workerBoot == authority.workerBoot, .staleWorker,
      "worker boot identity changed since the action was authorised"⟩,
    ⟨! isValid authority.device || current.deviceGeneration == authority.deviceGeneration,
      .staleDeviceGeneration, "device generation advanced since the action was authorised"⟩,
    ⟨current.domainGeneration == authority.domainGeneration, .staleDomainGeneration,
      "thermal domain generation advanced since the action was authorised"⟩,
    ⟨current.policyGeneration == authority.policyGeneration, .stalePolicy,
      "thermal policy generation advanced since the action was authorised"⟩,
    ⟨authority.telemetryGeneration ≤ current.telemetryGeneration, .staleTelemetry,
      "current telemetry generation predates the action authority"⟩,
    ⟨! isValid authority.topologyGeneration ||
      current.topologyGeneration == authority.topologyGeneration, .staleTopology,
      "topology generation advanced since the action was authorised"⟩,
    ⟨! isValid authority.capabilityGeneration ||
      current.capabilityGeneration == authority.capabilityGeneration, .staleCapability,
      "capability generation advanced since the action was authorised"⟩,
    ⟨authority.actionGeneration ≤ current.actionGeneration, .staleAction,
      "action generation has been superseded"⟩ ]

/-- Revalidate an action immediately before dispatch. -/
def revalidateActionAuthority (authority : ActionAuthority) (current : AuthoritySnapshot) :
    Status := runChecks (authorityChecks authority current)

/-- The bindings of an authority to epoch, worker boot, device, domain, telemetry, topology and
capability are current. -/
@[mk_iff] structure BindingsCurrent (authority : ActionAuthority)
    (current : AuthoritySnapshot) : Prop where
  coordinatorEpoch : current.coordinatorEpoch = authority.coordinatorEpoch
  workerBoot : authority.worker ≠ 0 → current.workerBoot = authority.workerBoot
  deviceGeneration : authority.device ≠ 0 → current.deviceGeneration = authority.deviceGeneration
  domainGeneration : current.domainGeneration = authority.domainGeneration
  telemetryGeneration : authority.telemetryGeneration ≤ current.telemetryGeneration
  topologyGeneration : authority.topologyGeneration ≠ 0 →
    current.topologyGeneration = authority.topologyGeneration
  capabilityGeneration : authority.capabilityGeneration ≠ 0 →
    current.capabilityGeneration = authority.capabilityGeneration

instance (authority : ActionAuthority) (current : AuthoritySnapshot) :
    Decidable (BindingsCurrent authority current) :=
  decidable_of_iff' _ (bindingsCurrent_iff authority current)

/-- **A revalidation succeeds exactly when the action is known to the allocator and every binding
is current, the policy's included.** -/
theorem revalidateActionAuthority_eq_ok {authority : ActionAuthority}
    {current : AuthoritySnapshot} :
    revalidateActionAuthority authority current = .ok () ↔
      (authority.actionId ≠ 0 ∧ authority.actionGeneration ≤ current.actionGeneration) ∧
        BindingsCurrent authority current ∧
        current.policyGeneration = authority.policyGeneration := by
  rw [revalidateActionAuthority, runChecks_eq_ok]
  simp only [authorityChecks, List.forall_mem_cons, List.not_mem_nil, false_implies,
    implies_true, and_true, Bool.or_eq_true, Bool.not_eq_true', isValid_eq_false, isValid_eq_true,
    beq_iff_eq, decide_eq_true_eq, or_iff_not_imp_left]
  constructor
  · rintro ⟨h1, h2, h3, h4, h5, h6, h7, h8, h9, h10⟩
    exact ⟨⟨h1, h10⟩, ⟨h2, h3, h4, h5, h7, h8, h9⟩, h6⟩
  · rintro ⟨⟨h1, h10⟩, ⟨h2, h3, h4, h5, h7, h8, h9⟩, h6⟩
    exact ⟨h1, h2, h3, h4, h5, h6, h7, h8, h9, h10⟩

/-- A materialised mitigation action record. -/
structure ThermalAction (R : Type := ℚ) where
  id : ActionId := 0
  generation : ActionGeneration := 0
  authority : ActionAuthority := {}
  intent : MitigationIntent := .noAction
  requestedClockCeiling : Option MegaHertz := none
  requestedConcurrency : Option R := none
  requestedAdmission : Option R := none
  lifecycle : ActionLifecycle := .planned
  reasons : ReasonCodeSet := []
  provenance : Provenance := .unknown
  detail : String := ""
  plannedAt : SteadyTimePoint := 0
  authorizedAt : SteadyTimePoint := 0
  dispatchedAt : SteadyTimePoint := 0
  acknowledgedAt : SteadyTimePoint := 0
  terminalAt : SteadyTimePoint := 0
  verificationGeneration : VerificationGeneration := 0
  verificationTelemetryGeneration : TelemetryGeneration := 0
  supersededBy : Option ActionId := none
  authorizationSource : String := ""

/-- Honest cancellation outcome. -/
inductive CancellationResult
  | cancelledBeforeDispatch | cancelledAfterDispatch | verificationRequired | alreadyEffective
  | outcomeUnknown
  deriving DecidableEq

end ThermalGovernor
