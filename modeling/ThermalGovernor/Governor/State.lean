import Mathlib.Data.Finset.Basic
import ThermalGovernor.Action.Verification

/-!
# The state of the coordinator

`Governor` is everything the coordinator holds behind its state lock, together
with the reading of its clock.  Configuration and history (policies, devices,
domains, couplings, transitions, actions, verifications) are durable; evidence,
recovery samples, evaluations, recovery authorisations and workers are not.

`trace` is ghost state.  It lists, newest first, what happened in the lifetime of
the coordinator that the state itself forgets: every evaluation with its input,
every accepted record, every retirement of a worker incarnation, every dispatch,
every action read back from a file, every restart.  No operation reads it.

A configuration bounds the action table, and no container of the source holds
`2 ^ 63` records whatever bound is written down, so that much is part of the type.
-/

namespace ThermalGovernor

open Lib

/-- Runtime configuration. -/
structure GovernorConfig where
  coordinator : CoordinatorId := 1
  initialEpoch : CoordinatorEpoch := 1
  durablePath : String := ""
  maxDomains : Nat := 100000
  maxDevices : Nat := 100000
  maxWorkers : Nat := 4096
  maxActions : Nat := 100000
  maxVerifications : Nat := 100000
  maxHistoryRecords : Nat := 200000
  maxRecoverySamples : Nat := 64
  maxCoupledEdges : Nat := 200000
  maxActions_lt : maxActions < 2 ^ 63 := by decide

/-- A worker incarnation registered with the coordinator. -/
structure WorkerRecord where
  worker : WorkerId := 0
  boot : WorkerBootId := 0
  label : String := ""
  alive : Bool := false
  registeredAt : SteadyTimePoint := 0
  lastSeenAt : SteadyTimePoint := 0
  evidencePublished : Nat := 0
  devices : List DeviceId := []

/-- A durable historical state transition. -/
structure StateTransitionRecord (R : Type := ℚ) where
  domain : ThermalDomainId := 0
  domainGeneration : ThermalDomainGeneration := 0
  source : ThermalState := .unknown
  target : ThermalState := .unknown
  deratingFrom : DeratingLevel := .unknown
  deratingTo : DeratingLevel := .unknown
  decision : ThermalDecision := .unknown
  temperature : R := by exact 0
  policyGeneration : ThermalPolicyGeneration := 0
  telemetryGeneration : TelemetryGeneration := 0
  coordinatorEpoch : CoordinatorEpoch := 0
  sequence : Nat := 0

/-! ### The published snapshot -/

/-- The operating envelope of a domain. -/
structure ThermalEnvelope where
  domain : ThermalDomainId := 0
  domainGeneration : ThermalDomainGeneration := 0
  subjectKind : SubjectKind := .device
  state : ThermalState := .unknown
  derating : DeratingLevel := .unknown
  decision : ThermalDecision := .unknown
  maximumLegalTemperature : DegreesCelsius := 0
  vendorTemperatureLimit : Option DegreesCelsius := none
  thresholds : ThermalThresholds ℚ := PolicyOver.makeDefault.thresholds
  headroom : HeadroomBreakdown := {}
  permittedConcurrency : ℚ := 0
  permittedExecutionClass : ExecutionClass := .bestEffortThermal
  permittedClockCeiling : Option MegaHertz := none
  permittedWorkloadIntensity : ℚ := 0
  prohibitedIntents : List MitigationIntent := []
  requiredMitigation : MitigationIntentSet := []
  reasons : ReasonCodeSet := []
  provenance : Provenance := .unknown
  throttleClass : ThrottleClass := .throttleUnknown
  coordinatorEpoch : CoordinatorEpoch := 0
  policyGeneration : ThermalPolicyGeneration := 0
  telemetryGeneration : TelemetryGeneration := 0
  capabilityGeneration : CapabilityGeneration := 0
  topologyGeneration : TopologyGeneration := 0
  recoveryGeneration : Nat := 0

/-- Point-in-time view of one domain. -/
structure ThermalDomainSnapshot where
  definition : ThermalDomainDefinition
  state : ThermalState := .unknown
  derating : DeratingLevel := .unknown
  decision : ThermalDecision := .unknown
  evidence : Option ThermalEvidence := none
  freshness : FreshnessState := .unknown
  headroom : HeadroomBreakdown := {}
  envelope : ThermalEnvelope := {}
  policyGeneration : ThermalPolicyGeneration := 0
  telemetryGeneration : TelemetryGeneration := 0
  capabilityGeneration : CapabilityGeneration := 0
  recovery : RecoveryAssessment := {}
  couplings : List CouplingRelation := []
  authority : DeratingLevel := .unknown
  authorityConcurrency : ℚ := 0
  provenance : Provenance := .unknown

/-- Point-in-time view of one device. -/
structure DeviceSnapshot where
  registration : DeviceRegistration
  evidence : Option ThermalEvidence := none
  freshness : FreshnessState := .unknown
  domains : List ThermalDomainId := []
  temperature : Option DegreesCelsius := none
  throttle : Option ThrottleObservation := none
  headroom : HeadroomBreakdown := {}
  state : ThermalState := .unknown
  derating : DeratingLevel := .unknown
  decision : ThermalDecision := .unknown

/-- A view of the whole runtime at one instant. -/
structure GovernanceSnapshot where
  coordinator : CoordinatorId := 0
  coordinatorEpoch : CoordinatorEpoch := 0
  policyGeneration : ThermalPolicyGeneration := 0
  topologyGeneration : TopologyGeneration := 0
  capabilityGeneration : CapabilityGeneration := 0
  capturedAt : SteadyTimePoint := 0
  domains : Table ThermalDomainId ThermalDomainSnapshot := ∅
  devices : Table DeviceId DeviceSnapshot := ∅
  workers : Table WorkerId WorkerRecord := ∅
  actions : Table ActionId ThermalAction := ∅
  policies : Table ThermalPolicyId ThermalPolicy := ∅
  couplings : CouplingGraph := []
  historicalTransitions : Nat := 0
  historicalActions : Nat := 0
  historicalVerifications : Nat := 0

/-! ### The coordinator -/

/-- What the trace remembers. -/
inductive Event
  /-- A domain was evaluated, whether or not the result was stored. -/
  | evaluated (input : EvaluationInput) (evaluation : ThermalEvaluation)
  /-- A record became the current evidence of its subject. -/
  | accepted (evidence : ThermalEvidence)
  /-- A worker incarnation lost every claim it held. -/
  | retired (worker : WorkerId) (boot : WorkerBootId)
  /-- A worker incarnation that was not alive came back under the same boot. -/
  | revived (worker : WorkerId) (boot : WorkerBootId)
  /-- An action was dispatched. -/
  | dispatched (id : ActionId) (time : SteadyTimePoint)
  /-- An action was read back from a durable file. -/
  | restored (id : ActionId)
  /-- A load advanced the epoch to this one. -/
  | restarted (epoch : CoordinatorEpoch)

/-- The state of the coordinator. -/
structure Governor where
  config : GovernorConfig
  now : SteadyTimePoint := 0
  epoch : CoordinatorEpoch := 1
  policyGeneration : ThermalPolicyGeneration := 1
  topologyGeneration : TopologyGeneration := 1
  capabilityGeneration : CapabilityGeneration := 1
  actionGeneration : ActionGeneration := 1
  verificationGeneration : VerificationGeneration := 1
  recoveryGeneration : Nat := 1
  telemetryGeneration : TelemetryGeneration := 1
  sequence : Nat := 0
  policies : Table ThermalPolicyId ThermalPolicy := ∅
  devices : Table DeviceId DeviceRegistration := ∅
  domains : DomainRegistry := {}
  couplings : CouplingGraph := []
  history : List StateTransitionRecord := []
  actions : Table ActionId ThermalAction := ∅
  verifications : List ActionVerification := []
  evidence : Table String ThermalEvidence := ∅
  invalidatedEvidence : Finset String := ∅
  recoveryHistories : ThermalDomainId → RecoveryHistory := fun _ => {}
  evaluations : Table ThermalDomainId ThermalEvaluation := ∅
  explicitRecovery : Finset ThermalDomainId := ∅
  workers : Table WorkerId WorkerRecord := ∅
  conflictedSubjects : Finset Nat := ∅
  actionBaselines : Table ActionId ThermalEvaluation := ∅
  published : GovernanceSnapshot := {}
  stopping : Bool := false
  trace : List Event := []

/-- The policy that is present from the start. -/
def defaultPolicyId : ThermalPolicyId := 1

namespace Governor

/-- The policy that governs a domain: its own, or the default one. -/
def policyFor (g : Governor) (definition : ThermalDomainDefinition) : Option ThermalPolicy :=
  (g.policies.lookup definition.policy).or (g.policies.lookup defaultPolicyId)

/-- Add an event to the trace. -/
def note (g : Governor) (e : Event) : Governor := { g with trace := e :: g.trace }

/-! ### Snapshots -/

/-- The envelope of an evaluation. -/
def makeEnvelope (g : Governor) (definition : ThermalDomainDefinition) (e : ThermalEvaluation) :
    ThermalEnvelope where
  domain := e.domain
  domainGeneration := e.domainGeneration
  subjectKind := if definition.type = .accelerator then .device else .thermalDomain
  state := e.state
  derating := e.derating
  decision := e.decision
  maximumLegalTemperature := e.headroom.governingLimit
  vendorTemperatureLimit := e.headroom.vendorLimit
  thresholds := ((g.policyFor definition).getD .makeDefault).thresholds
  headroom := e.headroom
  permittedConcurrency := e.permittedConcurrency
  permittedExecutionClass := e.permittedExecutionClass
  permittedClockCeiling := e.permittedClockCeiling
  permittedWorkloadIntensity := e.permittedWorkloadIntensity
  prohibitedIntents := e.prohibitedIntents
  requiredMitigation := e.intents
  reasons := e.reasons
  provenance := e.provenance
  throttleClass := e.throttleClass
  coordinatorEpoch := e.coordinatorEpoch
  policyGeneration := e.policyGeneration
  telemetryGeneration := e.telemetryGeneration
  capabilityGeneration := e.capabilityGeneration
  topologyGeneration := e.topologyGeneration
  recoveryGeneration := if definition.id ∈ g.explicitRecovery then g.recoveryGeneration else 0

/-- The view of one domain. -/
def domainSnapshot (g : Governor) (definition : ThermalDomainDefinition) :
    ThermalDomainSnapshot :=
  let direct := g.evidence.lookup (SubjectRef.forDomain definition.id definition.generation).key
  let view : ThermalDomainSnapshot :=
    { definition := definition
      provenance := definition.provenance
      evidence := direct
      freshness := (direct.map ThermalEvidence.freshness).getD .unknown
      couplings := g.couplings.filter fun e =>
        e.source = definition.id || e.destination = definition.id }
  match g.evaluations.lookup definition.id with
  | none => view
  | some e =>
    { view with
      state := e.state
      derating := e.derating
      decision := e.decision
      headroom := e.headroom
      recovery := e.recovery
      policyGeneration := e.policyGeneration
      telemetryGeneration := e.telemetryGeneration
      capabilityGeneration := e.capabilityGeneration
      authority := e.derating
      authorityConcurrency := e.permittedConcurrency
      envelope := g.makeEnvelope definition e }

/-- The view of one device. -/
def deviceSnapshot (g : Governor) (registration : DeviceRegistration) : DeviceSnapshot :=
  let held := g.evidence.lookup
    (SubjectRef.forDevice registration.device registration.generation).key
  let domains := g.domains.domainsForDevice registration.device
  let view : DeviceSnapshot :=
    { registration := registration
      domains := domains
      evidence := held
      freshness := (held.map ThermalEvidence.freshness).getD .unknown
      temperature := held.map ThermalEvidence.temperature
      throttle := held.bind ThermalEvidence.throttle }
  match domains.head?.bind g.evaluations.lookup with
  | none => view
  | some e =>
    { view with
      state := e.state
      derating := e.derating
      decision := e.decision
      headroom := e.headroom }

/-- The snapshot of the current state. -/
def buildSnapshot (g : Governor) : GovernanceSnapshot where
  coordinator := g.config.coordinator
  coordinatorEpoch := g.epoch
  policyGeneration := g.policyGeneration
  topologyGeneration := g.topologyGeneration
  capabilityGeneration := g.capabilityGeneration
  capturedAt := g.now
  domains := Table.mapValues (fun _ d => g.domainSnapshot d) g.domains.definitions
  devices := Table.mapValues (fun _ d => g.deviceSnapshot d) g.devices
  workers := g.workers
  actions := g.actions
  policies := g.policies
  couplings := g.couplings
  historicalTransitions := g.history.length
  historicalActions := Table.size g.actions
  historicalVerifications := g.verifications.length

/-- Publish a fresh snapshot. -/
def publishLocked (g : Governor) : Governor := { g with published := g.buildSnapshot }

/-- A freshly created coordinator. -/
def create (config : GovernorConfig) (now : SteadyTimePoint) : Governor :=
  publishLocked
    { config := config
      now := now
      epoch := if isValid config.initialEpoch then config.initialEpoch else 1
      policies := (∅ : Table _ _).insert defaultPolicyId .makeDefault
      policyGeneration := PolicyOver.makeDefault.generation }

end Governor

end ThermalGovernor
