import ThermalGovernor.Governor.Durable
import ThermalGovernor.Lib.Fields

/-!
# The records of a durable file

One writer and one reader for each kind of record.  An enumeration is written as the
position of its value; the reader refuses a position that names none.  A flag is written
as one or zero.

A file does not carry everything: the expiry of a coupling is written as a flag and not
restored, and an action leaves its instants and reasons behind, a verification its reasons.
-/

namespace ThermalGovernor

open Lib Lib.Decoder

/-- Bounds applied to every decoded structure. -/
structure PersistenceLimits where
  maxFileBytes : Nat := 64 * 1024 * 1024
  maxRecords : Nat := 2000000
  maxRecordBytes : Nat := 4 * 1024 * 1024
  maxStringBytes : Nat := 64 * 1024
  maxPolicies : Nat := 4096
  maxDevices : Nat := 100000
  maxDomains : Nat := 100000
  maxCouplings : Nat := 200000
  maxTransitions : Nat := 1000000
  maxActions : Nat := 500000
  maxVerifications : Nat := 500000

/-- A reader of one record. -/
abbrev RecordReader (C : Type) {R : Type} [Input R C] := Decoder C ThermalError

namespace Durable

variable {R C : Type} [Input R C] [Scalar R]

def corrupt (detail : String) : ThermalError := ⟨.persistenceCorrupt, detail⟩

/-! ### Shared fields -/

def bit (flag : Bool) : Nat := if flag then 1 else 0

/-- A temperature that must be representable. -/
def readTemperature (e : ThermalError) : RecordReader C R := do
  let temperature ← real
  requireOk e
  require (Scalar.isReading temperature) e
  pure temperature

/-- A percentage that must lie between zero and a hundred. -/
def readPercent (e : ThermalError) : RecordReader C R := do
  let percent ← real
  require (Scalar.isPercent percent) e
  pure percent

/-! ### Policies -/

def writeRestriction (restriction : WorkloadRestriction R) : Payload R :=
  [ .u8 restriction.profile.ctorIdx, .u8 (bit restriction.allowed),
    .u8 restriction.requiredClass.ctorIdx, .real restriction.extraHeadroomDemand ]

def readRestriction : RecordReader C (WorkloadRestriction R) := do
  let profile ← u8
  let allowed ← u8
  let requiredClass ← u8
  let extraHeadroomDemand ← real
  require (profile < 6 && requiredClass < 4 && allowed ≤ 1)
    (corrupt "policy workload restriction carries an invalid enumeration")
  pure
    { profile := .ofNat profile
      allowed := allowed ≠ 0
      requiredClass := .ofNat requiredClass
      extraHeadroomDemand := extraHeadroomDemand }

def writePolicy (policy : PolicyOver R) : Payload R :=
  [ .u64 policy.id, .u64 policy.generation, .text policy.label,
    .real policy.thresholds.warning, .real policy.thresholds.derating,
    .real policy.thresholds.critical, .real policy.thresholds.recovery,
    .real policy.thresholds.nearLimitBand,
    .real policy.margins.policySafetyMargin, .real policy.margins.uncertaintyMargin,
    .real policy.margins.recoveryMargin,
    .i64 policy.freshness.maxAge, .u32 policy.freshness.requiredConsecutiveSamples,
    .i64 policy.freshness.minEvidenceSpan, .u32 policy.freshness.minDistinctWitnesses,
    .flag policy.recovery.requireNoThermalThrottle,
    .flag policy.recovery.requireHeadroomAboveRecoveryMargin,
    .flag policy.recovery.requireCoupledDomainsRecovered,
    .flag policy.recovery.requireSameWorkerBoot,
    .flag policy.recovery.requireSameCoordinatorEpoch,
    .flag policy.recovery.requireSameDeviceGeneration,
    .flag policy.recovery.requireExplicitAuthorization,
    .flag policy.recovery.forbidRecoveryAfterUnsupportedEvidence,
    .flag policy.verification.required, .real policy.verification.improvementEpsilon,
    .u32 policy.verification.requiredSamples,
    .real policy.admission.minEffectiveHeadroom, .flag policy.admission.allowDeratedAdmission,
    .flag policy.admission.allowDefer,
    .real policy.concurrency.normal, .real policy.concurrency.warm,
    .real policy.concurrency.nearLimit, .real policy.concurrency.derated,
    .real policy.concurrency.critical,
    .flag policy.emergency.denyAllExecution, .flag policy.emergency.allowContainmentIntent,
    .flag policy.emergency.allowMigrationIntent,
    .flag policy.emergency.allowCoolingInterventionIntent,
    .flag policy.coupling.coDerateCoupledDomains, .u32 policy.coupling.maxPropagationDepth,
    .flag policy.coupling.requireCoupledRecovery,
    .flag policy.coupling.escalateToHottestNeighbour,
    .u8 policy.unknownBehavior.ctorIdx, .u8 policy.unsupportedBehavior.ctorIdx,
    .u32 policy.allowedIntents, .u32 policy.workloadRestrictions.length ] ++
  policy.workloadRestrictions.flatMap writeRestriction

def readThresholds : RecordReader C (ThermalThresholds R) := do
  let failed := corrupt "policy threshold decode failed"
  let warning ← readTemperature failed
  let derating ← readTemperature failed
  let critical ← readTemperature failed
  let recovery ← readTemperature failed
  let nearLimitBand ← real
  pure ⟨warning, derating, critical, recovery, nearLimitBand⟩

def readMargins : RecordReader C (ThermalMargins R) := do
  let policySafetyMargin ← real
  let uncertaintyMargin ← real
  let recoveryMargin ← real
  pure ⟨policySafetyMargin, uncertaintyMargin, recoveryMargin⟩

def readFreshness : RecordReader C FreshnessRequirements := do
  let maxAge ← i64
  let requiredConsecutiveSamples ← u32
  let minEvidenceSpan ← i64
  let minDistinctWitnesses ← u32
  pure ⟨maxAge, requiredConsecutiveSamples, minEvidenceSpan, minDistinctWitnesses⟩

def readRecovery : RecordReader C RecoveryPolicy := do
  let requireNoThermalThrottle ← flag
  let requireHeadroomAboveRecoveryMargin ← flag
  let requireCoupledDomainsRecovered ← flag
  let requireSameWorkerBoot ← flag
  let requireSameCoordinatorEpoch ← flag
  let requireSameDeviceGeneration ← flag
  let requireExplicitAuthorization ← flag
  let forbidRecoveryAfterUnsupportedEvidence ← flag
  pure ⟨requireNoThermalThrottle, requireHeadroomAboveRecoveryMargin,
    requireCoupledDomainsRecovered, requireSameWorkerBoot, requireSameCoordinatorEpoch,
    requireSameDeviceGeneration, requireExplicitAuthorization,
    forbidRecoveryAfterUnsupportedEvidence⟩

def readConcurrency : RecordReader C (ConcurrencyPolicy R) := do
  let normal ← real
  let warm ← real
  let nearLimit ← real
  let derated ← real
  let critical ← real
  pure ⟨normal, warm, nearLimit, derated, critical⟩

def readEmergency : RecordReader C EmergencyPolicy := do
  let denyAllExecution ← flag
  let allowContainmentIntent ← flag
  let allowMigrationIntent ← flag
  let allowCoolingInterventionIntent ← flag
  pure ⟨denyAllExecution, allowContainmentIntent, allowMigrationIntent,
    allowCoolingInterventionIntent⟩

def readCouplingPolicy : RecordReader C CouplingPolicy := do
  let coDerateCoupledDomains ← flag
  let maxPropagationDepth ← u32
  let requireCoupledRecovery ← flag
  let escalateToHottestNeighbour ← flag
  pure ⟨coDerateCoupledDomains, maxPropagationDepth, requireCoupledRecovery,
    escalateToHottestNeighbour⟩

def readPolicy (limits : PersistenceLimits) : RecordReader C (PolicyOver R) := do
  let id ← u64
  let generation ← u64
  let label ← text limits.maxStringBytes
  let thresholds ← readThresholds
  let margins ← readMargins
  let freshness ← readFreshness
  let recovery ← readRecovery
  let required ← flag
  let improvementEpsilon ← real
  let requiredSamples ← u32
  let minEffectiveHeadroom ← real
  let allowDeratedAdmission ← flag
  let allowDefer ← flag
  let concurrency ← readConcurrency
  let emergency ← readEmergency
  let coupling ← readCouplingPolicy
  let unknownBehavior ← u8
  let unsupportedBehavior ← u8
  require (unknownBehavior < 5 && unsupportedBehavior < 4)
    (corrupt "policy carries an invalid behaviour enumeration")
  let allowedIntents ← u32
  let restrictionCount ← u32
  let absurd := corrupt "policy workload restriction count is out of range"
  requireOk absurd
  require (restrictionCount ≤ 64) absurd
  let workloadRestrictions ← many readRestriction restrictionCount
  requireOk (corrupt "policy decode failed")
  pure
    { id := id
      generation := generation
      label := label
      thresholds := thresholds
      margins := margins
      freshness := freshness
      recovery := recovery
      verification := ⟨required, improvementEpsilon, requiredSamples⟩
      admission := ⟨minEffectiveHeadroom, allowDeratedAdmission, allowDefer⟩
      concurrency := concurrency
      emergency := emergency
      coupling := coupling
      unknownBehavior := .ofNat unknownBehavior
      unsupportedBehavior := .ofNat unsupportedBehavior
      allowedIntents := allowedIntents
      workloadRestrictions := workloadRestrictions }

/-! ### Devices -/

def allCapabilities : List ThermalCapability := (List.range 15).map ThermalCapability.ofNat

def writeCapability (capabilities : CapabilitySet) (c : ThermalCapability) : Payload R :=
  [.u8 (capabilities.get c).ctorIdx, .text (capabilities.details c)]

def writeDevice (device : DeviceRegistration) : Payload R :=
  [ .u64 device.device, .u64 device.generation, .u64 device.node, .u64 device.nodeGeneration,
    .u64 device.rack, .u64 device.rackGeneration, .text device.label,
    .u8 device.provenance.ctorIdx, .u64 device.capabilities.generation ] ++
  allCapabilities.flatMap (writeCapability device.capabilities)

/-- Read the states of the capabilities in turn. -/
def readCapabilities (limits : PersistenceLimits) :
    List ThermalCapability → CapabilitySet → RecordReader C CapabilitySet
  | [], capabilities => pure capabilities
  | c :: rest, capabilities => do
    let state ← u8
    let detail ← text limits.maxStringBytes
    let invalid := corrupt "device carries an invalid capability state"
    requireOk invalid
    require (state ≤ CapabilityState.unsupported.ctorIdx) invalid
    readCapabilities limits rest (capabilities.set c (.ofNat state) detail)

def readDevice (limits : PersistenceLimits) : RecordReader C DeviceRegistration := do
  let device ← u64
  let generation ← u64
  let node ← u64
  let nodeGeneration ← u64
  let rack ← u64
  let rackGeneration ← u64
  let label ← text limits.maxStringBytes
  let provenance ← u8
  let invalid := corrupt "device carries an invalid provenance"
  requireOk invalid
  require (provenance ≤ Provenance.unsupported.ctorIdx) invalid
  let capabilityGeneration ← u64
  let capabilities ← readCapabilities limits allCapabilities {}
  requireOk (corrupt "device decode failed")
  pure
    { device := device
      generation := generation
      node := node
      nodeGeneration := nodeGeneration
      rack := rack
      rackGeneration := rackGeneration
      label := label
      capabilities := { capabilities with generation := capabilityGeneration }
      provenance := .ofNat provenance }

/-! ### Domains -/

def writeSubject (subject : SubjectRef) : Payload R :=
  [ .u8 subject.kind.ctorIdx, .u64 subject.device, .u64 subject.deviceGeneration,
    .u64 subject.node, .u64 subject.nodeGeneration, .u64 subject.rack,
    .u64 subject.rackGeneration, .u64 subject.coolingZone, .u64 subject.chassis,
    .u64 subject.domain, .u64 subject.domainGeneration ]

/-- Read a subject; what is wrong with it is one error. -/
def readSubject (e : ThermalError) : RecordReader C SubjectRef := do
  let kind ← u8
  require (kind < 6) e
  let device ← u64
  let deviceGeneration ← u64
  let node ← u64
  let nodeGeneration ← u64
  let rack ← u64
  let rackGeneration ← u64
  let coolingZone ← u64
  let chassis ← u64
  let domain ← u64
  let domainGeneration ← u64
  requireOk e
  pure ⟨.ofNat kind, device, deviceGeneration, node, nodeGeneration, rack, rackGeneration,
    coolingZone, chassis, domain, domainGeneration⟩

def writeMember (member : DomainMember R) : Payload R :=
  writeSubject member.subject ++ [.real member.weight]

def readMember : RecordReader C (DomainMember R) := do
  let subject ← readSubject (corrupt "domain member subject is malformed")
  let weight ← real
  pure ⟨subject, weight⟩

def writeDomain (definition : ThermalDomainDefinition R) : Payload R :=
  [ .u64 definition.id, .u64 definition.generation, .u8 definition.type.ctorIdx,
    .text definition.label, .u32 definition.members.length ] ++
  definition.members.flatMap writeMember ++
  optionalField .u64 definition.parent ++
  [.u32 definition.children.length] ++
  definition.children.flatMap (fun child => [.u64 child]) ++
  [ .u64 definition.policy, .u64 definition.policyGeneration, .u8 definition.provenance.ctorIdx,
    .text definition.evidenceSource, .u8 definition.aggregation.ctorIdx, .u64 definition.rack,
    .u64 definition.rackGeneration, .u64 definition.coolingZone ] ++
  optionalField .real definition.syntheticAggregateOffset

def readDomain (limits : PersistenceLimits) : RecordReader C (ThermalDomainDefinition R) := do
  let id ← u64
  let generation ← u64
  let type ← u8
  require (type < 7) (corrupt "domain carries an invalid domain type")
  let label ← text limits.maxStringBytes
  let memberCount ← u32
  let absurdMembers := corrupt "domain member count is absurd"
  requireOk absurdMembers
  require (memberCount ≤ limits.maxDomains) absurdMembers
  let members ← many readMember memberCount
  let parent ← optional u64
  let childCount ← u32
  let absurdChildren := corrupt "domain child count is absurd"
  requireOk absurdChildren
  require (childCount ≤ limits.maxDomains) absurdChildren
  let children ← many u64 childCount
  let policy ← u64
  let policyGeneration ← u64
  let provenance ← u8
  require (provenance < 4) (corrupt "domain carries an invalid provenance")
  let evidenceSource ← text limits.maxStringBytes
  let aggregation ← u8
  require (aggregation < 4) (corrupt "domain carries an invalid aggregation rule")
  let rack ← u64
  let rackGeneration ← u64
  let coolingZone ← u64
  let syntheticAggregateOffset ← optional real
  requireOk (corrupt "domain decode failed")
  pure
    { id := id
      generation := generation
      type := .ofNat type
      label := label
      members := members
      parent := parent
      children := children
      policy := policy
      policyGeneration := policyGeneration
      provenance := .ofNat provenance
      evidenceSource := evidenceSource
      aggregation := .ofNat aggregation
      rack := rack
      rackGeneration := rackGeneration
      coolingZone := coolingZone
      syntheticAggregateOffset := syntheticAggregateOffset }

/-! ### Couplings -/

def writeCoupling (relation : CouplingRelation R) : Payload R :=
  [ .u64 relation.id, .u64 relation.source, .u64 relation.destination, .u8 relation.type.ctorIdx,
    .u64 relation.generation, .u8 relation.provenance.ctorIdx, .text relation.evidenceSource,
    .real relation.weight, .u8 (bit relation.directed), .u8 (bit relation.validUntil.isSome) ]

/-- Read a coupling.  One that expired before a restart is not current knowledge, so the
expiry is not restored. -/
def readCoupling (limits : PersistenceLimits) : RecordReader C (CouplingRelation R) := do
  let id ← u64
  let source ← u64
  let destination ← u64
  let type ← u8
  require (type < 7) (corrupt "coupling carries an invalid coupling type")
  let generation ← u64
  let provenance ← u8
  require (provenance < 4) (corrupt "coupling carries an invalid provenance")
  let evidenceSource ← text limits.maxStringBytes
  let weight ← real
  let directed ← u8
  let hasExpiry ← u8
  require (directed ≤ 1 && hasExpiry ≤ 1) (corrupt "coupling carries an invalid flag")
  requireOk (corrupt "coupling decode failed")
  pure
    { id := id
      source := source
      destination := destination
      type := .ofNat type
      generation := generation
      provenance := .ofNat provenance
      evidenceSource := evidenceSource
      weight := weight
      directed := directed ≠ 0
      validUntil := none }

/-! ### History -/

def writeTransition (record : StateTransitionRecord R) : Payload R :=
  [ .u64 record.domain, .u64 record.domainGeneration, .u8 record.source.ctorIdx,
    .u8 record.target.ctorIdx, .u8 record.deratingFrom.ctorIdx, .u8 record.deratingTo.ctorIdx,
    .u8 record.decision.ctorIdx, .real record.temperature, .u64 record.policyGeneration,
    .u64 record.telemetryGeneration, .u64 record.coordinatorEpoch, .u64 record.sequence ]

def readTransition : RecordReader C (StateTransitionRecord R) := do
  let domain ← u64
  let domainGeneration ← u64
  let source ← u8
  let target ← u8
  let deratingFrom ← u8
  let deratingTo ← u8
  let decision ← u8
  require (source < 9 && target < 9 && deratingFrom < 10 && deratingTo < 10 && decision < 7)
    (corrupt "state transition carries an invalid enumeration")
  let temperature ← real
  require (Scalar.isReading temperature)
    ⟨.temperatureInvalid, "persisted transition temperature is out of range"⟩
  let policyGeneration ← u64
  let telemetryGeneration ← u64
  let coordinatorEpoch ← u64
  let sequence ← u64
  requireOk (corrupt "state transition decode failed")
  pure ⟨domain, domainGeneration, .ofNat source, .ofNat target, .ofNat deratingFrom,
    .ofNat deratingTo, .ofNat decision, temperature, policyGeneration, telemetryGeneration,
    coordinatorEpoch, sequence⟩

/-! ### Actions -/

def writeAuthority (authority : ActionAuthority) : Payload R :=
  [ .u64 authority.coordinatorEpoch, .u64 authority.actionId, .u64 authority.actionGeneration,
    .u64 authority.domain, .u64 authority.domainGeneration, .u64 authority.device,
    .u64 authority.deviceGeneration, .u64 authority.policyGeneration,
    .u64 authority.telemetryGeneration, .u64 authority.worker, .u64 authority.workerBoot,
    .u64 authority.topologyGeneration, .u64 authority.capabilityGeneration ]

def readAuthority : RecordReader C ActionAuthority := do
  let coordinatorEpoch ← u64
  let actionId ← u64
  let actionGeneration ← u64
  let domain ← u64
  let domainGeneration ← u64
  let device ← u64
  let deviceGeneration ← u64
  let policyGeneration ← u64
  let telemetryGeneration ← u64
  let worker ← u64
  let workerBoot ← u64
  let topologyGeneration ← u64
  let capabilityGeneration ← u64
  pure ⟨coordinatorEpoch, actionId, actionGeneration, domain, domainGeneration, device,
    deviceGeneration, policyGeneration, telemetryGeneration, worker, workerBoot,
    topologyGeneration, capabilityGeneration⟩

def writeAction (action : ThermalAction R) : Payload R :=
  [.u64 action.id, .u64 action.generation] ++ writeAuthority action.authority ++
  [.u8 action.intent.ctorIdx, .u8 action.lifecycle.ctorIdx, .u8 action.provenance.ctorIdx] ++
  optionalField .u32 action.requestedClockCeiling ++
  optionalField .real action.requestedConcurrency ++
  optionalField .real action.requestedAdmission ++
  [ .text action.detail, .u64 action.verificationGeneration,
    .u64 action.verificationTelemetryGeneration ] ++
  optionalField .u64 action.supersededBy ++ [.text action.authorizationSource]

def readAction (limits : PersistenceLimits) : RecordReader C (ThermalAction R) := do
  let id ← u64
  let generation ← u64
  let authority ← readAuthority
  let intent ← u8
  let lifecycle ← u8
  let provenance ← u8
  require (intent < 12 && lifecycle < 13 && provenance < 4)
    (corrupt "action carries an invalid enumeration")
  let requestedClockCeiling ← optional u32
  let requestedConcurrency ← optional
    (readPercent (corrupt "action concurrency ceiling is out of range"))
  let requestedAdmission ← optional
    (readPercent (corrupt "action admission ceiling is out of range"))
  let detail ← text limits.maxStringBytes
  let verificationGeneration ← u64
  let verificationTelemetryGeneration ← u64
  let supersededBy ← optional u64
  let authorizationSource ← text limits.maxStringBytes
  requireOk (corrupt "action decode failed")
  pure
    { id := id
      generation := generation
      authority := authority
      intent := .ofNat intent
      requestedClockCeiling := requestedClockCeiling
      requestedConcurrency := requestedConcurrency
      requestedAdmission := requestedAdmission
      lifecycle := .ofNat lifecycle
      provenance := .ofNat provenance
      detail := detail
      verificationGeneration := verificationGeneration
      verificationTelemetryGeneration := verificationTelemetryGeneration
      supersededBy := supersededBy
      authorizationSource := authorizationSource }

/-! ### Verifications -/

def writeVerification (verification : ActionVerification R) : Payload R :=
  [ .u64 verification.actionId, .u64 verification.generation, .u8 verification.outcome.ctorIdx,
    .u8 verification.resultingLifecycle.ctorIdx, .real verification.temperatureBefore,
    .real verification.temperatureAfter, .real verification.delta,
    .real verification.headroomBefore, .real verification.headroomAfter,
    .u8 verification.stateBefore.ctorIdx, .u8 verification.stateAfter.ctorIdx,
    .u8 verification.deratingBefore.ctorIdx, .u8 verification.deratingAfter.ctorIdx,
    .flag verification.hardConstraintStillViolated,
    .flag verification.deratingStillRequired,
    .flag verification.recoveryConditionsSatisfied, .u64 verification.telemetryGeneration,
    .u64 verification.policyGeneration, .u64 verification.coordinatorEpoch ]

def readVerification : RecordReader C (ActionVerification R) := do
  let actionId ← u64
  let generation ← u64
  let outcome ← u8
  let lifecycle ← u8
  require (outcome < 10 && lifecycle < 13)
    (corrupt "verification carries an invalid enumeration")
  let outOfRange : ThermalError :=
    ⟨.temperatureInvalid, "persisted verification temperature is out of range"⟩
  let temperatureBefore ← real
  require (Scalar.isReading temperatureBefore) outOfRange
  let temperatureAfter ← real
  require (Scalar.isReading temperatureAfter) outOfRange
  let delta ← real
  let headroomBefore ← real
  let headroomAfter ← real
  let stateBefore ← u8
  let stateAfter ← u8
  let deratingBefore ← u8
  let deratingAfter ← u8
  require (stateBefore < 9 && stateAfter < 9 && deratingBefore < 10 && deratingAfter < 10)
    (corrupt "verification carries an invalid thermal state")
  let hardConstraintStillViolated ← flag
  let deratingStillRequired ← flag
  let recoveryConditionsSatisfied ← flag
  let telemetryGeneration ← u64
  let policyGeneration ← u64
  let coordinatorEpoch ← u64
  requireOk (corrupt "verification decode failed")
  pure
    { actionId := actionId
      generation := generation
      outcome := .ofNat outcome
      temperatureBefore := temperatureBefore
      temperatureAfter := temperatureAfter
      delta := delta
      headroomBefore := headroomBefore
      headroomAfter := headroomAfter
      stateBefore := .ofNat stateBefore
      stateAfter := .ofNat stateAfter
      deratingBefore := .ofNat deratingBefore
      deratingAfter := .ofNat deratingAfter
      resultingLifecycle := .ofNat lifecycle
      hardConstraintStillViolated := hardConstraintStillViolated
      deratingStillRequired := deratingStillRequired
      recoveryConditionsSatisfied := recoveryConditionsSatisfied
      telemetryGeneration := telemetryGeneration
      policyGeneration := policyGeneration
      coordinatorEpoch := coordinatorEpoch }

end Durable

end ThermalGovernor
