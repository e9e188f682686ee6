import ThermalGovernor.Durable.Bytes

/-!
# Payloads on the wire

The worker and the coordinator exchange registrations, evidence, actions, acknowledgements and
results.  Each has a writer and a reader, and one decoder (`decodeWith`) asks, once the reader
has run, whether every read was good and nothing is left.

A reader that fails before it returns is refused by that question whatever it returns, so here
it stops with the same error (`malformed`).  `readSubject` returns without failing when the
kind of a subject names none, and `readEvidence` then returns as well.
-/

namespace ThermalGovernor

open Lib Lib.Decoder

/-- Bounds of the decoders. -/
structure WireLimits where
  maxStringBytes : Nat := 64 * 1024
  maxDevices : Nat := 4096
  maxIntents : Nat := 4096

/-- The limit on texts, as a reader of capabilities takes it. -/
def WireLimits.texts (limits : WireLimits) : PersistenceLimits :=
  { maxStringBytes := limits.maxStringBytes }

@[simp] theorem WireLimits.maxStringBytes_texts (limits : WireLimits) :
    limits.texts.maxStringBytes = limits.maxStringBytes := rfl

/-- A worker that announces itself with its devices. -/
structure WorkerRegistration where
  worker : WorkerId := 0
  boot : WorkerBootId := 0
  label : String := ""
  coordinatorEpoch : CoordinatorEpoch := 0
  devices : List DeviceRegistration := []

namespace Wire

variable {R C α : Type} [Input R C]

/-! ### Decoding -/

def corrupt (detail : String) : ThermalError := ⟨.frameCorrupt, detail⟩

def malformed : ThermalError := corrupt "wire payload is malformed or carries trailing bytes"

/-- Run a reader on a buffer, and accept what it returns if every read was good and nothing is
left. -/
def decodeWith (read : RecordReader Reader α) (e : ThermalError) (bytes : Bytes) : Result α :=
  match read.run ⟨bytes, true⟩ with
  | .error e => .error e
  | .ok (value, reader) =>
    if Input.ok reader && Input.exhausted reader then .ok value else .error e

/-- The same for the input of any kind: the bytes of a buffer, or the fields that they stand
for. -/
def decodeFrom (read : RecordReader C α) (e : ThermalError) (c : C) : Result α :=
  match read.run c with
  | .error e => .error e
  | .ok (value, c) => if Input.ok c && Input.exhausted c then .ok value else .error e

def writeCapabilitySet (set : CapabilitySet) : Payload R :=
  Durable.allCapabilities.flatMap (Durable.writeCapability set) ++ [.u64 set.generation]

/-- The states are read in turn, as from a file. -/
def readCapabilitySet (limits : WireLimits) : RecordReader C CapabilitySet := do
  let set ← refuse malformed (Durable.readCapabilities limits.texts Durable.allCapabilities {})
  let generation ← u64
  pure { set with generation := generation }

/-- A subject, or nothing when its kind names none; the reader does not fail then. -/
def readSubject : RecordReader C (Option SubjectRef) := do
  let kind ← u8
  let good ← isOk
  if ! good || SubjectKind.thermalDomain.ctorIdx < kind then pure none
  else
    let device ← u64
    let deviceGeneration ← u64
    let node ← u64
    let nodeGeneration ← u64
    let rack ← u64
    let rackGeneration ← u64
    let coolingZone ← u64
    let chassis ← u64
    let domain ← u64
    let domainGeneration ← u64
    let good ← isOk
    if good then
      pure (some ⟨.ofNat kind, device, deviceGeneration, node, nodeGeneration, rack,
        rackGeneration, coolingZone, chassis, domain, domainGeneration⟩)
    else pure none

/-- A temperature that must be representable. -/
def readTemperature [Scalar R] : RecordReader C R := do
  let raw ← real
  require (Scalar.isReading raw) malformed
  pure raw

/-- A percentage that must lie between zero and a hundred. -/
def readPercent [Scalar R] : RecordReader C R := do
  let raw ← real
  require (Scalar.isPercent raw) malformed
  pure raw

/-! ### Registrations -/

def writeDevice (device : DeviceRegistration) : Payload R :=
  [ .u64 device.device, .u64 device.generation, .u64 device.node, .u64 device.nodeGeneration,
    .u64 device.rack, .u64 device.rackGeneration, .text device.label,
    .u8 device.provenance.ctorIdx ] ++
  writeCapabilitySet device.capabilities

def writeRegistration (registration : WorkerRegistration) : Payload R :=
  [ .u64 registration.worker, .u64 registration.boot, .text registration.label,
    .u64 registration.coordinatorEpoch, .u32 registration.devices.length ] ++
  registration.devices.flatMap writeDevice

def readDevice (limits : WireLimits) : RecordReader C DeviceRegistration := do
  let device ← u64
  let generation ← u64
  let node ← u64
  let nodeGeneration ← u64
  let rack ← u64
  let rackGeneration ← u64
  let label ← text limits.maxStringBytes
  let provenance ← u8
  requireOk malformed
  require (provenance ≤ Provenance.unsupported.ctorIdx) malformed
  let capabilities ← readCapabilitySet limits
  requireOk malformed
  pure ⟨device, generation, node, nodeGeneration, rack, rackGeneration, label, capabilities,
    .ofNat provenance⟩

def readRegistration (limits : WireLimits) : RecordReader C WorkerRegistration := do
  let worker ← u64
  let boot ← u64
  let label ← text limits.maxStringBytes
  let coordinatorEpoch ← u64
  let count ← u32
  requireOk malformed
  require (count ≤ limits.maxDevices) malformed
  let devices ← many (readDevice limits) count
  pure ⟨worker, boot, label, coordinatorEpoch, devices⟩

def encodeWorkerRegistration (registration : WorkerRegistration) : Bytes :=
  (writeRegistration registration).bytes

def decodeWorkerRegistration (limits : WireLimits) : Bytes → Result WorkerRegistration :=
  decodeWith (readRegistration limits) malformed

/-! ### Evidence -/

def writeThrottle (observation : ThrottleObservation) : Payload R :=
  [.u64 observation.rawReasons, .u8 observation.classification.ctorIdx]

def writeCooling (cooling : CoolingEvidence R) : Payload R :=
  [.u64 cooling.zone] ++ optionalField .real cooling.airInlet ++
  optionalField .real cooling.airOutlet ++ optionalField .real cooling.liquidInlet ++
  optionalField .real cooling.liquidOutlet ++
  optionalField .real cooling.coolantFlowLitresPerMinute ++ [.u8 cooling.provenance.ctorIdx]

def writeFan (fan : FanEvidence R) : Payload R :=
  [.u32 fan.fanCount] ++ optionalField .real fan.speedPercent ++
  optionalField .u32 fan.speedRpm ++ [.u8 fan.provenance.ctorIdx]

def writeEvidence (e : ThermalEvidence R) : Payload R :=
  [.u64 e.evidenceId] ++ Durable.writeSubject e.subject ++
  [ .u64 e.domain, .u64 e.domainGeneration, .real e.temperature, .u8 e.source.ctorIdx,
    .u8 e.provenance.ctorIdx, .u64 e.measurementSequence, .u64 e.telemetryGeneration,
    .u64 e.worker, .u64 e.workerBoot, .u64 e.coordinatorEpoch, .i64 e.measuredAt,
    .i64 e.measuredWallAt, .u64 e.capabilityGeneration, .u64 e.topologyGeneration,
    .u8 e.integrity.ctorIdx ] ++
  optionalPayload writeThrottle e.throttle ++ optionalField .real e.temperatureLimit ++
  optionalField .real e.shutdownLimit ++ optionalField .u32 e.currentClock ++
  optionalField .u32 e.maxClock ++ optionalPayload writeCooling e.cooling ++
  optionalPayload writeFan e.fan ++ optionalField .real e.confidence

def readThrottle : RecordReader C ThrottleObservation := do
  let rawReasons ← u64
  let classification ← u8
  requireOk malformed
  require (classification ≤ ThrottleClass.throttleUnsupported.ctorIdx) malformed
  pure ⟨rawReasons, .ofNat classification⟩

def readCooling [Scalar R] : RecordReader C (CoolingEvidence R) := do
  let zone ← u64
  let airInlet ← optional readTemperature
  let airOutlet ← optional readTemperature
  let liquidInlet ← optional readTemperature
  let liquidOutlet ← optional readTemperature
  let coolantFlowLitresPerMinute ← optional real
  let provenance ← u8
  requireOk malformed
  require (provenance ≤ Provenance.unsupported.ctorIdx) malformed
  pure ⟨zone, airInlet, airOutlet, liquidInlet, liquidOutlet, coolantFlowLitresPerMinute,
    .ofNat provenance⟩

def readFan : RecordReader C (FanEvidence R) := do
  let fanCount ← u32
  let speedPercent ← optional real
  let speedRpm ← optional u32
  let provenance ← u8
  requireOk malformed
  require (provenance ≤ Provenance.unsupported.ctorIdx) malformed
  pure ⟨fanCount, speedPercent, speedRpm, .ofNat provenance⟩

/-- The fields after the subject. -/
def readReading [Scalar R] (evidenceId : EvidenceId) (subject : SubjectRef) :
    RecordReader C (ThermalEvidence R) := do
  let domain ← u64
  let domainGeneration ← u64
  let temperature ← readTemperature
  let source ← u8
  let provenance ← u8
  requireOk malformed
  require (source ≤ MeasurementSource.syntheticModel.ctorIdx &&
    provenance ≤ Provenance.unsupported.ctorIdx) malformed
  let measurementSequence ← u64
  let telemetryGeneration ← u64
  let worker ← u64
  let workerBoot ← u64
  let coordinatorEpoch ← u64
  let measuredAt ← i64
  let measuredWallAt ← i64
  let capabilityGeneration ← u64
  let topologyGeneration ← u64
  let integrity ← u8
  requireOk malformed
  require (integrity ≤ IntegrityStatus.failed.ctorIdx) malformed
  let throttle ← optional readThrottle
  let temperatureLimit ← optional readTemperature
  let shutdownLimit ← optional readTemperature
  let currentClock ← optional u32
  let maxClock ← optional u32
  let cooling ← optional readCooling
  let fan ← optional readFan
  let confidence ← optional real
  pure
    { evidenceId := evidenceId
      subject := subject
      domain := domain
      domainGeneration := domainGeneration
      temperature := temperature
      source := .ofNat source
      provenance := .ofNat provenance
      measurementSequence := measurementSequence
      telemetryGeneration := telemetryGeneration
      worker := worker
      workerBoot := workerBoot
      coordinatorEpoch := coordinatorEpoch
      measuredAt := measuredAt
      measuredWallAt := measuredWallAt
      capabilityGeneration := capabilityGeneration
      topologyGeneration := topologyGeneration
      integrity := .ofNat integrity
      throttle := throttle
      temperatureLimit := temperatureLimit
      shutdownLimit := shutdownLimit
      currentClock := currentClock
      maxClock := maxClock
      cooling := cooling
      fan := fan
      confidence := confidence }

def readEvidence [Scalar R] [Zero R] : RecordReader C (ThermalEvidence R) := do
  let evidenceId ← u64
  let subject ← readSubject
  match subject with
  | none => pure { evidenceId := evidenceId, temperature := 0 }
  | some subject => readReading evidenceId subject

def encodeEvidence (e : ThermalEvidence Double) : Bytes := (writeEvidence e).bytes

def decodeEvidence : Bytes → Result (ThermalEvidence Double) := decodeWith readEvidence malformed

/-! ### Actions -/

def writeAction (action : ThermalAction R) : Payload R :=
  [.u64 action.id, .u64 action.generation] ++ Durable.writeAuthority action.authority ++
  [.u8 action.intent.ctorIdx, .u8 action.lifecycle.ctorIdx, .u8 action.provenance.ctorIdx] ++
  optionalField .u32 action.requestedClockCeiling ++
  optionalField .real action.requestedConcurrency ++
  optionalField .real action.requestedAdmission ++ [.text action.detail]

def readAction [Scalar R] (limits : WireLimits) : RecordReader C (ThermalAction R) := do
  let id ← u64
  let generation ← u64
  let authority ← Durable.readAuthority
  let intent ← u8
  let lifecycle ← u8
  let provenance ← u8
  requireOk malformed
  require (intent < 12 && lifecycle < 13 && provenance ≤ Provenance.unsupported.ctorIdx) malformed
  let requestedClockCeiling ← optional u32
  let requestedConcurrency ← optional readPercent
  let requestedAdmission ← optional readPercent
  let detail ← text limits.maxStringBytes
  pure
    { id := id
      generation := generation
      authority := authority
      intent := .ofNat intent
      lifecycle := .ofNat lifecycle
      provenance := .ofNat provenance
      requestedClockCeiling := requestedClockCeiling
      requestedConcurrency := requestedConcurrency
      requestedAdmission := requestedAdmission
      detail := detail }

def encodeAction (action : ThermalAction Double) : Bytes := (writeAction action).bytes

def decodeAction (limits : WireLimits) : Bytes → Result (ThermalAction Double) :=
  decodeWith (readAction limits) malformed

/-! ### Acknowledgements and results -/

def writeAck (ack : ActionAck) : Payload R :=
  [ .u64 ack.actionId, .u64 ack.actionGeneration, .u64 ack.coordinatorEpoch,
    .u64 ack.workerBoot, .u64 ack.deviceGeneration, .u64 ack.domainGeneration,
    .u8 (Durable.bit ack.accepted), .text ack.detail ]

def writeResult (result : ActionResult) : Payload R :=
  [ .u64 result.actionId, .u64 result.actionGeneration, .u64 result.coordinatorEpoch,
    .u64 result.workerBoot, .u64 result.deviceGeneration, .u64 result.domainGeneration,
    .u64 result.policyGeneration, .u64 result.telemetryGeneration,
    .u8 (Durable.bit result.backendSucceeded), .text result.detail ]

def malformedAck : ThermalError := corrupt "action acknowledgement payload is malformed"

def malformedResult : ThermalError := corrupt "action result payload is malformed"

def readAck (limits : WireLimits) : RecordReader C ActionAck := do
  let actionId ← u64
  let actionGeneration ← u64
  let coordinatorEpoch ← u64
  let workerBoot ← u64
  let deviceGeneration ← u64
  let domainGeneration ← u64
  let accepted ← u8
  let detail ← text limits.maxStringBytes
  require (accepted ≤ 1) malformedAck
  pure ⟨actionId, actionGeneration, coordinatorEpoch, workerBoot, deviceGeneration,
    domainGeneration, accepted ≠ 0, detail⟩

def readResult (limits : WireLimits) : RecordReader C ActionResult := do
  let actionId ← u64
  let actionGeneration ← u64
  let coordinatorEpoch ← u64
  let workerBoot ← u64
  let deviceGeneration ← u64
  let domainGeneration ← u64
  let policyGeneration ← u64
  let telemetryGeneration ← u64
  let succeeded ← u8
  let detail ← text limits.maxStringBytes
  require (succeeded ≤ 1) malformedResult
  pure ⟨actionId, actionGeneration, coordinatorEpoch, workerBoot, deviceGeneration,
    domainGeneration, policyGeneration, telemetryGeneration, succeeded ≠ 0, detail⟩

def encodeActionAck (ack : ActionAck) : Bytes := (writeAck ack).bytes

def decodeActionAck (limits : WireLimits) : Bytes → Result ActionAck :=
  decodeWith (readAck limits) malformedAck

def encodeActionResult (result : ActionResult) : Bytes := (writeResult result).bytes

def decodeActionResult (limits : WireLimits) : Bytes → Result ActionResult :=
  decodeWith (readResult limits) malformedResult

end Wire

end ThermalGovernor
