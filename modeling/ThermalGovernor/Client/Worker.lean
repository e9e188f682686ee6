import ThermalGovernor.Client.Group

/-!
# The worker

The worker registers itself and its device, and takes the epoch that it is told.  Then it
publishes its records, one for each temperature of its script, as many times as it is to repeat
it.  Behind every message it sends the end of a group, as it does behind a group of its own, and
then it reads one group.

The value of `program` is the number of records that are published when the worker says that it
is ready, and `none` when it gives up before.
-/

namespace ThermalGovernor

open Lib Protocol Client

/-- What a worker is started with. -/
structure WorkerOptions where
  workerId : WorkerId := 1
  boot : WorkerBootId := 1
  label : String := "worker"
  deviceId : DeviceId := 1
  deviceGeneration : DeviceGeneration := 1
  nodeId : NodeId := 1
  nodeGeneration : NodeGeneration := 1
  rackId : RackId := 1
  rackGeneration : RackGeneration := 1
  domainId : ThermalDomainId := 1
  domainGeneration : ThermalDomainGeneration := 1
  temperatures : List Double := []
  rounds : Nat := 1
  realTelemetry : Bool := false

/-- What a worker says. -/
inductive WorkerLine
  | registered (worker : WorkerId) (boot : WorkerBootId) (epoch : CoordinatorEpoch)
  | published (sequence : Nat) (temperature : Double)
  /-- A code, or none when the response is malformed. -/
  | rejected (sequence : Nat) (code : Option Nat)
  | evaluated (summary : EvaluationSummary Double)
  | mitigation (action : ActionId) (intent : MitigationIntent)

/-- A worker that runs on a host with these clocks, read once for each record. -/
structure Worker where
  options : WorkerOptions
  steadyClock : Nat → SteadyTimePoint
  systemClock : Nat → Int

namespace Worker

abbrev Program (α : Type) : Type := Talk Frame WorkerLine α

variable (w : Worker)

/-! ### Messages -/

def supported : CapabilityState :=
  if w.options.realTelemetry then .supportedReal else .supportedSynthetic

def provenance : Provenance := if w.options.realTelemetry then .real else .synthetic

def device : DeviceRegistration where
  device := w.options.deviceId
  generation := w.options.deviceGeneration
  node := w.options.nodeId
  nodeGeneration := w.options.nodeGeneration
  rack := w.options.rackId
  rackGeneration := w.options.rackGeneration
  label := w.options.label
  provenance := w.provenance
  capabilities :=
    (((((({} : CapabilitySet).set .deviceIdentity w.supported "").set .temperature w.supported
      "").set .temperatureLimit .supportedSynthetic "").set .throttleReasons .supportedSynthetic
      "").set .currentClock .supportedSynthetic "").set .maxClock .supportedSynthetic ""

def registration : WorkerRegistration where
  worker := w.options.workerId
  boot := w.options.boot
  label := w.options.label
  coordinatorEpoch := 1
  devices := [w.device]

/-- The record of a temperature. -/
def makeEvidence (epoch : CoordinatorEpoch) (sequence : Nat) (temperature : Double) :
    ThermalEvidence Double where
  evidenceId := sequence
  subject := .forDevice w.options.deviceId w.options.deviceGeneration
  domain := w.options.domainId
  domainGeneration := w.options.domainGeneration
  temperature := temperature
  source := if w.options.realTelemetry then .nvmlGpuTemperature else .syntheticModel
  provenance := w.provenance
  measurementSequence := sequence
  telemetryGeneration := sequence
  worker := w.options.workerId
  workerBoot := w.options.boot
  coordinatorEpoch := epoch
  measuredAt := w.steadyClock sequence
  measuredWallAt := w.systemClock sequence
  capabilityGeneration := 1
  topologyGeneration := 1

def hello : Frame := ⟨.hello, 0, Wire.encodeWorkerRegistration w.registration⟩

def evidence (epoch : CoordinatorEpoch) (sequence : Nat) (temperature : Double) : Frame :=
  ⟨.publishEvidence, 0, Wire.encodeEvidence (w.makeEvidence epoch sequence temperature)⟩

def ack (action : ThermalAction Double) : Frame :=
  ⟨.intentAck, 0, Wire.encodeActionAck
    { actionId := action.id
      actionGeneration := action.generation
      coordinatorEpoch := action.authority.coordinatorEpoch
      workerBoot := action.authority.workerBoot
      deviceGeneration := action.authority.deviceGeneration
      domainGeneration := action.authority.domainGeneration
      accepted := true
      detail := "synthetic backend accepted the instruction" }⟩

def result (sequence : Nat) (action : ThermalAction Double) : Frame :=
  ⟨.intentResult, 0, Wire.encodeActionResult
    { actionId := action.id
      actionGeneration := action.generation
      coordinatorEpoch := action.authority.coordinatorEpoch
      workerBoot := action.authority.workerBoot
      deviceGeneration := action.authority.deviceGeneration
      domainGeneration := action.authority.domainGeneration
      policyGeneration := 1
      telemetryGeneration := sequence
      backendSucceeded := true
      detail := "synthetic backend applied the instruction" }⟩

/-! ### Registering -/

/-- What stands behind the first `mark` in a text. -/
def behind (mark : List Char) : List Char → Option (List Char)
  | [] => none
  | c :: rest =>
    if mark.isPrefixOf (c :: rest) then some ((c :: rest).drop mark.length) else behind mark rest

/-- The epoch that a payload tells, or the one that was known. -/
def toldEpoch (epoch : CoordinatorEpoch) (payload : String) : CoordinatorEpoch :=
  ((behind "epoch=".toList payload.toList).bind fun digits =>
    Session.parseU64 (String.ofList digits)).getD epoch

/-- The epoch that a group tells; none when the registration was refused. -/
def readWelcome (epoch : CoordinatorEpoch) : List Frame → Option CoordinatorEpoch
  | [] => some epoch
  | frame :: rest =>
    if frame.kind ≠ .helloAck then readWelcome epoch rest
    else
      match Wire.decodeResponse {} frame.payload with
      | .error _ => none
      | .ok response =>
        if response.status.code ≠ ThermalErrorCode.none.value then none
        else readWelcome (toldEpoch epoch response.payload) rest

/-- Register, and the epoch that is told. -/
def register : Program (Option CoordinatorEpoch) := do
  if ← sendGroup w.hello then
    match ← Talk.take with
    | none => pure none
    | some group => pure (readWelcome 1 group)
  else pure none

/-! ### Publishing -/

/-- What is said of an acknowledgement. -/
def acknowledgement (sequence : Nat) (temperature : Double) (frame : Frame) : WorkerLine :=
  match Wire.decodeResponse {} frame.payload with
  | .error _ => .rejected sequence none
  | .ok response =>
    if response.status.code = ThermalErrorCode.none.value then .published sequence temperature
    else .rejected sequence (some response.status.code)

/-- Carry out an intent: accept it, and tell that it was done. -/
def carryOut (sequence : Nat) (action : ThermalAction Double) : Program Bool := do
  if ← sendGroup (ack action) then
    let _ ← Talk.take
    if ← sendGroup (result sequence action) then
      let _ ← Talk.take
      Talk.tell (.mitigation action.id action.intent)
      pure true
    else pure false
  else pure false

/-- What is done about a frame; `false` when the worker is to stop. -/
def follow (sequence : Nat) (temperature : Double) (frame : Frame) : Program Bool :=
  match frame.kind with
  | .publishAck => do
    Talk.tell (acknowledgement sequence temperature frame)
    pure true
  | .evaluateResponse =>
    match Wire.decodeEvaluationSummary {} frame.payload with
    | .error _ => pure true
    | .ok summary => do
      Talk.tell (.evaluated summary)
      pure true
  | .dispatchIntent =>
    match Wire.decodeAction {} frame.payload with
    | .error _ => pure true
    | .ok action => carryOut sequence action
  | .shutdown => pure false
  | _ => pure true

def goThrough (sequence : Nat) (temperature : Double) : List Frame → Program Bool
  | [] => pure true
  | frame :: rest => do
    if ← follow sequence temperature frame then goThrough sequence temperature rest
    else pure false

/-- Publish a record, and read one group. -/
def publish (epoch : CoordinatorEpoch) (sequence : Nat) (temperature : Double) :
    Program Bool := do
  if ← sendGroup (w.evidence epoch sequence temperature) then
    match ← Talk.take with
    | none => pure false
    | some group => goThrough sequence temperature group
  else pure false

/-- One round of the script, after so many records; and how many there are then, as long as the
worker is connected. -/
def publishRound (epoch : CoordinatorEpoch) : List Double → Nat → Program (Option Nat)
  | [], sequence => pure (some sequence)
  | temperature :: rest, sequence => do
    if ← w.publish epoch (sequence + 1) temperature then
      publishRound epoch rest (sequence + 1)
    else pure none

/-- The script of temperatures; without one it is zero degrees. -/
def script : List Double :=
  if w.options.temperatures.isEmpty then [⟨0⟩] else w.options.temperatures

def publishRounds (epoch : CoordinatorEpoch) : Nat → Nat → Program (Option Nat)
  | 0, sequence => pure (some sequence)
  | rounds + 1, sequence => do
    match ← w.publishRound epoch w.script sequence with
    | none => pure none
    | some sequence => publishRounds epoch rounds sequence

/-- The worker, up to the line that says that it is ready. -/
def program : Program (Option Nat) := do
  match ← w.register with
  | none => pure none
  | some epoch =>
    Talk.tell (.registered w.options.workerId w.options.boot epoch)
    w.publishRounds epoch w.options.rounds 0

end Worker

end ThermalGovernor
