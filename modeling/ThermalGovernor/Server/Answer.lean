import ThermalGovernor.Protocol.Frame
import ThermalGovernor.Session.Served
import ThermalGovernor.Wire.Summary

/-!
# Answering a frame

A session of the coordinator answers every frame it receives by a group of frames that ends in
`RESPONSE_END`.  `serve` is the program that makes up the answer: a registration enrols the
worker and its devices up to the first that is refused, a publication is answered with the most
restrictive of the domains it affects, a command by what `CoordinatorSession.program` tells.

A terminator is a frame like any other here, of a kind that the session does not know, and it is
answered by an error.
-/

namespace ThermalGovernor

open Lib Format Steps Protocol

/-- The coordinator's process. -/
structure Service where
  session : CoordinatorSession
  /-- The doubles of a summary that goes over the wire. -/
  outNumbers : EvaluationSummary → EvaluationSummary Double
  maxConnections : Nat := 64

/-- What a session does after an answer. -/
inductive Next
  /-- Receive the next frame. -/
  | listen
  /-- Ask the process to stop, and leave. -/
  | raise
  | leave
  deriving DecidableEq

/-- The frames that a session sends, and what it does then. -/
structure Answer where
  frames : List Frame := []
  next : Next := .listen
  deriving DecidableEq

namespace Server

/-- The frame that ends a group. -/
def responseEnd : Frame := ⟨.responseEnd, 0, []⟩

/-- A group of frames, with its end. -/
def group (frames : List Frame) (next : Next := .listen) : Answer :=
  ⟨frames ++ [responseEnd], next⟩

/-- A response as a group of its own. -/
def responding (kind : MessageKind) (response : CommandResponse) : Answer :=
  group [⟨kind, 0, Wire.encodeResponse response⟩]

/-! ### Workers -/

/-- The devices of a registration, up to the first that is refused. -/
def registerDevices : List DeviceRegistration → Program Status
  | [] => pure (.ok ())
  | device :: rest => do
    match ← atomic (·.registerDevice device) with
    | .error e => pure (.error e)
    | .ok () => registerDevices rest

/-- The worker, and then its devices. -/
def register (registration : WorkerRegistration) : Program Status := do
  match ← atomic (·.registerWorker registration.worker registration.boot registration.label) with
  | .error e => pure (.error e)
  | .ok () => registerDevices registration.devices

/-- The epoch is told whatever has become of the registration. -/
def welcome (status : Status) (epoch : CoordinatorEpoch) : CommandResponse :=
  { CommandResponse.tell (status.map fun _ => "") with payload := "epoch=" ++ decimal epoch }

/-- What becomes of the file after a registration is not told. -/
def hello (session : CoordinatorSession) (payload : Bytes) : Program CommandResponse :=
  match Wire.decodeWorkerRegistration {} payload with
  | .error e => pure (.fail e)
  | .ok registration => do
    let status ← register registration
    let epoch ← look Governor.epoch
    let _ ← look fun g => if status.isOk then session.persistNow g else .ok ()
    pure (welcome status epoch)

/-! ### Evidence -/

/-- The more restrictive of a summary and an evaluation; the summary when they are even. -/
def worse (summary : EvaluationSummary) (candidate : ThermalEvaluation) : EvaluationSummary :=
  if summary.state.severity < candidate.state.severity then Wire.summarise candidate else summary

/-- The most restrictive of the domains that are evaluated. -/
def worstOf : List ThermalDomainId → EvaluationSummary → Program EvaluationSummary
  | [], summary => pure summary
  | domain :: rest, summary => do
    match ← atomic (·.evaluateDomain domain) with
    | .error _ => worstOf rest summary
    | .ok candidate => worstOf rest (worse summary candidate)

/-- The summary of a publication; there is none when the first of its domains is refused. -/
def summaryOf : List ThermalDomainId → Program (Option EvaluationSummary)
  | [] => pure none
  | front :: rest => do
    match ← atomic (·.evaluateDomain front) with
    | .error _ => pure none
    | .ok evaluation => some <$> worstOf (front :: rest) (Wire.summarise evaluation)

def publish (session : CoordinatorSession) (payload : Bytes) :
    Program (CommandResponse × Option EvaluationSummary) :=
  match Wire.decodeEvidence payload with
  | .error e => pure (.fail e, none)
  | .ok evidence => do
    match ← atomic (·.publishTemperature (session.host.inNumbers evidence)) with
    | .error e => pure (.fail e, none)
    | .ok receipt => do
      let summary ← summaryOf receipt.affectedDomains
      pure (.ok "accepted=1", summary)

/-- The acknowledgement, and the summary behind it. -/
def acknowledging (outNumbers : EvaluationSummary → EvaluationSummary Double) :
    CommandResponse × Option EvaluationSummary → Answer
  | (response, none) => responding .publishAck response
  | (response, some summary) =>
    group
      [⟨.publishAck, 0, Wire.encodeResponse response⟩,
       ⟨.evaluateResponse, 0, Wire.encodeEvaluationSummary (outNumbers summary)⟩]

/-! ### Actions -/

def intentAck (payload : Bytes) : Program CommandResponse :=
  match Wire.decodeActionAck {} payload with
  | .error e => pure (.fail e)
  | .ok ack => (fun r => .tell (r.map ActionLifecycle.text)) <$> atomic (·.recordActionAck ack)

def intentResult (payload : Bytes) : Program CommandResponse :=
  match Wire.decodeActionResult {} payload with
  | .error e => pure (.fail e)
  | .ok result =>
    (fun r => .tell (r.map ActionLifecycle.text)) <$> atomic (·.recordActionResult result)

/-! ### Commands -/

/-- A `shutdown` asks the process to stop, whatever has become of it. -/
def query (session : CoordinatorSession) (payload : Bytes) : Program Answer :=
  match Wire.decodeCommand {} payload with
  | .error e => pure (responding .queryResponse (.fail e))
  | .ok request =>
    (fun r => group [⟨.queryResponse, 0, Wire.encodeResponse (.tell r)⟩]
      (if request.verb = "shutdown" then .raise else .listen)) <$> session.program request

/-- The answer to a kind that a session does not know. -/
def unexpected : Answer :=
  group
    [⟨.errorResponse, 0,
      Wire.encodeStatus ⟨ThermalErrorCode.protocolUnsupported.value, "unexpected frame kind"⟩⟩]

/-- The answer to a frame. -/
def serve (service : Service) (frame : Frame) : Program Answer :=
  match frame.kind with
  | .hello => responding .helloAck <$> hello service.session frame.payload
  | .publishEvidence =>
    acknowledging service.outNumbers <$> publish service.session frame.payload
  | .intentAck => responding .intentResult <$> intentAck frame.payload
  | .intentResult => responding .intentResult <$> intentResult frame.payload
  | .heartbeat => pure (group [⟨.heartbeat, 0, Wire.encodeStatus {}⟩])
  | .queryRequest => query service.session frame.payload
  | .disconnect => pure { next := .leave }
  | _ => pure unexpected

end Server

end ThermalGovernor
