import ThermalGovernor.Wire.Reads

/-!
# Commands and responses

A command is a verb with arguments and a payload, a response a status with a payload, all of
them texts.  Both ends read a text up to a limit: what is reported of an error up to the limit
of the configuration, a payload up to `maxCollection`.  The writers know no limit, so a text
comes back exactly within it (`decodeResponse_iff`).

The code of a status is written as its number and taken back as it is, whether it names a code
or not.
-/

namespace ThermalGovernor

open Lib Lib.Decoder Lib.Input

/-- The number of a code. -/
def ThermalErrorCode.value : ThermalErrorCode → Nat
  | none => 0
  | staleEpoch => 1
  | staleWorker => 2
  | staleDeviceGeneration => 3
  | staleDomainGeneration => 4
  | staleTelemetry => 5
  | stalePolicy => 6
  | staleAction => 7
  | staleTopology => 8
  | staleCapability => 9
  | staleVerification => 10
  | unknownDevice => 20
  | unknownDomain => 21
  | unknownWorkload => 22
  | unknownNode => 23
  | unknownRack => 24
  | unknownAction => 25
  | unknownPolicy => 26
  | unknownCoordinator => 27
  | capabilityUnsupported => 40
  | evidenceUnknown => 41
  | evidenceStale => 42
  | evidenceConflict => 43
  | temperatureInvalid => 44
  | evidenceDuplicate => 45
  | policyInvalid => 60
  | policyCycle => 61
  | policyLimitExceeded => 62
  | thermalWarning => 80
  | thermalDeratingRequired => 81
  | thermalCritical => 82
  | noSafeThermalEnvelope => 83
  | recoveryForbidden => 84
  | revalidationRequired => 85
  | actionInfeasible => 100
  | actionIneffective => 101
  | actionSuperseded => 102
  | actionCancelled => 103
  | backendFailure => 104
  | secondaryViolation => 105
  | persistenceCorrupt => 120
  | persistenceUnsupportedVersion => 121
  | persistenceIo => 122
  | persistenceTruncated => 123
  | persistenceTrailingGarbage => 124
  | persistenceIntegrity => 125
  | frameCorrupt => 140
  | frameTooLarge => 141
  | frameTruncated => 142
  | protocolUnsupported => 143
  | transportIo => 144
  | transportClosed => 145
  | duplicateConflict => 160
  | resourceExhausted => 161
  | outcomeUnknown => 162
  | invalidArgument => 163
  | notImplemented => 164
  | internal => 165

/-- What is reported of an error.  The code is kept by its value. -/
structure StatusPayload where
  code : Nat := ThermalErrorCode.none.value
  detail : String := ""
  deriving DecidableEq

/-- A control command. -/
structure CommandRequest where
  verb : String
  arguments : List String := []
  payload : String := ""
  deriving DecidableEq

/-- A control response. -/
structure CommandResponse where
  status : StatusPayload := {}
  payload : String := ""
  deriving DecidableEq

namespace Wire

variable {R C : Type} [Input R C]

/-- The limit on a payload, whatever is configured. -/
def maxCollection : Nat := 2 ^ 20

def outOfRange : ThermalError := corrupt "command argument count is out of range"

def malformedCommand : ThermalError := corrupt "command payload is malformed"

def malformedResponse : ThermalError := corrupt "response payload is malformed"

def malformedStatus : ThermalError := corrupt "status payload is malformed"

/-! ### The codecs -/

def writeCommand (request : CommandRequest) : Payload R :=
  [.text request.verb, .u32 request.arguments.length] ++
  request.arguments.flatMap (fun argument => [.text argument]) ++ [.text request.payload]

def readCommand (limits : WireLimits) : RecordReader C CommandRequest := do
  let verb ← text limits.maxStringBytes
  let count ← u32
  requireOk outOfRange
  require (count ≤ limits.maxIntents) outOfRange
  let arguments ← many (text limits.maxStringBytes) count
  let payload ← text maxCollection
  pure ⟨verb, arguments, payload⟩

def writeResponse (response : CommandResponse) : Payload R :=
  [.u32 response.status.code, .text response.status.detail, .text response.payload]

def readResponse (limits : WireLimits) : RecordReader C CommandResponse := do
  let code ← u32
  let detail ← text limits.maxStringBytes
  let payload ← text maxCollection
  pure ⟨⟨code, detail⟩, payload⟩

def encodeCommand (request : CommandRequest) : Bytes := (writeCommand (R := Double) request).bytes

def decodeCommand (limits : WireLimits) : Bytes → Result CommandRequest :=
  decodeWith (readCommand limits) malformedCommand

def encodeResponse (response : CommandResponse) : Bytes :=
  (writeResponse (R := Double) response).bytes

def decodeResponse (limits : WireLimits) : Bytes → Result CommandResponse :=
  decodeWith (readResponse limits) malformedResponse

def writeStatus (status : StatusPayload) : Payload R := [.u32 status.code, .text status.detail]

def readStatus (limits : WireLimits) : RecordReader C StatusPayload := do
  let code ← u32
  let detail ← text limits.maxStringBytes
  pure ⟨code, detail⟩

def encodeStatus (status : StatusPayload) : Bytes := (writeStatus (R := Double) status).bytes

def decodeStatus (limits : WireLimits) : Bytes → Result StatusPayload :=
  decodeWith (readStatus limits) malformedStatus

/-! ### What the readers take -/

/-- The bounds of the reader on a command. -/
structure CommandBounds (limits : WireLimits) (request : CommandRequest) : Prop where
  verb : request.verb.length ≤ limits.maxStringBytes
  count : request.arguments.length ≤ limits.maxIntents
  arguments : ∀ argument ∈ request.arguments, argument.length ≤ limits.maxStringBytes
  payload : request.payload.length ≤ maxCollection

/-- The bounds of the reader on a response. -/
structure ResponseBounds (limits : WireLimits) (response : CommandResponse) : Prop where
  detail : response.status.detail.length ≤ limits.maxStringBytes
  payload : response.payload.length ≤ maxCollection

theorem exact_command {limits : WireLimits} {request : CommandRequest}
    (hfits : FitsAll C (writeCommand request : Payload R)) :
    Exact (readCommand limits : RecordReader C CommandRequest) (writeCommand request)
      (CommandBounds limits request) request := by
  intro c a c'
  simp only [FitsAll, writeCommand, List.forall_mem_append] at hfits
  obtain ⟨⟨hhead, harguments⟩, hlast⟩ := hfits
  simp only [List.forall_mem_cons] at hhead hlast
  have hargument : Exact (many (text limits.maxStringBytes) request.arguments.length :
      RecordReader C (List String)) _ _ _ :=
    exact_many harguments fun argument h =>
      exact_field (k := .text limits.maxStringBytes) (h _ List.mem_cons_self)
  have hbounds : CommandBounds limits request ↔
      request.verb.length ≤ limits.maxStringBytes ∧
      request.arguments.length ≤ limits.maxIntents ∧
      (∀ argument ∈ request.arguments, argument.length ≤ limits.maxStringBytes) ∧
      request.payload.length ≤ maxCollection :=
    ⟨fun h => ⟨h.verb, h.count, h.arguments, h.payload⟩,
      fun h => ⟨h.1, h.2.1, h.2.2.1, h.2.2.2⟩⟩
  simp [-bind_pure_comp, readCommand, writeCommand, hhead, hlast, hargument.bind_iff, hbounds,
    Kind.Accepts, and_assoc]

theorem exact_response {limits : WireLimits} {response : CommandResponse}
    (hfits : FitsAll C (writeResponse response : Payload R)) :
    Exact (readResponse limits : RecordReader C CommandResponse) (writeResponse response)
      (ResponseBounds limits response) response := by
  intro c a c'
  have hbounds : ResponseBounds limits response ↔
      response.status.detail.length ≤ limits.maxStringBytes ∧
      response.payload.length ≤ maxCollection :=
    ⟨fun h => ⟨h.detail, h.payload⟩, fun h => ⟨h.1, h.2⟩⟩
  simp only [FitsAll, writeResponse, List.forall_mem_cons] at hfits
  simp [-bind_pure_comp, readResponse, writeResponse, hfits, hbounds, and_assoc]

theorem exact_status {limits : WireLimits} {status : StatusPayload}
    (hfits : FitsAll C (writeStatus status : Payload R)) :
    Exact (readStatus limits : RecordReader C StatusPayload) (writeStatus status)
      (status.detail.length ≤ limits.maxStringBytes) status := by
  intro c a c'
  simp only [FitsAll, writeStatus, List.forall_mem_cons] at hfits
  simp [-bind_pure_comp, readStatus, writeStatus, hfits]

/-- **A command comes back from the wire exactly within the bounds of its reader.** -/
theorem decodeCommand_iff {limits : WireLimits} {request : CommandRequest}
    (hfits : FitsAll Reader (writeCommand request : Payload Double)) :
    decodeCommand limits (encodeCommand request) = .ok request ↔ CommandBounds limits request :=
  decodeWith_bytes_iff (exact_command hfits)

/-- **A response comes back from the wire exactly within the bounds of its reader.** -/
theorem decodeResponse_iff {limits : WireLimits} {response : CommandResponse}
    (hfits : FitsAll Reader (writeResponse response : Payload Double)) :
    decodeResponse limits (encodeResponse response) = .ok response ↔
      ResponseBounds limits response :=
  decodeWith_bytes_iff (exact_response hfits)

/-- **A status comes back from the wire exactly within the bound of its reader.** -/
theorem decodeStatus_iff {limits : WireLimits} {status : StatusPayload}
    (hfits : FitsAll Reader (writeStatus status : Payload Double)) :
    decodeStatus limits (encodeStatus status) = .ok status ↔
      status.detail.length ≤ limits.maxStringBytes :=
  decodeWith_bytes_iff (exact_status hfits)

/-- The same read off what was written. -/
theorem decodeFrom_response_iff {limits : WireLimits} {response : CommandResponse} :
    decodeFrom (readResponse limits) malformedResponse
        (put (writeResponse response) (Input.empty : Cursor)) = .ok response ↔
      ResponseBounds limits response :=
  decodeFrom_put_iff (exact_response (Cursor.fitsAll _))

/-- What a response is decoded to is read off what was written. -/
theorem decodeResponse_eq_ok {limits : WireLimits} {response decoded : CommandResponse} :
    decodeResponse limits (encodeResponse response) = .ok decoded ↔
      Yields (readResponse limits) (put (writeResponse response) (Input.empty : Reader)) decoded
        (Input.empty : Reader) := by
  have hbytes : (⟨encodeResponse response, true⟩ : Reader) =
      put (writeResponse response : Payload Double) (Input.empty : Reader) := by
    rw [Reader.put_eq]
    exact congrArg (Reader.mk · true) (List.append_nil _).symm
  rw [decodeResponse, decodeWith_eq_ok, hbytes]

/-- A response is decoded with the code that it was written with, whatever its texts are. -/
theorem code_of_decodeResponse {limits : WireLimits} {response decoded : CommandResponse}
    (hcode : response.status.code < 2 ^ 32)
    (h : decodeResponse limits (encodeResponse response) = .ok decoded) :
    decoded.status.code = response.status.code := by
  have hfits : Fits Reader (.u32 response.status.code : Lib.Field Double) := hcode
  rw [decodeResponse_eq_ok] at h
  unfold readResponse writeResponse at h
  rw [put_cons, yields_u32_bind hfits] at h
  obtain ⟨detail, _, -, h⟩ := yields_bind.mp h
  obtain ⟨payload, _, -, h⟩ := yields_bind.mp h
  obtain ⟨rfl, -⟩ := yields_pure.mp h
  rfl

/-- A response that is decoded is what was written, within the bounds of the reader. -/
theorem eq_of_decodeResponse {limits : WireLimits} {response decoded : CommandResponse}
    (hfits : FitsAll Reader (writeResponse response : Payload Double))
    (h : decodeResponse limits (encodeResponse response) = .ok decoded) :
    ResponseBounds limits response ∧ decoded = response := by
  obtain ⟨hbounds, heq, -, -⟩ := (exact_response hfits _ _ _).mp (decodeResponse_eq_ok.mp h)
  exact ⟨hbounds, heq⟩

end Wire

end ThermalGovernor
