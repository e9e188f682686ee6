import ThermalGovernor.Governor.Durable
import ThermalGovernor.Session.Parse
import ThermalGovernor.Wire.Codec
import ThermalGovernor.Wire.Command

/-!
# The command surface of the coordinator

`handle` answers one command.  The verb chooses the operation, its arguments are parsed, and
what the operation answers is told in a text; an error is told by its code and its detail.  A
command that changes what is durable writes the file before it answers, and tells the error of
the file although the state has changed.

The process hands in what is not its own (`Host`): how C reads a floating-point number, the
numbers of the model for the doubles of a record, and what becomes of a file that is written.
Where the source reads an argument that is not there, after the sixth of `register-domain`, the
command is refused here.
-/

namespace ThermalGovernor

open Lib Format

/-- What the coordinator's process is given by its surroundings. -/
structure Host where
  /-- The number that `strtod` reads from a text, when it reads all of it without an error. -/
  strtod : String → Option ℚ
  /-- A record off the wire, in the numbers of the model. -/
  inNumbers : ThermalEvidence Double → ThermalEvidence
  /-- Write the file of a state.  Whatever fails is told in a short text. -/
  save : DurableState → Status
  save_brief : ∀ state e, save state = .error e → Brief e.detail

/-- A session of the coordinator. -/
structure CoordinatorSession where
  host : Host
  statePath : String := ""

/-- What a command asks for. -/
inductive Verb
  | status | epoch | domains | devices | snapshotInfo | actions | history | persist | shutdown
  | explain | publish | registerDevice | registerDomain | registerCoupling | setThresholds
  | bumpDomainGeneration | bumpDeviceGeneration | workerDeath | authorizeMitigation
  | authorizeDerating | dispatch | cancel | verify | evaluate | domain | headroom | throttle
  | recovery | temperature | device | policy | explainAdmission | admission | unrecognised
  deriving DecidableEq

def Verb.names : List (String × Verb) :=
  [("status", status), ("epoch", epoch), ("domains", domains), ("devices", devices),
   ("snapshot-info", snapshotInfo), ("actions", actions), ("history", history),
   ("persist", persist), ("shutdown", shutdown), ("explain", explain), ("publish", publish),
   ("register-device", registerDevice), ("register-domain", registerDomain),
   ("register-coupling", registerCoupling), ("set-thresholds", setThresholds),
   ("bump-domain-generation", bumpDomainGeneration),
   ("bump-device-generation", bumpDeviceGeneration), ("worker-death", workerDeath),
   ("authorize-mitigation", authorizeMitigation), ("authorize-derating", authorizeDerating),
   ("dispatch", dispatch), ("cancel", cancel), ("verify", verify), ("evaluate", evaluate),
   ("domain", domain), ("headroom", headroom), ("throttle", throttle), ("recovery", recovery),
   ("temperature", temperature), ("device", device), ("policy", policy),
   ("explain-admission", explainAdmission), ("admission", admission)]

/-- The verb of a text. -/
def Verb.ofText (text : String) : Verb := (names.lookup text).getD unrecognised

namespace CommandResponse

def ok (payload : String) : CommandResponse := { payload := payload }

def fail (e : ThermalError) : CommandResponse := { status := ⟨e.code.value, e.detail⟩ }

/-- The response that tells a result. -/
def tell : Result String → CommandResponse
  | .ok payload => ok payload
  | .error e => fail e

end CommandResponse

/-- Refuse the arguments of a command. -/
def refused (detail : String) : Result String := failure .invalidArgument detail

namespace CoordinatorSession

variable {α : Type} (s : CoordinatorSession) (g : Governor)

/-! ### Answers -/

/-- Write the file of the state. -/
def persist : Status := g.persist.bind s.host.save

/-- The same when the session has a file. -/
def persistNow : Status := if s.statePath.isEmpty then .ok () else s.persist g

/-- Tell what an operation answered. -/
def report (outcome : Governor × Result α) (text : α → String) : Governor × Result String :=
  (outcome.1, outcome.2.map text)

/-- Write the file, then tell what an operation answered. -/
def settle (outcome : Governor × Result α) (text : α → String) : Governor × Result String :=
  (outcome.1, outcome.2.bind fun a => (s.persistNow outcome.1).map fun _ => text a)

/-- Tell what the state answers to a query. -/
def tell (answer : Result α) (text : α → String) : Governor × Result String :=
  (g, answer.map text)

/-! ### Listings -/

/-- The rows of a map, in the order of its keys. -/
def rows (table : Table Nat α) (row : Nat → α → String) : List String :=
  (Table.sortedKeys table).filterMap fun key => (table.lookup key).map (row key)

def listDomains : String := String.join (rows g.published.domains domainRow)

def listDevices : String := String.join (rows g.published.devices deviceRow)

def listActions : String := String.join ((Table.sortedValues g.actions).map actionRow)

def listHistory : String := String.join (g.history.map historyRow)

/-! ### Commands that change the state -/

/-- The write of the file is its own here: an earlier shutdown has written it. -/
def shutdown : Governor × Status :=
  if g.stopping then g.shutdown
  else
    (g.shutdown.1, if g.config.durablePath.isEmpty then .ok () else s.persist g.shutdown.1)

def publish (payload : String) : Governor × Result String :=
  match Session.fromHex payload with
  | none => (g, refused "payload is not hex")
  | some bytes =>
    match Wire.decodeEvidence bytes with
    | .error e => (g, .error e)
    | .ok evidence =>
      report (g.publishTemperature (s.host.inNumbers evidence)) fun receipt =>
        "accepted=1 telemetry=" ++ decimal receipt.telemetryGeneration

def registerDevice : List String → Governor × Result String
  | device :: generation :: node :: nodeGeneration :: rack :: rackGeneration :: label ::
      temperature :: throttle :: limit :: provenance :: _ =>
    match [device, generation, node, nodeGeneration, rack, rackGeneration].mapM
        Session.parseU64 with
    | some [device, generation, node, nodeGeneration, rack, rackGeneration] =>
      match Session.parseCapabilityState temperature, Session.parseCapabilityState throttle,
          Session.parseCapabilityState limit, Session.parseProvenance provenance with
      | some temperature, some throttle, some limit, some provenance =>
        let capabilities :=
          ((((((({} : CapabilitySet).set .deviceIdentity .supportedSynthetic "").set
            .temperature temperature "").set .throttleReasons throttle "").set
            .temperatureLimit limit "").set .currentClock .supportedSynthetic "").set
            .maxClock .supportedSynthetic "")
        s.settle
          (g.registerDevice
            { device := device
              generation := generation
              node := node
              nodeGeneration := nodeGeneration
              rack := rack
              rackGeneration := rackGeneration
              label := label
              capabilities := capabilities
              provenance := provenance })
          fun _ => "registered"
      | _, _, _, _ => (g, refused "malformed device capability argument")
    | _ => (g, refused "malformed numeric device argument")
  | _ => (g, refused "register-device needs 11 arguments")

def registerDomain : List String → Governor × Result String
  | id :: generation :: type :: provenance :: aggregation :: label :: policy :: members =>
    match Session.parseU64 id, Session.parseU64 generation, Session.parseDomainType type,
        Session.parseProvenance provenance, Session.parseAggregation aggregation,
        Session.parseU64 policy with
    | some id, some generation, some type, some provenance, some aggregation, some policy =>
      match members.mapM Session.parseTypedMember with
      | none => (g, refused "malformed domain member token")
      | some members =>
        s.settle
          (g.registerThermalDomain
            { id := id
              generation := generation
              type := type
              label := label
              members := members
              policy := policy
              policyGeneration := g.policyGeneration
              provenance := provenance
              aggregation := aggregation })
          fun _ => "registered"
    | _, _, _, _, _, _ => (g, refused "malformed domain definition argument")
  -- with six arguments the source reads the seventh all the same
  | [_, _, _, _, _, _] => (g, refused "malformed domain definition argument")
  | _ => (g, refused "register-domain needs at least 6 arguments")

def registerCoupling : List String → Governor × Result String
  | id :: source :: destination :: type :: provenance :: weight :: _ =>
    match Session.parseU64 id, Session.parseU64 source, Session.parseU64 destination,
        Session.parseCouplingType type, Session.parseProvenance provenance,
        s.host.strtod weight with
    | some id, some source, some destination, some type, some provenance, some weight =>
      s.settle
        (g.registerCoupling
          { id := id
            source := source
            destination := destination
            type := type
            generation := id
            provenance := provenance
            evidenceSource := "operator-configured coupling"
            weight := weight })
        fun _ => "registered"
    | _, _, _, _, _, _ => (g, refused "malformed coupling argument")
  | _ => (g, refused "register-coupling needs 6 arguments")

def setThresholds (arguments : List String) : Governor × Result String :=
  if arguments.length < 12 then
    (g, refused ("set-thresholds needs 12 arguments: eight values, a " ++
      "policy generation, a maximum evidence age in " ++
      "milliseconds, a required consecutive sample count and a " ++
      "minimum evidence span in milliseconds"))
  else
    match (arguments.take 8).mapM s.host.strtod with
    | some [warning, derating, critical, recovery, nearLimitBand, safety, uncertainty, margin] =>
      match ((arguments.drop 8).take 4).mapM Session.parseU64 with
      | some [generation, maxAge, requiredSamples, minSpan] =>
        match g.getPolicy defaultPolicyId with
        | .error e => (g, .error e)
        | .ok current =>
          s.settle
            (g.setPolicy
              { current with
                generation := generation
                thresholds :=
                  { warning := warning
                    derating := derating
                    critical := critical
                    recovery := recovery
                    nearLimitBand := nearLimitBand }
                margins :=
                  { policySafetyMargin := safety
                    uncertaintyMargin := uncertainty
                    recoveryMargin := margin }
                freshness :=
                  { current.freshness with
                    maxAge := wrap64 maxAge
                    requiredConsecutiveSamples := requiredSamples % 2 ^ 32
                    minEvidenceSpan := wrap64 minSpan } })
            fun generation => "policy-generation=" ++ decimal generation
      | _ => (g, refused "malformed policy generation or freshness argument")
    | _ => (g, refused "malformed threshold argument")

def bumpDomainGeneration : List String → Governor × Result String
  | [id] =>
    match Session.parseU64 id with
    | none => (g, refused "malformed domain id")
    | some id =>
      match g.published.domains.lookup id with
      | none => (g, failure .unknownDomain "thermal domain is not registered")
      | some domain =>
        let generation := advance domain.definition.generation
        s.settle (g.updateThermalDomain { domain.definition with generation := generation })
          fun _ => "domain-generation=" ++ decimal generation
  | _ => (g, refused "bump-domain-generation needs a domain id")

def bumpDeviceGeneration : List String → Governor × Result String
  | [id] =>
    match Session.parseU64 id with
    | none => (g, refused "malformed device id")
    | some id =>
      match g.published.devices.lookup id with
      | none => (g, failure .unknownDevice "device is not registered")
      | some device =>
        let generation := advance device.registration.generation
        s.settle
          (g.registerDevice
            { device.registration with
              generation := generation
              nodeGeneration := (device.evidence.map fun e => e.subject.nodeGeneration).getD 1
              rackGeneration := 1 })
          fun _ => "device-generation=" ++ decimal generation
  | _ => (g, refused "bump-device-generation needs a device id")

def workerDeath : List String → Governor × Result String
  | worker :: boot :: _ =>
    match Session.parseU64 worker, Session.parseU64 boot with
    | some worker, some boot => s.settle (g.noteWorkerDeath worker boot) fun _ => "retired"
    | _, _ => (g, refused "malformed worker identity")
  | _ => (g, refused "worker-death needs a worker id and boot id")

/-- The two authorisations. -/
def authorize
    (operation : ThermalDomainId → MitigationIntentRecord → String → Governor × Result ActionId) :
    List String → Governor × Result String
  | domain :: intent :: _ =>
    match Session.parseU64 domain, Session.parseIntent intent with
    | some domain, some intent =>
      let record : MitigationIntentRecord :=
        { intent := intent
          domain := domain
          concurrencyCeiling :=
            if intent = .requestConcurrencyReduction then some 50 else none }
      s.settle (operation domain record "operator request") fun id => "action=" ++ decimal id
    | _, _ => (g, refused "malformed authorize argument")
  | _ => (g, refused "authorize needs a domain id and an intent")

/-- The two verbs that name an action. -/
def onAction (operation : ActionId → Governor × Result String) :
    List String → Governor × Result String
  | [id] =>
    match Session.parseU64 id with
    | none => (g, refused "malformed action id")
    | some id => operation id
  | _ => (g, refused "action verb needs an action id")

def verify (payload : String) : List String → Governor × Result String
  | [id] =>
    match Session.parseU64 id with
    | none => (g, refused "malformed action id")
    | some id =>
      match Session.fromHex payload with
      | none => (g, refused "payload is not hex")
      | some bytes =>
        match Wire.decodeEvidence bytes with
        | .error e => (g, .error e)
        | .ok evidence =>
          s.settle (g.verifyAction id (s.host.inNumbers evidence)) renderVerification
  | _ => (g, refused "verify needs an action id")

/-! ### Queries -/

/-- The verbs that take one identifier. -/
def query (answer : Nat → Governor × Result String) : List String → Governor × Result String
  | [id] =>
    match Session.parseU64 id with
    | none => (g, refused "malformed identifier")
    | some id => answer id
  | _ => (g, refused "query needs exactly one identifier")

def explain : List String → Governor × Result String
  | [id] =>
    match Session.parseU64 id with
    | none => (g, refused "malformed domain id")
    | some id => report (g.explain id) Explanation.render
  | _ => (g, refused "explain needs a domain id")

def device (id : DeviceId) : Result String :=
  match g.published.devices.lookup id with
  | none => failure .unknownDevice "device is not registered"
  | some device => .ok (renderDevice id device)

def temperature (id : ThermalDomainId) : Result String :=
  match (g.published.domains.lookup id).bind ThermalDomainSnapshot.evidence with
  | none => failure .evidenceUnknown "no current temperature evidence"
  | some evidence =>
    .ok (printed evidence.temperature ++ " provenance=" ++ evidence.provenance.text)

/-- The request of an admission, from its arguments. -/
def admissionRequest : List String → Option ThermalAdmissionRequest
  | domain :: workload :: profile :: _ => do
    let domain ← Session.parseU64 domain
    let workload ← Session.parseU64 workload
    pure { domain := domain, workload := workload, profile := Session.parseProfile profile }
  | _ => none

/-- The two verbs that ask for an admission. -/
def onAdmission (name : String) (arguments : List String)
    (operation : ThermalAdmissionRequest → Governor × Result String) :
    Governor × Result String :=
  if arguments.length < 3 then
    (g, refused (name ++ " needs a domain id, a workload id and a profile"))
  else
    match admissionRequest arguments with
    | none => (g, refused "malformed admission identifier")
    | some request => operation request

/-! ### All commands -/

/-- One command: the state after it, and what it tells. -/
def execute (request : CommandRequest) : Governor × Result String :=
  let arguments := request.arguments
  match Verb.ofText request.verb with
  | .status | .snapshotInfo => (g, .ok g.published.renderSummary)
  | .epoch => (g, .ok (decimal g.epoch))
  | .domains => (g, .ok (listDomains g))
  | .devices => (g, .ok (listDevices g))
  | .actions => (g, .ok (listActions g))
  | .history => (g, .ok (listHistory g))
  | .persist => tell g (s.persistNow g) fun _ => "persisted"
  | .shutdown => report (s.shutdown g) fun _ => "shutdown"
  | .explain => explain g arguments
  | .publish => s.publish g request.payload
  | .registerDevice => s.registerDevice g arguments
  | .registerDomain => s.registerDomain g arguments
  | .registerCoupling => s.registerCoupling g arguments
  | .setThresholds => s.setThresholds g arguments
  | .bumpDomainGeneration => s.bumpDomainGeneration g arguments
  | .bumpDeviceGeneration => s.bumpDeviceGeneration g arguments
  | .workerDeath => s.workerDeath g arguments
  | .authorizeMitigation => s.authorize g g.authorizeMitigation arguments
  | .authorizeDerating => s.authorize g g.authorizeDerating arguments
  | .dispatch =>
    onAction g (fun id => report (g.recordActionDispatch id) ActionLifecycle.text) arguments
  | .cancel =>
    onAction g (fun id => report (g.cancelAction id "operator cancel") CancellationResult.text)
      arguments
  | .verify => s.verify g request.payload arguments
  | .evaluate => query g (fun id => report (g.evaluateDomain id) renderEvaluation) arguments
  | .domain => query g (fun id => tell g (g.queryEnvelope id) renderEnvelope) arguments
  | .headroom => query g (fun id => tell g (g.queryHeadroom id) renderHeadroom) arguments
  | .throttle =>
    query g (fun id => tell g (g.queryEnvelope id) fun e => e.throttleClass.text) arguments
  | .recovery =>
    query g (fun id => tell g (g.evaluateRecovery id) fun r =>
      (buildRecoveryExplanation r .makeDefault).render) arguments
  | .temperature => query g (fun id => (g, temperature g id)) arguments
  | .device => query g (fun id => (g, device g id)) arguments
  | .policy => tell g (g.getPolicy defaultPolicyId) renderPolicy
  | .explainAdmission =>
    onAdmission g "explain-admission" arguments fun request =>
      report (g.explainAdmission request) Explanation.render
  | .admission =>
    onAdmission g "admission" arguments fun request =>
      report (g.evaluateAdmission request) renderAdmission
  | .unrecognised =>
    (g, failure .notImplemented ("unrecognised coordinator verb: " ++ request.verb))

/-- Answer a command. -/
def handle (request : CommandRequest) : Governor × CommandResponse :=
  ((s.execute g request).1, .tell (s.execute g request).2)

end CoordinatorSession

end ThermalGovernor
