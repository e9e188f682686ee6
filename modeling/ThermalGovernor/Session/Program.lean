import ThermalGovernor.Lib.Steps
import ThermalGovernor.Session.Handle

/-!
# Commands as programs

A command is answered by several critical sections of the coordinator, and the commands of other
sessions come between them.  `program` cuts each command where the source gives up the lock: the
write of the file follows the operation it is to keep, `set-thresholds` reads the policy before
it changes it, the two bumps read the snapshot before they change the topology, `verify`
publishes before it commits, and an explanation is put together from three looks at the state.

With nobody in between a program is the command (`alone_program`).

The source raises the flag of a shutdown before it takes the lock.  What comes between the two
finds the flag up, as it does after the shutdown.
-/

namespace ThermalGovernor

open Lib Format

/-- A program of the coordinator's sessions. -/
abbrev Program (α : Type) : Type := Steps Governor α

namespace CoordinatorSession

open Steps

variable {α : Type} (s : CoordinatorSession)

/-- The session without its file. -/
def unfiled : CoordinatorSession := { s with statePath := "" }

/-- Write the file when it went well. -/
def filed (outcome : Program (Result String)) : Program (Result String) := do
  match ← outcome with
  | .error e => pure (.error e)
  | .ok text => do
    let written ← look s.persistNow
    pure (written.map fun _ => text)

/-- An operation under the lock, and what is told of it. -/
def locked (operation : Governor → Governor × Result α) (text : α → String) :
    Program (Result String) := atomic fun g => report (operation g) text

/-! ### Commands of more than one section -/

/-- The definition that `register-domain` asks for, given the generation of the policies. -/
def requestedDomain :
    List String → Result (ThermalPolicyGeneration → ThermalDomainDefinition)
  | id :: generation :: type :: provenance :: aggregation :: label :: policy :: members =>
    match Session.parseU64 id, Session.parseU64 generation, Session.parseDomainType type,
        Session.parseProvenance provenance, Session.parseAggregation aggregation,
        Session.parseU64 policy with
    | some id, some generation, some type, some provenance, some aggregation, some policy =>
      match members.mapM Session.parseTypedMember with
      | none => failure .invalidArgument "malformed domain member token"
      | some members =>
        .ok fun policyGeneration =>
          { id := id
            generation := generation
            type := type
            label := label
            members := members
            policy := policy
            policyGeneration := policyGeneration
            provenance := provenance
            aggregation := aggregation }
    | _, _, _, _, _, _ => failure .invalidArgument "malformed domain definition argument"
  | [_, _, _, _, _, _] => failure .invalidArgument "malformed domain definition argument"
  | _ => failure .invalidArgument "register-domain needs at least 6 arguments"

def registerDomainProgram (arguments : List String) : Program (Result String) := do
  match requestedDomain arguments with
  | .error e => pure (.error e)
  | .ok definition => do
    let policyGeneration ← look Governor.policyGeneration
    s.filed (locked (·.registerThermalDomain (definition policyGeneration)) fun _ => "registered")

/-- What `set-thresholds` makes of a policy. -/
def requestedThresholds (arguments : List String) : Result (ThermalPolicy → ThermalPolicy) :=
  if arguments.length < 12 then
    failure .invalidArgument ("set-thresholds needs 12 arguments: eight values, a " ++
      "policy generation, a maximum evidence age in " ++
      "milliseconds, a required consecutive sample count and a " ++
      "minimum evidence span in milliseconds")
  else
    match (arguments.take 8).mapM s.host.strtod with
    | some [warning, derating, critical, recovery, nearLimitBand, safety, uncertainty, margin] =>
      match ((arguments.drop 8).take 4).mapM Session.parseU64 with
      | some [generation, maxAge, requiredSamples, minSpan] =>
        .ok fun current =>
          { current with
            generation := generation
            thresholds :=
              { warning := warning
                derating := derating
                critical := critical
                recovery := recovery
                nearLimitBand := nearLimitBand }
            margins :=
              { policySafetyMargin := safety
                uncertaintyMargin := uncertainty
                recoveryMargin := margin }
            freshness :=
              { current.freshness with
                maxAge := wrap64 maxAge
                requiredConsecutiveSamples := requiredSamples % 2 ^ 32
                minEvidenceSpan := wrap64 minSpan } }
      | _ => failure .invalidArgument "malformed policy generation or freshness argument"
    | _ => failure .invalidArgument "malformed threshold argument"

def setThresholdsProgram (arguments : List String) : Program (Result String) := do
  match s.requestedThresholds arguments with
  | .error e => pure (.error e)
  | .ok change => do
    match ← look (·.getPolicy defaultPolicyId) with
    | .error e => pure (.error e)
    | .ok current =>
      s.filed (locked (·.setPolicy (change current))
        fun generation => "policy-generation=" ++ decimal generation)

/-- The definition that a bump asks for, from the snapshot it has read. -/
def bumpedDomain (g : Governor) (id : ThermalDomainId) : Result ThermalDomainDefinition :=
  match g.published.domains.lookup id with
  | none => failure .unknownDomain "thermal domain is not registered"
  | some domain =>
    .ok { domain.definition with generation := advance domain.definition.generation }

def bumpDomainProgram : List String → Program (Result String)
  | [id] =>
    match Session.parseU64 id with
    | none => pure (refused "malformed domain id")
    | some id => do
      match ← look (bumpedDomain · id) with
      | .error e => pure (.error e)
      | .ok definition =>
        s.filed (locked (·.updateThermalDomain definition)
          fun _ => "domain-generation=" ++ decimal definition.generation)
  | _ => pure (refused "bump-domain-generation needs a domain id")

/-- The registration that a bump asks for, from the snapshot it has read. -/
def bumpedDevice (g : Governor) (id : DeviceId) : Result DeviceRegistration :=
  match g.published.devices.lookup id with
  | none => failure .unknownDevice "device is not registered"
  | some device =>
    .ok
      { device.registration with
        generation := advance device.registration.generation
        nodeGeneration := (device.evidence.map fun e => e.subject.nodeGeneration).getD 1
        rackGeneration := 1 }

def bumpDeviceProgram : List String → Program (Result String)
  | [id] =>
    match Session.parseU64 id with
    | none => pure (refused "malformed device id")
    | some id => do
      match ← look (bumpedDevice · id) with
      | .error e => pure (.error e)
      | .ok registration =>
        s.filed (locked (·.registerDevice registration)
          fun _ => "device-generation=" ++ decimal registration.generation)
  | _ => pure (refused "bump-device-generation needs a device id")

/-- The publication, and the commit of the verification. -/
def verifyProgram (payload : String) : List String → Program (Result String)
  | [id] =>
    match Session.parseU64 id with
    | none => pure (refused "malformed action id")
    | some id =>
      match Session.fromHex payload with
      | none => pure (refused "payload is not hex")
      | some bytes =>
        match Wire.decodeEvidence bytes with
        | .error e => pure (.error e)
        | .ok evidence => do
          match ← atomic (·.publishTemperature (s.host.inNumbers evidence)) with
          | .error e => pure (.error e)
          | .ok _ =>
            s.filed (locked (·.verifyCommit id (s.host.inNumbers evidence)) renderVerification)
  | _ => pure (refused "verify needs an action id")

/-- Only the call that raises the flag writes the file. -/
def shutdownProgram : Program (Result String) := do
  let first ← atomic fun g => (g.shutdown.1, ! g.stopping)
  if first then do
    let written ← look fun g => if g.config.durablePath.isEmpty then .ok () else s.persist g
    pure (written.map fun _ => "shutdown")
  else pure (.ok "shutdown")

/-- The evaluation, the envelope and the policy, each looked up for itself. -/
def explainDomain (id : ThermalDomainId) : Program (Result Explanation) := do
  let evaluation ← atomic (·.evaluateDomain id)
  match evaluation with
  | .error e => pure (.error e)
  | .ok _ => do
    let envelope ← look (·.queryEnvelope id)
    match envelope with
    | .error e => pure (.error e)
    | .ok _ => do
      let policy ← look (·.policyToExplain id)
      pure (Governor.explainFrom evaluation envelope policy)

def explainProgram : List String → Program (Result String)
  | [id] =>
    match Session.parseU64 id with
    | none => pure (refused "malformed domain id")
    | some id => (·.map Explanation.render) <$> explainDomain id
  | _ => pure (refused "explain needs a domain id")

def explainAdmissionOf (request : ThermalAdmissionRequest) : Program (Result Explanation) := do
  let result ← atomic (·.evaluateAdmission request)
  match result with
  | .error e => pure (.error e)
  | .ok _ => do
    let policy ← look (·.policyToExplain request.domain)
    pure (Governor.explainAdmissionFrom result policy)

def explainAdmissionProgram (arguments : List String) : Program (Result String) :=
  if arguments.length < 3 then
    pure (refused ("explain-admission" ++ " needs a domain id, a workload id and a profile"))
  else
    match admissionRequest arguments with
    | none => pure (refused "malformed admission identifier")
    | some request => (·.map Explanation.render) <$> explainAdmissionOf request

/-! ### All commands -/

/-- One command, cut where the lock is given up. -/
def program (request : CommandRequest) : Program (Result String) :=
  let arguments := request.arguments
  match Verb.ofText request.verb with
  | .registerDevice | .registerCoupling | .workerDeath | .authorizeMitigation
  | .authorizeDerating => s.filed (atomic fun g => s.unfiled.execute g request)
  | .registerDomain => s.registerDomainProgram arguments
  | .setThresholds => s.setThresholdsProgram arguments
  | .bumpDomainGeneration => s.bumpDomainProgram arguments
  | .bumpDeviceGeneration => s.bumpDeviceProgram arguments
  | .verify => s.verifyProgram request.payload arguments
  | .shutdown => s.shutdownProgram
  | .explain => explainProgram arguments
  | .explainAdmission => explainAdmissionProgram arguments
  | _ => atomic fun g => s.execute g request

/-! ### With nobody in between -/

variable {s} {g : Governor} {outcome : Governor × Result α} {text : α → String}

theorem alone_filed (p : Program (Result String)) :
    (s.filed p).alone g = s.settle (p.alone g) id := by
  unfold filed settle
  rw [alone_monad_bind]
  cases (p.alone g).2 with
  | error e => rfl
  | ok text => rfl

theorem settle_report : s.settle (report outcome text) id = s.settle outcome text := by
  obtain ⟨g', e | a⟩ := outcome
  · rfl
  · rfl

theorem settle_unfiled : s.unfiled.settle outcome text = report outcome text := by
  obtain ⟨g', e | a⟩ := outcome
  · rfl
  · rfl

theorem alone_locked (operation : Governor → Governor × Result α) :
    (s.filed (locked operation text)).alone g = s.settle (operation g) text := by
  rw [alone_filed, locked, alone_atomic, settle_report]

theorem settle_registerDevice (arguments : List String) :
    s.settle (s.unfiled.registerDevice g arguments) id = s.registerDevice g arguments := by
  unfold registerDevice
  split
  · split
    · dsimp only
      split
      · rw [settle_unfiled, settle_report]
      · rfl
    · rfl
  · rfl

theorem settle_registerCoupling (arguments : List String) :
    s.settle (s.unfiled.registerCoupling g arguments) id = s.registerCoupling g arguments := by
  unfold registerCoupling
  split
  · dsimp only [unfiled]
    split
    · rw [← unfiled, settle_unfiled, settle_report]
    · rfl
  · rfl

theorem settle_workerDeath (arguments : List String) :
    s.settle (s.unfiled.workerDeath g arguments) id = s.workerDeath g arguments := by
  unfold workerDeath
  split
  · split
    · rw [settle_unfiled, settle_report]
    · rfl
  · rfl

theorem settle_authorize
    (operation : ThermalDomainId → MitigationIntentRecord → String → Governor × Result ActionId)
    (arguments : List String) :
    s.settle (s.unfiled.authorize g operation arguments) id =
      s.authorize g operation arguments := by
  unfold authorize
  split
  · split
    · rw [settle_unfiled, settle_report]
    · rfl
  · rfl

theorem registerDomain_eq (arguments : List String) :
    s.registerDomain g arguments =
      match requestedDomain arguments with
      | .error e => (g, .error e)
      | .ok definition =>
        s.settle (g.registerThermalDomain (definition g.policyGeneration))
          fun _ => "registered" := by
  -- seven arguments and more are read, fewer are refused
  rcases arguments with _ | ⟨id, _ | ⟨generation, _ | ⟨type, _ | ⟨provenance, _ | ⟨aggregation,
    _ | ⟨label, _ | ⟨policy, members⟩⟩⟩⟩⟩⟩⟩
  iterate 7 rfl
  unfold registerDomain requestedDomain
  dsimp only
  rcases Session.parseU64 id with _ | id
  · rfl
  rcases Session.parseU64 generation with _ | generation
  · rfl
  rcases Session.parseDomainType type with _ | type
  · rfl
  rcases Session.parseProvenance provenance with _ | provenance
  · rfl
  rcases Session.parseAggregation aggregation with _ | aggregation
  · rfl
  rcases Session.parseU64 policy with _ | policy
  · rfl
  rcases members.mapM Session.parseTypedMember with _ | members
  · rfl
  · rfl

theorem alone_registerDomain (arguments : List String) :
    (s.registerDomainProgram arguments).alone g = s.registerDomain g arguments := by
  rw [registerDomain_eq]
  unfold registerDomainProgram
  cases requestedDomain arguments with
  | error e => rfl
  | ok definition =>
    dsimp only
    rw [alone_monad_bind, alone_look]
    exact alone_locked _

theorem setThresholds_eq (arguments : List String) :
    s.setThresholds g arguments =
      match s.requestedThresholds arguments with
      | .error e => (g, .error e)
      | .ok change =>
        match g.getPolicy defaultPolicyId with
        | .error e => (g, .error e)
        | .ok current =>
          s.settle (g.setPolicy (change current))
            fun generation => "policy-generation=" ++ decimal generation := by
  unfold setThresholds requestedThresholds
  split
  · rfl
  · generalize (arguments.take 8).mapM s.host.strtod = values
    generalize ((arguments.drop 8).take 4).mapM Session.parseU64 = numbers
    -- eight values and four numbers are read
    rcases values with _ | (_ | ⟨warning, _ | ⟨derating, _ | ⟨critical, _ | ⟨recovery,
      _ | ⟨nearLimitBand, _ | ⟨safety, _ | ⟨uncertainty, _ | ⟨margin, _ | ⟨_, _⟩⟩⟩⟩⟩⟩⟩⟩⟩)
    iterate 9 rfl
    · rcases numbers with _ | (_ | ⟨generation, _ | ⟨maxAge, _ | ⟨requiredSamples,
        _ | ⟨minSpan, _ | ⟨_, _⟩⟩⟩⟩⟩)
      all_goals rfl
    · rfl

theorem alone_setThresholds (arguments : List String) :
    (s.setThresholdsProgram arguments).alone g = s.setThresholds g arguments := by
  rw [setThresholds_eq]
  unfold setThresholdsProgram
  cases s.requestedThresholds arguments with
  | error e => rfl
  | ok change =>
    dsimp only
    rw [alone_monad_bind, alone_look]
    cases g.getPolicy defaultPolicyId with
    | error e => rfl
    | ok current => exact alone_locked _

theorem alone_bumpDomain (arguments : List String) :
    (s.bumpDomainProgram arguments).alone g = s.bumpDomainGeneration g arguments := by
  rcases arguments with _ | ⟨argument, _ | ⟨_, _⟩⟩
  · rfl
  · unfold bumpDomainProgram bumpDomainGeneration
    dsimp only
    cases Session.parseU64 argument with
    | none => rfl
    | some id =>
      dsimp only
      rw [alone_monad_bind, alone_look]
      unfold bumpedDomain
      cases g.published.domains.lookup id with
      | none => rfl
      | some domain => exact alone_locked _
  · rfl

theorem alone_bumpDevice (arguments : List String) :
    (s.bumpDeviceProgram arguments).alone g = s.bumpDeviceGeneration g arguments := by
  rcases arguments with _ | ⟨argument, _ | ⟨_, _⟩⟩
  · rfl
  · unfold bumpDeviceProgram bumpDeviceGeneration
    dsimp only
    cases Session.parseU64 argument with
    | none => rfl
    | some id =>
      dsimp only
      rw [alone_monad_bind, alone_look]
      unfold bumpedDevice
      cases g.published.devices.lookup id with
      | none => rfl
      | some device => exact alone_locked _
  · rfl

theorem alone_verify (payload : String) (arguments : List String) :
    (s.verifyProgram payload arguments).alone g = s.verify g payload arguments := by
  rcases arguments with _ | ⟨argument, _ | ⟨_, _⟩⟩
  · rfl
  · unfold verifyProgram verify
    dsimp only
    cases Session.parseU64 argument with
    | none => rfl
    | some id =>
      dsimp only
      cases Session.fromHex payload with
      | none => rfl
      | some bytes =>
        dsimp only
        cases Wire.decodeEvidence bytes with
        | error e => rfl
        | ok evidence =>
          dsimp only
          rw [alone_monad_bind, alone_atomic, Governor.verifyAction]
          cases g.publishTemperature (s.host.inNumbers evidence) with
          | mk g' answer =>
            cases answer with
            | error e => rfl
            | ok receipt => exact alone_locked _
  · rfl

theorem alone_shutdown :
    s.shutdownProgram.alone g = report (s.shutdown g) fun _ => "shutdown" := by
  unfold shutdownProgram shutdown
  rw [alone_monad_bind, alone_atomic]
  cases hstopping : g.stopping with
  | true =>
    rw [if_pos rfl]
    unfold Governor.shutdown
    rw [if_pos hstopping]
    rfl
  | false =>
    have hconfig : g.shutdown.1.config = g.config := by
      unfold Governor.shutdown
      split <;> rfl
    show (g.shutdown.1,
      (if g.shutdown.1.config.durablePath.isEmpty then (.ok () : Status)
        else s.persist g.shutdown.1).map fun _ => "shutdown") = _
    rw [hconfig]
    rfl

theorem alone_explainDomain (id : ThermalDomainId) :
    (explainDomain id).alone g = g.explain id := by
  unfold explainDomain Governor.explain
  rw [alone_monad_bind, alone_atomic]
  cases g.evaluateDomain id with
  | mk g' evaluation =>
    cases evaluation with
    | error e => rfl
    | ok evaluation =>
      dsimp only
      rw [alone_monad_bind, alone_look]
      cases g'.queryEnvelope id with
      | error e => rfl
      | ok envelope => rfl

theorem alone_explainAdmission (request : ThermalAdmissionRequest) :
    (explainAdmissionOf request).alone g = g.explainAdmission request := by
  unfold explainAdmissionOf Governor.explainAdmission
  rw [alone_monad_bind, alone_atomic]
  cases g.evaluateAdmission request with
  | mk g' result =>
    cases result with
    | error e => rfl
    | ok result => rfl

theorem alone_explainProgram (arguments : List String) :
    (explainProgram arguments).alone g = explain g arguments := by
  rcases arguments with _ | ⟨argument, _ | ⟨_, _⟩⟩
  · rfl
  · unfold explainProgram explain
    dsimp only
    cases Session.parseU64 argument with
    | none => rfl
    | some id =>
      dsimp only
      rw [alone_map, alone_explainDomain]
      rfl
  · rfl

theorem alone_explainAdmissionProgram (arguments : List String) :
    (explainAdmissionProgram arguments).alone g =
      onAdmission g "explain-admission" arguments fun request =>
        report (g.explainAdmission request) Explanation.render := by
  unfold explainAdmissionProgram onAdmission
  split
  · rfl
  · cases admissionRequest arguments with
    | none => rfl
    | some request =>
      dsimp only
      rw [alone_map, alone_explainAdmission]
      rfl

/-- **With nobody between its sections, the program of a command is the command.** -/
theorem alone_program (request : CommandRequest) :
    (s.program request).alone g = s.execute g request := by
  unfold program
  dsimp only
  cases hverb : Verb.ofText request.verb
  case registerDevice =>
    rw [alone_filed, alone_atomic, execute, execute, hverb]
    exact settle_registerDevice _
  case registerCoupling =>
    rw [alone_filed, alone_atomic, execute, execute, hverb]
    exact settle_registerCoupling _
  case workerDeath =>
    rw [alone_filed, alone_atomic, execute, execute, hverb]
    exact settle_workerDeath _
  case authorizeMitigation =>
    rw [alone_filed, alone_atomic, execute, execute, hverb]
    exact settle_authorize _ _
  case authorizeDerating =>
    rw [alone_filed, alone_atomic, execute, execute, hverb]
    exact settle_authorize _ _
  case registerDomain => rw [alone_registerDomain, execute, hverb]
  case setThresholds => rw [alone_setThresholds, execute, hverb]
  case bumpDomainGeneration => rw [alone_bumpDomain, execute, hverb]
  case bumpDeviceGeneration => rw [alone_bumpDevice, execute, hverb]
  case verify => rw [alone_verify, execute, hverb]
  case shutdown => rw [alone_shutdown, execute, hverb]
  case explain => rw [alone_explainProgram, execute, hverb]
  case explainAdmission => rw [alone_explainAdmissionProgram, execute, hverb]
  all_goals rfl

end CoordinatorSession

end ThermalGovernor
