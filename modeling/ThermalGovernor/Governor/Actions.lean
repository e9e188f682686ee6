import ThermalGovernor.Governor.Admission

/-!
# Mitigation actions

An action is authorised from an evaluation of its domain, bound to the generations
then in force, dispatched when a revalidation finds them current, acknowledged,
and verified from later evidence.

Two generations of policy meet here.  `authorizeMitigation` binds an action to the
generation of the policy that governs its domain; `recordActionDispatch` and
`verifyCommit` compare that binding with `Governor.policyGeneration`, the counter
of all policy updates, while `recordActionResult` compares it with the governing
policy again.  They are modelled as they are.
-/

namespace ThermalGovernor

open Lib

/-- A worker's answer to an instruction. -/
structure ActionAck where
  actionId : ActionId := 0
  actionGeneration : ActionGeneration := 0
  coordinatorEpoch : CoordinatorEpoch := 0
  workerBoot : WorkerBootId := 0
  deviceGeneration : DeviceGeneration := 0
  domainGeneration : ThermalDomainGeneration := 0
  accepted : Bool := false
  detail : String := ""

/-- A worker's report on an attempted mitigation. -/
structure ActionResult where
  actionId : ActionId := 0
  actionGeneration : ActionGeneration := 0
  coordinatorEpoch : CoordinatorEpoch := 0
  workerBoot : WorkerBootId := 0
  deviceGeneration : DeviceGeneration := 0
  domainGeneration : ThermalDomainGeneration := 0
  policyGeneration : ThermalPolicyGeneration := 0
  telemetryGeneration : TelemetryGeneration := 0
  backendSucceeded : Bool := false
  detail : String := ""

/-- The text contains the word. -/
def containsText (text word : String) : Bool :=
  word.toList <:+: text.toList

/-- The checks an acknowledgement and a result have in common; `report` names the message. -/
def reportChecks (report : String) (action : ThermalAction) (epoch : CoordinatorEpoch)
    (actionGeneration : ActionGeneration) (coordinatorEpoch : CoordinatorEpoch)
    (bootText : String) (workerBoot : WorkerBootId) (deviceGeneration : DeviceGeneration)
    (domainGeneration : ThermalDomainGeneration) : List Check :=
  let authority := action.authority
  [ ⟨actionGeneration == action.generation, .staleAction,
      report ++ " carries a stale action generation"⟩,
    ⟨coordinatorEpoch == epoch, .staleEpoch, report ++ " carries a stale coordinator epoch"⟩,
    ⟨! isValid authority.worker || workerBoot == authority.workerBoot, .staleWorker,
      report ++ " carries a stale " ++ bootText⟩,
    ⟨! isValid authority.device || deviceGeneration == authority.deviceGeneration,
      .staleDeviceGeneration, report ++ " carries a stale device generation"⟩,
    ⟨domainGeneration == authority.domainGeneration, .staleDomainGeneration,
      report ++ " carries a stale domain generation"⟩ ]

def ackChecks (action : ThermalAction) (epoch : CoordinatorEpoch) (ack : ActionAck) :
    List Check :=
  reportChecks "acknowledgement" action epoch ack.actionGeneration ack.coordinatorEpoch
    "worker boot" ack.workerBoot ack.deviceGeneration ack.domainGeneration

def resultChecks (action : ThermalAction) (epoch : CoordinatorEpoch) (result : ActionResult) :
    List Check :=
  reportChecks "result" action epoch result.actionGeneration result.coordinatorEpoch
    "worker boot identity" result.workerBoot result.deviceGeneration result.domainGeneration

namespace Governor

/-- Write an action back. -/
def putAction (g : Governor) (id : ActionId) (action : ThermalAction) : Governor :=
  { g with actions := g.actions.insert id action }

/-! ### Authorisation -/

/-- The checks before the evaluation. -/
def authorizeChecks (g : Governor) (policy : ThermalPolicy) (intent : MitigationIntent) :
    List Check :=
  [ ⟨policyAllows policy intent, .actionInfeasible,
      "policy does not permit this mitigation intent"⟩,
    ⟨Table.size g.actions < g.config.maxActions, .resourceExhausted,
      "action queue limit reached"⟩ ]

/-- The checks after it. -/
def restorationChecks (e : ThermalEvaluation) (intent : MitigationIntent) : List Check :=
  [ ⟨! (e.state = .critical && intent.isRestoring), .actionInfeasible,
      "a critical thermal state forbids capability restoration"⟩,
    ⟨! (e.state = .unsupported && intent.isRestoring), .capabilityUnsupported,
      "unsupported thermal evidence cannot authorise restoration"⟩ ]

/-- The binding of a new action: the generations in force, and the worker incarnation and
device generation of the evidence the evaluation rests on. -/
def newAuthority (g : Governor) (domain : ThermalDomainId)
    (definition : ThermalDomainDefinition) (policy : ThermalPolicy) (e : ThermalEvaluation)
    (id : ActionId) : ActionAuthority :=
  let bound : ActionAuthority :=
    { coordinatorEpoch := g.epoch
      actionId := id
      actionGeneration := id
      domain := domain
      domainGeneration := definition.generation
      policyGeneration := policy.generation
      telemetryGeneration := e.telemetryGeneration
      topologyGeneration := g.topologyGeneration
      capabilityGeneration := g.capabilityGeneration }
  match gatherDomainEvidence definition g.evidence with
  | none => bound
  | some gathered =>
    { bound with
      worker := gathered.evidence.worker
      workerBoot := gathered.evidence.workerBoot
      device := gathered.evidence.subject.device
      deviceGeneration := gathered.evidence.subject.deviceGeneration
      telemetryGeneration := gathered.evidence.telemetryGeneration }

/-- The record of a new action.  Its id is the generation it was given. -/
def newAction (g : Governor) (domain : ThermalDomainId) (definition : ThermalDomainDefinition)
    (policy : ThermalPolicy) (e : ThermalEvaluation) (record : MitigationIntentRecord)
    (rationale : String) (id : ActionId) : ThermalAction where
  id := id
  generation := id
  intent := record.intent
  authority := g.newAuthority domain definition policy e id
  provenance := if e.state.isUnresolved then .unknown else e.provenance
  requestedClockCeiling := record.clockCeiling
  requestedConcurrency := record.concurrencyCeiling
  requestedAdmission := record.admissionCeiling
  lifecycle := .authorized
  authorizedAt := g.now
  plannedAt := g.now
  authorizationSource := "thermal-governor"
  detail := if rationale.isEmpty then record.rationale else rationale
  reasons := e.reasons

/-- Give the next action generation to a new action and keep its evaluation as baseline. -/
def createAction (g : Governor) (domain : ThermalDomainId)
    (definition : ThermalDomainDefinition) (policy : ThermalPolicy) (e : ThermalEvaluation)
    (record : MitigationIntentRecord) (rationale : String) : Governor × ActionId :=
  let id := advance g.actionGeneration
  let action := g.newAction domain definition policy e record rationale id
  (publishLocked <| putAction
    { g with
      actionGeneration := id
      actionBaselines := g.actionBaselines.insert id e } id action, id)

def authorizeMitigation (g : Governor) (domain : ThermalDomainId)
    (record : MitigationIntentRecord) (rationale : String) : Governor × Result ActionId :=
  match g.domains.find domain with
  | none => (g, failure .unknownDomain "thermal domain is not registered")
  | some definition =>
    if record.intent = .noAction then
      (g, failure .actionInfeasible "NO_ACTION is not an actionable mitigation")
    else
      match g.policyFor definition with
      | none => (g, failure .unknownPolicy "no policy is registered for this domain")
      | some policy =>
        match runChecks (g.authorizeChecks policy record.intent) with
        | .error e => (g, .error e)
        | .ok () =>
          match g.evaluateLocked definition with
          | (g, .error e) => (g, .error e)
          | (g, .ok e) =>
            match runChecks (restorationChecks e record.intent) with
            | .error err => (g, .error err)
            | .ok () =>
              let created := g.createAction domain definition policy e record rationale
              (created.1, .ok created.2)

/-- An authorisation is refused before the evaluation or after it, or creates an action. -/
theorem authorizeMitigation_rule {P : Governor → Prop} {g : Governor} {domain : ThermalDomainId}
    {record : MitigationIntentRecord} {rationale : String} (hrefused : P g)
    (hevaluated : ∀ definition evaluated r, g.domains.find domain = some definition →
      g.evaluateLocked definition = (evaluated, r) → P evaluated)
    (hcreated : ∀ definition policy evaluated e, g.domains.find domain = some definition →
      runChecks (g.authorizeChecks policy record.intent) = .ok () →
      g.evaluateLocked definition = (evaluated, .ok e) →
      P (evaluated.createAction domain definition policy e record rationale).1) :
    P (g.authorizeMitigation domain record rationale).1 := by
  unfold authorizeMitigation
  split
  · exact hrefused
  rename_i definition hfind
  split
  · exact hrefused
  split
  · exact hrefused
  rename_i policy hpolicy
  split
  · exact hrefused
  rename_i hchecks
  split
  · rename_i evaluated error heval
    exact hevaluated definition evaluated _ hfind heval
  rename_i evaluated e heval
  split
  · exact hevaluated definition evaluated _ hfind heval
  · exact hcreated definition policy evaluated e hfind hchecks heval

/-- The parts of a new binding that do not come from evidence. -/
theorem newAuthority_bound (g : Governor) (domain : ThermalDomainId)
    (definition : ThermalDomainDefinition) (policy : ThermalPolicy) (e : ThermalEvaluation)
    (id : ActionId) :
    (g.newAuthority domain definition policy e id).actionId = id ∧
      (g.newAuthority domain definition policy e id).actionGeneration = id ∧
      (g.newAuthority domain definition policy e id).domain = domain ∧
      (g.newAuthority domain definition policy e id).policyGeneration = policy.generation := by
  unfold newAuthority
  dsimp only
  split <;> exact ⟨rfl, rfl, rfl, rfl⟩

/-- **What an authorisation that succeeds has gone through**, and that it ends in the creation of
an action from the evaluation it made. -/
theorem authorizeMitigation_inversion {g g' : Governor} {domain : ThermalDomainId}
    {record : MitigationIntentRecord} {rationale : String} {id : ActionId}
    (h : g.authorizeMitigation domain record rationale = (g', .ok id)) :
    ∃ definition policy, g.domains.find domain = some definition ∧
      g.policyFor definition = some policy ∧
      runChecks (g.authorizeChecks policy record.intent) = .ok () ∧
      runChecks (restorationChecks (g.evaluation definition policy).2 record.intent) = .ok () ∧
      (g', id) = (g.note (.evaluated (g.evaluation definition policy).1
        (g.evaluation definition policy).2)).createAction domain definition policy
          (g.evaluation definition policy).2 record rationale := by
  unfold authorizeMitigation at h
  split at h
  · cases h
  rename_i definition hfind
  split at h
  · cases h
  split at h
  · cases h
  rename_i policy hpolicy
  split at h
  · cases h
  rename_i hchecks
  split at h
  · cases h
  rename_i gE e heval
  split at h
  · cases h
  rename_i hrestoration
  obtain ⟨held, hheld, rfl, rfl⟩ := evaluateLocked_eq_ok heval
  obtain rfl : policy = held := Option.some.inj (hpolicy.symm.trans hheld)
  obtain ⟨rfl, hid⟩ := Prod.mk.inj h
  obtain rfl := Except.ok.inj hid
  exact ⟨definition, policy, hfind, hpolicy, hchecks, hrestoration, rfl⟩

/-- **An authorisation that succeeds stores one action**, under the next action generation and
bound to it, to the domain and to the generation of the governing policy. -/
theorem authorizeMitigation_eq_ok {g g' : Governor} {domain : ThermalDomainId}
    {record : MitigationIntentRecord} {rationale : String} {id : ActionId}
    (h : g.authorizeMitigation domain record rationale = (g', .ok id)) :
    ∃ definition policy action, g.domains.find domain = some definition ∧
      g.policyFor definition = some policy ∧ Table.size g.actions < g.config.maxActions ∧
      id = advance g.actionGeneration ∧ g'.actionGeneration = id ∧
      g'.actions = g.actions.insert id action ∧
      action.authority.actionId = id ∧ action.authority.actionGeneration = id ∧
      action.authority.domain = domain ∧
      action.authority.policyGeneration = policy.generation := by
  obtain ⟨definition, policy, hfind, hpolicy, hchecks, -, hcreated⟩ :=
    authorizeMitigation_inversion h
  obtain ⟨rfl, rfl⟩ := Prod.mk.inj hcreated
  have hroom : Table.size g.actions < g.config.maxActions := by
    rw [runChecks_eq_ok] at hchecks
    simp only [authorizeChecks, List.forall_mem_cons] at hchecks
    exact of_decide_eq_true hchecks.2.1
  obtain ⟨hactionId, hgeneration, hdomain, hbound⟩ := newAuthority_bound
    (g.note (.evaluated (g.evaluation definition policy).1 (g.evaluation definition policy).2))
    domain definition policy (g.evaluation definition policy).2 (advance g.actionGeneration)
  exact ⟨definition, policy, _, hfind, hpolicy, hroom, rfl, rfl, rfl, hactionId, hgeneration,
    hdomain, hbound⟩

/-- The intent an authorisation without one defaults to. -/
def demandedIntent (e : ThermalEvaluation) : Option MitigationIntentRecord :=
  e.intents.find? fun r => r.intent ≠ .noAction

/-- Authorise what the evaluation demands; the domain is evaluated once more for it. -/
def authorizeDerating (g : Governor) (domain : ThermalDomainId)
    (record : MitigationIntentRecord) (rationale : String) : Governor × Result ActionId :=
  match g.evaluateDomain domain with
  | (g, .error e) => (g, .error e)
  | (g, .ok e) =>
    if record.intent ≠ .noAction then g.authorizeMitigation domain record rationale
    else
      match demandedIntent e with
      | none => (g, failure .actionInfeasible "the evaluation demands no derating action")
      | some demanded => g.authorizeMitigation domain demanded rationale

/-- A derating authorisation evaluates the domain, and may authorise a record after that. -/
theorem authorizeDerating_rule {P : Governor → Prop} {g : Governor} {domain : ThermalDomainId}
    {record : MitigationIntentRecord} {rationale : String}
    (hevaluated : P (g.evaluateDomain domain).1)
    (hauthorized : ∀ demanded,
      P ((g.evaluateDomain domain).1.authorizeMitigation domain demanded rationale).1) :
    P (g.authorizeDerating domain record rationale).1 := by
  unfold authorizeDerating
  split
  · rename_i evaluated error heval
    rwa [heval] at hevaluated
  rename_i evaluated e heval
  rw [heval] at hevaluated hauthorized
  split
  · exact hauthorized record
  split
  · exact hevaluated
  · exact hauthorized _

def getAction (g : Governor) (id : ActionId) : Result ThermalAction :=
  match g.actions.lookup id with
  | none => failure .unknownAction "action is not registered"
  | some action => .ok action

/-! ### Dispatch -/

/-- The generations a dispatch is checked against.  Domains are never removed, so an action
that can still be dispatched has a registered one. -/
def dispatchSnapshot (g : Governor) (authority : ActionAuthority) : AuthoritySnapshot :=
  let definition := g.domains.find authority.domain
  let evaluation := g.evaluations.lookup authority.domain
  let snapshot : AuthoritySnapshot :=
    { coordinatorEpoch := g.epoch
      actionGeneration := g.actionGeneration
      policyGeneration := g.policyGeneration
      domainGeneration := (definition.map ThermalDomainDefinition.generation).getD 0
      topologyGeneration := g.topologyGeneration
      capabilityGeneration := g.capabilityGeneration
      telemetryGeneration := (evaluation.map ThermalEvaluation.telemetryGeneration).getD 0 }
  match definition.bind fun d => gatherDomainEvidence d g.evidence with
  | none => snapshot
  | some gathered =>
    { snapshot with
      workerBoot := gathered.evidence.workerBoot
      deviceGeneration := gathered.evidence.subject.deviceGeneration
      telemetryGeneration := gathered.evidence.telemetryGeneration }

/-- The checks on the lifecycle of an action that is to be dispatched. -/
def dispatchChecks (action : ThermalAction) : List Check :=
  [ ⟨! action.lifecycle.isTerminal, .actionSuperseded,
      "action has already reached a terminal state"⟩,
    ⟨action.lifecycle = .authorized, .actionInfeasible,
      "action is not in the AUTHORIZED state"⟩ ]

/-- Revalidate an action and dispatch it; a stale plan is superseded instead. -/
def recordActionDispatch (g : Governor) (id : ActionId) : Governor × Result ActionLifecycle :=
  match g.actions.lookup id with
  | none => (g, failure .unknownAction "action is not registered")
  | some action =>
    match runChecks (dispatchChecks action) with
    | .error e => (g, .error e)
    | .ok () =>
      match revalidateActionAuthority action.authority (g.dispatchSnapshot action.authority) with
      | .error e =>
        (publishLocked <| g.putAction id
          { action with lifecycle := .superseded, terminalAt := g.now, detail := e.render },
          .error e)
      | .ok () =>
        (publishLocked <| note
          (g.putAction id { action with lifecycle := .dispatched, dispatchedAt := g.now })
          (.dispatched id g.now), .ok .dispatched)

/-! ### Acknowledgement and result -/

def recordActionAck (g : Governor) (ack : ActionAck) : Governor × Result ActionLifecycle :=
  match g.actions.lookup ack.actionId with
  | none => (g, failure .unknownAction "action is not registered")
  | some action =>
    match runChecks (ackChecks action g.epoch ack) with
    | .error e => (g, .error e)
    | .ok () =>
      match action.lifecycle with
      | .acknowledged | .verifying =>
        -- a repeat is recognised by the text of the detail, not by the earlier answer
        if ack.accepted = ! containsText action.detail "rejected" then (g, .ok action.lifecycle)
        else
          (g, failure .duplicateConflict
            "a conflicting acknowledgement was already recorded for this action")
      | .dispatched =>
        if ack.accepted then
          (publishLocked <| g.putAction ack.actionId
            { action with
              acknowledgedAt := g.now
              lifecycle := .acknowledged
              detail := ack.detail }, .ok .acknowledged)
        else
          (publishLocked <| g.putAction ack.actionId
            { action with
              acknowledgedAt := g.now
              terminalAt := g.now
              lifecycle := .failed
              detail := if ack.detail.isEmpty then
                "backend rejected the mitigation instruction" else ack.detail
              reasons := action.reasons.add .none }, .ok .failed)
      | .planned | .authorized =>
        (g, failure .actionInfeasible "action is not in the DISPATCHED state")
      | .effective | .partiallyEffective | .ineffective | .worsened | .failed | .superseded
      | .cancelled | .outcomeUnknown =>
        (g, failure .actionSuperseded "action has already reached a terminal state")

/-- The generation of the policy that governs the domain of an action now. -/
def governingPolicyGeneration (g : Governor) (domain : ThermalDomainId) :
    Option ThermalPolicyGeneration :=
  ((g.domains.find domain).bind g.policyFor).map PolicyOver.generation

theorem exists_of_governingPolicyGeneration {g : Governor} {domain : ThermalDomainId}
    {generation : ThermalPolicyGeneration}
    (h : g.governingPolicyGeneration domain = some generation) :
    ∃ definition policy, g.domains.find domain = some definition ∧
      g.policyFor definition = some policy ∧ policy.generation = generation := by
  obtain ⟨policy, hpolicy, rfl⟩ := Option.map_eq_some_iff.mp h
  obtain ⟨definition, hdefinition, hpolicy⟩ := Option.bind_eq_some_iff.mp hpolicy
  exact ⟨definition, policy, hdefinition, hpolicy, rfl⟩

/-- A result is superseded when it echoes another policy generation, or the governing
policy has another one now. -/
def resultSuperseded (g : Governor) (action : ThermalAction) (result : ActionResult) : Bool :=
  result.policyGeneration != action.authority.policyGeneration ||
    (g.governingPolicyGeneration action.authority.domain).any fun generation =>
      generation != action.authority.policyGeneration

def recordActionResult (g : Governor) (result : ActionResult) :
    Governor × Result ActionLifecycle :=
  match g.actions.lookup result.actionId with
  | none => (g, failure .unknownAction "action is not registered")
  | some action =>
    match runChecks (resultChecks action g.epoch result) with
    | .error e => (g, .error e)
    | .ok () =>
      if g.resultSuperseded action result then
        (publishLocked <| g.putAction result.actionId
          { action with
            lifecycle := .superseded
            terminalAt := g.now
            detail := "policy generation advanced before the action result arrived" },
          failure .stalePolicy
            "action result arrived after the thermal policy generation advanced")
      else
        match action.lifecycle with
        | .verifying => (g, .ok .verifying)
        | .acknowledged | .dispatched =>
          if result.backendSucceeded then
            (publishLocked <| g.putAction result.actionId
              { action with detail := result.detail, lifecycle := .verifying }, .ok .verifying)
          else
            (publishLocked <| g.putAction result.actionId
              { action with detail := result.detail, lifecycle := .failed, terminalAt := g.now },
              .ok .failed)
        | .planned | .authorized =>
          (g, failure .actionInfeasible "action is not awaiting a result")
        | .effective | .partiallyEffective | .ineffective | .worsened | .failed | .superseded
        | .cancelled | .outcomeUnknown =>
          (g, failure .actionSuperseded "action has already reached a terminal state")

/-! ### What the reports of a worker write

A report is refused, or it writes its action back and publishes. -/

section Reports

variable {P : Governor → Prop} {g : Governor}

theorem recordActionDispatch_rule {id : ActionId} (hrefused : P g)
    (hwritten : ∀ action, P (publishLocked (g.putAction id action)))
    (hdispatched : ∀ action, P (publishLocked <| note (g.putAction id action)
      (.dispatched id g.now))) :
    P (g.recordActionDispatch id).1 := by
  unfold recordActionDispatch
  split
  · exact hrefused
  split
  · exact hrefused
  split
  · exact hwritten _
  · exact hdispatched _

theorem recordActionAck_rule {ack : ActionAck} (hrefused : P g)
    (hwritten : ∀ action, P (publishLocked (g.putAction ack.actionId action))) :
    P (g.recordActionAck ack).1 := by
  unfold recordActionAck
  split
  · exact hrefused
  split
  · exact hrefused
  split
  · split <;> exact hrefused
  · split <;> exact hrefused
  · split <;> exact hwritten _
  all_goals exact hrefused

theorem recordActionResult_rule {result : ActionResult} (hrefused : P g)
    (hwritten : ∀ action, P (publishLocked (g.putAction result.actionId action))) :
    P (g.recordActionResult result).1 := by
  unfold recordActionResult
  split
  · exact hrefused
  split
  · exact hrefused
  split
  · exact hwritten _
  split
  · exact hrefused
  · split <;> exact hwritten _
  · split <;> exact hwritten _
  all_goals exact hrefused

end Reports

end Governor

end ThermalGovernor
