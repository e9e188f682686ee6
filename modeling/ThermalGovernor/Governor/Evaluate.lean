import ThermalGovernor.Governor.State

/-!
# Evaluating a domain in place

`evaluateLocked` assembles the input of an evaluation from the state: the
governing evidence (`gatherDomainEvidence`), the capabilities of the members, the
pressure of the coupled domains, and the evaluation stored before, whose state is
all the memory that hysteresis has.  It stores nothing; `recordTransition` does,
and `recomputeDomain` is the two in a row.

Neither changes anything outside the evaluations, the history and its sequence
number, and the trace.  `SameExceptEvaluations` says so, and every later frame
argument about evaluation goes through it.
-/

namespace ThermalGovernor

open Lib

/-! ### Governing evidence -/

/-- The primary evidence of a domain, and whether it was synthesized from members. -/
structure DomainEvidence where
  evidence : ThermalEvidence
  synthesized : Bool := false
  rule : AggregationRule := .hottestMemberGoverns

/-- The records held for the members of a domain, in member order. -/
def memberEvidence (definition : ThermalDomainDefinition)
    (evidence : Table String ThermalEvidence) : List ThermalEvidence :=
  definition.members.filterMap fun m => evidence.lookup m.subject.key

/-- The record of an aggregate: the first member's, with the aggregate written over it. -/
def synthesizeEvidence (definition : ThermalDomainDefinition) (first : ThermalEvidence)
    (members : List ThermalEvidence) (aggregate : AggregateResult) : ThermalEvidence :=
  let governing := members.find? fun e => e.subject = aggregate.governingMember
  let record :=
    { first with
      temperature := aggregate.temperature
      provenance := aggregate.provenance
      subject := (governing.map ThermalEvidence.subject).getD first.subject
      domain := definition.id
      domainGeneration := definition.generation }
  if aggregate.provenance = .real then record
  else
    match governing with
    | none => { record with source := .syntheticModel }
    | some member =>
      { record with
        source := .syntheticModel
        throttle := member.throttle
        currentClock := member.currentClock
        maxClock := member.maxClock
        temperatureLimit := member.temperatureLimit }

/-- Direct domain-scoped evidence takes precedence; a single member contributes its own
record unchanged; several members are aggregated by the rule of the domain. -/
def gatherDomainEvidence (definition : ThermalDomainDefinition)
    (evidence : Table String ThermalEvidence) : Option DomainEvidence :=
  match evidence.lookup (SubjectRef.forDomain definition.id definition.generation).key with
  | some direct => some { evidence := direct }
  | none =>
    match memberEvidence definition evidence with
    | [] => none
    | [only] => some { evidence := only }
    | first :: rest =>
      match computeAggregate definition (first :: rest) with
      | .error _ => none
      | .ok aggregate =>
        some
          { evidence := synthesizeEvidence definition first (first :: rest) aggregate
            synthesized := true
            rule := aggregate.rule }

/-! ### Capabilities -/

/-- The weakest resolved capability governs. -/
def weakestCapability (resolved next : CapabilityState) : CapabilityState :=
  if next = .unsupported ∨ resolved = .unsupported then .unsupported
  else if next = .unknown ∨ resolved = .unknown then .unknown
  else resolved

/-- The capability of a list of devices. -/
def resolveCapability (c : ThermalCapability) : List CapabilitySet → CapabilityState
  | [] => .unknown
  | s :: rest => rest.foldl (fun resolved s => weakestCapability resolved (s.get c)) (s.get c)

/-- The capability that held evidence of a provenance demonstrates. -/
def capabilityOfProvenance : Provenance → CapabilityState
  | .real => .supportedReal
  | .synthetic => .supportedSynthetic
  | .unsupported => .unsupported
  | .unknown => .unknown

/-- The three capabilities an evaluation asks for. -/
structure DomainCapabilities where
  temperature : CapabilityState
  throttle : CapabilityState
  limit : CapabilityState

/-- Without a registered device member, the capability is that of the evidence held. -/
def evidenceCapabilities : Option DomainEvidence → DomainCapabilities
  | none => ⟨.unknown, .unknown, .unknown⟩
  | some gathered =>
    let temperature := capabilityOfProvenance gathered.evidence.provenance
    { temperature := temperature
      throttle := if gathered.evidence.throttle.isSome then temperature else .unsupported
      limit := if gathered.evidence.temperatureLimit.isSome then temperature else .unsupported }

namespace Governor

/-- The capability sets of the registered device members. -/
def memberCapabilities (g : Governor) (definition : ThermalDomainDefinition) :
    List CapabilitySet :=
  definition.members.filterMap fun m =>
    if m.subject.kind = .device then
      (g.devices.lookup m.subject.device).map DeviceRegistration.capabilities
    else none

def domainCapabilities (g : Governor) (definition : ThermalDomainDefinition)
    (gathered : Option DomainEvidence) : DomainCapabilities :=
  match g.memberCapabilities definition with
  | [] => evidenceCapabilities gathered
  | sets =>
    { temperature := resolveCapability .temperature sets
      throttle := resolveCapability .throttleReasons sets
      limit := resolveCapability .temperatureLimit sets }

/-! ### The input of an evaluation -/

/-- Freshness of the governing evidence at this instant. -/
def classifyFreshness (g : Governor) (policy : ThermalPolicy) (e : ThermalEvidence) :
    FreshnessState :=
  if e.subject.key ∈ g.invalidatedEvidence then .generationInvalidated
  else if nanoseconds policy.freshness.maxAge < elapsed g.now e.measuredAt then .stale
  else .fresh

/-- How a neighbour at a given depth propagates. -/
def propagationAt : Nat → PropagationClass
  | 0 => .noPropagation
  | 1 => .coupledDomain
  | _ => .domainWide

/-- The pressure of one neighbour, when it is registered and has been evaluated. -/
def pressureFrom (g : Governor) (definition : ThermalDomainDefinition)
    (neighbour : ThermalDomainId × Nat) : Option CoupledPressure :=
  match g.domains.find neighbour.1, g.evaluations.lookup neighbour.1 with
  | some other, some e =>
    let edge := g.couplings.find? fun edge =>
      edge.source = neighbour.1 && edge.destination = definition.id
    some
      { domain := neighbour.1
        generation := other.generation
        state := e.state
        temperature := e.headroom.currentTemperature
        coupling := (edge.map CouplingRelation.type).getD .unknownCoupling
        propagation := propagationAt neighbour.2
        provenance :=
          if edge.any fun edge => edge.provenance = .synthetic then .synthetic
          else other.provenance
        depth := neighbour.2
        recoveryEligible := e.recovery.allowed }
  | _, _ => none

/-- The pressure a domain is under, nearest neighbours first. -/
def coupledPressure (g : Governor) (definition : ThermalDomainDefinition)
    (policy : ThermalPolicy) : List CoupledPressure :=
  (g.couplings.incomingReachable definition.id policy.coupling.maxPropagationDepth).filterMap
    (g.pressureFrom definition)

/-- The recovery part of the input; the rest of it is filled in by the evaluation. -/
def recoveryInput (g : Governor) (definition : ThermalDomainDefinition)
    (evidence : Option ThermalEvidence) (pressure : List CoupledPressure) : RecoveryInput where
  history := some (g.recoveryHistories definition.id)
  currentEpoch := g.epoch
  currentBoot := (evidence.map ThermalEvidence.workerBoot).getD 0
  currentDeviceGeneration := (evidence.map fun e => e.subject.deviceGeneration).getD 0
  currentDomainGeneration := (evidence.map ThermalEvidence.domainGeneration).getD 0
  evidenceProvenance := (evidence.map ThermalEvidence.provenance).getD .unknown
  explicitAuthorization := decide (definition.id ∈ g.explicitRecovery)
  coupledDomainsChecked := ! definition.members.isEmpty
  coupledDomainsRecovered := pressure.all fun p => p.state.isHealthy

/-- The input of an evaluation of a domain under a policy. -/
def evaluationInput (g : Governor) (definition : ThermalDomainDefinition)
    (policy : ThermalPolicy) (gathered : Option DomainEvidence) : EvaluationInput :=
  let evidence := gathered.map DomainEvidence.evidence
  let previous := g.evaluations.lookup definition.id
  let capabilities := g.domainCapabilities definition gathered
  let pressure := g.coupledPressure definition policy
  { domain := definition.id
    domainGeneration := definition.generation
    domainType := definition.type
    policy := policy
    previousState := (previous.map ThermalEvaluation.state).getD .unknown
    previousDerating := (previous.map ThermalEvaluation.derating).getD .unknown
    evidence := evidence
    freshness := (evidence.map (g.classifyFreshness policy)).getD .unknown
    evidenceConflict := decide (definition.id ∈ g.conflictedSubjects)
    temperatureCapability := capabilities.temperature
    throttleCapability := capabilities.throttle
    limitCapability := capabilities.limit
    recovery := g.recoveryInput definition evidence pressure
    coupled := pressure
    coordinatorEpoch := g.epoch
    policyGeneration := policy.generation
    topologyGeneration := g.topologyGeneration }

/-! ### Evaluating and storing -/

/-- The fields the coordinator overwrites in an evaluation. -/
def finishEvaluation (g : Governor) (policy : ThermalPolicy) (gathered : Option DomainEvidence)
    (e : ThermalEvaluation) : ThermalEvaluation :=
  { e with
    capabilityGeneration := g.capabilityGeneration
    policyGeneration := policy.generation
    telemetryGeneration :=
      (gathered.map fun d => d.evidence.telemetryGeneration).getD e.telemetryGeneration
    provenance :=
      match gathered with
      | some d =>
        if d.synthesized then Provenance.combine d.evidence.provenance .synthetic
        else e.provenance
      | none => e.provenance }

/-- The evaluation of a domain in the current state, with its input. -/
def evaluation (g : Governor) (definition : ThermalDomainDefinition) (policy : ThermalPolicy) :
    EvaluationInput × ThermalEvaluation :=
  let gathered := gatherDomainEvidence definition g.evidence
  let input := g.evaluationInput definition policy gathered
  (input, g.finishEvaluation policy gathered (evaluateThermal input))

/-- Evaluate a domain without storing the result. -/
def evaluateLocked (g : Governor) (definition : ThermalDomainDefinition) :
    Governor × Result ThermalEvaluation :=
  match g.policyFor definition with
  | none => (g, failure .unknownPolicy "no policy is registered for this domain")
  | some policy =>
    let e := g.evaluation definition policy
    (g.note (.evaluated e.1 e.2), .ok e.2)

/-- Make room for one more record under a bound. -/
def trimHistory (history : List StateTransitionRecord) (maximum : Nat) :
    List StateTransitionRecord :=
  if maximum ≤ history.length then history.drop (history.length - maximum + 1) else history

/-- Store an evaluation; the history records only a change of state, derating or decision. -/
def recordTransition (g : Governor) (domain : ThermalDomainId)
    (generation : ThermalDomainGeneration) (e : ThermalEvaluation) : Governor :=
  let previous := g.evaluations.lookup domain
  let stored := { g with evaluations := g.evaluations.insert domain e }
  let unchanged := previous.any fun p =>
    p.state = e.state && p.derating = e.derating && p.decision = e.decision
  if unchanged then stored
  else
    let record : StateTransitionRecord :=
      { domain := domain
        domainGeneration := generation
        source := (previous.map ThermalEvaluation.state).getD .unknown
        target := e.state
        deratingFrom := (previous.map ThermalEvaluation.derating).getD .unknown
        deratingTo := e.derating
        decision := e.decision
        temperature := e.headroom.currentTemperature
        policyGeneration := g.policyGeneration
        telemetryGeneration := e.telemetryGeneration
        coordinatorEpoch := g.epoch
        sequence := advance g.sequence }
    { stored with
      sequence := advance g.sequence
      history := trimHistory g.history g.config.maxHistoryRecords ++ [record] }

/-- Evaluate a domain and store the result. -/
def recomputeDomain (g : Governor) (domain : ThermalDomainId) : Governor :=
  match g.domains.find domain with
  | none => g
  | some definition =>
    match g.evaluateLocked definition with
    | (g, .ok e) => g.recordTransition domain definition.generation e
    | (g, .error _) => g

/-- Recompute the domains of a list, one after the other. -/
def recomputeDomains (g : Governor) (domains : List ThermalDomainId) : Governor :=
  domains.foldl recomputeDomain g

/-- Recompute every registered domain, smallest id first. -/
def recomputeAllDomains (g : Governor) : Governor := g.recomputeDomains g.domains.allDomainIds

/-! ### What an evaluation leaves unchanged -/

/-- The states differ in evaluations, history, sequence and trace at most. -/
def SameExceptEvaluations (g g' : Governor) : Prop :=
  ∃ evaluations history sequence trace,
    g' = { g with
      evaluations := evaluations, history := history, sequence := sequence, trace := trace }

namespace SameExceptEvaluations

theorem refl (g : Governor) : SameExceptEvaluations g g := ⟨_, _, _, _, rfl⟩

theorem trans {g g' g'' : Governor} (h : SameExceptEvaluations g g')
    (h' : SameExceptEvaluations g' g'') : SameExceptEvaluations g g'' := by
  obtain ⟨_, _, _, _, rfl⟩ := h
  obtain ⟨_, _, _, _, rfl⟩ := h'
  exact ⟨_, _, _, _, rfl⟩

variable {g g' : Governor}

theorem config (h : SameExceptEvaluations g g') : g'.config = g.config := by
  obtain ⟨_, _, _, _, rfl⟩ := h
  rfl

theorem epoch (h : SameExceptEvaluations g g') : g'.epoch = g.epoch := by
  obtain ⟨_, _, _, _, rfl⟩ := h
  rfl

theorem workers (h : SameExceptEvaluations g g') : g'.workers = g.workers := by
  obtain ⟨_, _, _, _, rfl⟩ := h
  rfl

theorem evidence (h : SameExceptEvaluations g g') : g'.evidence = g.evidence := by
  obtain ⟨_, _, _, _, rfl⟩ := h
  rfl

theorem domains (h : SameExceptEvaluations g g') : g'.domains = g.domains := by
  obtain ⟨_, _, _, _, rfl⟩ := h
  rfl

theorem published (h : SameExceptEvaluations g g') : g'.published = g.published := by
  obtain ⟨_, _, _, _, rfl⟩ := h
  rfl

theorem recoveryHistories (h : SameExceptEvaluations g g') :
    g'.recoveryHistories = g.recoveryHistories := by
  obtain ⟨_, _, _, _, rfl⟩ := h
  rfl

theorem actions (h : SameExceptEvaluations g g') : g'.actions = g.actions := by
  obtain ⟨_, _, _, _, rfl⟩ := h
  rfl

theorem actionGeneration (h : SameExceptEvaluations g g') :
    g'.actionGeneration = g.actionGeneration := by
  obtain ⟨_, _, _, _, rfl⟩ := h
  rfl

end SameExceptEvaluations

/-- An evaluation that succeeds is the one of the governing policy, and is noted. -/
theorem evaluateLocked_eq_ok {g g' : Governor} {definition : ThermalDomainDefinition}
    {e : ThermalEvaluation} (h : g.evaluateLocked definition = (g', .ok e)) :
    ∃ policy, g.policyFor definition = some policy ∧ e = (g.evaluation definition policy).2 ∧
      g' = g.note (.evaluated (g.evaluation definition policy).1 e) := by
  unfold evaluateLocked at h
  split at h
  · cases h
  · rename_i policy hpolicy
    obtain ⟨rfl, heval⟩ := Prod.mk.inj h
    obtain rfl := Except.ok.inj heval
    exact ⟨policy, hpolicy, rfl, rfl⟩

theorem evaluateLocked_same (g : Governor) (definition : ThermalDomainDefinition) :
    SameExceptEvaluations g (g.evaluateLocked definition).1 := by
  unfold evaluateLocked
  split
  · exact .refl g
  · exact ⟨_, _, _, _, rfl⟩

theorem same_of_evaluateLocked {g g' : Governor} {definition : ThermalDomainDefinition}
    {r : Result ThermalEvaluation} (h : g.evaluateLocked definition = (g', r)) :
    SameExceptEvaluations g g' := by
  have hsame := g.evaluateLocked_same definition
  rwa [h] at hsame

theorem recordTransition_same (g : Governor) (domain : ThermalDomainId)
    (generation : ThermalDomainGeneration) (e : ThermalEvaluation) :
    SameExceptEvaluations g (g.recordTransition domain generation e) := by
  unfold recordTransition
  dsimp only
  split <;> exact ⟨_, _, _, _, rfl⟩

theorem recomputeDomain_same (g : Governor) (domain : ThermalDomainId) :
    SameExceptEvaluations g (g.recomputeDomain domain) := by
  unfold recomputeDomain
  split
  · exact .refl g
  · rename_i definition hfind
    split
    · rename_i g' e heval
      exact (same_of_evaluateLocked heval).trans (g'.recordTransition_same _ _ _)
    · rename_i g' e heval
      exact same_of_evaluateLocked heval

theorem recomputeDomains_same (g : Governor) (domains : List ThermalDomainId) :
    SameExceptEvaluations g (g.recomputeDomains domains) := by
  unfold recomputeDomains
  induction domains generalizing g with
  | nil => exact .refl g
  | cons domain rest ih => exact (g.recomputeDomain_same domain).trans (ih _)

theorem recomputeAllDomains_same (g : Governor) :
    SameExceptEvaluations g g.recomputeAllDomains := g.recomputeDomains_same _

end Governor

end ThermalGovernor
