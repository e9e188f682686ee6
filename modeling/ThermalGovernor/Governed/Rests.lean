import ThermalGovernor.Evaluation.Standing
import ThermalGovernor.Governed.Reached

/-!
# Stored evaluations at rest

A domain rests when evaluating it now returns the standing that is stored.  What it reads
is the configuration, its own evidence and history, and the stored states of the domains
that heat it; so a recomputation of another domain leaves it at rest unless that domain
heats it and changes (`rests_congr`), and a domain that was just recomputed rests
(`rests_recomputeDomain`).

A sequence of recomputations therefore brings everything to rest when no domain that may
change heats one that is not recomputed after it.  `settles` decides this from the state
the sequence begins in, and `rests_recomputeDomains` is the result.
-/

namespace ThermalGovernor

open Lib

namespace Governor

variable {g g' g'' : Governor}

/-- An evaluation of the domain now returns what is stored. -/
def rests (g : Governor) (id : ThermalDomainId) : Bool :=
  match g.evaluations.lookup id, (g.evaluateDomain id).2 with
  | some stored, .ok again => again.standing = stored.standing
  | _, _ => false

/-- The evaluation of the target reads the stored state of the source. -/
def heats (g : Governor) (source target : ThermalDomainId) : Bool :=
  match g.domains.find target with
  | none => false
  | some definition =>
    match g.policyFor definition with
    | none => false
    | some policy =>
      (g.couplings.incomingReachable target policy.coupling.maxPropagationDepth).any fun n =>
        n.1 = source

/-- The stored state of a domain. -/
def stateAt (g : Governor) (id : ThermalDomainId) : Option ThermalState :=
  (g.evaluations.lookup id).map ThermalEvaluation.state

/-- The stored standing of a domain. -/
def standingAt (g : Governor) (id : ThermalDomainId) : Option Standing :=
  (g.evaluations.lookup id).map ThermalEvaluation.standing

theorem stateAt_eq (g : Governor) (id : ThermalDomainId) :
    g.stateAt id = (g.standingAt id).map Standing.state := by
  rw [standingAt, Option.map_map]
  rfl

/-- What evaluations are made from is the same, the stored evaluations aside. -/
structure SameReads (g g' : Governor) : Prop where
  now : g'.now = g.now
  epoch : g'.epoch = g.epoch
  policies : g'.policies = g.policies
  devices : g'.devices = g.devices
  domains : g'.domains = g.domains
  couplings : g'.couplings = g.couplings
  evidence : g'.evidence = g.evidence
  invalidatedEvidence : g'.invalidatedEvidence = g.invalidatedEvidence
  conflictedSubjects : g'.conflictedSubjects = g.conflictedSubjects
  recoveryHistories : g'.recoveryHistories = g.recoveryHistories
  explicitRecovery : g'.explicitRecovery = g.explicitRecovery

namespace SameReads

theorem refl (g : Governor) : SameReads g g :=
  ⟨rfl, rfl, rfl, rfl, rfl, rfl, rfl, rfl, rfl, rfl, rfl⟩

theorem trans (h : SameReads g g') (h' : SameReads g' g'') : SameReads g g'' :=
  ⟨h'.now.trans h.now, h'.epoch.trans h.epoch, h'.policies.trans h.policies,
    h'.devices.trans h.devices, h'.domains.trans h.domains, h'.couplings.trans h.couplings,
    h'.evidence.trans h.evidence, h'.invalidatedEvidence.trans h.invalidatedEvidence,
    h'.conflictedSubjects.trans h.conflictedSubjects,
    h'.recoveryHistories.trans h.recoveryHistories,
    h'.explicitRecovery.trans h.explicitRecovery⟩

theorem policyFor (h : SameReads g g') (definition : ThermalDomainDefinition) :
    g'.policyFor definition = g.policyFor definition := by
  rw [Governor.policyFor, h.policies, Governor.policyFor]

theorem heats (h : SameReads g g') (source target : ThermalDomainId) :
    g'.heats source target = g.heats source target := by
  unfold Governor.heats
  rw [h.domains, h.couplings]
  simp only [h.policyFor]

end SameReads

theorem SameExceptEvaluations.sameReads (h : SameExceptEvaluations g g') : SameReads g g' := by
  obtain ⟨_, _, _, _, rfl⟩ := h
  exact ⟨rfl, rfl, rfl, rfl, rfl, rfl, rfl, rfl, rfl, rfl, rfl⟩

theorem sameReads_publishLocked (g : Governor) : SameReads g g.publishLocked :=
  ⟨rfl, rfl, rfl, rfl, rfl, rfl, rfl, rfl, rfl, rfl, rfl⟩

theorem sameReads_advanceTopology (g : Governor) : SameReads g g.advanceTopology :=
  ⟨rfl, rfl, rfl, rfl, rfl, rfl, rfl, rfl, rfl, rfl, rfl⟩

/-! ### What an evaluation reads -/

/-- The states of the coupled domains, as far as they are registered and evaluated. -/
theorem coupledPressure_states (g : Governor) (definition : ThermalDomainDefinition)
    (policy : ThermalPolicy) :
    (g.coupledPressure definition policy).map CoupledPressure.state =
      (g.couplings.incomingReachable definition.id
        policy.coupling.maxPropagationDepth).filterMap fun n =>
          (g.domains.find n.1).bind fun _ => g.stateAt n.1 := by
  unfold coupledPressure
  rw [List.map_filterMap]
  congr 1
  funext n
  unfold pressureFrom stateAt
  cases g.domains.find n.1 with
  | none => rfl
  | some other =>
    cases g.evaluations.lookup n.1 with
    | none => rfl
    | some e => rfl

/-- Two states with the same reads and the same neighbours give inputs that read the same. -/
theorem reads_evaluation (h : SameReads g g') {definition : ThermalDomainDefinition}
    {policy : ThermalPolicy}
    (hneighbours : (g'.coupledPressure definition policy).map CoupledPressure.state =
      (g.coupledPressure definition policy).map CoupledPressure.state) :
    (g'.evaluation definition policy).1.reads = (g.evaluation definition policy).1.reads := by
  have hrecovered : ∀ a b : List CoupledPressure,
      a.map CoupledPressure.state = b.map CoupledPressure.state →
      (a.all fun p => p.state.isHealthy) = b.all fun p => p.state.isHealthy := by
    intro a b hab
    have hall := congrArg (fun states => states.all ThermalState.isHealthy) hab
    simpa [List.all_map, Function.comp_def] using hall
  have hcoupled : (g'.coupledPressure definition policy).map
      (fun p => ({ state := p.state } : CoupledPressure)) =
      (g.coupledPressure definition policy).map fun p => { state := p.state } := by
    have hmap := congrArg (List.map fun s => ({ state := s } : CoupledPressure)) hneighbours
    simpa [Function.comp_def] using hmap
  have hcapabilities : ∀ gathered,
      g'.domainCapabilities definition gathered = g.domainCapabilities definition gathered := by
    intro gathered
    unfold domainCapabilities memberCapabilities
    rw [h.devices]
  have hfreshness : ∀ e, g'.classifyFreshness policy e = g.classifyFreshness policy e := by
    intro e
    unfold classifyFreshness
    rw [h.invalidatedEvidence, h.now]
  unfold evaluation evaluationInput recoveryInput EvaluationInput.reads
  dsimp only
  rw [h.evidence, hcoupled, hrecovered _ _ hneighbours, hcapabilities, h.conflictedSubjects,
    h.recoveryHistories, h.epoch, h.explicitRecovery, funext hfreshness]

/-- The evaluation of a registered domain under its policy. -/
theorem evaluateDomain_eq_ok {id : ThermalDomainId} {definition : ThermalDomainDefinition}
    {policy : ThermalPolicy} (hfind : g.domains.find id = some definition)
    (hpolicy : g.policyFor definition = some policy) :
    (g.evaluateDomain id).2 = .ok (g.evaluation definition policy).2 := by
  rw [evaluateDomain, evaluateAndStore, hfind]
  dsimp only
  rw [evaluateLocked, hpolicy]

/-- A recomputation under a policy notes the evaluation and stores it. -/
theorem recomputeDomain_eq_record {id : ThermalDomainId} {definition : ThermalDomainDefinition}
    {policy : ThermalPolicy} (hfind : g.domains.find id = some definition)
    (hpolicy : g.policyFor definition = some policy) :
    g.recomputeDomain id =
      (g.note (.evaluated (g.evaluation definition policy).1
        (g.evaluation definition policy).2)).recordTransition id definition.generation
          (g.evaluation definition policy).2 := by
  rw [recomputeDomain, hfind]
  dsimp only
  rw [evaluateLocked, hpolicy]

theorem recomputeDomain_eq_self {id : ThermalDomainId}
    (h : ∀ definition, g.domains.find id = some definition → g.policyFor definition = none) :
    g.recomputeDomain id = g := by
  rw [recomputeDomain]
  cases hfind : g.domains.find id with
  | none => rfl
  | some definition =>
    have heval : g.evaluateLocked definition =
        (g, failure .unknownPolicy "no policy is registered for this domain") := by
      rw [evaluateLocked, h definition hfind]
    dsimp only
    rw [heval]
    rfl

theorem evaluations_recomputeDomain {id : ThermalDomainId}
    {definition : ThermalDomainDefinition} {policy : ThermalPolicy}
    (hfind : g.domains.find id = some definition) (hpolicy : g.policyFor definition = some policy) :
    (g.recomputeDomain id).evaluations =
      g.evaluations.insert id (g.evaluation definition policy).2 := by
  rw [recomputeDomain_eq_record hfind hpolicy, evaluations_recordTransition]
  rfl

/-- The input that an evaluation of a domain would have now. -/
def inputOf (g : Governor) (id : ThermalDomainId) : Option EvaluationInput :=
  (g.domains.find id).bind fun definition =>
    (g.policyFor definition).map fun policy => (g.evaluation definition policy).1

theorem inputOf_eq_some {id : ThermalDomainId} {input : EvaluationInput} :
    g.inputOf id = some input ↔ ∃ definition policy, g.domains.find id = some definition ∧
      g.policyFor definition = some policy ∧ (g.evaluation definition policy).1 = input := by
  unfold inputOf
  simp only [Option.bind_eq_some_iff, Option.map_eq_some_iff, exists_and_left]

/-- The standing of an evaluation is the one its input determines. -/
theorem standing_evaluation (g : Governor) (definition : ThermalDomainDefinition)
    (policy : ThermalPolicy) :
    (g.evaluation definition policy).2.standing =
      (evaluateThermal (g.evaluation definition policy).1).standing := rfl

theorem rests_eq_true {id : ThermalDomainId} :
    g.rests id = true ↔ ∃ definition policy, g.domains.find id = some definition ∧
      g.policyFor definition = some policy ∧
      g.standingAt id = some (g.evaluation definition policy).2.standing := by
  unfold rests standingAt
  constructor
  · intro h
    cases hlookup : g.evaluations.lookup id with
    | none =>
      rw [hlookup] at h
      cases h
    | some stored =>
      rw [hlookup] at h
      cases hfind : g.domains.find id with
      | none =>
        rw [evaluateDomain, evaluateAndStore, hfind] at h
        cases h
      | some definition =>
        cases hpolicy : g.policyFor definition with
        | none =>
          rw [evaluateDomain, evaluateAndStore, hfind] at h
          dsimp only at h
          rw [evaluateLocked, hpolicy] at h
          cases h
        | some policy =>
          rw [evaluateDomain_eq_ok hfind hpolicy] at h
          refine ⟨definition, policy, rfl, hpolicy, ?_⟩
          rw [Option.map_some, of_decide_eq_true h]
  · rintro ⟨definition, policy, hfind, hpolicy, hstanding⟩
    obtain ⟨stored, hlookup, hstored⟩ := Option.map_eq_some_iff.mp hstanding
    rw [hlookup, evaluateDomain_eq_ok hfind hpolicy]
    exact decide_eq_true hstored.symm

/-! ### What keeps a domain at rest -/

/-- The standing stored for the domain, as the input of its evaluation knows it. -/
theorem evaluation_following {id : ThermalDomainId} {definition : ThermalDomainDefinition}
    (policy : ThermalPolicy) (hid : definition.id = id) {standing : Standing}
    (h : g.standingAt id = some standing) :
    (g.evaluation definition policy).1.previousState = standing.state ∧
      (g.evaluation definition policy).1.previousDerating = standing.derating := by
  obtain ⟨stored, hlookup, rfl⟩ := Option.map_eq_some_iff.mp h
  unfold evaluation evaluationInput
  dsimp only
  rw [hid, hlookup]
  exact ⟨rfl, rfl⟩

theorem coupledPressure_congr (h : SameReads g g') {id : ThermalDomainId}
    {definition : ThermalDomainDefinition} {policy : ThermalPolicy}
    (hfind : g.domains.find id = some definition) (hid : definition.id = id)
    (hpolicy : g.policyFor definition = some policy)
    (hstates : ∀ source, g.heats source id = true → g'.stateAt source = g.stateAt source) :
    (g'.coupledPressure definition policy).map CoupledPressure.state =
      (g.coupledPressure definition policy).map CoupledPressure.state := by
  rw [coupledPressure_states, coupledPressure_states, h.couplings, h.domains]
  refine List.filterMap_congr fun n hn => ?_
  rw [hstates n.1]
  unfold heats
  rw [hfind]
  dsimp only
  rw [hpolicy]
  dsimp only
  rw [List.any_eq_true]
  rw [hid] at hn
  exact ⟨n, hn, decide_eq_true rfl⟩

/-- **A domain stays at rest when it reads the same, what is stored for it has the same
standing, and the domains that heat it have the same states.** -/
theorem rests_congr (hkeyed : g.KeyedDomains) (h : SameReads g g') {id : ThermalDomainId}
    (hstanding : g'.standingAt id = g.standingAt id)
    (hstates : ∀ source, g.heats source id = true → g'.stateAt source = g.stateAt source)
    (hrests : g.rests id = true) : g'.rests id = true := by
  rw [rests_eq_true] at hrests ⊢
  obtain ⟨definition, policy, hfind, hpolicy, hstored⟩ := hrests
  have hid := hkeyed id definition hfind
  refine ⟨definition, policy, ?_, ?_, ?_⟩
  · rw [h.domains, hfind]
  · rw [h.policyFor, hpolicy]
  · have hreads := reads_evaluation h (coupledPressure_congr h hfind hid hpolicy hstates)
    obtain ⟨hstate, hderating⟩ := evaluation_following policy hid hstored
    obtain ⟨hstate', hderating'⟩ := evaluation_following policy hid (hstanding.trans hstored)
    rw [hstanding, hstored, standing_evaluation, standing_evaluation,
      standing_evaluateThermal_congr hreads (hstate'.trans hstate.symm)
        (hderating'.trans hderating.symm)]

/-- A domain does not heat itself. -/
theorem heats_irrefl (g : Governor) (id : ThermalDomainId) : g.heats id id = false := by
  unfold heats
  split
  · rfl
  · split
    · rfl
    · rw [List.any_eq_false]
      intro n hn
      rw [decide_eq_true_eq]
      exact CouplingGraph.origin_not_reachable _ _ _ _ _ n hn

theorem lookup_recomputeDomain_ne {id other : ThermalDomainId} (h : id ≠ other) :
    (g.recomputeDomain other).evaluations.lookup id = g.evaluations.lookup id := by
  by_cases hgoverned : ∃ definition policy, g.domains.find other = some definition ∧
      g.policyFor definition = some policy
  · obtain ⟨definition, policy, hfind, hpolicy⟩ := hgoverned
    rw [evaluations_recomputeDomain hfind hpolicy, AList.lookup_insert_ne h]
  · rw [recomputeDomain_eq_self]
    intro definition hfind
    by_contra hpolicy
    obtain ⟨policy, hpolicy⟩ := Option.ne_none_iff_exists'.mp hpolicy
    exact hgoverned ⟨definition, policy, hfind, hpolicy⟩

theorem standingAt_recomputeDomain_ne {id other : ThermalDomainId} (h : other ≠ id) :
    (g.recomputeDomain id).standingAt other = g.standingAt other := by
  rw [standingAt, lookup_recomputeDomain_ne h, standingAt]

/-- **A domain rests after it has been recomputed.** -/
theorem rests_recomputeDomain (hkeyed : g.KeyedDomains) {id : ThermalDomainId}
    {definition : ThermalDomainDefinition} {policy : ThermalPolicy}
    (hfind : g.domains.find id = some definition)
    (hpolicy : g.policyFor definition = some policy) : (g.recomputeDomain id).rests id = true := by
  have hsame := (g.recomputeDomain_same id).sameReads
  have hid := hkeyed id definition hfind
  have hstored : (g.recomputeDomain id).standingAt id =
      some (g.evaluation definition policy).2.standing := by
    rw [standingAt, evaluations_recomputeDomain hfind hpolicy, AList.lookup_insert,
      Option.map_some]
  rw [rests_eq_true]
  refine ⟨definition, policy, ?_, ?_, ?_⟩
  · rw [hsame.domains, hfind]
  · rw [hsame.policyFor, hpolicy]
  · have hreads := reads_evaluation hsame
      (coupledPressure_congr hsame hfind hid hpolicy fun source hheats => by
        rw [stateAt_eq, stateAt_eq, standingAt_recomputeDomain_ne]
        rintro rfl
        rw [heats_irrefl] at hheats
        cases hheats)
    obtain ⟨hstate, hderating⟩ := evaluation_following policy hid hstored
    -- the second evaluation reads what the first read, and follows its result
    have hagain :
        (evaluateThermal ((g.recomputeDomain id).evaluation definition policy).1).standing =
        (evaluateThermal ((g.evaluation definition policy).1.following
          (evaluateThermal (g.evaluation definition policy).1).state
          (evaluateThermal (g.evaluation definition policy).1).derating)).standing := by
      refine standing_evaluateThermal_congr ?_ hstate hderating
      rw [EvaluationInput.reads_following]
      exact hreads
    rw [hstored, standing_evaluation, standing_evaluation, hagain,
      standing_evaluateThermal_again]

/-! ### A sequence of recomputations -/

/-- No domain that a sequence of recomputations may change heats a domain that is not
recomputed after it.  A domain may change when it does not rest, or when one before it in
the sequence that may change heats it (`moved`). -/
def settlesAfter (g : Governor) (moved : List ThermalDomainId) : List ThermalDomainId → Bool
  | [] => true
  | id :: rest =>
    if id ∉ moved && g.rests id && ! moved.any fun source => g.heats source id then
      g.settlesAfter moved rest
    else
      (g.domains.allDomainIds.all fun target => ! g.heats id target || target ∈ rest) &&
        g.settlesAfter (id :: moved) rest

/-- Recomputing the domains in this order brings every domain to rest: those that are not
recomputed rest already, and what changes is read by domains recomputed later only. -/
def settles (g : Governor) (domains : List ThermalDomainId) : Bool :=
  (g.domains.allDomainIds.all fun id => id ∈ domains || g.rests id) && g.settlesAfter [] domains

theorem mem_allDomainIds {r : DomainRegistry} {id : ThermalDomainId} :
    id ∈ r.allDomainIds ↔ (r.find id).isSome = true := Table.mem_sortedKeys

/-- A recomputation that finds the domain at rest stores the same standing. -/
theorem standingAt_recomputeDomain_of_rests {id : ThermalDomainId} (h : g.rests id = true)
    (other : ThermalDomainId) : (g.recomputeDomain id).standingAt other = g.standingAt other := by
  by_cases hother : other = id
  · obtain ⟨definition, policy, hfind, hpolicy, hstored⟩ := rests_eq_true.mp h
    rw [hother, hstored, standingAt, evaluations_recomputeDomain hfind hpolicy,
      AList.lookup_insert, Option.map_some]
  · exact standingAt_recomputeDomain_ne hother

/-- Recomputations that find every domain at rest change no standing. -/
theorem standingAt_recomputeDomains_of_rests {c : Governor} (hkeyed : c.KeyedDomains)
    (hrests : ∀ id, (c.domains.find id).isSome = true → c.rests id = true)
    (domains : List ThermalDomainId) : ∀ g : Governor, SameReads c g →
      (∀ id, g.standingAt id = c.standingAt id) →
      ∀ id, (g.recomputeDomains domains).standingAt id = c.standingAt id := by
  induction domains with
  | nil => exact fun _ _ hstanding => hstanding
  | cons first rest ih =>
    intro g hsame hstanding
    refine ih (g.recomputeDomain first) (hsame.trans (g.recomputeDomain_same first).sameReads)
      fun id => ?_
    cases hfind : c.domains.find first with
    | none =>
      rw [recomputeDomain_eq_self, hstanding]
      intro definition hfind'
      rw [hsame.domains, hfind] at hfind'
      cases hfind'
    | some definition =>
      have hnow : g.rests first = true :=
        rests_congr hkeyed hsame (hstanding first)
          (fun source _ => by rw [stateAt_eq, stateAt_eq, hstanding])
          (hrests first (by rw [hfind]; rfl))
      rw [standingAt_recomputeDomain_of_rests hnow, hstanding]

/-- What is recomputed so far, against the state the sequence began in: the standings
differ for the moved domains only, and what is not still to come rests. -/
structure Settling (c g : Governor) (moved domains : List ThermalDomainId) : Prop where
  same : SameReads c g
  kept : ∀ id, id ∉ moved → g.standingAt id = c.standingAt id
  rests : ∀ id, (c.domains.find id).isSome = true → id ∉ domains → g.rests id = true

theorem settling_quiet {c : Governor} {id : ThermalDomainId} {moved rest : List ThermalDomainId}
    (hkeyed : c.KeyedDomains) (h : Settling c g moved (id :: rest))
    (hrests : c.rests id = true) (hid : id ∉ moved)
    (hheated : ∀ source ∈ moved, c.heats source id = false) :
    Settling c (g.recomputeDomain id) moved rest := by
  have hsame := (g.recomputeDomain_same id).sameReads
  have hkeyed' : g.KeyedDomains := by
    intro other definition hfind
    rw [h.same.domains] at hfind
    exact hkeyed other definition hfind
  -- nothing that heats the domain has moved, so it still rests
  have hnow : g.rests id = true := by
    refine rests_congr hkeyed h.same (h.kept id hid) (fun source hheats => ?_) hrests
    rw [stateAt_eq, stateAt_eq, h.kept source]
    intro hmoved
    rw [hheated source hmoved] at hheats
    cases hheats
  have hstandings := standingAt_recomputeDomain_of_rests hnow
  refine ⟨h.same.trans hsame, fun other hother => (hstandings other).trans (h.kept other hother),
    fun other hregistered hother => ?_⟩
  have hbefore : g.rests other = true := by
    by_cases heq : other = id
    · rw [heq]
      exact hnow
    · refine h.rests other hregistered fun hmem => ?_
      rcases List.mem_cons.mp hmem with hhead | hrest
      · exact heq hhead
      · exact hother hrest
  refine rests_congr hkeyed' hsame (hstandings other) (fun source _ => ?_) hbefore
  rw [stateAt_eq, stateAt_eq, hstandings]

theorem settling_moved {c : Governor} {id : ThermalDomainId} {moved rest : List ThermalDomainId}
    (hkeyed : c.KeyedDomains)
    (hpolicies : ∀ definition, ∃ policy, c.policyFor definition = some policy)
    (h : Settling c g moved (id :: rest))
    (hheated : ∀ target, (c.domains.find target).isSome = true → c.heats id target = true →
      target ∈ rest) : Settling c (g.recomputeDomain id) (id :: moved) rest := by
  have hsame := (g.recomputeDomain_same id).sameReads
  have hkeyed' : g.KeyedDomains := by
    intro other definition hfind
    rw [h.same.domains] at hfind
    exact hkeyed other definition hfind
  refine ⟨h.same.trans hsame, fun other hother => ?_, fun other hregistered hother => ?_⟩
  · rw [List.mem_cons, not_or] at hother
    rw [standingAt_recomputeDomain_ne hother.1, h.kept other hother.2]
  · by_cases heq : other = id
    · subst heq
      obtain ⟨definition, hfind⟩ := Option.isSome_iff_exists.mp hregistered
      obtain ⟨policy, hpolicy⟩ := hpolicies definition
      rw [← h.same.domains] at hfind
      rw [← h.same.policyFor] at hpolicy
      exact rests_recomputeDomain hkeyed' hfind hpolicy
    · have hbefore : g.rests other = true := by
        refine h.rests other hregistered fun hmem => ?_
        rcases List.mem_cons.mp hmem with hhead | hrest
        · exact heq hhead
        · exact hother hrest
      refine rests_congr hkeyed' hsame (standingAt_recomputeDomain_ne heq)
        (fun source hheats => ?_) hbefore
      rw [stateAt_eq, stateAt_eq, standingAt_recomputeDomain_ne]
      rintro rfl
      rw [h.same.heats] at hheats
      exact hother (hheated other hregistered hheats)

theorem settling_recomputeDomains {c : Governor} (hkeyed : c.KeyedDomains)
    (hpolicies : ∀ definition, ∃ policy, c.policyFor definition = some policy)
    (domains : List ThermalDomainId) :
    ∀ (g : Governor) (moved : List ThermalDomainId), Settling c g moved domains →
      c.settlesAfter moved domains = true →
      ∃ moved', Settling c (g.recomputeDomains domains) moved' [] := by
  induction domains with
  | nil => exact fun g moved h _ => ⟨moved, h⟩
  | cons id rest ih =>
    intro g moved h hsettles
    rw [settlesAfter] at hsettles
    split at hsettles
    · rename_i hquiet
      simp only [Bool.and_eq_true, Bool.not_eq_true', decide_eq_true_eq, List.any_eq_false,
        Bool.not_eq_true] at hquiet
      exact ih _ moved (settling_quiet hkeyed h hquiet.1.2 hquiet.1.1 hquiet.2) hsettles
    · rw [Bool.and_eq_true, List.all_eq_true] at hsettles
      refine ih _ (id :: moved) (settling_moved hkeyed hpolicies h fun target htarget hheats => ?_)
        hsettles.2
      have hlater := hsettles.1 target (mem_allDomainIds.mpr htarget)
      rw [hheats] at hlater
      simpa using hlater

/-- **A sequence of recomputations that settles leaves every domain at rest.** -/
theorem rests_recomputeDomains {c : Governor} (hkeyed : c.KeyedDomains)
    (hpolicies : ∀ definition, ∃ policy, c.policyFor definition = some policy)
    {domains : List ThermalDomainId} (hsettles : c.settles domains = true) (id : ThermalDomainId)
    (hregistered : (c.domains.find id).isSome = true) :
    (c.recomputeDomains domains).rests id = true := by
  rw [settles, Bool.and_eq_true, List.all_eq_true] at hsettles
  have hstart : Settling c c [] domains := by
    refine ⟨.refl c, fun _ _ => rfl, fun other hother hnot => ?_⟩
    have h := hsettles.1 other (mem_allDomainIds.mpr hother)
    simpa [hnot] using h
  obtain ⟨moved, h⟩ := settling_recomputeDomains hkeyed hpolicies domains c [] hstart hsettles.2
  exact h.rests id hregistered List.not_mem_nil

end Governor

end ThermalGovernor
