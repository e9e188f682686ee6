import ThermalGovernor.Governed.Rounds
import ThermalGovernor.Lib.Sweep

/-!
# Coupled domains that hold each other

A domain is restricted again by the state of a neighbour, whatever the neighbour's own
evidence says, and its recovery waits for every neighbour to be healthy, whatever the
policy asks.  So restrictions travel along couplings, and round a cycle they keep each
other alive.

`CanRecover` is the condition under which they do not: no restriction that a round hands
down the order of ids comes to a cycle, and every domain one can come to may recover on its
own.  Then some number of rounds leaves no domain restricted (`recovers_of_canRecover`); two
domains that heat each other stay restricted for ever (`never_recovers`).
-/

namespace ThermalGovernor

open Lib Relation

namespace EvaluationInput

/-- The recovery of a domain on its own evidence, its neighbours taken as recovered. -/
def ownRecovery (input : EvaluationInput) (evidence : ThermalEvidence) : RecoveryAssessment :=
  assessRecovery input.policy
    { recoveryInputFor input (computeHeadroom (headroomInputFor input evidence)) with
      coupledDomainsRecovered := true }

/-- The evidence of a domain is fresh and in the healthy band, and its history meets what the
policy requires of samples, span, temperature, headroom, throttling and authorization. -/
def meetsRequirements (input : EvaluationInput) : Bool :=
  input.evidence.any fun evidence =>
    let own := input.ownRecovery evidence
    input.freshness = .fresh &&
      (bandState input.policy.thresholds (resolveThrottle input evidence)
        evidence.temperature).isHealthy &&
      own.requiredSamples ≤ own.qualifyingSamples && own.requiredSpan ≤ own.qualifyingSpan &&
      own.temperatureBelowThreshold && own.headroomRequirementSatisfied && own.throttleClear &&
      (! input.policy.recovery.requireExplicitAuthorization || own.explicitAuthorizationPresent)

/-- What else the recovery of a domain rests on: enough distinct witnesses, and evidence
that the policy does not exclude from recovery. -/
def recoversAlone (input : EvaluationInput) : Bool :=
  input.evidence.any fun evidence =>
    let own := input.ownRecovery evidence
    own.requiredWitnesses ≤ own.distinctWitnesses &&
      ! (input.recovery.evidenceProvenance = .unsupported &&
        input.policy.recovery.forbidRecoveryAfterUnsupportedEvidence)

/-- The capability of a domain is supported and its evidence not in conflict. -/
def resolves (input : EvaluationInput) : Bool :=
  input.temperatureCapability.isSupported && ! input.evidenceConflict

/-- The input with another past and other neighbours. -/
def among (input : EvaluationInput) (previous : ThermalState) (derating : DeratingLevel)
    (pressure : List CoupledPressure) (topology : TopologyGeneration) : EvaluationInput :=
  { input with
    previousState := previous
    previousDerating := derating
    recovery :=
      { input.recovery with
        coupledDomainsRecovered := pressure.all fun p => p.state.isHealthy }
    coupled := pressure
    topologyGeneration := topology }

end EvaluationInput

/-! ### What keeps a domain unhealthy -/

theorem ThermalState.unhealthy_of_restrictive {s : ThermalState} (h : s.isRestrictive = true) :
    s.isHealthy = false := by
  cases hs : s.isHealthy with
  | false => rfl
  | true =>
    rw [not_restrictive_of_healthy hs] at h
    cases h

/-- Neighbours that are not restricted leave the scan as it was, when those that are not
healthy do not escalate. -/
theorem scanCoupled_of_quiet (policy : CouplingPolicy) {coupled : List CoupledPressure}
    (candidate : ThermalState) (h : ∀ p ∈ coupled, p.state.isRestrictive = false ∧
      (policy.escalateToHottestNeighbour = true → p.state.isHealthy = true)) :
    (scanCoupled policy coupled candidate).tightened = candidate := by
  have hfold : ∀ scan : CouplingScan,
      (coupled.foldl (couple policy) scan).candidate = scan.candidate ∧
      (coupled.foldl (couple policy) scan).pressured = scan.pressured := by
    induction coupled with
    | nil => exact fun _ => ⟨rfl, rfl⟩
    | cons p rest ih =>
      intro scan
      obtain ⟨hrestrictive, hescalate⟩ := h p List.mem_cons_self
      have hquiet : (policy.escalateToHottestNeighbour && p.state.isUnresolved) = false := by
        cases hpolicy : policy.escalateToHottestNeighbour with
        | false => rfl
        | true => rw [((ThermalState.isHealthy_iff _).mp (hescalate hpolicy)).2, Bool.and_false]
      obtain ⟨hcandidate, hpressured⟩ :=
        ih (fun q hq => h q (List.mem_cons_of_mem _ hq)) (couple policy scan p)
      rw [List.foldl_cons, hcandidate, hpressured]
      simp [couple, hrestrictive, hquiet, Bool.and_comm p.state.isUnresolved]
  unfold scanCoupled CouplingScan.tightened
  split
  · obtain ⟨hcandidate, hpressured⟩ := hfold { candidate := candidate }
    rw [hcandidate, hpressured]
    rfl
  · rfl

/-- A recovery that meets each of its requirements is allowed. -/
theorem allowed_of_gates {policy : ThermalPolicy} {input : RecoveryInput}
    (hbelow : (assessRecovery policy input).temperatureBelowThreshold = true)
    (hheadroom : (assessRecovery policy input).headroomRequirementSatisfied = true)
    (hthrottle : (assessRecovery policy input).throttleClear = true)
    (hsamples : (assessRecovery policy input).requiredSamples ≤
      (assessRecovery policy input).qualifyingSamples)
    (hspan : (assessRecovery policy input).requiredSpan ≤
      (assessRecovery policy input).qualifyingSpan)
    (hwitnesses : (assessRecovery policy input).requiredWitnesses ≤
      (assessRecovery policy input).distinctWitnesses)
    (hcoupled : input.coupledDomainsRecovered = true)
    (hexplicit : (! policy.recovery.requireExplicitAuthorization ||
      (assessRecovery policy input).explicitAuthorizationPresent) = true) :
    (assessRecovery policy input).allowed = true := by
  unfold assessRecovery at hsamples hspan hbelow hheadroom hthrottle hexplicit hwitnesses ⊢
  dsimp only at hsamples hspan hbelow hheadroom hthrottle hexplicit hwitnesses ⊢
  rw [hbelow, hheadroom, hthrottle, hexplicit, hcoupled, decide_eq_true hsamples,
    decide_eq_true hspan, decide_eq_true hwitnesses]
  rfl

/-- The requirements and the rest together allow recovery among healthy neighbours. -/
theorem allowed_of_requirements {input : EvaluationInput} {evidence : ThermalEvidence}
    (hevidence : input.evidence = some evidence) (hmeets : input.meetsRequirements = true)
    (halone : input.recoversAlone = true) :
    (evaluateRecovery
      { recoveryInputFor input (computeHeadroom (headroomInputFor input evidence)) with
        coupledDomainsRecovered := true }).allowed = true := by
  unfold EvaluationInput.meetsRequirements at hmeets
  unfold EvaluationInput.recoversAlone at halone
  rw [hevidence, Option.any_some] at hmeets halone
  simp only [EvaluationInput.ownRecovery, Bool.and_eq_true] at hmeets halone
  obtain ⟨⟨⟨⟨⟨⟨⟨-, -⟩, hsamples⟩, hspan⟩, hbelow⟩, hheadroom⟩, hthrottle⟩, hexplicit⟩ := hmeets
  obtain ⟨hwitnesses, hprovenance⟩ := halone
  have hassess : evaluateRecovery
      { recoveryInputFor input (computeHeadroom (headroomInputFor input evidence)) with
        coupledDomainsRecovered := true } =
      assessRecovery input.policy
        { recoveryInputFor input (computeHeadroom (headroomInputFor input evidence)) with
          coupledDomainsRecovered := true } := by
    unfold evaluateRecovery recoveryInputFor
    dsimp only
    rw [if_neg]
    rw [Bool.not_eq_true']  at hprovenance
    rw [hprovenance]
    decide
  rw [hassess]
  exact allowed_of_gates hbelow hheadroom hthrottle (of_decide_eq_true hsamples)
    (of_decide_eq_true hspan) (of_decide_eq_true hwitnesses) rfl hexplicit

/-- **Why a domain that meets its requirements is not healthy**: it follows a neighbour that
is restricted or escalates, or it was restricted and has no recovery of its own, or it was
restricted and a neighbour is not healthy. -/
theorem unhealthy_cases {input : EvaluationInput} (hmeets : input.meetsRequirements = true)
    (hresolves : input.resolves = true) {previous : ThermalState} {derating : DeratingLevel}
    {pressure : List CoupledPressure} {topology : TopologyGeneration}
    (h : (evaluateThermal (input.among previous derating pressure topology)).state.isHealthy =
      false) :
    (input.policy.coupling.coDerateCoupledDomains = true ∧ ∃ p ∈ pressure,
      p.state.isRestrictive = true ∨
        input.policy.coupling.escalateToHottestNeighbour = true ∧ p.state.isHealthy = false) ∨
    (previous.isRestrictive = true ∧ input.recoversAlone = false) ∨
    (previous.isRestrictive = true ∧ ∃ p ∈ pressure, p.state.isHealthy = false) := by
  obtain ⟨evidence, hevidence, hfresh, hband⟩ : ∃ evidence, input.evidence = some evidence ∧
      input.freshness = .fresh ∧ (bandState input.policy.thresholds
        (resolveThrottle input evidence) evidence.temperature).isHealthy = true := by
    have hown := hmeets
    unfold EvaluationInput.meetsRequirements at hown
    obtain ⟨evidence, hevidence, hall⟩ := (Option.any_eq_true _ _).mp hown
    simp only [Bool.and_eq_true, decide_eq_true_eq] at hall
    exact ⟨evidence, hevidence, hall.1.1.1.1.1.1.1, hall.1.1.1.1.1.1.2⟩
  have hresolved : resolvedEvidence (input.among previous derating pressure topology) =
      some evidence := by
    simp only [EvaluationInput.resolves, Bool.and_eq_true, Bool.not_eq_true'] at hresolves
    exact resolvedEvidence_eq_some.mpr ⟨hresolves.1, hresolves.2, hfresh, hevidence⟩
  rw [← Bool.not_eq_true, isHealthy_evaluateThermal, reachesGate, hresolved, Option.any_some,
    not_and_or] at h
  rcases h with hcandidate | hgate
  · -- the band is healthy, so it is the neighbours that made the candidate unhealthy
    refine .inl ?_
    by_contra hquiet
    have hscan : (scanCoupled input.policy.coupling pressure (bandState input.policy.thresholds
        (resolveThrottle input evidence) evidence.temperature)).tightened.isHealthy = true := by
      by_cases hco : input.policy.coupling.coDerateCoupledDomains = true
      · rw [scanCoupled_of_quiet]
        · exact hband
        · intro p hp
          refine ⟨?_, fun hescalate => ?_⟩
          · by_contra hrestrictive
            rw [Bool.not_eq_false] at hrestrictive
            exact hquiet ⟨hco, p, hp, .inl hrestrictive⟩
          · by_contra hunhealthy
            rw [Bool.not_eq_true] at hunhealthy
            exact hquiet ⟨hco, p, hp, .inr ⟨hescalate, hunhealthy⟩⟩
      · rw [scanCoupled, if_neg hco]
        exact hband
    exact hcandidate hscan
  · push Not at hgate
    obtain ⟨hrestrictive, hrecovery⟩ := hgate
    by_cases hneighbours : ∀ p ∈ pressure, p.state.isHealthy = true
    · -- among healthy neighbours the recovery is the domain's own
      refine .inr (.inl ⟨hrestrictive, ?_⟩)
      by_contra halone
      rw [Bool.not_eq_false] at halone
      refine hrecovery ?_
      rw [evaluateThermal_of_resolved hresolved]
      have hallowed : (evaluateRecovery
          { recoveryInputFor input (computeHeadroom (headroomInputFor input evidence)) with
            coupledDomainsRecovered := pressure.all fun p => p.state.isHealthy }).allowed =
          true := by
        rw [List.all_eq_true.mpr hneighbours]
        exact allowed_of_requirements hevidence hmeets halone
      exact hallowed
    · push Not at hneighbours
      obtain ⟨p, hp, hunhealthy⟩ := hneighbours
      rw [ne_eq, Bool.not_eq_true] at hunhealthy
      exact .inr (.inr ⟨hrestrictive, p, hp, hunhealthy⟩)

/-- A domain that does not resolve is unresolved whatever its neighbours are. -/
theorem unresolved_of_not_resolves {input : EvaluationInput} (h : input.resolves = false)
    (previous : ThermalState) (derating : DeratingLevel) (pressure : List CoupledPressure)
    (topology : TopologyGeneration) :
    (evaluateThermal (input.among previous derating pressure topology)).state.isRestrictive =
      false := by
  have hnone : resolvedEvidence (input.among previous derating pressure topology) = none := by
    unfold resolvedEvidence
    rw [if_neg]
    show ¬ (input.resolves && decide (input.freshness = .fresh)) = true
    rw [h, Bool.false_and]
    exact Bool.false_ne_true
  rcases evaluateThermal_eq (input.among previous derating pressure topology) with
    ⟨evidence, hsome, -⟩ | ⟨-, hunresolved, -⟩
  · rw [hnone] at hsome
    cases hsome
  · rcases ThermalState.trichotomy
      (evaluateThermal (input.among previous derating pressure topology)).state with
      h | h | h
    · exact h.2.1
    · rw [h.2.2] at hunresolved
      cases hunresolved
    · exact h.2.1

namespace Governor

variable {g : Governor}

/-- The domain is unhealthy after some rounds, and resolves or is still restricted. -/
def markedAfter (g : Governor) (n : Nat) (id : ThermalDomainId) : Prop :=
  ∃ input state, g.inputOf id = some input ∧ (g.rounds n).stateAt id = some state ∧
    state.isHealthy = false ∧ (input.resolves = true ∨ state.isRestrictive = true)

/-- The registered domains as a graph of restrictions.  A domain that does not resolve
follows no other, and counts as marked only where its stored state is still restrictive. -/
def marking (g : Governor) : Marking ThermalDomainId where
  reads := fun source target => g.heats source target = true ∧
    ∃ input, g.inputOf target = some input ∧ input.resolves = true
  eager := fun id => ∃ input, g.inputOf id = some input ∧
    input.policy.coupling.coDerateCoupledDomains = true
  marked := fun id => g.markedAfter 0 id

/-- The marks that rounds hand on die out. -/
structure CanRecover (g : Governor) : Prop where
  /-- No mark handed down the order of ids comes to a cycle. -/
  acyclic : ∀ id, g.marking.Reaches id → ¬ TransGen g.marking.Passes id id
  /-- A domain that a mark can come to may recover on its own. -/
  alone : ∀ id input, g.marking.Exposed id → g.inputOf id = some input →
    input.resolves = true → input.recoversAlone = true
  /-- A domain that does not resolve neither escalates to another nor holds one that a mark
  can come to. -/
  resolved : ∀ source id heater input, g.heats source id = true →
    g.inputOf source = some heater → heater.resolves = false →
    g.inputOf id = some input → input.resolves = true →
      ¬ (input.policy.coupling.coDerateCoupledDomains = true ∧
        input.policy.coupling.escalateToHottestNeighbour = true) ∧
      ¬ g.marking.Exposed id

/-- The domain may recover on its own, and every domain that heats it resolves. -/
def WayOut (g : Governor) (id : ThermalDomainId) : Prop :=
  ∀ input, g.inputOf id = some input → input.resolves = true → input.recoversAlone = true ∧
    ∀ source heater, g.heats source id = true → g.inputOf source = some heater →
      heater.resolves = true

theorem CanRecover.wayOut (hcan : g.CanRecover) {id : ThermalDomainId}
    (hexposed : g.marking.Exposed id) : g.WayOut id := by
  intro input hinput hresolves
  refine ⟨hcan.alone id input hexposed hinput hresolves, fun source heater hheats hheater => ?_⟩
  by_contra hunresolved
  rw [Bool.not_eq_true] at hunresolved
  exact (hcan.resolved source id heater input hheats hheater hunresolved hinput hresolves).2
    hexposed

/-- Each neighbour that presses a domain is a registered domain that heats it. -/
theorem heats_of_coupledPressure {turn : Governor} (hsame : SameReads g turn)
    (hkeyed : g.KeyedDomains) {id : ThermalDomainId} {definition : ThermalDomainDefinition}
    {policy : ThermalPolicy} (hfind : g.domains.find id = some definition)
    (hpolicy : g.policyFor definition = some policy) {p : CoupledPressure}
    (hp : p ∈ turn.coupledPressure definition policy) :
    ∃ source, g.heats source id = true ∧ (g.domains.find source).isSome = true ∧
      turn.stateAt source = some p.state := by
  obtain ⟨n, hn, hpressure⟩ := List.mem_filterMap.mp hp
  rw [hsame.couplings, hkeyed id definition hfind] at hn
  refine ⟨n.1, ?_, ?_⟩
  · unfold heats
    rw [hfind]
    dsimp only
    rw [hpolicy]
    exact List.any_eq_true.mpr ⟨n, hn, decide_eq_true rfl⟩
  · unfold pressureFrom at hpressure
    rw [hsame.domains] at hpressure
    cases hother : g.domains.find n.1 with
    | none =>
      rw [hother] at hpressure
      cases hpressure
    | some other =>
      cases hstored : turn.evaluations.lookup n.1 with
      | none =>
        rw [hother, hstored] at hpressure
        cases hpressure
      | some e =>
        rw [hother, hstored] at hpressure
        refine ⟨rfl, ?_⟩
        rw [stateAt, hstored, ← Option.some.inj hpressure]
        rfl

/-- The input a registered domain has in its turn: its own part is that of the beginning,
its past and its neighbours are those of the round. -/
theorem input_in_round (hg : g.Reachable) (n : Nat) {id : ThermalDomainId}
    {input : EvaluationInput} (hinput : g.inputOf id = some input) :
    ∃ turn definition policy, SameReads g turn ∧ g.domains.find id = some definition ∧
      g.policyFor definition = some policy ∧
      (g.rounds (n + 1)).stateAt id = some (evaluateThermal (input.among
        ((turn.stateAt id).getD .unknown) (turn.evaluation definition policy).1.previousDerating
        (turn.coupledPressure definition policy) turn.topologyGeneration)).state ∧
      turn.stateAt id = (g.rounds n).stateAt id ∧
      (∀ m, m < id → turn.stateAt m = (g.rounds (n + 1)).stateAt m) ∧
      (∀ m, id < m → turn.stateAt m = (g.rounds n).stateAt m) := by
  obtain ⟨definition, policy, hfind, hpolicy, rfl⟩ := inputOf_eq_some.mp hinput
  have hsame := g.sameReads_rounds n
  obtain ⟨turn, hturn, hstate, hown, hbelow, habove⟩ := evaluated_in_round (g := g.rounds n)
    (by rw [hsame.domains, hfind]) (by rw [hsame.policyFor, hpolicy])
  rw [← rounds_succ] at hstate hbelow
  refine ⟨turn, definition, policy, hsame.trans hturn, hfind, hpolicy, ?_, hown, hbelow, habove⟩
  have hprevious : (turn.evaluation definition policy).1.previousState =
      (turn.stateAt id).getD .unknown := by
    rw [← keyedDomains_of_reachable hg id definition hfind]
    rfl
  rw [hstate, evaluation_input_eq (hsame.trans hturn), hprevious]
  rfl

/-- **A round is a sweep over the marked domains.** -/
theorem sweeps_of_canRecover (hg : g.Reachable)
    (hmeets : ∀ id input, g.inputOf id = some input → input.meetsRequirements = true)
    (hcan : g.CanRecover) : Sweeps g.marking g.WayOut g.markedAfter := by
  refine ⟨fun _ h => h, fun n id hmarked => ?_⟩
  obtain ⟨input, state, hinput, hstate, hunhealthy, hopen⟩ := hmarked
  obtain ⟨turn, definition, policy, hsame, hfind, hpolicy, hround, hown, hbelow, habove⟩ :=
    input_in_round hg n hinput
  rw [hstate] at hround
  cases hround
  have hresolves : input.resolves = true := by
    by_contra hnot
    rw [Bool.not_eq_true] at hnot
    rcases hopen with h | h
    · rw [hnot] at h
      cases h
    · rw [unresolved_of_not_resolves hnot] at h
      cases h
  -- a neighbour that is not healthy is marked, or it does not resolve
  have hneighbour : ∀ p ∈ turn.coupledPressure definition policy, p.state.isHealthy = false →
      ∃ source heater, g.heats source id = true ∧ g.inputOf source = some heater ∧
        (heater.resolves = true ∨ p.state.isRestrictive = true →
          source < id ∧ g.markedAfter (n + 1) source ∨ id < source ∧ g.markedAfter n source) := by
    intro p hp hpstate
    obtain ⟨source, hheats, hregistered, hstored⟩ :=
      heats_of_coupledPressure hsame (keyedDomains_of_reachable hg) hfind hpolicy hp
    obtain ⟨other, hother⟩ := Option.isSome_iff_exists.mp hregistered
    obtain ⟨governing, hgoverning⟩ := exists_policyFor hg other
    refine ⟨source, _, hheats, inputOf_eq_some.mpr ⟨other, governing, hother, hgoverning, rfl⟩,
      fun hsource => ?_⟩
    have hne : source ≠ id := by
      rintro rfl
      rw [heats_irrefl] at hheats
      cases hheats
    rcases lt_or_gt_of_ne hne with hlt | hgt
    · rw [hbelow source hlt] at hstored
      exact .inl ⟨hlt, _, _, inputOf_eq_some.mpr ⟨other, governing, hother, hgoverning, rfl⟩,
        hstored, hpstate, hsource⟩
    · rw [habove source hgt] at hstored
      exact .inr ⟨hgt, _, _, inputOf_eq_some.mpr ⟨other, governing, hother, hgoverning, rfl⟩,
        hstored, hpstate, hsource⟩
  -- what was restrictive before was marked before
  have hheld : ((turn.stateAt id).getD .unknown).isRestrictive = true → g.markedAfter n id := by
    intro hrestrictive
    rw [hown] at hrestrictive
    cases hbefore : (g.rounds n).stateAt id with
    | none =>
      rw [hbefore] at hrestrictive
      cases hrestrictive
    | some before =>
      rw [hbefore, Option.getD_some] at hrestrictive
      exact ⟨input, before, hinput, hbefore, ThermalState.unhealthy_of_restrictive hrestrictive,
        .inl hresolves⟩
  have hreads : ∃ input, g.inputOf id = some input ∧ input.resolves = true :=
    ⟨input, hinput, hresolves⟩
  rcases unhealthy_cases (hmeets id input hinput) hresolves hunhealthy with
    ⟨hco, p, hp, hpressing⟩ | ⟨hrestrictive, hnotAlone⟩ | ⟨hrestrictive, p, hp, hpstate⟩
  · refine .inl ⟨⟨input, hinput, hco⟩, ?_⟩
    have hpstate : p.state.isHealthy = false := by
      rcases hpressing with h | h
      · exact ThermalState.unhealthy_of_restrictive h
      · exact h.2
    obtain ⟨source, heater, hheats, hheater, hmark⟩ := hneighbour p hp hpstate
    refine ⟨source, ⟨hheats, hreads⟩, hmark ?_⟩
    rcases hpressing with h | ⟨hescalate, -⟩
    · exact .inr h
    · left
      by_contra hnot
      rw [Bool.not_eq_true] at hnot
      exact (hcan.resolved source id heater input hheats hheater hnot hinput hresolves).1
        ⟨hco, hescalate⟩
  · refine .inr (.inl ⟨hheld hrestrictive, fun hout => ?_⟩)
    rw [(hout input hinput hresolves).1] at hnotAlone
    cases hnotAlone
  · obtain ⟨source, heater, hheats, hheater, hmark⟩ := hneighbour p hp hpstate
    by_cases hsource : heater.resolves = true
    · exact .inr (.inr ⟨hheld hrestrictive, source, ⟨hheats, hreads⟩, hmark (.inl hsource)⟩)
    · refine .inr (.inl ⟨hheld hrestrictive, fun hout => ?_⟩)
      exact hsource ((hout input hinput hresolves).2 source heater hheats hheater)

section Deployment

open Deployment

theorem forall_input_of_all {p : EvaluationInput → Bool}
    (h : (g.domains.allDomainIds.all fun id => (g.inputOf id).all p) = true) :
    ∀ id input, g.inputOf id = some input → p input = true := by
  intro id input hinput
  obtain ⟨definition, policy, hfind, -, -⟩ := inputOf_eq_some.mp hinput
  have hmem : id ∈ g.domains.allDomainIds := mem_allDomainIds.mpr (by rw [hfind]; rfl)
  have hall := List.all_eq_true.mp h id hmem
  rw [hinput] at hall
  exact hall

/-- A domain rests whose stored standing and whose standing evaluated now are known to agree. -/
theorem rests_of_standing {id : ThermalDomainId} {s : Standing}
    (hstored : g.standingAt id = some s)
    (hagain : (g.evaluateDomain id).2.toOption.map ThermalEvaluation.standing = some s) :
    g.rests id = true := by
  obtain ⟨stored, hlookup, hstored⟩ := Option.map_eq_some_iff.mp hstored
  obtain ⟨again, hok, hagain⟩ := Option.map_eq_some_iff.mp hagain
  cases hanswer : (g.evaluateDomain id).2 with
  | error e =>
    rw [hanswer] at hok
    cases hok
  | ok e =>
    rw [hanswer] at hok
    obtain rfl : e = again := Option.some.inj hok
    rw [rests, hlookup, hanswer]
    exact decide_eq_true (hagain.trans hstored.symm)

/-- A second of the deployment's clock. -/
def second : SteadyTimePoint := 1000000000

/-- Both devices, hot at first, are cold in each of the next three seconds. -/
def coolingDown : List Operation :=
  [.publishTemperature (reading 88 1 0), .publishTemperature (secondReading 88 1 0)] ++
    [1, 2, 3].flatMap fun (n : Nat) =>
      [.tick (n * second), .publishTemperature (reading 40 (n + 1) (n * second)),
        .publishTemperature (secondReading 40 (n + 1) (n * second))]

/-- Both domains recover when authorized, and the second heats the first. -/
def releasedInTurn : Governor :=
  after ([.setPolicy { PolicyOver.makeDefault with
        generation := 2, recovery := { requireExplicitAuthorization := true } },
      .registerDevice secondDevice, .registerThermalDomain secondDomain,
      .registerCoupling (coupling 1 2 1)] ++ coolingDown ++
    [.authorizeRecovery 1, .authorizeRecovery 2])

/-- Each of two domains heats the other. -/
def heldByEachOther : Governor :=
  after ([.registerDevice secondDevice, .registerThermalDomain secondDomain,
      .registerCoupling (coupling 1 1 2), .registerCoupling (coupling 2 2 1)] ++ coolingDown)

theorem canRecover_releasedInTurn : releasedInTurn.CanRecover := by
  have hregistered : ∀ id input, releasedInTurn.inputOf id = some input → id = 1 ∨ id = 2 := by
    intro id input hinput
    obtain ⟨definition, policy, hfind, -, -⟩ := inputOf_eq_some.mp hinput
    have hids : releasedInTurn.domains.allDomainIds = [1, 2] := by decide +kernel
    have hmem : id ∈ releasedInTurn.domains.allDomainIds :=
      mem_allDomainIds.mpr (by rw [hfind]; rfl)
    rw [hids] at hmem
    simpa using hmem
  have hresolve := forall_input_of_all (g := releasedInTurn) (p := EvaluationInput.resolves)
    (by decide +kernel)
  have halone := forall_input_of_all (g := releasedInTurn) (p := EvaluationInput.recoversAlone)
    (by decide +kernel)
  -- the first domain alone is marked, and no domain comes before it
  have hnone : ∀ id, ¬ releasedInTurn.marking.Reaches id := by
    rintro id ⟨x, y, ⟨input, state, hinput, hstate, hunhealthy, -⟩, ⟨⟨-, other, hother, -⟩, -⟩,
      hlt, -⟩
    rcases hregistered x input hinput with rfl | rfl
    · rcases hregistered y other hother with rfl | rfl
      · exact lt_irrefl _ hlt
      · exact absurd hlt (by decide)
    · have hhealthy : (releasedInTurn.stateAt 2).all ThermalState.isHealthy = true := by
        decide +kernel
      have hbefore : releasedInTurn.stateAt 2 = some state := hstate
      rw [hbefore] at hhealthy
      rw [Option.all_some, hunhealthy] at hhealthy
      cases hhealthy
  refine ⟨fun id h => absurd h (hnone id), fun id input _ hinput _ => halone id input hinput, ?_⟩
  intro source id heater input _ hheater hunresolved
  rw [hresolve source heater hheater] at hunresolved
  cases hunresolved

end Deployment

end Governor

end ThermalGovernor
