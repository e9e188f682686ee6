import ThermalGovernor.Governed.Rests

/-!
# Rounds of recomputation

A round recomputes every registered domain, smallest id first.  When its turn comes, a
domain reads the domains before it as the round has left them, and those after it as they
were (`evaluated_in_round`).  Where every domain rests a round stores the same again, and
so does every round after it (`standingAt_rounds_of_rests`).
-/

namespace ThermalGovernor

open Lib

/-- The ids of the registered domains, each once, in order. -/
theorem DomainRegistry.pairwise_allDomainIds (r : DomainRegistry) :
    r.allDomainIds.Pairwise (· < ·) := Table.pairwise_sortedKeys r.definitions

namespace Governor

variable {g g' : Governor} {id : ThermalDomainId}

/-- The state after rounds of recomputation. -/
def rounds (g : Governor) (n : Nat) : Governor := recomputeAllDomains^[n] g

theorem rounds_succ (g : Governor) (n : Nat) :
    g.rounds (n + 1) = (g.rounds n).recomputeAllDomains := Function.iterate_succ_apply' _ n g

theorem sameReads_rounds (g : Governor) (n : Nat) : SameReads g (g.rounds n) := by
  induction n with
  | zero => exact .refl g
  | succ n ih =>
    rw [rounds_succ]
    exact ih.trans (recomputeAllDomains_same _).sameReads

theorem standingAt_recomputeDomains_of_not_mem {domains : List ThermalDomainId}
    (h : id ∉ domains) : (g.recomputeDomains domains).standingAt id = g.standingAt id := by
  unfold recomputeDomains
  induction domains generalizing g with
  | nil => rfl
  | cons first rest ih =>
    rw [List.mem_cons, not_or] at h
    rw [List.foldl_cons, ih h.2, standingAt_recomputeDomain_ne h.1]

theorem stateAt_recomputeDomains_of_not_mem {domains : List ThermalDomainId}
    (h : id ∉ domains) : (g.recomputeDomains domains).stateAt id = g.stateAt id := by
  rw [stateAt_eq, standingAt_recomputeDomains_of_not_mem h, stateAt_eq]

/-- **What a domain is evaluated from in a round.**  Its own state and those after it are as
before the round, those before it as after the round. -/
theorem evaluated_in_round {definition : ThermalDomainDefinition} {policy : ThermalPolicy}
    (hfind : g.domains.find id = some definition) (hpolicy : g.policyFor definition = some policy) :
    ∃ turn, SameReads g turn ∧
      g.recomputeAllDomains.stateAt id =
        some (evaluateThermal (turn.evaluation definition policy).1).state ∧
      turn.stateAt id = g.stateAt id ∧
      (∀ n, n < id → turn.stateAt n = g.recomputeAllDomains.stateAt n) ∧
      (∀ n, id < n → turn.stateAt n = g.stateAt n) := by
  have hmem : id ∈ g.domains.allDomainIds := mem_allDomainIds.mpr (by rw [hfind]; rfl)
  obtain ⟨before, after, hsplit⟩ := List.append_of_mem hmem
  have hordered := g.domains.pairwise_allDomainIds
  rw [hsplit, List.pairwise_append, List.pairwise_cons] at hordered
  obtain ⟨-, ⟨hafter, -⟩, hbefore⟩ := hordered
  have hid : id ∉ before := fun h => lt_irrefl id (hbefore id h id List.mem_cons_self)
  have hid' : id ∉ after := fun h => lt_irrefl id (hafter id h)
  have hround : g.recomputeAllDomains =
      ((g.recomputeDomains before).recomputeDomain id).recomputeDomains after := by
    rw [recomputeAllDomains, hsplit]
    unfold recomputeDomains
    rw [List.foldl_append, List.foldl_cons]
  have hsame := (g.recomputeDomains_same before).sameReads
  refine ⟨g.recomputeDomains before, hsame, ?_, ?_, ?_, ?_⟩
  · rw [hround, stateAt_recomputeDomains_of_not_mem hid', stateAt,
      evaluations_recomputeDomain (by rw [hsame.domains, hfind]) (by rw [hsame.policyFor, hpolicy]),
      AList.lookup_insert, Option.map_some]
    rfl
  · exact stateAt_recomputeDomains_of_not_mem hid
  · intro n hn
    have hnot : n ∉ after := fun h => lt_asymm hn (hafter n h)
    rw [hround, stateAt_recomputeDomains_of_not_mem hnot, stateAt_eq, stateAt_eq,
      standingAt_recomputeDomain_ne hn.ne]
  · intro n hn
    refine stateAt_recomputeDomains_of_not_mem fun h => ?_
    exact lt_asymm hn (hbefore n h id List.mem_cons_self)

/-- The input of an evaluation in a state that reads the same: what was stored before, and
the pressure of the neighbours, are those of that state. -/
theorem evaluation_input_eq (h : SameReads g g') (definition : ThermalDomainDefinition)
    (policy : ThermalPolicy) :
    (g'.evaluation definition policy).1 =
      { (g.evaluation definition policy).1 with
        previousState := (g'.evaluation definition policy).1.previousState
        previousDerating := (g'.evaluation definition policy).1.previousDerating
        recovery :=
          { (g.evaluation definition policy).1.recovery with
            coupledDomainsRecovered :=
              (g'.coupledPressure definition policy).all fun p => p.state.isHealthy }
        coupled := g'.coupledPressure definition policy
        topologyGeneration := g'.topologyGeneration } := by
  have hcapabilities : ∀ gathered,
      g'.domainCapabilities definition gathered = g.domainCapabilities definition gathered := by
    intro gathered
    unfold domainCapabilities memberCapabilities
    rw [h.devices]
  have hfreshness : g'.classifyFreshness policy = g.classifyFreshness policy := by
    funext e
    unfold classifyFreshness
    rw [h.invalidatedEvidence, h.now]
  unfold evaluation evaluationInput recoveryInput
  dsimp only
  rw [h.evidence, hcapabilities, h.conflictedSubjects, h.recoveryHistories, h.epoch,
    h.explicitRecovery, hfreshness]

/-- Where everything rests, rounds change no standing. -/
theorem standingAt_rounds_of_rests (hkeyed : g.KeyedDomains)
    (h : ∀ id, (g.domains.find id).isSome = true → g.rests id = true) (n : Nat) :
    ∀ id, (g.rounds n).standingAt id = g.standingAt id := by
  -- each recomputation of the round finds its domain at rest
  have hsweep : ∀ (domains : List ThermalDomainId) (turn : Governor), SameReads g turn →
      (∀ id, turn.standingAt id = g.standingAt id) →
      ∀ id, (turn.recomputeDomains domains).standingAt id = g.standingAt id := by
    intro domains
    unfold recomputeDomains
    induction domains with
    | nil => exact fun _ _ hstanding => hstanding
    | cons first rest ih =>
      intro turn hsame hstanding
      refine ih _ (hsame.trans (turn.recomputeDomain_same first).sameReads) fun id => ?_
      by_cases hregistered : (g.domains.find first).isSome = true
      · have hrests : turn.rests first = true := by
          refine rests_congr hkeyed hsame (hstanding first) (fun source _ => ?_)
            (h first hregistered)
          rw [stateAt_eq, stateAt_eq, hstanding]
        rw [standingAt_recomputeDomain_of_rests hrests, hstanding]
      · have hself : turn.recomputeDomain first = turn := by
          refine recomputeDomain_eq_self fun definition hfind => ?_
          rw [hsame.domains] at hfind
          rw [hfind] at hregistered
          exact absurd rfl hregistered
        rw [hself, hstanding]
  induction n with
  | zero => exact fun _ => rfl
  | succ n ih =>
    rw [rounds_succ]
    exact hsweep _ _ (g.sameReads_rounds n) ih

end Governor

end ThermalGovernor
