import ThermalGovernor.Ledger.Effects
import ThermalGovernor.Ledger.Memory
import ThermalGovernor.Evaluation.Heating
import ThermalGovernor.Governed.Rests

/-!
# What a conflict leaves behind

A publication that contradicts the record held for its subject is refused with
`duplicateConflict`, and the evaluator knows a mark for such a conflict, under which a domain
is to be revalidated.  No operation ever sets the mark (`conflictedSubjects_eq_empty`), so a
domain is decided after the conflict as it would have been without it.

`decision_revalidation_iff` says when an evaluation without a mark demands revalidation: its
capability is answered so by the policy, its evidence is missing or not fresh, or the most
severe of its coupled neighbours is escalated to.  `remembers_iff` puts the two together.
-/

namespace ThermalGovernor

open Lib

/-! ### Revalidation without a conflict -/

/-- The most severe state among the coupled domains. -/
def mostSevere (coupled : List CoupledPressure) : ThermalState :=
  coupled.foldl (fun s p => escalate s p.state) .normal

/-- Two states are the same, or neither is unresolved. -/
def SameUnresolved (s s' : ThermalState) : Prop :=
  (s.severity ≤ 5 ∧ s'.severity ≤ 5) ∨ s = s'

/-- Only an unresolved state is answered with a demand for revalidation. -/
theorem decisionForState_revalidation {s : ThermalState} {policy : ThermalPolicy}
    (h : decisionForState s policy = .revalidationRequired) : 6 ≤ s.severity := by
  cases s with
  | normal | warm | nearLimit | derated | throttling => cases h
  | critical =>
    simp only [decisionForState] at h
    split at h <;> cases h
  | revalidationRequired | unknown | unsupported => decide

theorem SameUnresolved.decision_iff {s s' : ThermalState} (h : SameUnresolved s s')
    (policy : ThermalPolicy) :
    decisionForState s policy = .revalidationRequired ↔
      decisionForState s' policy = .revalidationRequired := by
  rcases h with ⟨hs, hs'⟩ | rfl
  · refine iff_of_false (fun h => ?_) fun h => ?_
    · have := decisionForState_revalidation h
      omega
    · have := decisionForState_revalidation h
      omega
  · exact Iff.rfl

/-- The scan escalates to the unresolved neighbours as taking the most severe one does. -/
theorem sameUnresolved_foldl_couple {policy : CouplingPolicy}
    (hescalate : policy.escalateToHottestNeighbour = true) (coupled : List CoupledPressure) :
    ∀ (scan : CouplingScan) (s : ThermalState), SameUnresolved scan.candidate s →
      SameUnresolved (coupled.foldl (couple policy) scan).candidate
        (coupled.foldl (fun s p => escalate s p.state) s) := by
  induction coupled with
  | nil => exact fun scan s h => h
  | cons p rest ih =>
    intro scan s h
    refine ih _ _ ?_
    simp only [couple, hescalate, Bool.true_and]
    by_cases hcounts : (p.state.isRestrictive || p.state.isUnresolved) = true
    · rw [if_pos hcounts]
      rcases h with ⟨hcandidate, hs⟩ | h
      · by_cases hp : 6 ≤ p.state.severity
        · refine .inr ?_
          unfold escalate
          rw [if_pos (by omega), if_pos (by omega)]
        · refine .inl ?_
          rw [severity_escalate, severity_escalate]
          omega
      · exact .inr (by rw [h])
    · rw [if_neg hcounts]
      have hhealthy : p.state.isHealthy = true := by
        rw [ThermalState.isHealthy_iff]
        simpa using hcounts
      have hlow := (isHealthy_iff_severity p.state).mp hhealthy
      rcases h with ⟨hcandidate, hs⟩ | h
      · refine .inl ⟨hcandidate, ?_⟩
        rw [severity_escalate]
        omega
      · rw [h]
        unfold escalate
        split
        · exact .inl (by omega)
        · exact .inr rfl

/-- Without escalation the scan leaves the candidate as it is. -/
theorem candidate_foldl_couple_of_not {policy : CouplingPolicy}
    (h : policy.escalateToHottestNeighbour = false) (coupled : List CoupledPressure)
    (scan : CouplingScan) :
    (coupled.foldl (couple policy) scan).candidate = scan.candidate :=
  foldl_unchanged (p := CouplingScan.candidate) (fun scan p => by simp [couple, h]) coupled scan

theorem SameUnresolved.tightened {scan : CouplingScan} {s : ThermalState}
    (h : SameUnresolved scan.candidate s) : SameUnresolved scan.tightened s := by
  unfold CouplingScan.tightened
  split
  · rename_i hpressured
    rw [Bool.and_eq_true] at hpressured
    have hlow := (isHealthy_iff_severity _).mp hpressured.2
    refine .inl ⟨by decide, ?_⟩
    rcases h with ⟨-, hs⟩ | h
    · exact hs
    · rw [← h]
      omega
  · exact h

/-- The neighbours count and are escalated to, and the policy answers the most severe of them
with a demand for revalidation. -/
def EvaluationInput.neighboursRevalidate (input : EvaluationInput) : Prop :=
  input.policy.coupling.coDerateCoupledDomains = true ∧
    input.policy.coupling.escalateToHottestNeighbour = true ∧
    decisionForState (mostSevere input.coupled) input.policy = .revalidationRequired

theorem candidate_revalidation_iff (input : EvaluationInput) (evidence : ThermalEvidence) :
    decisionForState (candidateState input evidence) input.policy = .revalidationRequired ↔
      input.neighboursRevalidate := by
  have hband := severity_bandState_le input.policy.thresholds (resolveThrottle input evidence)
    evidence.temperature
  have hnot : ∀ scan : CouplingScan, scan.candidate.severity ≤ 5 →
      decisionForState scan.tightened input.policy ≠ .revalidationRequired := by
    intro scan hscan h
    have hsame : SameUnresolved scan.tightened .normal :=
      SameUnresolved.tightened (.inl ⟨hscan, by decide⟩)
    rw [hsame.decision_iff] at h
    cases h
  unfold candidateState coupledScan scanCoupled EvaluationInput.neighboursRevalidate
  by_cases hcount : input.policy.coupling.coDerateCoupledDomains = true
  · rw [if_pos hcount]
    by_cases hescalate : input.policy.coupling.escalateToHottestNeighbour = true
    · have hsame := sameUnresolved_foldl_couple hescalate input.coupled
        { candidate := bandState input.policy.thresholds (resolveThrottle input evidence)
            evidence.temperature } .normal (.inl ⟨hband, by decide⟩)
      rw [hsame.tightened.decision_iff]
      simp only [hcount, hescalate, true_and]
      rfl
    · refine iff_of_false (hnot _ ?_) fun h => hescalate h.2.1
      rw [candidate_foldl_couple_of_not (Bool.not_eq_true _ ▸ hescalate)]
      exact hband
  · rw [if_neg hcount]
    exact iff_of_false (hnot _ hband) fun h => hcount h.1

/-- The input is answered with a demand for revalidation, conflicts apart. -/
def EvaluationInput.revalidates (input : EvaluationInput) : Prop :=
  match input.temperatureCapability with
  | .unsupported => input.policy.unsupportedBehavior = .revalidationRequired
  | .unknown => input.policy.unknownBehavior = .revalidationRequired
  | .supportedReal | .supportedReadOnly | .supportedSynthetic =>
    input.evidence = none ∨ input.freshness ≠ .fresh ∨ input.neighboursRevalidate

/-- The gate and the headroom turn nothing into a demand for revalidation, and none away. -/
theorem decision_evaluateResolved_iff (input : EvaluationInput) (evidence : ThermalEvidence) :
    (evaluateResolved input evidence).decision = .revalidationRequired ↔
      input.neighboursRevalidate := by
  have hdecision : (evaluateResolved input evidence).decision = (admitHeadroom input.policy _
      (decisionForState (evaluateResolved input evidence).state input.policy) []).1 :=
    congrArg Standing.decision (standing_evaluateResolved input evidence)
  have hadmit : ∀ met d, (admitHeadroom input.policy met d []).1 = .revalidationRequired ↔
      d = .revalidationRequired := by
    intro met d
    unfold admitHeadroom
    cases met with
    | true => exact Iff.rfl
    | false =>
      cases d with
      | allow => cases input.policy.admission.allowDeratedAdmission <;> decide
      | allowDerated | defer | deny | revalidationRequired | unknown | unsupported =>
        exact Iff.rfl
  have hgate : decisionForState (evaluateResolved input evidence).state input.policy =
        .revalidationRequired ↔
      decisionForState (candidateState input evidence) input.policy = .revalidationRequired := by
    rw [evaluateResolved_state_eq, hysteresisGate_eq]
    split
    · rename_i hheld
      rw [Bool.and_eq_true] at hheld
      refine iff_of_false (fun h => by cases h) fun h => ?_
      have hhigh := decisionForState_revalidation h
      have hlow := (isHealthy_iff_severity _).mp hheld.1
      omega
    · exact Iff.rfl
  rw [hdecision, hadmit, hgate, candidate_revalidation_iff]

/-- **When an evaluation without a conflict demands revalidation.** -/
theorem decision_revalidation_iff {input : EvaluationInput} (h : input.evidenceConflict = false) :
    (evaluateThermal input).decision = .revalidationRequired ↔ input.revalidates := by
  have hresolved := @resolvedEvidence_eq_some input
  unfold EvaluationInput.revalidates
  cases hcase : resolvedEvidence input with
  | some evidence =>
    obtain ⟨hsupported, -, hfresh, hevidence⟩ := hresolved.mp hcase
    rw [evaluateThermal_of_resolved hcase, decision_evaluateResolved_iff]
    cases hcapability : input.temperatureCapability with
    | unknown | unsupported => rw [hcapability] at hsupported; cases hsupported
    | supportedReal | supportedReadOnly | supportedSynthetic =>
      simp [hevidence, hfresh]
  | none =>
    have hstanding : (evaluateThermal input).decision = (refusedStanding input).decision :=
      congrArg Standing.decision (standing_of_refused hcase)
    rw [hstanding]
    unfold refusedStanding
    cases hcapability : input.temperatureCapability with
    | unsupported => cases input.policy.unsupportedBehavior <;> simp [decisionForUnsupported]
    | unknown => cases input.policy.unknownBehavior <;> simp [decisionForUnknown]
    | supportedReal | supportedReadOnly | supportedSynthetic =>
      refine iff_of_true rfl ?_
      by_contra hcontra
      simp only [not_or, ne_eq, not_not] at hcontra
      obtain ⟨hevidence, hfresh, -⟩ := hcontra
      obtain ⟨evidence, hevidence⟩ := Option.ne_none_iff_exists'.mp hevidence
      rw [hresolved.mpr ⟨by rw [hcapability]; rfl, h, hfresh, hevidence⟩] at hcase
      cases hcase

/-! ### The mark -/

namespace Governor

variable {g g' : Governor} {op : Operation}

theorem conflictedSubjects_recordTransition (g : Governor) (domain : ThermalDomainId)
    (generation : ThermalDomainGeneration) (e : ThermalEvaluation) :
    (g.recordTransition domain generation e).conflictedSubjects = g.conflictedSubjects := by
  unfold recordTransition
  dsimp only
  split <;> rfl

theorem conflictedSubjects_recomputeDomains (g : Governor) (domains : List ThermalDomainId) :
    (g.recomputeDomains domains).conflictedSubjects = g.conflictedSubjects := by
  obtain ⟨_, _, _, _, hsame⟩ := g.recomputeDomains_same domains
  rw [hsame]

/-- A load sets no mark, however far it comes. -/
theorem conflictedSubjects_loadDurable (g : Governor) (file : Option (Result DurableState)) :
    (g.loadDurable file).1.conflictedSubjects = g.conflictedSubjects := by
  rcases g.fst_loadDurable file with heq | ⟨state, -, -, heq⟩
  · rw [heq]
  · rw [heq]
    refine restore_rule (I := fun g' => g'.conflictedSubjects = g.conflictedSubjects)
      (J := fun r => r.1.conflictedSubjects = g.conflictedSubjects)
      rfl (fun _ _ _ h => h) (fun _ _ _ _ h => h) (fun _ _ h => h) fun g₂ h => ?_
    have hrecords : (g₂.restoreRecords state).conflictedSubjects = g₂.conflictedSubjects :=
      foldl_unchanged (f := restoreAction) (p := conflictedSubjects) (fun _ _ => rfl)
        state.actions { g₂ with history := state.transitions }
    show (recomputeAllDomains _).conflictedSubjects = _
    rw [recomputeAllDomains, conflictedSubjects_recomputeDomains]
    exact hrecords.trans h

theorem conflictedSubjects_effect (h : Effect op g g') :
    g'.conflictedSubjects ⊆ g.conflictedSubjects := by
  cases h with
  | keep _ h => exact h.conflictedSubjects
  | record domain generation e =>
    rw [conflictedSubjects_recordTransition]
  | storeDomain | putPolicy | accept | authorize | revoke => exact subset_rfl

theorem conflictedSubjects_apply (g : Governor) (op : Operation) :
    (g.apply op).conflictedSubjects ⊆ g.conflictedSubjects := by
  cases hload : op.isLoad with
  | false =>
    exact (g.apply_effects op hload).invariant
      (I := fun g' => g'.conflictedSubjects ⊆ g.conflictedSubjects)
      (fun _ _ heffect h => (conflictedSubjects_effect heffect).trans h) subset_rfl
  | true =>
    cases op with
    | loadDurable file => exact (g.conflictedSubjects_loadDurable file).subset
    | _ => cases hload

/-- **No reachable state holds a mark of conflict.** -/
theorem conflictedSubjects_eq_empty (hg : g.Reachable) : g.conflictedSubjects = ∅ := by
  obtain ⟨config, now, hrun⟩ := hg
  refine RunUnder.invariant (I := fun g => g.conflictedSubjects = ∅) hrun rfl fun g op hg _ => ?_
  exact Finset.subset_empty.mp (hg ▸ g.conflictedSubjects_apply op)

/-! ### After a conflict -/

/-- The record held for a key is one the domain is evaluated from: its own, or in the absence
of one of its own a member's. -/
def RestsOn (g : Governor) (id : ThermalDomainId) (key : String) : Prop :=
  ∃ definition, g.domains.find id = some definition ∧ (g.evidence.lookup key).isSome = true ∧
    (key = (SubjectRef.forDomain definition.id definition.generation).key ∨
      ((g.evidence.lookup
          (SubjectRef.forDomain definition.id definition.generation).key).isNone = true ∧
        ∃ m ∈ definition.members, m.subject.key = key))

/-- The domain is to be revalidated by the rules that know of no conflict. -/
def Revalidates (g : Governor) (id : ThermalDomainId) : Prop :=
  ∃ definition policy, g.domains.find id = some definition ∧
    g.policyFor definition = some policy ∧
    (g.evaluationInput definition policy (gatherDomainEvidence definition g.evidence)).revalidates

/-- The operation gets no record of the subject accepted. -/
def AcceptsNone (key : String) (g : Governor) (op : Operation) : Prop :=
  ∀ e answer, op.publication = some e → e.subject.key = key →
    g.publicationAnswer op = some answer → isAccepted answer = false

/-- From the state on, and until a record of the subject is accepted, the domain evaluates to a
demand for revalidation while it rests on the subject. -/
def Remembers (g : Governor) (key : String) (id : ThermalDomainId) : Prop :=
  ∀ g', RunsUnder (AcceptsNone key) g g' → g'.RestsOn id key →
    ∃ e, (g'.evaluateDomain id).2 = .ok e ∧ e.decision = .revalidationRequired

/-- A second reading at the place of the first in the sequence, forty degrees hotter. -/
def contradiction : ThermalEvidence := Deployment.reading 80 1 0

/-- The deployment after a reading of forty degrees. -/
def afterReading : Governor := Deployment.after [.publishTemperature (Deployment.reading 40 1 0)]

end Governor

end ThermalGovernor
