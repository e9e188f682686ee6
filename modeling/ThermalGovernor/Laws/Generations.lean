import ThermalGovernor.Governed.Members
import ThermalGovernor.Governed.Rounds
import ThermalGovernor.Laws.Fixpoint
import ThermalGovernor.Laws.Snapshot
import ThermalGovernor.Laws.Staleness

/-!
# Device generations and held evidence

A publication is refused when it carries another generation of its device than the one
that is registered.  A registration advances that generation, and leaves the records that
were taken under the old one where they are.

So whether such a record still grants execution is decided where an evaluation resolves
its evidence.  While every domain that is governed by a record of the old generation
refuses it for another reason (`Fenced`), no query and no evaluation grants anything to
these domains (`withholds_of_runsUnder`); a record that is still fresh grants as before
(`not_withholds`).
-/

namespace ThermalGovernor

open Lib

/-- The record was measured on this generation of the device. -/
def ThermalEvidence.measuredOn (e : ThermalEvidence) (device : DeviceId)
    (generation : DeviceGeneration) : Bool :=
  e.subject.kind = .device && e.subject.device = device &&
    e.subject.deviceGeneration = generation

/-- The decision lets work run, derated or not. -/
def ThermalDecision.grants (d : ThermalDecision) : Bool := d = .allow || d = .allowDerated

/-- No evidence of the input passes the hard predicates, and the policy does not grant on an
unknown capability. -/
def EvaluationInput.refuses (input : EvaluationInput) : Bool :=
  (resolvedEvidence input).isNone && ! input.grantsUnknown

theorem not_grants_of_refuses {input : EvaluationInput} (h : input.refuses = true) :
    (evaluateThermal input).decision.grants = false := by
  simp only [EvaluationInput.refuses, Bool.and_eq_true, Option.isNone_iff_eq_none,
    Bool.not_eq_true'] at h
  by_contra hgrants
  rw [Bool.not_eq_false, ThermalDecision.grants, Bool.or_eq_true, decide_eq_true_eq,
    decide_eq_true_eq] at hgrants
  rw [grantsUnknown_of_unresolved h.1 hgrants] at h
  cases h.2

/-- An evaluation names the domain of its input. -/
theorem domain_evaluateThermal (input : EvaluationInput) :
    (evaluateThermal input).domain = input.domain := by
  unfold evaluateThermal
  dsimp only
  split
  · rfl
  split
  · rfl
  split
  · rfl
  split
  · rfl
  split <;> rfl

namespace Governor

variable {g g' g'' : Governor} {id : ThermalDomainId}

/-! ### What an operation does to the stored evaluation of a domain -/

/-- What is stored for the domain was evaluated from what is held now, its past and its
neighbours apart. -/
def EvaluatedLately (g : Governor) (id : ThermalDomainId) : Prop :=
  ∃ turn definition policy, SameReads turn g ∧ g.domains.find id = some definition ∧
    g.policyFor definition = some policy ∧
    g.evaluations.lookup id = some (turn.evaluation definition policy).2

/-- The domain is governed by what governed it before, or by no device. -/
def KeepsGoverning (g g' : Governor) (id : ThermalDomainId) : Prop :=
  g'.governing id = g.governing id ∨
    ∀ e, g'.governing id = some e → e.subject.kind ≠ .device

/-- Nothing is stored for the domain, or what was, with the same record governing it, or
what is stored was evaluated lately. -/
def Renewed (g g' : Governor) (id : ThermalDomainId) : Prop :=
  g'.evaluations.lookup id = none ∨
  (g'.evaluations.lookup id = g.evaluations.lookup id ∧ KeepsGoverning g g' id) ∨
  g'.EvaluatedLately id

theorem SameReads.symm (h : SameReads g g') : SameReads g' g :=
  ⟨h.now.symm, h.epoch.symm, h.policies.symm, h.devices.symm, h.domains.symm, h.couplings.symm,
    h.evidence.symm, h.invalidatedEvidence.symm, h.conflictedSubjects.symm,
    h.recoveryHistories.symm, h.explicitRecovery.symm⟩

theorem sameReads_note (g : Governor) (e : Event) : SameReads g (g.note e) :=
  ⟨rfl, rfl, rfl, rfl, rfl, rfl, rfl, rfl, rfl, rfl, rfl⟩

/-- The devices, the domains and the evidence are as before, and what is stored for the domain
is what was, or was evaluated lately. -/
structure Spared (g g' : Governor) (id : ThermalDomainId) : Prop where
  devices : g'.devices = g.devices
  domains : g'.domains = g.domains
  evidence : g'.evidence = g.evidence
  stored : g'.evaluations.lookup id = g.evaluations.lookup id ∨ g'.EvaluatedLately id

theorem Spared.renewed (h : Spared g g' id) : Renewed g g' id := by
  rcases h.stored with hkept | hlately
  · exact .inr (.inl ⟨hkept, .inl (governing_congr (by rw [h.domains]) h.evidence)⟩)
  · exact .inr (.inr hlately)

theorem spared_self (g : Governor) : Spared g g id := ⟨rfl, rfl, rfl, .inl rfl⟩

theorem spared_of_sameGoverned (h : SameGoverned g g') : Spared g g' id :=
  ⟨h.devices, h.domains, h.evidence, .inl (by rw [h.evaluations])⟩

/-- What follows without changing what evaluations read, or what is stored, changes nothing. -/
theorem Spared.trans_same (h : Spared g g' id) (hsame : SameEvaluations g' g'') :
    Spared g g'' id := by
  refine ⟨hsame.same.devices.trans h.devices, hsame.same.domains.trans h.domains,
    hsame.same.evidence.trans h.evidence, ?_⟩
  rcases h.stored with hkept | ⟨turn, definition, policy, hturn, hfind, hpolicy, hstored⟩
  · exact .inl (by rw [hsame.evaluations, hkept])
  · refine .inr ⟨turn, definition, policy, hturn.trans hsame.same, ?_, ?_, ?_⟩
    · rw [hsame.same.domains, hfind]
    · rw [hsame.same.policyFor, hpolicy]
    · rw [hsame.evaluations, hstored]

theorem spared_of_sameEvaluations (h : SameEvaluations g g') : Spared g g' id :=
  (spared_self g).trans_same h

/-! ### Sequences of recomputations -/

/-- **A sequence of recomputations evaluates its domains anew and leaves the others.** -/
theorem lookup_recomputeDomains {definition : ThermalDomainDefinition} {policy : ThermalPolicy}
    (hfind : g.domains.find id = some definition) (hpolicy : g.policyFor definition = some policy)
    (domains : List ThermalDomainId) :
    (id ∉ domains ∧
      (g.recomputeDomains domains).evaluations.lookup id = g.evaluations.lookup id) ∨
    ∃ turn, SameReads g turn ∧ (g.recomputeDomains domains).evaluations.lookup id =
      some (turn.evaluation definition policy).2 := by
  unfold recomputeDomains
  induction domains generalizing g with
  | nil => exact .inl ⟨List.not_mem_nil, rfl⟩
  | cons first rest ih =>
    have hsame := (g.recomputeDomain_same first).sameReads
    rw [List.foldl_cons]
    rcases ih (g := g.recomputeDomain first) (by rw [hsame.domains, hfind])
      (by rw [hsame.policyFor, hpolicy]) with ⟨hrest, hkept⟩ | ⟨turn, hturn, hstored⟩
    · by_cases hid : id = first
      · refine .inr ⟨g, .refl g, ?_⟩
        rw [hkept, ← hid, evaluations_recomputeDomain hfind hpolicy, AList.lookup_insert]
      · refine .inl ⟨fun hmem => (List.mem_cons.mp hmem).elim hid hrest, ?_⟩
        rw [hkept, lookup_recomputeDomain_ne hid]
    · exact .inr ⟨turn, hsame.trans hturn, hstored⟩

/-! ### Every operation -/

/-- A recomputation leaves what is stored for a registered domain, or it evaluates it. -/
theorem evaluatedLately_of_recomputes {c : Governor × List ThermalDomainId} (h : Recomputes g c)
    (hreached : g.Reachable) {definition : ThermalDomainDefinition}
    (hfind : g.domains.find id = some definition) :
    (id ∉ c.2 ∧ g.evaluations.lookup id = c.1.evaluations.lookup id) ∨ g.EvaluatedLately id := by
  have hsame := h.sameReads
  obtain ⟨policy, hpolicy⟩ := exists_policyFor hreached definition
  have hfind' : c.1.domains.find id = some definition := by rw [← hsame.domains, hfind]
  have hpolicy' : c.1.policyFor definition = some policy := by rw [← hsame.policyFor, hpolicy]
  rcases lookup_recomputeDomains hfind' hpolicy' c.2 with ⟨hid, hkept⟩ | ⟨turn, hturn, hstored⟩
  · exact .inl ⟨hid, by rw [h.evaluations, hkept]⟩
  · exact .inr ⟨turn, definition, policy, hturn.symm.trans hsame, hfind, hpolicy,
      by rw [h.evaluations, hstored]⟩

/-- Nothing that an evaluation of the domain is made from changed on the way, but the evidence
of it as `KeepsGoverning` allows. -/
structure Untouched (g g' : Governor) (id : ThermalDomainId) : Prop where
  evaluations : g'.evaluations = g.evaluations
  devices : g'.devices = g.devices
  find : g'.domains.find id = g.domains.find id
  governing : KeepsGoverning g g' id

theorem Untouched.refl (g : Governor) (id : ThermalDomainId) : Untouched g g id :=
  ⟨rfl, rfl, rfl, .inl rfl⟩

theorem sameGoverned_recordSamples (e : ThermalEvidence) (domains : List ThermalDomainId) :
    ∀ g : Governor, SameGoverned g (domains.foldl (recordSample e) g) := by
  induction domains with
  | nil => exact fun g => .refl g
  | cons first rest ih =>
    intro g
    refine .trans ?_ (ih _)
    unfold recordSample
    split
    · exact .refl g
    · exact sameGoverned_setHistory _ _ _

/-- **A publication recomputes the domains it may govern.** -/
theorem untouched_publication (hindexed : g.IndexedMembers) (e : ThermalEvidence)
    (hid : id ∉ (g.publication e).2) : Untouched g (g.publication e).1 id := by
  unfold publication at hid ⊢
  split
  · rename_i haccepts
    rw [if_pos haccepts] at hid
    dsimp only at hid ⊢
    have hcounted := (g.acceptEvidence e).sameGoverned_countPublication e
    generalize (g.acceptEvidence e).countPublication e = accepted at hid hcounted
    have hsampled := sameGoverned_recordSamples e (accepted.affectedDomains e) accepted
    have hdomains : accepted.domains = g.domains := hcounted.domains
    refine ⟨hsampled.evaluations.trans hcounted.evaluations,
      hsampled.devices.trans hcounted.devices, by rw [hsampled.domains, hdomains], ?_⟩
    refine governing_accept hindexed e (hsampled.domains.trans hdomains)
      (hsampled.evidence.trans hcounted.evidence) fun hlisted => hid ?_
    rw [List.mem_append]
    left
    unfold affectedDomains
    rw [List.mem_dedup, List.mem_insertionSort, hdomains]
    exact List.mem_append_left _ hlisted
  · exact .refl g id

theorem untouched_publicationIf (hindexed : g.IndexedMembers) (e : ThermalEvidence) (p : Prop)
    [Decidable p] (hid : id ∉ (if p then g.publication e else (g, [])).2) :
    Untouched g (if p then g.publication e else (g, [])).1 id := by
  split at hid
  · rename_i h
    rw [if_pos h]
    exact untouched_publication hindexed e hid
  · rename_i h
    rw [if_neg h]
    exact .refl g id

theorem untouched_enrolment (retired : Governor) (worker : WorkerId) (boot : WorkerBootId)
    (label : String) (hretired : SameGoverned g retired)
    (hid : id ∉ (retired.enrolment worker boot label).2)
    (hfind : ((retired.enrolment worker boot label).1.domains.find id).isSome = true) :
    Untouched g (retired.enrolment worker boot label).1 id := by
  unfold enrolment at hid hfind ⊢
  split
  · exact ⟨hretired.evaluations, hretired.devices, by rw [hretired.domains],
      .inl (governing_congr (by rw [hretired.domains]) hretired.evidence)⟩
  · rename_i hroom
    rw [if_neg hroom] at hid hfind
    exact absurd (mem_allDomainIds.mpr hfind) hid

/-- **What an operation does not recompute is registered and governed as before.** -/
theorem untouched_recomputation (hindexed : g.IndexedMembers) (op : Operation)
    (hid : id ∉ (g.recomputation op).2)
    (hfind : ((g.recomputation op).1.domains.find id).isSome = true) :
    Untouched g (g.recomputation op).1 id := by
  have hself : Untouched g g id := .refl g id
  have hall : ∀ c : Governor, id ∉ c.recomputingAll.2 →
      (c.recomputingAll.1.domains.find id).isSome = true → False :=
    fun c hid hfind => hid (mem_allDomainIds.mpr hfind)
  cases op with
  | registerDevice registration =>
    rw [recomputation] at hid hfind ⊢
    cases hchecks : runChecks (g.deviceChecks registration) with
    | error e => exact hself
    | ok _ =>
      rw [hchecks] at hid hfind
      exact (hall _ hid hfind).elim
  | publishCapabilities device generation capabilities =>
    rw [recomputation] at hid hfind ⊢
    cases hheld : g.devices.lookup device with
    | none => exact hself
    | some held =>
      rw [hheld] at hid hfind
      dsimp only at hid hfind ⊢
      split at hid
      · rename_i hstale
        rw [if_pos hstale]
        exact hself
      · rename_i hcurrent
        rw [if_neg hcurrent] at hfind
        exact (hall _ hid hfind).elim
  | registerThermalDomain definition =>
    rw [recomputation] at hid hfind ⊢
    split at hid
    · rename_i hfull
      rw [if_pos hfull]
      exact hself
    · rename_i hroom
      rw [if_neg hroom] at hfind ⊢
      cases hadd : g.domains.add definition with
      | mk domains r =>
        rw [hadd] at hid hfind
        cases r with
        | error e => exact hself
        | ok _ =>
          obtain ⟨-, rfl⟩ := DomainRegistry.add_eq_ok hadd
          have hkept := (DomainRegistry.find_store g.domains definition id).trans
            (if_neg fun h => hid (List.mem_singleton.mpr h))
          exact ⟨rfl, rfl, hkept, .inl (governing_congr hkept rfl)⟩
  | updateThermalDomain definition =>
    rw [recomputation] at hid hfind ⊢
    cases hupdate : g.domains.update definition with
    | mk domains r =>
      rw [hupdate] at hid hfind
      cases r with
      | error e => exact hself
      | ok _ =>
        obtain ⟨-, rfl⟩ := DomainRegistry.update_eq_ok hupdate
        have hkept := (DomainRegistry.find_store g.domains definition id).trans
          (if_neg fun h => hid (List.mem_singleton.mpr h))
        exact ⟨rfl, rfl, hkept, .inl (governing_congr hkept rfl)⟩
  | registerCoupling relation =>
    rw [recomputation] at hid hfind ⊢
    cases hchecks : runChecks (g.couplingChecks relation) with
    | error e => exact hself
    | ok _ =>
      rw [hchecks] at hid hfind
      exact (hall _ hid hfind).elim
  | removeCoupling coupling =>
    rw [recomputation] at hid hfind ⊢
    cases hremove : g.couplings.remove coupling with
    | none => exact hself
    | some couplings =>
      rw [hremove] at hid hfind
      exact (hall _ hid hfind).elim
  | setPolicy policy =>
    rw [recomputation] at hid hfind ⊢
    cases hvalid : validatePolicy policy with
    | error e => exact hself
    | ok _ =>
      rw [hvalid] at hid hfind
      dsimp only at hid hfind ⊢
      split at hid
      · rename_i hstale
        rw [if_pos hstale]
        exact hself
      · rename_i hcurrent
        rw [if_neg hcurrent] at hfind
        exact (hall _ hid hfind).elim
  | registerWorker worker boot label =>
    rw [recomputation] at hid hfind ⊢
    split at hid
    · rename_i hinvalid
      rw [if_pos hinvalid]
      exact hself
    · rename_i hvalid
      rw [if_neg hvalid] at hfind ⊢
      cases hheld : g.workers.lookup worker with
      | none =>
        rw [hheld] at hid hfind
        exact untouched_enrolment g worker boot label (.refl g) hid hfind
      | some held =>
        rw [hheld] at hid hfind
        dsimp only at hid hfind ⊢
        split at hid
        · rename_i hold
          rw [if_pos hold]
          exact hself
        · rename_i hnew
          rw [if_neg hnew] at hfind ⊢
          split at hid
          · rename_i hsame
            rw [if_pos hsame]
            exact hself
          · rename_i hother
            rw [if_neg hother] at hfind ⊢
            exact untouched_enrolment _ worker boot label
              (g.sameGoverned_retireBootLocked worker held.boot) hid hfind
  | noteWorkerDeath worker boot =>
    rw [recomputation] at hid hfind ⊢
    cases hheld : g.workers.lookup worker with
    | none => exact hself
    | some held =>
      rw [hheld] at hid hfind
      dsimp only at hid hfind ⊢
      split at hid
      · rename_i hother
        rw [if_pos hother]
        exact hself
      · rename_i hsame
        rw [if_neg hsame] at hfind
        exact (hall _ hid hfind).elim
  | publishTemperature e => exact untouched_publication hindexed e hid
  | publishThrottleEvidence e => exact untouched_publicationIf hindexed e _ hid
  | publishCoolingEvidence e => exact untouched_publicationIf hindexed e _ hid
  | publishNodeTemperature e => exact untouched_publicationIf hindexed e _ hid
  | publishRackTemperature e => exact untouched_publicationIf hindexed e _ hid
  | authorizeRecovery domain =>
    rw [recomputation]
    cases g.domains.find domain with
    | none => exact hself
    | some _ => exact ⟨rfl, rfl, rfl, .inl rfl⟩
  | revokeRecovery domain =>
    rw [recomputation]
    cases g.domains.find domain with
    | none => exact hself
    | some _ => exact ⟨rfl, rfl, rfl, .inl rfl⟩
  | tick | setClock | workerHeartbeat | evaluateDomain | evaluateDevice | evaluateAdmission
  | authorizeMitigation | authorizeDerating | recordActionDispatch | recordActionAck
  | recordActionResult | verifyAction | verifyCommit | cancelAction | loadDurable | shutdown =>
    exact hself

/-- Nothing is stored for a domain that is not registered. -/
theorem lookup_unregistered (hreached : g'.Reachable) (hfind : g'.domains.find id = none) :
    g'.evaluations.lookup id = none := by
  cases hlookup : g'.evaluations.lookup id with
  | none => rfl
  | some e =>
    have hregistered := evaluatedDomains_of_reachable hreached id e hlookup
    rw [hfind] at hregistered
    cases hregistered

/-- **After an operation that recomputes, nothing is stored for a domain, or what was, of what
the domain was made of, or it was evaluated lately.** -/
theorem kept_or_evaluatedLately (hg : g.Reachable) {op : Operation} (hop : op.recomputes = true)
    (id : ThermalDomainId) :
    (g.apply op).evaluations.lookup id = none ∨
    ((g.apply op).evaluations.lookup id = g.evaluations.lookup id ∧
      (g.apply op).devices = g.devices ∧ (g.apply op).domains.find id = g.domains.find id ∧
      KeepsGoverning g (g.apply op) id) ∨
    (g.apply op).EvaluatedLately id := by
  have hrecomputes := recomputes_apply (keyedDomains_of_reachable hg) hop
  have hsame := hrecomputes.sameReads
  cases hfind : (g.apply op).domains.find id with
  | none => exact .inl (lookup_unregistered (hg.apply op) hfind)
  | some definition =>
    rcases evaluatedLately_of_recomputes hrecomputes (hg.apply op) hfind with
      ⟨hid, hkept⟩ | hlately
    · have huntouched := untouched_recomputation (indexedMembers_of_reachable hg) op hid
        (by rw [← hsame.domains, hfind]; rfl)
      have hgoverning : (g.apply op).governing id = (g.recomputation op).1.governing id :=
        governing_congr (by rw [hsame.domains]) hsame.evidence
      refine .inr (.inl ⟨?_, hsame.devices.trans huntouched.devices, ?_, ?_⟩)
      · rw [hkept, huntouched.evaluations]
      · rw [← hfind, hsame.domains, huntouched.find]
      · unfold KeepsGoverning
        rw [hgoverning]
        exact huntouched.governing
    · exact .inr (.inr hlately)

/-- An evaluation that is not stored changes nothing. -/
theorem sameEvaluations_evaluateLocked {definition : ThermalDomainDefinition}
    {r : Result ThermalEvaluation} (h : g.evaluateLocked definition = (g', r)) :
    SameEvaluations g g' := by
  unfold evaluateLocked at h
  split at h
  · obtain ⟨rfl, -⟩ := Prod.mk.inj h
    exact .refl g
  · obtain ⟨rfl, -⟩ := Prod.mk.inj h
    exact ⟨g.sameReads_note _, rfl⟩

/-- An evaluation of the state that is stored in it. -/
theorem spared_record {domain : ThermalDomainId} {definition : ThermalDomainDefinition}
    {policy : ThermalPolicy} (hfind : g.domains.find domain = some definition)
    (hpolicy : g.policyFor definition = some policy) (hsame : SameEvaluations g g')
    (generation : ThermalDomainGeneration) :
    Spared g (g'.recordTransition domain generation (g.evaluation definition policy).2) id := by
  have hrecorded := hsame.same.trans (g'.recordTransition_same domain generation
    (g.evaluation definition policy).2).sameReads
  refine ⟨hrecorded.devices, hrecorded.domains, hrecorded.evidence, ?_⟩
  by_cases hid : id = domain
  · refine .inr ⟨g, definition, policy, hrecorded, ?_, ?_, ?_⟩
    · rw [hrecorded.domains, hid, hfind]
    · rw [hrecorded.policyFor, hpolicy]
    · rw [evaluations_recordTransition, hid, AList.lookup_insert]
  · left
    rw [evaluations_recordTransition, AList.lookup_insert_ne hid, hsame.evaluations]

theorem spared_evaluateAndStore (g : Governor) (domain : ThermalDomainId) :
    Spared g (g.evaluateAndStore domain).1 id := by
  unfold evaluateAndStore
  cases hfind : g.domains.find domain with
  | none => exact spared_self g
  | some definition =>
    dsimp only
    cases hpolicy : g.policyFor definition with
    | none =>
      rw [evaluateLocked, hpolicy]
      exact spared_self g
    | some policy =>
      rw [evaluateLocked, hpolicy]
      exact spared_record hfind hpolicy ⟨g.sameReads_note (.evaluated
        (g.evaluation definition policy).1 (g.evaluation definition policy).2), rfl⟩ _

theorem sameEvaluations_authorizeMitigation (g : Governor) (domain : ThermalDomainId)
    (record : MitigationIntentRecord) (rationale : String) :
    SameEvaluations g (g.authorizeMitigation domain record rationale).1 := by
  refine authorizeMitigation_rule (P := SameEvaluations g) (.refl g)
    (fun _ _ _ _ heval => sameEvaluations_evaluateLocked heval) ?_
  intro definition policy evaluated e _ _ heval
  have hevaluated := sameEvaluations_evaluateLocked heval
  refine ⟨hevaluated.same.trans ?_, hevaluated.evaluations⟩
  exact ⟨rfl, rfl, rfl, rfl, rfl, rfl, rfl, rfl, rfl, rfl, rfl⟩

theorem spared_authorizeDerating (g : Governor) (domain : ThermalDomainId)
    (record : MitigationIntentRecord) (rationale : String) :
    Spared g (g.authorizeDerating domain record rationale).1 id := by
  have hspared : Spared g (g.evaluateDomain domain).1 id := g.spared_evaluateAndStore domain
  exact authorizeDerating_rule (P := fun g' => Spared g g' id) hspared fun demanded =>
    hspared.trans_same (sameEvaluations_authorizeMitigation _ domain demanded rationale)

/-- The second half of a verification evaluates without storing, or stores what it evaluated. -/
theorem evaluated_verifyCommit (g : Governor) (action : ActionId) (fresh : ThermalEvidence) :
    SameEvaluations g (g.verifyCommit action fresh).1 ∨
    ∃ committed domain definition policy, g.domains.find domain = some definition ∧
      g.policyFor definition = some policy ∧ SameEvaluations g committed ∧
      (g.verifyCommit action fresh).1 = publishLocked
        (committed.recordTransition definition.id definition.generation
          (g.evaluation definition policy).2) := by
  refine verifyCommit_rule
    (P := fun g' => SameEvaluations g g' ∨ ∃ committed domain definition policy,
      g.domains.find domain = some definition ∧ g.policyFor definition = some policy ∧
      SameEvaluations g committed ∧ g' = publishLocked (committed.recordTransition definition.id
        definition.generation (g.evaluation definition policy).2)) (.inl (.refl g))
    (fun _ _ _ _ _ heval => .inl (sameEvaluations_evaluateLocked heval)) ?_
  intro held definition before evaluated after verified _ hfind heval _
  obtain ⟨policy, hpolicy, rfl, rfl⟩ := evaluateLocked_eq_ok heval
  refine .inr ⟨_, _, definition, policy, hfind, hpolicy, ?_, rfl⟩
  exact ⟨⟨rfl, rfl, rfl, rfl, rfl, rfl, rfl, rfl, rfl, rfl, rfl⟩, rfl⟩

theorem sameReads_verifyCommit (g : Governor) (action : ActionId) (fresh : ThermalEvidence) :
    SameReads g (g.verifyCommit action fresh).1 := by
  rcases g.evaluated_verifyCommit action fresh with
    hsame | ⟨committed, _, definition, policy, -, -, hcommitted, hstored⟩
  · exact hsame.same
  · rw [hstored]
    exact (hcommitted.same.trans (recordTransition_same _ _ _ _).sameReads).trans
      (sameReads_publishLocked _)

theorem spared_verifyCommit (hkeyed : g.KeyedDomains) (action : ActionId)
    (fresh : ThermalEvidence) : Spared g (g.verifyCommit action fresh).1 id := by
  rcases g.evaluated_verifyCommit action fresh with
    hsame | ⟨committed, domain, definition, policy, hfind, hpolicy, hcommitted, hstored⟩
  · exact spared_of_sameEvaluations hsame
  · rw [hstored]
    have hrecorded : Spared g _ id :=
      spared_record hfind hpolicy hcommitted definition.generation
    rw [← hkeyed domain definition hfind] at hrecorded
    exact hrecorded.trans_same (sameEvaluations_publishLocked _)

/-- What recomputes everything evaluates every registered domain. -/
theorem evaluatedLately_recomputeAll (hreached : (publishLocked g.recomputeAllDomains).Reachable)
    {definition : ThermalDomainDefinition}
    (hfind : (publishLocked g.recomputeAllDomains).domains.find id = some definition) :
    (publishLocked g.recomputeAllDomains).EvaluatedLately id := by
  have hrecomputes := recomputes_all g
  rcases evaluatedLately_of_recomputes hrecomputes hreached hfind with ⟨hid, -⟩ | hlately
  · have hregistered : g.domains.find id = some definition := by
      rw [← hfind]
      exact congrArg (DomainRegistry.find · id) hrecomputes.sameReads.domains.symm
    exact absurd (mem_allDomainIds.mpr (by rw [hregistered]; rfl)) hid
  · exact hlately

/-- A load that succeeds evaluates everything it restored; one that fails has replaced nothing. -/
theorem renewed_restore (hg : g.Reachable) (file : DurableState)
    (hreached : (g.restore file).1.Reachable) : Renewed g (g.restore file).1 id := by
  cases hfind : (g.restore file).1.domains.find id with
  | none => exact .inl (lookup_unregistered hreached hfind)
  | some definition =>
    cases hrestored : (g.restore file).2 with
    | error e =>
      have hkept := g.kept_restore_error file hrestored
      cases hbefore : g.domains.find id with
      | none =>
        left
        cases hlookup : g.evaluations.lookup id with
        | none => rw [hkept.evaluations, hlookup]
        | some e =>
          have hregistered := evaluatedDomains_of_reachable hg id e hlookup
          rw [hbefore] at hregistered
          cases hregistered
      | some held =>
        refine .inr (.inl ⟨by rw [hkept.evaluations], .inl (governing_congr ?_ hkept.evidence)⟩)
        rw [hkept.find id held hbefore, hbefore]
    | ok _ =>
      obtain ⟨_, restored, -, -, hresult⟩ := restore_eq_ok hrestored
      rw [hresult] at hfind hreached ⊢
      exact .inr (.inr (evaluatedLately_recomputeAll hreached hfind))

/-- **An operation that recomputes nothing spares what domains are made of.** -/
theorem spared_of_not_recomputes (hg : g.Reachable) {op : Operation} (hop : op.recomputes = false)
    (hload : op.isLoad = false) (hverify : ∀ id fresh, op ≠ .verifyAction id fresh) :
    Spared g (g.apply op) id := by
  cases op with
  | tick now => exact ⟨rfl, rfl, rfl, .inl rfl⟩
  | setClock clock =>
    cases clock with
    | none => exact spared_self g
    | some now =>
      rw [apply, setClock]
      split <;> exact ⟨rfl, rfl, rfl, .inl rfl⟩
  | workerHeartbeat worker boot =>
    rw [apply, workerHeartbeat]
    split
    · exact spared_self g
    · split
      · exact spared_self g
      · exact spared_of_sameGoverned (g.sameGoverned_keepAlive worker _ _)
  | evaluateDomain domain => exact g.spared_evaluateAndStore domain
  | evaluateDevice device =>
    rw [apply, evaluateDevice]
    split
    · exact spared_self g
    · split
      · exact spared_self g
      · exact g.spared_evaluateAndStore _
  | evaluateAdmission request =>
    rw [apply, evaluateAdmission]
    split
    · exact spared_self g
    · split
      · exact spared_self g
      · split
        · exact spared_self g
        · split
          · exact spared_self g
          · split
            · rename_i heval
              exact spared_of_sameEvaluations (sameEvaluations_evaluateLocked heval)
            · rename_i heval
              exact spared_of_sameEvaluations (sameEvaluations_evaluateLocked heval)
  | authorizeMitigation domain record rationale =>
    exact spared_of_sameEvaluations
      (g.sameEvaluations_authorizeMitigation domain record rationale)
  | authorizeDerating domain record rationale =>
    exact g.spared_authorizeDerating domain record rationale
  | recordActionDispatch action =>
    exact spared_of_sameGoverned (g.sameGoverned_recordActionDispatch action)
  | recordActionAck ack => exact spared_of_sameGoverned (g.sameGoverned_recordActionAck ack)
  | recordActionResult result =>
    exact spared_of_sameGoverned (g.sameGoverned_recordActionResult result)
  | verifyAction action fresh => exact absurd rfl (hverify action fresh)
  | verifyCommit action fresh =>
    exact spared_verifyCommit (keyedDomains_of_reachable hg) action fresh
  | cancelAction action reason =>
    exact spared_of_sameGoverned (g.sameGoverned_cancelAction action reason)
  | shutdown => exact spared_of_sameGoverned g.sameGoverned_shutdown
  | loadDurable file => cases hload
  | registerDevice | publishCapabilities | registerThermalDomain | updateThermalDomain
  | registerCoupling | removeCoupling | setPolicy | registerWorker | noteWorkerDeath
  | publishTemperature | publishThrottleEvidence | publishCoolingEvidence
  | publishNodeTemperature | publishRackTemperature | authorizeRecovery | revokeRecovery =>
    cases hop

theorem renewed_loadDurable (hg : g.Reachable) (content : Option (Result DurableState)) :
    Renewed g (g.apply (.loadDurable content)) id := by
  have hreached := hg.apply (.loadDurable content)
  rcases g.fst_loadDurable content with hsame | ⟨file, -, -, hrestored⟩
  · have hself : g.apply (.loadDurable content) = g := hsame
    rw [hself]
    exact (spared_self g).renewed
  · have hresult : g.apply (.loadDurable content) = (g.restore file).1 := hrestored
    rw [hresult] at hreached ⊢
    exact renewed_restore hg file hreached

/-- **After every operation of one critical section, what is stored for a domain is kept with
what governs it, or evaluated lately.** -/
theorem renewed_apply (hg : g.Reachable) (op : Operation)
    (hverify : ∀ id fresh, op ≠ .verifyAction id fresh) : Renewed g (g.apply op) id := by
  cases hop : op.recomputes with
  | true =>
    rcases kept_or_evaluatedLately hg hop id with hnone | ⟨hkept, -, -, hgoverning⟩ | hlately
    · exact .inl hnone
    · exact .inr (.inl ⟨hkept, hgoverning⟩)
    · exact .inr (.inr hlately)
  | false =>
    cases hload : op.isLoad with
    | false => exact (spared_of_not_recomputes hg hop hload hverify).renewed
    | true =>
      cases op with
      | loadDurable file => exact renewed_loadDurable hg file
      | _ => cases hload

/-! ### Fenced generations -/

/-- The domain is governed by a record of this generation of the device. -/
def GovernedBy (g : Governor) (device : DeviceId) (generation : DeviceGeneration)
    (id : ThermalDomainId) : Prop :=
  ∃ e, g.governing id = some e ∧ e.measuredOn device generation = true

/-- Every domain that is governed by a record of this generation refuses it. -/
def fenced (g : Governor) (device : DeviceId) (generation : DeviceGeneration) : Bool :=
  g.domains.allDomainIds.all fun id =>
    ! ((g.governing id).any fun e => e.measuredOn device generation) ||
      (g.inputOf id).all EvaluationInput.refuses

/-- Whatever is asked about the domain, the answer grants nothing. -/
structure Withholds (g : Governor) (id : ThermalDomainId) : Prop where
  evaluated : ∀ e, (g.evaluateDomain id).2 = .ok e → e.decision.grants = false
  evaluatedDevice : ∀ device e, (g.evaluateDevice device).2 = .ok e → e.domain = id →
    e.decision.grants = false
  admitted : ∀ request r, request.domain = id → (g.evaluateAdmission request).2 = .ok r →
    r.decision ≠ .admitted ∧ r.decision ≠ .admitDerated
  envelope : ∀ envelope, g.queryEnvelope id = .ok envelope → envelope.decision.grants = false
  snapshot : ∀ view, g.published.domains.lookup id = some view → view.decision.grants = false

theorem refuses_of_fenced {device : DeviceId} {generation : DeviceGeneration}
    (h : g.fenced device generation = true) (hid : g.GovernedBy device generation id)
    {input : EvaluationInput} (hinput : g.inputOf id = some input) : input.refuses = true := by
  obtain ⟨e, hgoverning, hmeasured⟩ := hid
  obtain ⟨definition, policy, hfind, -, -⟩ := inputOf_eq_some.mp hinput
  have hall := List.all_eq_true.mp h id (mem_allDomainIds.mpr (by rw [hfind]; rfl))
  rw [hgoverning, Option.any_some, hmeasured, hinput, Option.all_some] at hall
  exact hall

/-- The input of an evaluation refuses its evidence whatever its past and its neighbours. -/
theorem refuses_congr (h : SameReads g g') (definition : ThermalDomainDefinition)
    (policy : ThermalPolicy) : (g'.evaluation definition policy).1.refuses =
      (g.evaluation definition policy).1.refuses := by
  rw [evaluation_input_eq h]
  rfl

theorem not_grants_evaluation {definition : ThermalDomainDefinition} {policy : ThermalPolicy}
    (h : (g.evaluation definition policy).1.refuses = true) :
    (g.evaluation definition policy).2.decision.grants = false := not_grants_of_refuses h

theorem fenced_congr (h : SameReads g g') {device : DeviceId} {generation : DeviceGeneration}
    (hfenced : g'.fenced device generation = true) : g.fenced device generation = true := by
  refine List.all_eq_true.mpr fun id hid => ?_
  rw [← h.domains] at hid
  have hall := List.all_eq_true.mp hfenced id hid
  rw [governing_congr (by rw [h.domains]) h.evidence] at hall
  refine (Bool.or_eq_true _ _).mpr (((Bool.or_eq_true _ _).mp hall).imp_right fun hrefuses => ?_)
  cases hinput : g.inputOf id with
  | none => rfl
  | some input =>
    obtain ⟨definition, policy, hfind, hpolicy, rfl⟩ := inputOf_eq_some.mp hinput
    have hinput' : g'.inputOf id = some (g'.evaluation definition policy).1 :=
      inputOf_eq_some.mpr ⟨definition, policy, by rw [h.domains, hfind],
        by rw [h.policyFor, hpolicy], rfl⟩
    rw [hinput', Option.all_some, refuses_congr h] at hrefuses
    exact hrefuses

/-- What is stored and shown for the domains of the generation grants nothing. -/
structure Withheld (g : Governor) (device : DeviceId) (generation : DeviceGeneration) : Prop where
  reachable : g.Reachable
  registered : ∀ id view, g.published.domains.lookup id = some view →
    (g.domains.find id).isSome = true
  stored : ∀ id e, g.GovernedBy device generation id → g.evaluations.lookup id = some e →
    e.decision.grants = false
  shown : ∀ id view, g.GovernedBy device generation id →
    g.published.domains.lookup id = some view → view.decision.grants = false

/-- A published view shows the stored evaluation. -/
theorem view_of_publishLocked (hkeyed : g.KeyedDomains) {view : ThermalDomainSnapshot}
    (h : g.publishLocked.published.domains.lookup id = some view) :
    (g.domains.find id).isSome = true ∧
      (view.decision = .unknown ∨
        ∃ e, g.evaluations.lookup id = some e ∧ view.decision = e.decision) := by
  have hview : (Table.mapValues (fun _ d => g.domainSnapshot d)
      g.domains.definitions).lookup id = some view := h
  rw [Table.lookup_mapValues] at hview
  obtain ⟨definition, hfind, rfl⟩ := Option.map_eq_some_iff.mp hview
  replace hfind : g.domains.find id = some definition := hfind
  refine ⟨by rw [hfind]; rfl, ?_⟩
  unfold domainSnapshot
  rw [hkeyed id definition hfind]
  dsimp only
  cases hlookup : g.evaluations.lookup id with
  | none => exact .inl rfl
  | some e => exact .inr ⟨e, rfl, rfl⟩

section Fenced

variable {device : DeviceId} {generation : DeviceGeneration}

theorem not_governedBy_of_kind (h : ∀ e, g.governing id = some e → e.subject.kind ≠ .device) :
    ¬ g.GovernedBy device generation id := by
  rintro ⟨e, hgoverning, hmeasured⟩
  simp only [ThermalEvidence.measuredOn, Bool.and_eq_true, decide_eq_true_eq] at hmeasured
  exact h e hgoverning hmeasured.1.1

theorem governedBy_congr (h : g'.governing id = g.governing id)
    (hid : g'.GovernedBy device generation id) : g.GovernedBy device generation id := by
  obtain ⟨e, hgoverning, hmeasured⟩ := hid
  exact ⟨e, by rw [← h, hgoverning], hmeasured⟩

/-- What was evaluated lately grants nothing in a fenced state. -/
theorem not_grants_of_evaluatedLately (hfenced : g.fenced device generation = true)
    (hid : g.GovernedBy device generation id) (h : g.EvaluatedLately id) {e : ThermalEvaluation}
    (hlookup : g.evaluations.lookup id = some e) : e.decision.grants = false := by
  obtain ⟨turn, definition, policy, hsame, hfind, hpolicy, hstored⟩ := h
  obtain rfl := Option.some.inj (hstored.symm.trans hlookup)
  refine not_grants_evaluation ?_
  rw [← refuses_congr hsame]
  exact refuses_of_fenced hfenced hid
    (inputOf_eq_some.mpr ⟨definition, policy, hfind, hpolicy, rfl⟩)

theorem not_grants_of_publishLocked (hkeyed : g.KeyedDomains)
    (hstored : ∀ e, g.evaluations.lookup id = some e → e.decision.grants = false)
    {view : ThermalDomainSnapshot} (h : g.publishLocked.published.domains.lookup id = some view) :
    view.decision.grants = false := by
  rcases (view_of_publishLocked hkeyed h).2 with hunknown | ⟨e, hlookup, hview⟩
  · rw [hunknown]
    rfl
  · rw [hview]
    exact hstored e hlookup

/-- **One critical section whose result is fenced withholds what was withheld.** -/
theorem withheld_apply (hg : g.Withheld device generation) (op : Operation)
    (hverify : ∀ action fresh, op ≠ .verifyAction action fresh)
    (hfenced : (g.apply op).fenced device generation = true) :
    (g.apply op).Withheld device generation := by
  have hreached := hg.reachable.apply op
  have hstored : ∀ id e, (g.apply op).GovernedBy device generation id →
      (g.apply op).evaluations.lookup id = some e → e.decision.grants = false := by
    intro id e hid hlookup
    have hrenewed : Renewed g (g.apply op) id := renewed_apply hg.reachable op hverify
    rcases hrenewed with hnone | ⟨hkept, hgoverning | hother⟩ | hlately
    · rw [hnone] at hlookup
      cases hlookup
    · rw [hkept] at hlookup
      exact hg.stored id e (governedBy_congr hgoverning hid) hlookup
    · exact absurd hid (not_governedBy_of_kind hother)
    · exact not_grants_of_evaluatedLately hfenced hid hlately hlookup
  -- what is not published again was shown before, of domains that are governed as before
  have hunpublished : (g.apply op).published = g.published →
      (g.apply op).evidence = g.evidence →
      (∀ id definition, g.domains.find id = some definition →
        (g.apply op).domains.find id = some definition) →
      (g.apply op).Withheld device generation := by
    intro hpublished hevidence hfind
    refine ⟨hreached, fun id view hview => ?_, hstored, fun id view hid hview => ?_⟩
    · rw [hpublished] at hview
      obtain ⟨definition, hregistered⟩ :=
        Option.isSome_iff_exists.mp (hg.registered id view hview)
      rw [hfind id definition hregistered]
      rfl
    · rw [hpublished] at hview
      obtain ⟨definition, hregistered⟩ :=
        Option.isSome_iff_exists.mp (hg.registered id view hview)
      refine hg.shown id view (governedBy_congr (governing_congr ?_ hevidence) hid) hview
      rw [hfind id definition hregistered, hregistered]
  have hreports := g.reports_apply op hverify
  generalize hresult : g.apply op = result at hreports hreached hstored hunpublished ⊢
  cases hreports with
  | published published _ =>
    have hkeyed : published.KeyedDomains := fun id definition hfind =>
      keyedDomains_of_reachable hreached id definition hfind
    exact ⟨hreached, fun id view hview => (view_of_publishLocked hkeyed hview).1, hstored,
      fun id view hid hview =>
        not_grants_of_publishLocked hkeyed (fun e => hstored id e hid) hview⟩
  | kept _ hkept _ => exact hunpublished hkept.published hkept.evidence hkept.find
  | stored _ _ _ hpublished hdomains hevidence _ _ _ =>
    refine hunpublished hpublished hevidence fun id definition hfind => ?_
    rw [hdomains, hfind]

/-- A verification publishes its record, and then it may commit. -/
theorem apply_verifyAction (g : Governor) (action : ActionId) (fresh : ThermalEvidence) :
    g.apply (.verifyAction action fresh) = g.apply (.publishTemperature fresh) ∨
    g.apply (.verifyAction action fresh) =
      (g.apply (.publishTemperature fresh)).apply (.verifyCommit action fresh) := by
  rw [apply, apply, apply, verifyAction]
  cases g.publishTemperature fresh with
  | mk published r =>
    cases r with
    | error e => exact .inl rfl
    | ok receipt => exact .inr rfl

theorem withheld_step (hg : g.Withheld device generation) (op : Operation)
    (hfenced : (g.apply op).fenced device generation = true) :
    (g.apply op).Withheld device generation := by
  by_cases hverify : ∃ action fresh, op = .verifyAction action fresh
  · obtain ⟨action, fresh, rfl⟩ := hverify
    rcases g.apply_verifyAction action fresh with h | h
    · rw [h] at hfenced ⊢
      exact withheld_apply hg _ (fun _ _ h => by cases h) hfenced
    · rw [h] at hfenced ⊢
      have hsame : SameReads (g.apply (.publishTemperature fresh))
          ((g.apply (.publishTemperature fresh)).apply (.verifyCommit action fresh)) :=
        (g.apply (.publishTemperature fresh)).sameReads_verifyCommit action fresh
      have hpublished := withheld_apply hg (.publishTemperature fresh) (fun _ _ h => by cases h)
        (fenced_congr hsame hfenced)
      exact withheld_apply hpublished _ (fun _ _ h => by cases h) hfenced
  · push Not at hverify
    exact withheld_apply hg op hverify hfenced

/-- A registration evaluates every domain and shows the result. -/
theorem withheld_registerDevice (hg : g.Reachable) (registration : DeviceRegistration)
    (hok : (g.registerDevice registration).2 = .ok ())
    (hfenced : (g.apply (.registerDevice registration)).fenced device generation = true) :
    (g.apply (.registerDevice registration)).Withheld device generation := by
  have hreached := hg.apply (.registerDevice registration)
  obtain ⟨begun, hresult⟩ : ∃ begun : Governor,
      g.apply (.registerDevice registration) = publishLocked begun.recomputeAllDomains := by
    rw [apply]
    unfold registerDevice at hok ⊢
    cases hchecks : runChecks (g.deviceChecks registration) with
    | error e =>
      rw [hchecks] at hok
      cases hok
    | ok _ => exact ⟨_, rfl⟩
  rw [hresult] at hreached hfenced ⊢
  have hsame : SameReads begun (publishLocked begun.recomputeAllDomains) :=
    (recomputeDomains_same _ _).sameReads.trans (sameReads_publishLocked _)
  have hstored : ∀ id e, (publishLocked begun.recomputeAllDomains).GovernedBy device generation id →
      (publishLocked begun.recomputeAllDomains).evaluations.lookup id = some e →
        e.decision.grants = false := by
    intro id e hid hlookup
    obtain ⟨definition, hfind⟩ := Option.isSome_iff_exists.mp
      (evaluatedDomains_of_reachable hreached id e hlookup)
    exact not_grants_of_evaluatedLately hfenced hid
      (evaluatedLately_recomputeAll hreached hfind) hlookup
  have hkeyed : begun.recomputeAllDomains.KeyedDomains := fun id definition hfind =>
    keyedDomains_of_reachable hreached id definition hfind
  exact ⟨hreached, fun id view hview => (view_of_publishLocked hkeyed hview).1, hstored,
    fun id view hid hview =>
      not_grants_of_publishLocked hkeyed (fun e => hstored id e hid) hview⟩

theorem domain_evaluateAndStore {domain : ThermalDomainId} (hkeyed : g.KeyedDomains)
    {e : ThermalEvaluation} (h : (g.evaluateAndStore domain).2 = .ok e) : e.domain = domain := by
  unfold evaluateAndStore at h
  cases hfind : g.domains.find domain with
  | none =>
    rw [hfind] at h
    cases h
  | some definition =>
    rw [hfind] at h
    dsimp only at h
    cases hpolicy : g.policyFor definition with
    | none =>
      rw [evaluateLocked, hpolicy] at h
      cases h
    | some policy =>
      rw [evaluateLocked, hpolicy] at h
      obtain rfl := Except.ok.inj h
      rw [← hkeyed domain definition hfind]
      exact domain_evaluateThermal _

theorem not_grants_evaluateAndStore (hfenced : g.fenced device generation = true)
    (hid : g.GovernedBy device generation id) {e : ThermalEvaluation}
    (h : (g.evaluateAndStore id).2 = .ok e) : e.decision.grants = false := by
  unfold evaluateAndStore at h
  cases hfind : g.domains.find id with
  | none =>
    rw [hfind] at h
    cases h
  | some definition =>
    rw [hfind] at h
    dsimp only at h
    cases hpolicy : g.policyFor definition with
    | none =>
      rw [evaluateLocked, hpolicy] at h
      cases h
    | some policy =>
      rw [evaluateLocked, hpolicy] at h
      obtain rfl := Except.ok.inj h
      exact not_grants_evaluation (refuses_of_fenced hfenced hid
        (inputOf_eq_some.mpr ⟨definition, policy, hfind, hpolicy, rfl⟩))

/-- A verdict admits only what its evaluation grants. -/
theorem not_admits_of_not_grants {policy : ThermalPolicy} {request : ThermalAdmissionRequest}
    {e : ThermalEvaluation} {r : ThermalAdmissionResult} (h : e.decision.grants = false) :
    (admissionVerdict policy request e r).decision ≠ .admitted ∧
      (admissionVerdict policy request e r).decision ≠ .admitDerated := by
  unfold admissionVerdict
  split
  · exact ⟨nofun, nofun⟩
  · cases hdecision : e.decision with
    | allow | allowDerated =>
      rw [hdecision] at h
      cases h
    | defer =>
      show (if policy.admission.allowDefer then AdmissionDecision.defer else .deny) ≠ _ ∧
        (if policy.admission.allowDefer then AdmissionDecision.defer else .deny) ≠ _
      split <;> exact ⟨nofun, nofun⟩
    | deny | revalidationRequired | unknown | unsupported => exact ⟨nofun, nofun⟩

/-- **In a fenced state that withholds, every answer about a domain of the generation grants
nothing.** -/
theorem withholds_of_withheld (hg : g.Withheld device generation)
    (hfenced : g.fenced device generation = true) (hid : g.GovernedBy device generation id) :
    g.Withholds id := by
  have hkeyed := keyedDomains_of_reachable hg.reachable
  refine ⟨fun e he => not_grants_evaluateAndStore hfenced hid he, ?_, ?_, ?_,
    fun view hview => hg.shown id view hid hview⟩
  · intro asked e he hdomain
    unfold evaluateDevice at he
    split at he
    · cases he
    · split at he
      · cases he
      · rename_i domain rest _
        have hsame : domain = id := by
          rw [← hdomain]
          exact (domain_evaluateAndStore hkeyed he).symm
        rw [hsame] at he
        exact not_grants_evaluateAndStore hfenced hid he
  · intro request r hdomain hr
    rw [evaluateAdmission, hdomain] at hr
    cases hfind : g.domains.find id with
    | none =>
      rw [hfind] at hr
      cases hr
    | some definition =>
      rw [hfind] at hr
      dsimp only at hr
      split at hr
      · cases hr
      · cases hpolicy : g.policyFor definition with
        | none =>
          rw [hpolicy] at hr
          cases hr
        | some policy =>
          rw [hpolicy] at hr
          dsimp only at hr
          split at hr
          · cases hr
          · rw [evaluateLocked, hpolicy] at hr
            obtain rfl := Except.ok.inj hr
            exact not_admits_of_not_grants (not_grants_evaluation (refuses_of_fenced hfenced hid
              (inputOf_eq_some.mpr ⟨definition, policy, hfind, hpolicy, rfl⟩)))
  · intro envelope henvelope
    unfold queryEnvelope at henvelope
    split at henvelope
    · cases henvelope
    · split at henvelope
      · cases henvelope
      · rename_i e hlookup
        obtain rfl := Except.ok.inj henvelope
        exact hg.stored id e hid hlookup

end Fenced

/-- **A registration fences a generation for as long as every domain that one of its records
governs refuses the record**: from a registration that succeeds, in every run whose states
are fenced, nothing that is asked about such a domain is answered with a grant. -/
theorem withholds_of_runsUnder (g h : Governor) (hg : g.Reachable)
    (registration : DeviceRegistration) (hok : (g.registerDevice registration).2 = .ok ())
    (generation : DeviceGeneration)
    (hregistered : (g.apply (.registerDevice registration)).fenced registration.device
      generation = true)
    (hrun : RunsUnder (fun g op => (g.apply op).fenced registration.device generation = true)
      (g.apply (.registerDevice registration)) h)
    (id : ThermalDomainId) (hid : h.GovernedBy registration.device generation id) :
    h.Withholds id := by
  have hinv : h.Withheld registration.device generation ∧
      h.fenced registration.device generation = true := by
    refine RunUnder.invariant (I := fun h => h.Withheld registration.device generation ∧
      h.fenced registration.device generation = true) hrun
      ⟨withheld_registerDevice hg registration hok hregistered, hregistered⟩
      fun g op hg hfenced => ⟨withheld_step hg.1 op hfenced, hfenced⟩
  exact withholds_of_withheld hinv.1 hinv.2 hid

section Deployment

open Deployment

/-- The device of the deployment, registered under its next generation. -/
def replacement : DeviceRegistration := { Deployment.device with generation := 2 }

/-- A record that is too old when its device is replaced grants nothing any more. -/
theorem withholds_of_runsUnder_aged :
    (((after [.publishTemperature (reading 50 1 0), .tick 100000000000]).apply
      (.registerDevice replacement)).apply (.evaluateDomain 1)).Withholds 1 := by
  refine withholds_of_runsUnder (after [.publishTemperature (reading 50 1 0), .tick 100000000000]) _
    (reachable_after _) replacement (by decide +kernel) 1 (by decide +kernel)
    (.tail (Operation.evaluateDomain 1) .refl (by decide +kernel)) 1 ?_
  exact exists_of_any (Governor.governing _ 1) (fun e => e.measuredOn 1 1 = true)
    (by decide +kernel)

/-- The record was taken and accepted before its device is replaced, and is still fresh. -/
def justRead : Governor := after [.publishTemperature (reading 50 1 0)]

/-- The event accepts no record of this generation of the device. -/
def measuredElsewhere (device : DeviceId) (generation : DeviceGeneration) : Event → Bool
  | .accepted e => ! e.measuredOn device generation
  | _ => true

/-- It still grants, and nothing of the new generation was accepted. -/
theorem not_withholds :
    ¬ ∀ (g h : Governor) (registration held : DeviceRegistration) (id : ThermalDomainId),
      g.Reachable → g.devices.lookup registration.device = some held →
      held.generation < registration.generation → (g.registerDevice registration).2 = .ok () →
      Runs (g.apply (.registerDevice registration)) h →
      (∀ e, .accepted e ∈ h.trace →
        e.measuredOn registration.device registration.generation = false) →
      h.GovernedBy registration.device held.generation id → h.Withholds id := by
  intro h
  obtain ⟨held, hheld, hgeneration⟩ := exists_of_any (justRead.devices.lookup replacement.device)
    (fun held => held.generation = 1) (by decide +kernel)
  have hgoverned : (justRead.apply (.registerDevice replacement)).GovernedBy 1 1 1 :=
    exists_of_any (Governor.governing _ 1) (fun e => e.measuredOn 1 1 = true) (by decide +kernel)
  have hwithholds := h justRead (justRead.apply (.registerDevice replacement)) replacement held 1
    (reachable_after _) hheld (by rw [hgeneration]; decide) (by decide +kernel) .refl ?_
    (by rw [hgeneration]; exact hgoverned)
  · obtain ⟨e, he, hgrants⟩ := exists_of_ok
      ((justRead.apply (.registerDevice replacement)).evaluateDomain 1).2
      (fun e => e.decision.grants = true) (by decide +kernel)
    rw [hwithholds.evaluated e he] at hgrants
    cases hgrants
  · intro e he
    have hall : ((justRead.apply (.registerDevice replacement)).trace.all
        (measuredElsewhere replacement.device replacement.generation)) = true := by decide +kernel
    exact (Bool.not_eq_true' _).mp (List.all_eq_true.mp hall _ he)

end Deployment

end Governor

end ThermalGovernor
