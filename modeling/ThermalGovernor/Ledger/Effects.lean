import ThermalGovernor.Ledger.Lifecycle
import ThermalGovernor.Governed.Refines

/-!
# What an operation writes, and which operation writes it

`Effect op` lists what an operation does to the tables that evaluations are made from, to the
transition history that is kept of them, and to the set of recoveries an operator has
authorised.  Every writing effect but the recording of an evaluation is tied to the operation
that has it: a policy is put in by `setPolicy` alone, a record accepted by a publication of it.

`apply_effects` takes every operation but a load apart into such effects.  What it leaves out
on purpose is the rest of the state (`Unaffected`), and of the marks of conflict it keeps only
that none is added.  `evidence_effects`, `policies_effects` and their like put the effects of
one operation back together, table by table.
-/

namespace ThermalGovernor

open Lib

namespace Governor

/-- Nothing that an effect is about changes, up to marks of conflict that go. -/
structure Unaffected (g g' : Governor) : Prop where
  config : g'.config = g.config
  epoch : g'.epoch = g.epoch
  policies : g'.policies = g.policies
  domains : g'.domains = g.domains
  evidence : g'.evidence = g.evidence
  evaluations : g'.evaluations = g.evaluations
  history : g'.history = g.history
  sequence : g'.sequence = g.sequence
  explicitRecovery : g'.explicitRecovery = g.explicitRecovery
  conflictedSubjects : g'.conflictedSubjects ⊆ g.conflictedSubjects

/-- The effects of an operation. -/
inductive Effect (op : Operation) : Governor → Governor → Prop
  | keep (g g' : Governor) (h : Unaffected g g') : Effect op g g'
  | record (g : Governor) (domain : ThermalDomainId) (generation : ThermalDomainGeneration)
      (e : ThermalEvaluation) : Effect op g (g.recordTransition domain generation e)
  | storeDomain (g : Governor) (definition : ThermalDomainDefinition)
      (h : (op = .registerThermalDomain definition ∧ g.domains.checkAdd definition = .ok ()) ∨
        op = .updateThermalDomain definition) :
      Effect op g { g with domains := g.domains.store definition }
  | putPolicy (g : Governor) (policy : ThermalPolicy) (h : op = .setPolicy policy) :
      Effect op g { g with policies := g.policies.insert policy.id policy }
  | accept (g : Governor) (e : ThermalEvidence) (h : op.publication = some e) :
      Effect op g { g with evidence := g.evidence.insert e.subject.key e }
  | authorize (g : Governor) (domain : ThermalDomainId) (h : op = .authorizeRecovery domain)
      (hfind : (g.domains.find domain).isSome = true) :
      Effect op g { g with explicitRecovery := insert domain g.explicitRecovery }
  | revoke (g : Governor) (domain : ThermalDomainId) (h : op = .revokeRecovery domain) :
      Effect op g { g with explicitRecovery := g.explicitRecovery.erase domain }

/-- A sequence of effects of one operation. -/
abbrev Effects (op : Operation) : Governor → Governor → Prop := Relation.ReflTransGen (Effect op)

variable {op : Operation} {g g' g'' : Governor}

theorem Effects.one (h : Effect op g g') : Effects op g g' := Relation.ReflTransGen.single h

/-- An effect before a sequence of effects. -/
theorem Effects.after (h : Effect op g g') (h' : Effects op g' g'') : Effects op g g'' :=
  Relation.ReflTransGen.head h h'

/-- **What every effect preserves, the whole operation preserves.** -/
theorem Effects.invariant {I : Governor → Prop} (hstep : ∀ g g', Effect op g g' → I g → I g')
    (h : Effects op g g') (hg : I g) : I g' := preserved_of_reflTransGen hstep h hg

/-- What no effect changes. -/
theorem Effect.fixed (h : Effect op g g') : g'.config = g.config ∧ g'.epoch = g.epoch := by
  cases h with
  | keep _ hkept => exact ⟨hkept.config, hkept.epoch⟩
  | record domain generation e =>
    have hsame := g.recordTransition_same domain generation e
    exact ⟨hsame.config, hsame.epoch⟩
  | storeDomain | putPolicy | accept | authorize | revoke => exact ⟨rfl, rfl⟩

theorem Unaffected.effects (h : Unaffected g g') : Effects op g g' := .one (.keep g g' h)

/-! ### The building blocks -/

theorem unaffected_publishLocked (g : Governor) : Unaffected g g.publishLocked :=
  ⟨rfl, rfl, rfl, rfl, rfl, rfl, rfl, rfl, rfl, subset_rfl⟩

theorem unaffected_note (g : Governor) (event : Event) : Unaffected g (g.note event) :=
  ⟨rfl, rfl, rfl, rfl, rfl, rfl, rfl, rfl, rfl, subset_rfl⟩

theorem unaffected_advanceTopology (g : Governor) : Unaffected g g.advanceTopology :=
  ⟨rfl, rfl, rfl, rfl, rfl, rfl, rfl, rfl, rfl, subset_rfl⟩

theorem unaffected_setHistory (g : Governor) (domain : ThermalDomainId)
    (history : RecoveryHistory) : Unaffected g (g.setHistory domain history) :=
  ⟨rfl, rfl, rfl, rfl, rfl, rfl, rfl, rfl, rfl, subset_rfl⟩

theorem unaffected_putAction (g : Governor) (id : ActionId) (action : ThermalAction) :
    Unaffected g (g.putAction id action) :=
  ⟨rfl, rfl, rfl, rfl, rfl, rfl, rfl, rfl, rfl, subset_rfl⟩

theorem unaffected_retireBootLocked (g : Governor) (worker : WorkerId) (boot : WorkerBootId) :
    Unaffected g (g.retireBootLocked worker boot) :=
  ⟨rfl, rfl, rfl, rfl, rfl, rfl, rfl, rfl, rfl, subset_rfl⟩

theorem unaffected_keepAlive (g : Governor) (worker : WorkerId) (held record : WorkerRecord) :
    Unaffected g (g.keepAlive worker held record) := by
  unfold keepAlive
  dsimp only
  split <;> exact ⟨rfl, rfl, rfl, rfl, rfl, rfl, rfl, rfl, rfl, subset_rfl⟩

theorem unaffected_countPublication (g : Governor) (e : ThermalEvidence) :
    Unaffected g (g.countPublication e) := by
  unfold countPublication
  split
  · exact ⟨rfl, rfl, rfl, rfl, rfl, rfl, rfl, rfl, rfl, subset_rfl⟩
  · split <;> exact ⟨rfl, rfl, rfl, rfl, rfl, rfl, rfl, rfl, rfl, subset_rfl⟩

theorem unaffected_commitVerification (g : Governor) (id : ActionId) (action : ThermalAction)
    (verified : ActionVerification) :
    Unaffected g (g.commitVerification id action verified).1 :=
  ⟨rfl, rfl, rfl, rfl, rfl, rfl, rfl, rfl, rfl, subset_rfl⟩

theorem evaluateLocked_effects (g : Governor) (definition : ThermalDomainDefinition) :
    Effects op g (g.evaluateLocked definition).1 := by
  unfold evaluateLocked
  split
  · exact .refl
  · exact (g.unaffected_note _).effects

theorem effects_of_evaluateLocked {definition : ThermalDomainDefinition}
    {r : Result ThermalEvaluation} (h : g.evaluateLocked definition = (g', r)) :
    Effects op g g' := by
  have heffects : Effects op g (g.evaluateLocked definition).1 :=
    g.evaluateLocked_effects definition
  rwa [h] at heffects

theorem recomputeDomain_effects (g : Governor) (domain : ThermalDomainId) :
    Effects op g (g.recomputeDomain domain) := by
  unfold recomputeDomain
  split
  · exact .refl
  · split
    · rename_i heval
      exact (effects_of_evaluateLocked heval).trans (.single (.record _ domain _ _))
    · rename_i heval
      exact effects_of_evaluateLocked heval

/-- A loop is a sequence of effects when each of its steps is. -/
theorem foldl_effects {α : Type} {f : Governor → α → Governor} (hf : ∀ g a, Effects op g (f g a))
    (g : Governor) (list : List α) : Effects op g (list.foldl f g) := by
  induction list generalizing g with
  | nil => exact .refl
  | cons a rest ih => exact (hf g a).trans (ih (f g a))

theorem recomputeDomains_effects (g : Governor) (domains : List ThermalDomainId) :
    Effects op g (g.recomputeDomains domains) := foldl_effects recomputeDomain_effects g domains

/-- What most operations end with. -/
theorem publish_effects (h : Effects op g g') : Effects op g g'.publishLocked :=
  h.trans (unaffected_publishLocked g').effects

theorem recomputeAll_publish_effects (h : Effects op g g') :
    Effects op g (publishLocked g'.recomputeAllDomains) :=
  publish_effects (h.trans (g'.recomputeDomains_effects _))

theorem evaluateAndStore_effects (g : Governor) (domain : ThermalDomainId) :
    Effects op g (g.evaluateAndStore domain).1 := by
  unfold evaluateAndStore
  split
  · exact .refl
  · split
    · rename_i heval
      exact effects_of_evaluateLocked heval
    · rename_i heval
      exact (effects_of_evaluateLocked heval).trans (.single (.record _ domain _ _))

/-! ### Configuration -/

theorem registerDevice_effects (g : Governor) (registration : DeviceRegistration) :
    Effects op g (g.registerDevice registration).1 := by
  unfold registerDevice
  split
  · exact .refl
  · refine recomputeAll_publish_effects (Unaffected.effects ?_)
    exact ⟨rfl, rfl, rfl, rfl, rfl, rfl, rfl, rfl, rfl, subset_rfl⟩

theorem publishCapabilities_effects (g : Governor) (device : DeviceId)
    (generation : DeviceGeneration) (capabilities : CapabilitySet) :
    Effects op g (g.publishCapabilities device generation capabilities).1 := by
  unfold publishCapabilities
  split
  · exact .refl
  · split
    · exact .refl
    · refine recomputeAll_publish_effects (Unaffected.effects ?_)
      exact ⟨rfl, rfl, rfl, rfl, rfl, rfl, rfl, rfl, rfl, subset_rfl⟩

theorem registerThermalDomain_effects (g : Governor) (definition : ThermalDomainDefinition) :
    Effects (.registerThermalDomain definition) g (g.registerThermalDomain definition).1 := by
  unfold registerThermalDomain
  split
  · exact .refl
  · split
    · exact .refl
    · rename_i registry hadd
      obtain ⟨hcheck, rfl⟩ := DomainRegistry.add_eq_ok hadd
      refine .after (.storeDomain g definition (.inl ⟨rfl, hcheck⟩)) (publish_effects ?_)
      refine .trans ?_ (unaffected_advanceTopology _).effects
      exact .trans (unaffected_setHistory _ _ _).effects (recomputeDomain_effects _ _)

theorem updateThermalDomain_effects (g : Governor) (definition : ThermalDomainDefinition) :
    Effects (.updateThermalDomain definition) g (g.updateThermalDomain definition).1 := by
  unfold updateThermalDomain
  split
  · exact .refl
  · rename_i registry hupdate
    obtain ⟨-, rfl⟩ := DomainRegistry.update_eq_ok hupdate
    refine .after (.storeDomain g definition (.inr rfl)) (publish_effects ?_)
    refine .trans ?_ (unaffected_advanceTopology _).effects
    refine .trans (Unaffected.effects ?_) (recomputeDomain_effects _ _)
    exact ⟨rfl, rfl, rfl, rfl, rfl, rfl, rfl, rfl, rfl, subset_rfl⟩

/-- What the two operations on couplings end with. -/
theorem coupling_effects (g : Governor) (couplings : CouplingGraph) :
    Effects op g (publishLocked <| advanceTopology <|
      recomputeAllDomains { g with couplings := couplings }) := by
  refine publish_effects (.trans ?_ (unaffected_advanceTopology _).effects)
  refine .trans (Unaffected.effects ?_) (recomputeDomains_effects _ _)
  exact ⟨rfl, rfl, rfl, rfl, rfl, rfl, rfl, rfl, rfl, subset_rfl⟩

theorem setPolicy_effects (g : Governor) (policy : ThermalPolicy) :
    Effects (.setPolicy policy) g (g.setPolicy policy).1 := by
  unfold setPolicy
  split
  · exact .refl
  · split
    · exact .refl
    · refine .after (.putPolicy g policy rfl) (recomputeAll_publish_effects (Unaffected.effects ?_))
      exact ⟨rfl, rfl, rfl, rfl, rfl, rfl, rfl, rfl, rfl, subset_rfl⟩

theorem authorizeRecovery_effects (g : Governor) (domain : ThermalDomainId) :
    Effects (.authorizeRecovery domain) g (g.authorizeRecovery domain).1 := by
  unfold authorizeRecovery
  split
  · exact .refl
  · rename_i hfind
    refine .after (.authorize g domain rfl (by rw [hfind]; rfl)) (publish_effects ?_)
    refine .trans (Unaffected.effects ?_) (recomputeDomain_effects _ _)
    exact ⟨rfl, rfl, rfl, rfl, rfl, rfl, rfl, rfl, rfl, subset_rfl⟩

theorem revokeRecovery_effects (g : Governor) (domain : ThermalDomainId) :
    Effects (.revokeRecovery domain) g (g.revokeRecovery domain).1 := by
  unfold revokeRecovery
  split
  · exact .refl
  · exact .after (.revoke g domain rfl) (publish_effects (recomputeDomain_effects _ _))

/-! ### Workers -/

theorem enrol_effects (g : Governor) (worker : WorkerId) (boot : WorkerBootId) (label : String) :
    Effects op g (g.enrol worker boot label).1 := by
  unfold enrol
  split
  · exact .refl
  · refine recomputeAll_publish_effects (Unaffected.effects ?_)
    exact ⟨rfl, rfl, rfl, rfl, rfl, rfl, rfl, rfl, rfl, subset_rfl⟩

theorem registerWorker_effects (g : Governor) (worker : WorkerId) (boot : WorkerBootId)
    (label : String) : Effects op g (g.registerWorker worker boot label).1 := by
  refine registerWorker_rule (P := Effects op g) .refl
    (fun _ _ => g.enrol_effects worker boot label) (fun held _ _ => ?_) fun held _ _ _ => ?_
  · exact publish_effects (g.unaffected_keepAlive _ _ _).effects
  · exact .trans (g.unaffected_retireBootLocked _ _).effects (enrol_effects _ _ _ _)

theorem workerHeartbeat_effects (g : Governor) (worker : WorkerId) (boot : WorkerBootId) :
    Effects op g (g.workerHeartbeat worker boot).1 := by
  unfold workerHeartbeat
  split
  · exact .refl
  · split
    · exact .refl
    · exact (g.unaffected_keepAlive _ _ _).effects

theorem noteWorkerDeath_effects (g : Governor) (worker : WorkerId) (boot : WorkerBootId) :
    Effects op g (g.noteWorkerDeath worker boot).1 := by
  unfold noteWorkerDeath
  split
  · exact .refl
  · split
    · exact .refl
    · refine recomputeAll_publish_effects (Unaffected.effects ?_)
      exact ⟨rfl, rfl, rfl, rfl, rfl, rfl, rfl, rfl, rfl, subset_rfl⟩

/-! ### Evidence -/

theorem refreshDomain_effects (e : ThermalEvidence) (g : Governor) (domain : ThermalDomainId) :
    Effects op g (refreshDomain e g domain) := by
  unfold refreshDomain
  split
  · exact .refl
  · exact .trans (unaffected_setHistory _ _ _).effects (recomputeDomain_effects _ _)

theorem publishImpl_effects (g : Governor) {e : ThermalEvidence} (h : op.publication = some e) :
    Effects op g (g.publishImpl e).1 := by
  refine publishImpl_rule (P := Effects op g) .refl fun _ => ?_
  unfold commitEvidence
  have haccepted : Unaffected { g with evidence := g.evidence.insert e.subject.key e }
      (g.acceptEvidence e) :=
    ⟨rfl, rfl, rfl, rfl, rfl, rfl, rfl, rfl, rfl, Finset.erase_subset _ _⟩
  refine .after (.accept g e h) (haccepted.effects.trans (publish_effects ?_))
  refine .trans ?_ (recomputeDomains_effects _ _)
  exact .trans (unaffected_countPublication _ e).effects
    (foldl_effects (refreshDomain_effects e) _ _)

theorem publishIf_effects (g : Governor) (check : Check) {e : ThermalEvidence}
    (h : op.publication = some e) : Effects op g (g.publishIf check e).1 :=
  publishIf_rule (P := Effects op g) .refl (g.publishImpl_effects h)

/-! ### Actions -/

theorem authorizeMitigation_effects (g : Governor) (domain : ThermalDomainId)
    (record : MitigationIntentRecord) (rationale : String) :
    Effects op g (g.authorizeMitigation domain record rationale).1 := by
  refine authorizeMitigation_rule (P := Effects op g) .refl
    (fun _ _ _ _ heval => effects_of_evaluateLocked heval) ?_
  intro definition policy evaluated e _ _ heval
  refine (effects_of_evaluateLocked heval).trans (Unaffected.effects ?_)
  exact ⟨rfl, rfl, rfl, rfl, rfl, rfl, rfl, rfl, rfl, subset_rfl⟩

theorem authorizeDerating_effects (g : Governor) (domain : ThermalDomainId)
    (record : MitigationIntentRecord) (rationale : String) :
    Effects op g (g.authorizeDerating domain record rationale).1 := by
  have heffects : Effects op g (g.evaluateDomain domain).1 := g.evaluateAndStore_effects domain
  exact authorizeDerating_rule (P := Effects op g) heffects
    fun demanded => heffects.trans (authorizeMitigation_effects _ domain demanded rationale)

/-- Writing one action back and publishing it. -/
theorem unaffected_putAction_publish (g : Governor) (id : ActionId) (action : ThermalAction) :
    Unaffected g (publishLocked (g.putAction id action)) :=
  ⟨rfl, rfl, rfl, rfl, rfl, rfl, rfl, rfl, rfl, subset_rfl⟩

theorem recordActionDispatch_effects (g : Governor) (id : ActionId) :
    Effects op g (g.recordActionDispatch id).1 := by
  refine recordActionDispatch_rule (P := Effects op g) .refl
    (fun action => (g.unaffected_putAction_publish id action).effects) fun action => ?_
  exact Unaffected.effects ⟨rfl, rfl, rfl, rfl, rfl, rfl, rfl, rfl, rfl, subset_rfl⟩

theorem recordActionAck_effects (g : Governor) (ack : ActionAck) :
    Effects op g (g.recordActionAck ack).1 :=
  recordActionAck_rule (P := Effects op g) .refl
    fun action => (g.unaffected_putAction_publish ack.actionId action).effects

theorem recordActionResult_effects (g : Governor) (result : ActionResult) :
    Effects op g (g.recordActionResult result).1 :=
  recordActionResult_rule (P := Effects op g) .refl
    fun action => (g.unaffected_putAction_publish result.actionId action).effects

theorem verifyCommit_effects (g : Governor) (id : ActionId) (fresh : ThermalEvidence) :
    Effects op g (g.verifyCommit id fresh).1 := by
  refine verifyCommit_rule (P := Effects op g) .refl
    (fun _ _ _ _ _ heval => effects_of_evaluateLocked heval) ?_
  intro action definition before evaluated after verified _ _ heval _
  have hcommitted := evaluated.unaffected_commitVerification id action verified
  refine (effects_of_evaluateLocked heval).trans (publish_effects ?_)
  exact hcommitted.effects.trans (.single (.record _ _ _ _))

theorem verifyAction_effects (g : Governor) (id : ActionId) (fresh : ThermalEvidence) :
    Effects (.verifyAction id fresh) g (g.verifyAction id fresh).1 := by
  have heffects : Effects (.verifyAction id fresh) g (g.publishTemperature fresh).1 :=
    g.publishImpl_effects rfl
  unfold verifyAction
  split
  · rename_i hpublish
    rwa [hpublish] at heffects
  · rename_i published receipt hpublish
    rw [hpublish] at heffects
    exact heffects.trans (published.verifyCommit_effects id fresh)

theorem cancelAction_effects (g : Governor) (id : ActionId) (reason : String) :
    Effects op g (g.cancelAction id reason).1 :=
  cancelAction_rule (P := Effects op g) .refl
    (fun action => (g.unaffected_putAction id action).effects)
    fun action => (g.unaffected_putAction_publish id action).effects

/-! ### All operations -/

/-- **Every operation but a load is a sequence of its effects.** -/
theorem apply_effects (g : Governor) (op : Operation) (hload : op.isLoad = false) :
    Effects op g (g.apply op) := by
  cases op with
  | tick now =>
    exact Unaffected.effects ⟨rfl, rfl, rfl, rfl, rfl, rfl, rfl, rfl, rfl, subset_rfl⟩
  | setClock clock =>
    cases clock with
    | none => exact .refl
    | some now =>
      rw [apply, setClock]
      split
      · exact .refl
      · exact Unaffected.effects ⟨rfl, rfl, rfl, rfl, rfl, rfl, rfl, rfl, rfl, subset_rfl⟩
  | registerDevice registration => exact g.registerDevice_effects registration
  | publishCapabilities device generation capabilities =>
    exact g.publishCapabilities_effects device generation capabilities
  | registerThermalDomain definition => exact g.registerThermalDomain_effects definition
  | updateThermalDomain definition => exact g.updateThermalDomain_effects definition
  | registerCoupling relation =>
    rw [apply, registerCoupling]
    split
    · exact .refl
    · exact g.coupling_effects _
  | removeCoupling id =>
    rw [apply, removeCoupling]
    split
    · exact .refl
    · exact g.coupling_effects _
  | setPolicy policy => exact g.setPolicy_effects policy
  | registerWorker worker boot label => exact g.registerWorker_effects worker boot label
  | workerHeartbeat worker boot => exact g.workerHeartbeat_effects worker boot
  | noteWorkerDeath worker boot => exact g.noteWorkerDeath_effects worker boot
  | publishTemperature e => exact g.publishImpl_effects rfl
  | publishThrottleEvidence e => exact g.publishIf_effects _ rfl
  | publishCoolingEvidence e => exact g.publishIf_effects _ rfl
  | publishNodeTemperature e => exact g.publishIf_effects _ rfl
  | publishRackTemperature e => exact g.publishIf_effects _ rfl
  | evaluateDomain domain => exact g.evaluateAndStore_effects domain
  | evaluateDevice device =>
    rw [apply, evaluateDevice]
    split
    · exact .refl
    · split
      · exact .refl
      · exact g.evaluateAndStore_effects _
  | evaluateAdmission request =>
    rw [apply, evaluateAdmission]
    split
    · exact .refl
    · split
      · exact .refl
      · split
        · exact .refl
        · split
          · exact .refl
          · split
            · rename_i heval
              exact effects_of_evaluateLocked heval
            · rename_i heval
              exact effects_of_evaluateLocked heval
  | authorizeRecovery domain => exact g.authorizeRecovery_effects domain
  | revokeRecovery domain => exact g.revokeRecovery_effects domain
  | authorizeMitigation domain record rationale =>
    exact g.authorizeMitigation_effects domain record rationale
  | authorizeDerating domain record rationale =>
    exact g.authorizeDerating_effects domain record rationale
  | recordActionDispatch id => exact g.recordActionDispatch_effects id
  | recordActionAck ack => exact g.recordActionAck_effects ack
  | recordActionResult result => exact g.recordActionResult_effects result
  | verifyAction id fresh => exact g.verifyAction_effects id fresh
  | verifyCommit id fresh => exact g.verifyCommit_effects id fresh
  | cancelAction id reason => exact g.cancelAction_effects id reason
  | loadDurable file => cases hload
  | shutdown =>
    rw [apply, shutdown]
    split
    · exact .refl
    · exact Unaffected.effects ⟨rfl, rfl, rfl, rfl, rfl, rfl, rfl, rfl, rfl, subset_rfl⟩

/-! ### Table by table -/

variable {domain : ThermalDomainId} {definition : ThermalDomainDefinition}

theorem evidence_effects (h : Effects op g g') : g'.evidence = g.evidence ∨
    ∃ e, op.publication = some e ∧ g'.evidence = g.evidence.insert e.subject.key e := by
  refine h.invariant (I := fun g' => g'.evidence = g.evidence ∨
    ∃ e, op.publication = some e ∧ g'.evidence = g.evidence.insert e.subject.key e)
    (fun g₁ g₂ heffect h => ?_) (.inl rfl)
  cases heffect with
  | keep _ hkept => rwa [hkept.evidence]
  | record domain generation e => rwa [(g₁.recordTransition_same domain generation e).evidence]
  | storeDomain | putPolicy | authorize | revoke => exact h
  | accept e he =>
    refine .inr ⟨e, he, ?_⟩
    rcases h with h | ⟨e', he', h⟩
    · rw [h]
    · obtain rfl : e' = e := Option.some.inj (he'.symm.trans he)
      dsimp only
      rw [h, AList.insert_insert]

theorem policies_effects (h : Effects op g g') : g'.policies = g.policies ∨
    ∃ policy, op = .setPolicy policy ∧ g'.policies = g.policies.insert policy.id policy := by
  refine h.invariant (I := fun g' => g'.policies = g.policies ∨
    ∃ policy, op = .setPolicy policy ∧ g'.policies = g.policies.insert policy.id policy)
    (fun g₁ g₂ heffect h => ?_) (.inl rfl)
  cases heffect with
  | keep _ hkept => rwa [hkept.policies]
  | record domain generation e =>
    obtain ⟨_, _, _, _, hsame⟩ := g₁.recordTransition_same domain generation e
    rwa [hsame]
  | storeDomain | accept | authorize | revoke => exact h
  | putPolicy policy hpolicy =>
    refine .inr ⟨policy, hpolicy, ?_⟩
    rcases h with h | ⟨policy', hpolicy', h⟩
    · rw [h]
    · obtain rfl := Operation.setPolicy.inj (hpolicy'.symm.trans hpolicy)
      dsimp only
      rw [h, AList.insert_insert]

theorem find_effects (h : Effects op g g') (hfind : g.domains.find domain = some definition) :
    g'.domains.find domain = some definition ∨
      ∃ updated, op = .updateThermalDomain updated ∧ updated.id = domain := by
  by_cases hupdate : ∃ updated, op = .updateThermalDomain updated ∧ updated.id = domain
  · exact .inr hupdate
  refine .inl (h.invariant (I := fun g' => g'.domains.find domain = some definition)
    (fun g₁ g₂ heffect h => ?_) hfind)
  cases heffect with
  | keep _ hkept => rwa [hkept.domains]
  | record domain generation e => rwa [(g₁.recordTransition_same domain generation e).domains]
  | putPolicy | accept | authorize | revoke => exact h
  | storeDomain stored hstored =>
    dsimp only
    rw [DomainRegistry.find_store, if_neg, h]
    rintro rfl
    rcases hstored with ⟨-, hcheck⟩ | hop
    · have hnew := (DomainRegistry.checkAdd_eq_ok.mp hcheck).new
      rw [h] at hnew
      cases hnew
    · exact hupdate ⟨stored, hop, rfl⟩

theorem epoch_effects (h : Effects op g g') : g'.epoch = g.epoch :=
  h.invariant (I := fun g' => g'.epoch = g.epoch) (fun _ _ heffect h => heffect.fixed.2.trans h) rfl

theorem explicitRecovery_recordTransition (g : Governor) (domain : ThermalDomainId)
    (generation : ThermalDomainGeneration) (e : ThermalEvaluation) :
    (g.recordTransition domain generation e).explicitRecovery = g.explicitRecovery := by
  obtain ⟨_, _, _, _, hsame⟩ := g.recordTransition_same domain generation e
  rw [hsame]

theorem mem_explicitRecovery_effects (h : Effects op g g')
    (hmem : domain ∈ g'.explicitRecovery) :
    domain ∈ g.explicitRecovery ∨ op = .authorizeRecovery domain := by
  refine h.invariant (I := fun g' => domain ∈ g'.explicitRecovery →
    domain ∈ g.explicitRecovery ∨ op = .authorizeRecovery domain)
    (fun g₁ g₂ heffect h => ?_) .inl hmem
  cases heffect with
  | keep _ hkept => rwa [hkept.explicitRecovery]
  | record domain generation e => rwa [explicitRecovery_recordTransition]
  | storeDomain | putPolicy | accept => exact h
  | authorize id hop =>
    intro hmem
    rcases Finset.mem_insert.mp hmem with rfl | hmem
    · exact .inr hop
    · exact h hmem
  | revoke id => exact fun hmem => h (Finset.mem_of_mem_erase hmem)

/-! ### Coordinators without a durable file -/

/-- Without a path nothing is loaded. -/
theorem apply_of_isLoad (hpath : g.config.durablePath.isEmpty = true) (hload : op.isLoad = true) :
    g.apply op = g := by
  cases op with
  | loadDurable file =>
    rcases g.fst_loadDurable file with hsame | ⟨_, hsome, -⟩
    · exact hsame
    · rw [hpath] at hsome
      cases hsome
  | _ => cases hload

/-- **What every operation but a load preserves holds in every run without a durable file.**
The configuration and the epoch are those of the start. -/
theorem invariant_of_unsaved {I : Governor → Prop} {config : GovernorConfig}
    {now : SteadyTimePoint} (hpath : config.durablePath.isEmpty = true)
    (hrun : Runs (create config now) g) (hstart : I (create config now))
    (hstep : ∀ g op, g.Reachable → g.config = config → op.isLoad = false → I g →
      I (g.apply op)) :
    g.config = config ∧ g.epoch = (create config now).epoch ∧ I g := by
  have hinvariant : g.Reachable ∧ g.config = config ∧ g.epoch = (create config now).epoch ∧
      I g := by
    refine RunUnder.invariant (I := fun g => g.Reachable ∧ g.config = config ∧
      g.epoch = (create config now).epoch ∧ I g) hrun ⟨⟨config, now, .refl⟩, rfl, rfl, hstart⟩
      fun g op ⟨hg, hconfig, hepoch, hinvariant⟩ _ => ?_
    cases hload : op.isLoad with
    | true =>
      rw [apply_of_isLoad (hconfig ▸ hpath) hload]
      exact ⟨hg, hconfig, hepoch, hinvariant⟩
    | false =>
      have heffects := g.apply_effects op hload
      have hkept : (g.apply op).config = g.config :=
        heffects.invariant (I := fun g' => g'.config = g.config)
          (fun _ _ heffect h => heffect.fixed.1.trans h) rfl
      exact ⟨hg.apply op, hkept.trans hconfig, (epoch_effects heffects).trans hepoch,
        hstep g op hg hconfig hload hinvariant⟩
  exact hinvariant.2

end Governor

end ThermalGovernor
