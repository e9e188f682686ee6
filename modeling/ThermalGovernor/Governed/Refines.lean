import ThermalGovernor.Governed.Writes
import ThermalGovernor.Ledger.Run

/-!
# Every operation is a sequence of writes

One lemma for each operation that writes anything governed; the others keep it, and
`apply_writes` puts them together.
-/

namespace ThermalGovernor

open Lib

namespace DomainRegistry

variable {r r' : DomainRegistry} {d : ThermalDomainDefinition}

/-- A registration that succeeds stores what passed the checks. -/
theorem add_eq_ok (h : r.add d = (r', .ok ())) : r.checkAdd d = .ok () ∧ r' = r.store d := by
  unfold add at h
  split at h
  · cases h
  · rename_i hcheck
    exact ⟨hcheck, (Prod.mk.inj h).1.symm⟩

/-- A replacement that succeeds stores what passed the checks. -/
theorem update_eq_ok (h : r.update d = (r', .ok ())) :
    r.checkUpdate d = .ok () ∧ r' = r.store d := by
  unfold update at h
  split at h
  · cases h
  · rename_i hcheck
    exact ⟨hcheck, (Prod.mk.inj h).1.symm⟩

/-- What the registry asks of a new definition. -/
structure Admits (r : DomainRegistry) (d : ThermalDomainDefinition) : Prop where
  id : isValid d.id = true
  generation : isValid d.generation = true
  declared : d.provenance ≠ .unknown
  governed : d.provenance ≠ .unsupported
  room : r.size < r.limits.maxDomains
  members : d.members.length ≤ r.limits.maxMembersPerDomain
  children : d.children.length ≤ r.limits.maxChildrenPerDomain
  new : r.find d.id = none
  parent : ∀ p ∈ d.parent, (r.find p).isSome = true
  child : ∀ c ∈ d.children, (r.find c).isSome = true
  weighted : d.aggregation = .configuredWeightedRule → ∀ m ∈ d.members, 0 < m.weight
  sensed : d.aggregation = .nodeSensorGoverns → ∃ m ∈ d.members, m.subject.kind = .node

theorem ite_failure_eq_ok {p : Prop} [Decidable p] {code : ThermalErrorCode} {detail : String}
    {status : Status} :
    (if p then failure code detail else status) = .ok () ↔ ¬ p ∧ status = .ok () := by
  by_cases h : p
  · rw [if_pos h]
    exact ⟨fun hfailed => (by cases hfailed), fun hok => absurd h hok.1⟩
  · rw [if_neg h]
    exact ⟨fun hok => ⟨h, hok⟩, And.right⟩

/-- **The checks of a registration, as one condition.** -/
theorem checkAdd_eq_ok : r.checkAdd d = .ok () ↔ r.Admits d := by
  unfold checkAdd
  simp only [ite_failure_eq_ok, and_true]
  constructor
  · rintro ⟨hid, hgeneration, hdeclared, hgoverned, hroom, hmembers, hchildren, hnew, hparent,
      hchild, hweighted, hsensed⟩
    refine ⟨by simpa using hid, by simpa using hgeneration, hdeclared, hgoverned, not_le.mp hroom,
      not_lt.mp hmembers, not_lt.mp hchildren, by simpa using hnew, fun p hp => ?_, ?_, ?_, ?_⟩
    · rw [Option.mem_def.mp hp] at hparent
      simpa [Option.isSome_iff_ne_none] using hparent
    · simpa [Option.isSome_iff_ne_none] using hchild
    · simpa using hweighted
    · simpa using hsensed
  · intro h
    refine ⟨by simpa using h.id, by simpa using h.generation, h.declared, h.governed,
      not_le.mpr h.room, not_lt.mpr h.members, not_lt.mpr h.children, by simp [h.new], ?_, ?_, ?_,
      ?_⟩
    · cases hp : d.parent with
      | none => simp
      | some p => simpa [Option.isSome_iff_ne_none] using h.parent p hp
    · simpa [Option.isSome_iff_ne_none] using h.child
    · simpa using h.weighted
    · simpa using h.sensed

end DomainRegistry

namespace Governor

variable {put : ThermalPolicy → Prop} {g g' g'' : Governor}

/-! ### Evaluations -/

theorem evaluateLocked_writes (g : Governor) {domain : ThermalDomainId}
    {definition : ThermalDomainDefinition} (hfind : g.domains.find domain = some definition) :
    Writes put g (g.evaluateLocked definition).1 := by
  unfold evaluateLocked
  split
  · exact .refl
  · rename_i policy hpolicy
    exact .one (.evaluate g domain definition policy hfind hpolicy)

/-- An evaluation is stored once it has been noted. -/
theorem record_writes {domain name : ThermalDomainId} {definition : ThermalDomainDefinition}
    {e : ThermalEvaluation} (hfind : g.domains.find domain = some definition)
    (hname : name = domain ∨ name = definition.id)
    (heval : g.evaluateLocked definition = (g', .ok e)) :
    Writes put g (g'.recordTransition name definition.generation e) := by
  obtain ⟨policy, hpolicy, rfl, rfl⟩ := evaluateLocked_eq_ok heval
  refine .after (.evaluate g domain definition policy hfind hpolicy) (.one ?_)
  exact .record _ domain name definition _ _ hfind hname List.mem_cons_self

theorem recomputeDomain_writes (g : Governor) (domain : ThermalDomainId) :
    Writes put g (g.recomputeDomain domain) := by
  unfold recomputeDomain
  split
  · exact .refl
  · rename_i definition hfind
    split
    · rename_i heval
      exact record_writes hfind (.inl rfl) heval
    · rename_i heval
      have hwrites : Writes put g (g.evaluateLocked definition).1 :=
        g.evaluateLocked_writes hfind
      rwa [heval] at hwrites

/-- A loop is a sequence of writes when each of its steps is. -/
theorem foldl_writes {α : Type} {f : Governor → α → Governor} (hf : ∀ g a, Writes put g (f g a))
    (g : Governor) (list : List α) : Writes put g (list.foldl f g) := by
  induction list generalizing g with
  | nil => exact .refl
  | cons a rest ih => exact (hf g a).trans (ih (f g a))

theorem recomputeDomains_writes (g : Governor) (domains : List ThermalDomainId) :
    Writes put g (g.recomputeDomains domains) := foldl_writes recomputeDomain_writes g domains

theorem recomputeAllDomains_writes (g : Governor) : Writes put g g.recomputeAllDomains :=
  g.recomputeDomains_writes _

/-- What every configuration change ends with. -/
theorem recomputeAll_publish_writes (g : Governor) :
    Writes put g (publishLocked g.recomputeAllDomains) :=
  g.recomputeAllDomains_writes.trans (sameGoverned_publishLocked _).writes

theorem evaluateAndStore_writes (g : Governor) (domain : ThermalDomainId) :
    Writes put g (g.evaluateAndStore domain).1 := by
  unfold evaluateAndStore
  split
  · exact .refl
  · rename_i definition hfind
    split
    · rename_i heval
      have hwrites : Writes put g (g.evaluateLocked definition).1 :=
        g.evaluateLocked_writes hfind
      rwa [heval] at hwrites
    · rename_i heval
      exact record_writes hfind (.inl rfl) heval

theorem advance_publish_writes (g : Governor) : Writes put g (publishLocked g.advanceTopology) :=
  .trans (sameGoverned_advanceTopology g).writes (sameGoverned_publishLocked _).writes

/-! ### Configuration -/

theorem registerDevice_writes (g : Governor) (registration : DeviceRegistration) :
    Writes put g (g.registerDevice registration).1 := by
  unfold registerDevice
  split
  · exact .refl
  · refine .after (.putDevice g registration.device registration (.inl rfl)) ?_
    refine .trans (SameGoverned.writes ?_) (recomputeAll_publish_writes { g with
      devices := g.devices.insert registration.device registration
      capabilityGeneration := advance g.capabilityGeneration })
    exact ⟨rfl, rfl, rfl, rfl, rfl, rfl, rfl, fun _ _ h => h⟩

theorem publishCapabilities_writes (g : Governor) (device : DeviceId)
    (generation : DeviceGeneration) (capabilities : CapabilitySet) :
    Writes put g (g.publishCapabilities device generation capabilities).1 := by
  unfold publishCapabilities
  split
  · exact .refl
  · rename_i held hheld
    split
    · exact .refl
    · refine .after (.putDevice g device { held with capabilities := capabilities }
        (.inr ⟨held, hheld, rfl⟩)) ?_
      refine .trans (SameGoverned.writes ?_) (recomputeAll_publish_writes { g with
        devices := g.devices.insert device { held with capabilities := capabilities }
        capabilityGeneration := advance g.capabilityGeneration })
      exact ⟨rfl, rfl, rfl, rfl, rfl, rfl, rfl, fun _ _ h => h⟩

theorem registerThermalDomain_writes (g : Governor) (definition : ThermalDomainDefinition) :
    Writes put g (g.registerThermalDomain definition).1 := by
  unfold registerThermalDomain
  split
  · exact .refl
  · split
    · exact .refl
    · rename_i domains hadd
      obtain ⟨hcheck, rfl⟩ := DomainRegistry.add_eq_ok hadd
      refine .after (.storeDomain g definition (.inl hcheck)) ?_
      refine .trans (sameGoverned_openHistory _ definition.id).writes ?_
      refine .trans (recomputeDomain_writes _ definition.id) ?_
      exact advance_publish_writes _

theorem updateThermalDomain_writes (g : Governor) (definition : ThermalDomainDefinition) :
    Writes put g (g.updateThermalDomain definition).1 := by
  unfold updateThermalDomain
  split
  · exact .refl
  · rename_i domains hupdate
    obtain ⟨hcheck, rfl⟩ := DomainRegistry.update_eq_ok hupdate
    refine .after (.storeDomain g definition (.inr hcheck)) ?_
    refine .trans (SameGoverned.writes ?_) (.trans (recomputeDomain_writes { g with
      domains := g.domains.store definition
      invalidatedEvidence := g.invalidatedEvidence ∪ g.supersededKeys definition }
      definition.id) ?_)
    · exact ⟨rfl, rfl, rfl, rfl, rfl, rfl, rfl, fun _ _ h => h⟩
    · exact advance_publish_writes _

theorem registerCoupling_writes (g : Governor) (relation : CouplingRelation) :
    Writes put g (g.registerCoupling relation).1 := by
  unfold registerCoupling
  split
  · exact .refl
  · rename_i hchecks
    rw [runChecks_eq_ok] at hchecks
    simp only [couplingChecks, List.forall_mem_cons] at hchecks
    obtain ⟨-, -, -, -, hsource, hdestination, -⟩ := hchecks
    refine .after (.addCoupling g relation hsource hdestination) ?_
    exact .trans (recomputeAllDomains_writes _) (advance_publish_writes _)

theorem removeCoupling_writes (g : Governor) (id : CouplingId) :
    Writes put g (g.removeCoupling id).1 := by
  unfold removeCoupling
  split
  · exact .refl
  · rename_i couplings hremove
    refine .after (.removeCoupling g id couplings hremove) ?_
    exact .trans (recomputeAllDomains_writes _) (advance_publish_writes _)

theorem setPolicy_writes (g : Governor) (policy : ThermalPolicy)
    (hput : validatePolicy policy = .ok () → put policy) :
    Writes put g (g.setPolicy policy).1 := by
  unfold setPolicy
  split
  · exact .refl
  · rename_i hvalid
    split
    · exact .refl
    · refine .after (.putPolicy g policy (hput hvalid)) ?_
      refine .trans (SameGoverned.writes ?_) (recomputeAll_publish_writes { g with
        policies := g.policies.insert policy.id policy
        policyGeneration := advance g.policyGeneration })
      exact ⟨rfl, rfl, rfl, rfl, rfl, rfl, rfl, fun _ _ h => h⟩

theorem authorizeRecovery_writes (g : Governor) (domain : ThermalDomainId) :
    Writes put g (g.authorizeRecovery domain).1 := by
  unfold authorizeRecovery
  split
  · exact .refl
  · refine .trans (SameGoverned.writes ?_) (.trans (recomputeDomain_writes { g with
      recoveryGeneration := advance g.recoveryGeneration
      explicitRecovery := insert domain g.explicitRecovery } domain)
      (sameGoverned_publishLocked _).writes)
    exact ⟨rfl, rfl, rfl, rfl, rfl, rfl, rfl, fun _ _ h => h⟩

theorem revokeRecovery_writes (g : Governor) (domain : ThermalDomainId) :
    Writes put g (g.revokeRecovery domain).1 := by
  unfold revokeRecovery
  split
  · exact .refl
  · refine .trans (SameGoverned.writes ?_) (.trans (recomputeDomain_writes { g with
      explicitRecovery := g.explicitRecovery.erase domain } domain)
      (sameGoverned_publishLocked _).writes)
    exact ⟨rfl, rfl, rfl, rfl, rfl, rfl, rfl, fun _ _ h => h⟩

/-! ### Workers -/

theorem enrol_writes (g : Governor) (worker : WorkerId) (boot : WorkerBootId) (label : String) :
    Writes put g (g.enrol worker boot label).1 := by
  unfold enrol
  split
  · exact .refl
  · refine .trans (SameGoverned.writes ?_)
      (recomputeAll_publish_writes { g with workers := g.workers.insert worker _ })
    exact ⟨rfl, rfl, rfl, rfl, rfl, rfl, rfl, fun _ _ h => h⟩

theorem sameGoverned_retireBootLocked (g : Governor) (worker : WorkerId) (boot : WorkerBootId) :
    SameGoverned g (g.retireBootLocked worker boot) := by
  refine ⟨rfl, rfl, rfl, rfl, rfl, rfl, rfl, fun input e h => ?_⟩
  rcases List.mem_cons.mp h with hnew | hold
  · cases hnew
  · exact hold

theorem sameGoverned_keepAlive (g : Governor) (worker : WorkerId) (held record : WorkerRecord) :
    SameGoverned g (g.keepAlive worker held record) := by
  unfold keepAlive
  dsimp only
  split
  · exact ⟨rfl, rfl, rfl, rfl, rfl, rfl, rfl, fun _ _ h => h⟩
  · refine ⟨rfl, rfl, rfl, rfl, rfl, rfl, rfl, fun input e h => ?_⟩
    rcases List.mem_cons.mp h with hnew | hold
    · cases hnew
    · exact hold

theorem registerWorker_writes (g : Governor) (worker : WorkerId) (boot : WorkerBootId)
    (label : String) : Writes put g (g.registerWorker worker boot label).1 := by
  refine registerWorker_rule (P := Writes put g) .refl
    (fun _ _ => g.enrol_writes worker boot label) (fun held _ _ => ?_) fun held _ _ _ => ?_
  · exact .trans (g.sameGoverned_keepAlive worker held _).writes
      (sameGoverned_publishLocked _).writes
  · exact .trans (g.sameGoverned_retireBootLocked worker held.boot).writes
      (enrol_writes _ worker boot label)

theorem workerHeartbeat_writes (g : Governor) (worker : WorkerId) (boot : WorkerBootId) :
    Writes put g (g.workerHeartbeat worker boot).1 := by
  unfold workerHeartbeat
  split
  · exact .refl
  · rename_i held hheld
    split
    · exact .refl
    · exact (g.sameGoverned_keepAlive worker held _).writes

theorem noteWorkerDeath_writes (g : Governor) (worker : WorkerId) (boot : WorkerBootId) :
    Writes put g (g.noteWorkerDeath worker boot).1 := by
  unfold noteWorkerDeath
  split
  · exact .refl
  · rename_i held hheld
    split
    · exact .refl
    · refine .trans (SameGoverned.writes ?_) (recomputeAll_publish_writes (retireBootLocked
        { g with workers := g.workers.insert worker { held with alive := false } } worker boot))
      refine .trans ?_ (sameGoverned_retireBootLocked _ worker boot)
      exact ⟨rfl, rfl, rfl, rfl, rfl, rfl, rfl, fun _ _ h => h⟩

/-! ### Evidence -/

theorem acceptEvidence_writes (g : Governor) (e : ThermalEvidence)
    (hstructure : validateEvidenceStructure e = .ok ())
    (hfences : runChecks (g.publishChecks e) = .ok ()) : Writes put g (g.acceptEvidence e) := by
  refine .after (.accept g e hstructure hfences) (SameGoverned.writes ?_)
  refine ⟨rfl, rfl, rfl, rfl, rfl, rfl, rfl, fun input evaluation h => ?_⟩
  rcases List.mem_cons.mp h with hnew | hold
  · cases hnew
  · exact hold

theorem sameGoverned_countPublication (g : Governor) (e : ThermalEvidence) :
    SameGoverned g (g.countPublication e) := by
  unfold countPublication
  split
  · exact .refl g
  · split
    · exact .refl g
    · exact ⟨rfl, rfl, rfl, rfl, rfl, rfl, rfl, fun _ _ h => h⟩

theorem refreshDomain_writes (e : ThermalEvidence) (g : Governor) (domain : ThermalDomainId) :
    Writes put g (refreshDomain e g domain) := by
  unfold refreshDomain
  split
  · exact .refl
  · exact .trans (g.sameGoverned_setHistory domain _).writes (recomputeDomain_writes _ domain)

theorem commitEvidence_writes (g : Governor) (e : ThermalEvidence)
    (hstructure : validateEvidenceStructure e = .ok ())
    (hfences : runChecks (g.publishChecks e) = .ok ()) : Writes put g (g.commitEvidence e).1 := by
  have haccepted : Writes put g ((g.acceptEvidence e).countPublication e) :=
    (g.acceptEvidence_writes e hstructure hfences).trans (sameGoverned_countPublication _ e).writes
  unfold commitEvidence
  generalize (g.acceptEvidence e).countPublication e = accepted at haccepted ⊢
  have hrefreshed : Writes put accepted
      ((accepted.affectedDomains e).foldl (refreshDomain e) accepted) :=
    foldl_writes (refreshDomain_writes e) accepted _
  dsimp only
  exact (haccepted.trans hrefreshed).trans
    ((recomputeDomains_writes _ _).trans (sameGoverned_publishLocked _).writes)

theorem publishImpl_writes (g : Governor) (e : ThermalEvidence) :
    Writes put g (g.publishImpl e).1 := by
  refine publishImpl_rule (P := Writes put g) .refl fun haccepts => ?_
  obtain ⟨hstructure, hfences, -⟩ := accepts_eq_true.mp haccepts
  exact g.commitEvidence_writes e hstructure hfences

theorem publishIf_writes (g : Governor) (check : Check) (e : ThermalEvidence) :
    Writes put g (g.publishIf check e).1 :=
  publishIf_rule (P := Writes put g) .refl (g.publishImpl_writes e)

/-! ### Actions -/

theorem authorizeMitigation_writes (g : Governor) (domain : ThermalDomainId)
    (record : MitigationIntentRecord) (rationale : String) :
    Writes put g (g.authorizeMitigation domain record rationale).1 := by
  have hwrites : ∀ definition evaluated r, g.domains.find domain = some definition →
      g.evaluateLocked definition = (evaluated, r) → Writes put g evaluated := by
    intro definition evaluated r hfind heval
    have hevaluated : Writes put g (g.evaluateLocked definition).1 := g.evaluateLocked_writes hfind
    rwa [heval] at hevaluated
  refine authorizeMitigation_rule (P := Writes put g) .refl hwrites ?_
  intro definition policy evaluated e hfind _ heval
  refine (hwrites definition evaluated _ hfind heval).trans (SameGoverned.writes ?_)
  exact ⟨rfl, rfl, rfl, rfl, rfl, rfl, rfl, fun _ _ h => h⟩

theorem authorizeDerating_writes (g : Governor) (domain : ThermalDomainId)
    (record : MitigationIntentRecord) (rationale : String) :
    Writes put g (g.authorizeDerating domain record rationale).1 := by
  have hwrites : Writes put g (g.evaluateDomain domain).1 := g.evaluateAndStore_writes domain
  exact authorizeDerating_rule (P := Writes put g) hwrites
    fun demanded => hwrites.trans (authorizeMitigation_writes _ domain demanded rationale)

/-- Writing one action back and publishing it. -/
theorem sameGoverned_putAction_publish (g : Governor) (id : ActionId) (action : ThermalAction) :
    SameGoverned g (publishLocked (g.putAction id action)) :=
  (g.sameGoverned_putAction id action).trans (sameGoverned_publishLocked _)

theorem sameGoverned_recordActionDispatch (g : Governor) (id : ActionId) :
    SameGoverned g (g.recordActionDispatch id).1 := by
  refine recordActionDispatch_rule (P := SameGoverned g) (.refl g)
    (g.sameGoverned_putAction_publish id) fun action => ?_
  refine .trans ?_ (sameGoverned_publishLocked _)
  refine ⟨rfl, rfl, rfl, rfl, rfl, rfl, rfl, fun input e h => ?_⟩
  rcases List.mem_cons.mp h with hnew | hold
  · cases hnew
  · exact hold

theorem sameGoverned_recordActionAck (g : Governor) (ack : ActionAck) :
    SameGoverned g (g.recordActionAck ack).1 :=
  recordActionAck_rule (P := SameGoverned g) (.refl g)
    (g.sameGoverned_putAction_publish ack.actionId)

theorem sameGoverned_recordActionResult (g : Governor) (result : ActionResult) :
    SameGoverned g (g.recordActionResult result).1 :=
  recordActionResult_rule (P := SameGoverned g) (.refl g)
    (g.sameGoverned_putAction_publish result.actionId)

theorem sameGoverned_commitVerification (g : Governor) (id : ActionId) (action : ThermalAction)
    (verified : ActionVerification) :
    SameGoverned g (g.commitVerification id action verified).1 :=
  ⟨rfl, rfl, rfl, rfl, rfl, rfl, rfl, fun _ _ h => h⟩

theorem verifyCommit_writes (g : Governor) (id : ActionId) (fresh : ThermalEvidence) :
    Writes put g (g.verifyCommit id fresh).1 := by
  have hwrites : ∀ (action : ThermalAction) definition evaluated r,
      g.domains.find action.authority.domain = some definition →
      g.evaluateLocked definition = (evaluated, r) → Writes put g evaluated := by
    intro action definition evaluated r hfind heval
    have hevaluated : Writes put g (g.evaluateLocked definition).1 :=
      g.evaluateLocked_writes hfind
    rwa [heval] at hevaluated
  refine verifyCommit_rule (P := Writes put g) .refl hwrites ?_
  intro action definition before evaluated after verified _ hfind heval _
  have hevaluated := hwrites action definition evaluated _ hfind heval
  obtain ⟨policy, hpolicy, rfl, rfl⟩ := evaluateLocked_eq_ok heval
  -- noted, then committed to the action, then stored
  have hkept := sameGoverned_commitVerification (g.note (.evaluated
    (g.evaluation definition policy).1 (g.evaluation definition policy).2)) id action verified
  refine hevaluated.trans (hkept.writes.trans ?_)
  refine Writes.after ?_ (sameGoverned_publishLocked _).writes
  refine .record _ action.authority.domain definition.id definition
    (g.evaluation definition policy).1 _ ?_ (.inr rfl) ?_
  · rw [hkept.domains]
    exact hfind
  · exact List.mem_cons_self

theorem verifyAction_writes (g : Governor) (id : ActionId) (fresh : ThermalEvidence) :
    Writes put g (g.verifyAction id fresh).1 := by
  have hwrites : Writes put g (g.publishTemperature fresh).1 := g.publishImpl_writes fresh
  unfold verifyAction
  split
  · rename_i hpublish
    rwa [hpublish] at hwrites
  · rename_i published receipt hpublish
    rw [hpublish] at hwrites
    exact hwrites.trans (published.verifyCommit_writes id fresh)

theorem sameGoverned_cancelAction (g : Governor) (id : ActionId) (reason : String) :
    SameGoverned g (g.cancelAction id reason).1 :=
  cancelAction_rule (P := SameGoverned g) (.refl g) (g.sameGoverned_putAction id)
    (g.sameGoverned_putAction_publish id)

/-! ### Restart and shutdown -/

theorem putPolicies_writes (g : Governor) (policies : List ThermalPolicy)
    (hput : ∀ policy ∈ policies, put policy) :
    Writes put g { g with policies := policies.foldl (fun t p => t.insert p.id p) g.policies } := by
  induction policies generalizing g with
  | nil => exact .refl
  | cons policy rest ih =>
    obtain ⟨hpolicy, hrest⟩ := List.forall_mem_cons.mp hput
    exact .after (.putPolicy g policy hpolicy)
      (ih { g with policies := g.policies.insert policy.id policy } hrest)

theorem putDevices_writes (g : Governor) (devices : List DeviceRegistration) :
    Writes put g
      { g with devices := devices.foldl (fun t d => t.insert d.device d) g.devices } := by
  induction devices generalizing g with
  | nil => exact .refl
  | cons registration rest ih =>
    exact .after (.putDevice g registration.device registration (.inl rfl))
      (ih { g with devices := g.devices.insert registration.device registration })

theorem restoreConfiguration_writes (g : Governor) (file : DurableState)
    (hput : ∀ policy ∈ file.policies, put policy) :
    Writes put g (g.restoreConfiguration file) := by
  refine .trans (g.putPolicies_writes file.policies hput) ?_
  refine .trans (putDevices_writes _ file.devices) (SameGoverned.writes ?_)
  exact ⟨rfl, rfl, rfl, rfl, rfl, rfl, rfl, fun _ _ h => h⟩

theorem sameGoverned_restoreActions (g : Governor) (actions : List ThermalAction) :
    SameGoverned g (actions.foldl restoreAction g) := by
  induction actions generalizing g with
  | nil => exact .refl g
  | cons action rest ih =>
    refine .trans ?_ (ih (g.restoreAction action))
    refine ⟨rfl, rfl, rfl, rfl, rfl, rfl, rfl, fun input e h => ?_⟩
    rcases List.mem_cons.mp h with hnew | hold
    · cases hnew
    · exact hold

theorem sameGoverned_restoreRecords (g : Governor) (file : DurableState) :
    SameGoverned g (g.restoreRecords file) := by
  have hactions := sameGoverned_restoreActions { g with history := file.transitions } file.actions
  exact ⟨hactions.config, hactions.policies, hactions.devices, hactions.domains,
    hactions.couplings, hactions.evidence, hactions.evaluations, hactions.evaluated⟩

theorem discardDynamicState_writes (g : Governor) : Writes put g (discardDynamicState g) := by
  refine .after (.forget g) (SameGoverned.writes ?_)
  refine ⟨rfl, rfl, rfl, rfl, rfl, rfl, rfl, fun input e h => ?_⟩
  rcases List.mem_cons.mp h with hnew | hold
  · cases hnew
  · exact hold

theorem restore_writes (g : Governor) (file : DurableState)
    (hput : ∀ policy ∈ file.policies, put policy) : Writes put g (g.restore file).1 := by
  refine restore_rule (I := Writes put g) (J := fun r => Writes put g r.1)
    (g.restoreConfiguration_writes file hput) (fun g₁ definition hcheck h => ?_)
    (fun g₁ relation hsource hdestination h => ?_) (fun _ _ h => h) fun g₂ h => ?_
  · exact .trans (h.tail (.storeDomain g₁ definition (.inl hcheck)))
      (sameGoverned_openHistory _ definition.id).writes
  · exact h.tail (.addCoupling g₁ relation hsource hdestination)
  · have hdiscarded : Writes put g₂ (discardDynamicState (g₂.restoreRecords file)) :=
      (g₂.sameGoverned_restoreRecords file).writes.trans (discardDynamicState_writes _)
    refine (h.trans hdiscarded).trans ?_
    exact .trans (sameGoverned_advanceTopology _).writes (recomputeAll_publish_writes _)

theorem loadDurable_writes (g : Governor) (file : Option (Result DurableState))
    (hput : g.config.durablePath.isEmpty = false → ∀ state policy, file = some (.ok state) →
      policy ∈ state.policies → put policy) :
    Writes put g (g.loadDurable file).1 := by
  rcases g.fst_loadDurable file with heq | ⟨state, hpath, rfl, heq⟩
  · rw [heq]
  · rw [heq]
    exact g.restore_writes state fun policy => hput hpath state policy rfl

theorem sameGoverned_shutdown (g : Governor) : SameGoverned g g.shutdown.1 := by
  unfold shutdown
  split
  · exact .refl g
  · exact ⟨rfl, rfl, rfl, rfl, rfl, rfl, rfl, fun _ _ h => h⟩

/-! ### All operations -/

/-- The policies that an operation may put in. -/
def Puts (g : Governor) : Operation → ThermalPolicy → Prop
  | .setPolicy stored, policy => policy = stored ∧ validatePolicy policy = .ok ()
  | .loadDurable (some (.ok file)), policy =>
    g.config.durablePath.isEmpty = false ∧ policy ∈ file.policies
  | _, _ => False

/-- **Every operation is a sequence of writes.** -/
theorem apply_writes (g : Governor) (op : Operation)
    (hput : ∀ policy, g.Puts op policy → put policy) : Writes put g (g.apply op) := by
  cases op with
  | tick now => exact SameGoverned.writes ⟨rfl, rfl, rfl, rfl, rfl, rfl, rfl, fun _ _ h => h⟩
  | setClock clock =>
    cases clock with
    | none => exact .refl
    | some now =>
      rw [apply, setClock]
      split
      · exact .refl
      · exact SameGoverned.writes ⟨rfl, rfl, rfl, rfl, rfl, rfl, rfl, fun _ _ h => h⟩
  | registerDevice registration => exact g.registerDevice_writes registration
  | publishCapabilities device generation capabilities =>
    exact g.publishCapabilities_writes device generation capabilities
  | registerThermalDomain definition => exact g.registerThermalDomain_writes definition
  | updateThermalDomain definition => exact g.updateThermalDomain_writes definition
  | registerCoupling relation => exact g.registerCoupling_writes relation
  | removeCoupling id => exact g.removeCoupling_writes id
  | setPolicy policy => exact g.setPolicy_writes policy fun hvalid => hput policy ⟨rfl, hvalid⟩
  | registerWorker worker boot label => exact g.registerWorker_writes worker boot label
  | workerHeartbeat worker boot => exact g.workerHeartbeat_writes worker boot
  | noteWorkerDeath worker boot => exact g.noteWorkerDeath_writes worker boot
  | publishTemperature e => exact g.publishImpl_writes e
  | publishThrottleEvidence e => exact g.publishIf_writes _ e
  | publishCoolingEvidence e => exact g.publishIf_writes _ e
  | publishNodeTemperature e => exact g.publishIf_writes _ e
  | publishRackTemperature e => exact g.publishIf_writes _ e
  | evaluateDomain domain => exact g.evaluateAndStore_writes domain
  | evaluateDevice device =>
    rw [apply, evaluateDevice]
    split
    · exact .refl
    · split
      · exact .refl
      · exact g.evaluateAndStore_writes _
  | evaluateAdmission request =>
    rw [apply, evaluateAdmission]
    split
    · exact .refl
    · rename_i definition hfind
      split
      · exact .refl
      · split
        · exact .refl
        · split
          · exact .refl
          · have hwrites : Writes put g (g.evaluateLocked definition).1 :=
              g.evaluateLocked_writes hfind
            split
            · rename_i heval
              rwa [heval] at hwrites
            · rename_i heval
              rwa [heval] at hwrites
  | authorizeRecovery domain => exact g.authorizeRecovery_writes domain
  | revokeRecovery domain => exact g.revokeRecovery_writes domain
  | authorizeMitigation domain record rationale =>
    exact g.authorizeMitigation_writes domain record rationale
  | authorizeDerating domain record rationale =>
    exact g.authorizeDerating_writes domain record rationale
  | recordActionDispatch id => exact (g.sameGoverned_recordActionDispatch id).writes
  | recordActionAck ack => exact (g.sameGoverned_recordActionAck ack).writes
  | recordActionResult result => exact (g.sameGoverned_recordActionResult result).writes
  | verifyAction id fresh => exact g.verifyAction_writes id fresh
  | verifyCommit id fresh => exact g.verifyCommit_writes id fresh
  | cancelAction id reason => exact (g.sameGoverned_cancelAction id reason).writes
  | loadDurable file =>
    exact g.loadDurable_writes file fun hpath state policy hfile hmem => hput policy (by
      rw [hfile]
      exact ⟨hpath, hmem⟩)
  | shutdown => exact g.sameGoverned_shutdown.writes

/-- **What every write preserves, every run preserves**, the writes of its policies meeting a
condition. -/
theorem invariant_of_writesUnder {I : Governor → Prop} {allowed : Governor → Operation → Prop}
    (hrun : RunsUnder allowed g g')
    (hput : ∀ g op policy, allowed g op → Puts g op policy → put policy)
    (hstep : ∀ g g', Write put g g' → I g → I g') (h₀ : I g) : I g' :=
  RunUnder.invariant hrun h₀ fun g op hg hallowed =>
    (g.apply_writes op fun policy => hput g op policy hallowed).invariant hstep hg

theorem invariant_of_writes {I : Governor → Prop} (hrun : Runs g g')
    (hstep : ∀ g g', Write (fun _ => True) g g' → I g → I g') (h₀ : I g) : I g' :=
  invariant_of_writesUnder hrun (fun _ _ _ _ _ => trivial) hstep h₀

end Governor

end ThermalGovernor
