import ThermalGovernor.Governed.Registered

/-!
# Generations never move backwards

Every fence of the coordinator compares a generation somebody holds with the one in force
(`Fences`).  An operation other than a load either leaves a counter as it is, advances it
by one, or adopts an observed one that is larger; a device, a domain, a policy or a worker
is written over by one of the same or a later generation.  So as long as no counter is at
its last value, nothing that fences moves backwards (`notBackwards_apply`).
-/

namespace ThermalGovernor

open Lib

/-- What the fences of the coordinator compare with. -/
structure Fences where
  epoch : CoordinatorEpoch
  policyGeneration : ThermalPolicyGeneration
  topologyGeneration : TopologyGeneration
  capabilityGeneration : CapabilityGeneration
  actionGeneration : ActionGeneration
  telemetryGeneration : TelemetryGeneration
  verificationGeneration : VerificationGeneration
  recoveryGeneration : Nat
  devices : Table DeviceId DeviceRegistration
  domains : Table ThermalDomainId ThermalDomainDefinition
  policies : Table ThermalPolicyId ThermalPolicy
  workers : Table WorkerId WorkerRecord

/-- No generation of the second is earlier than it is in the first. -/
structure Fences.NotBackwards (f f' : Fences) : Prop where
  epoch : f.epoch ≤ f'.epoch
  policyGeneration : f.policyGeneration ≤ f'.policyGeneration
  topologyGeneration : f.topologyGeneration ≤ f'.topologyGeneration
  capabilityGeneration : f.capabilityGeneration ≤ f'.capabilityGeneration
  actionGeneration : f.actionGeneration ≤ f'.actionGeneration
  telemetryGeneration : f.telemetryGeneration ≤ f'.telemetryGeneration
  verificationGeneration : f.verificationGeneration ≤ f'.verificationGeneration
  recoveryGeneration : f.recoveryGeneration ≤ f'.recoveryGeneration
  devices : Table.Grows DeviceRegistration.generation f.devices f'.devices
  domains : Table.Grows ThermalDomainDefinition.generation f.domains f'.domains
  policies : Table.Grows PolicyOver.generation f.policies f'.policies
  workers : Table.Grows WorkerRecord.boot f.workers f'.workers

/-- No counter is at its last value, so none starts again when it is advanced. -/
structure Fences.Below (f : Fences) : Prop where
  policyGeneration : f.policyGeneration + 1 < wordSize
  topologyGeneration : f.topologyGeneration + 1 < wordSize
  capabilityGeneration : f.capabilityGeneration + 1 < wordSize
  actionGeneration : f.actionGeneration + 1 < wordSize
  verificationGeneration : f.verificationGeneration + 1 < wordSize
  recoveryGeneration : f.recoveryGeneration + 1 < wordSize

namespace Fences.NotBackwards

variable {f f' f'' : Fences}

theorem refl (f : Fences) : f.NotBackwards f :=
  ⟨le_rfl, le_rfl, le_rfl, le_rfl, le_rfl, le_rfl, le_rfl, le_rfl,
    .refl _, .refl _, .refl _, .refl _⟩

theorem of_eq (h : f' = f) : f.NotBackwards f' := h ▸ .refl f

theorem trans (h : f.NotBackwards f') (h' : f'.NotBackwards f'') : f.NotBackwards f'' :=
  ⟨h.epoch.trans h'.epoch, h.policyGeneration.trans h'.policyGeneration,
    h.topologyGeneration.trans h'.topologyGeneration,
    h.capabilityGeneration.trans h'.capabilityGeneration,
    h.actionGeneration.trans h'.actionGeneration,
    h.telemetryGeneration.trans h'.telemetryGeneration,
    h.verificationGeneration.trans h'.verificationGeneration,
    h.recoveryGeneration.trans h'.recoveryGeneration,
    h.devices.trans h'.devices,
    h.domains.trans h'.domains,
    h.policies.trans h'.policies,
    h.workers.trans h'.workers⟩

end Fences.NotBackwards

namespace Governor

open Fences

variable {g g' : Governor}

def fences (g : Governor) : Fences where
  epoch := g.epoch
  policyGeneration := g.policyGeneration
  topologyGeneration := g.topologyGeneration
  capabilityGeneration := g.capabilityGeneration
  actionGeneration := g.actionGeneration
  telemetryGeneration := g.telemetryGeneration
  verificationGeneration := g.verificationGeneration
  recoveryGeneration := g.recoveryGeneration
  devices := g.devices
  domains := g.domains.definitions
  policies := g.policies
  workers := g.workers

theorem le_advance {current : Nat} (h : current + 1 < wordSize) : current ≤ advance current := by
  rw [advance_of_lt h]
  exact Nat.le_succ current

/-! ### What leaves the fences as they are -/

theorem SameExceptEvaluations.fences (h : SameExceptEvaluations g g') : g'.fences = g.fences := by
  obtain ⟨_, _, _, _, rfl⟩ := h
  rfl

@[simp] theorem fences_publishLocked (g : Governor) : g.publishLocked.fences = g.fences := rfl

@[simp] theorem fences_setHistory (g : Governor) (domain : ThermalDomainId)
    (history : RecoveryHistory) : (g.setHistory domain history).fences = g.fences := rfl

@[simp] theorem fences_recomputeDomain (g : Governor) (domain : ThermalDomainId) :
    (g.recomputeDomain domain).fences = g.fences := (g.recomputeDomain_same domain).fences

@[simp] theorem fences_recomputeDomains (g : Governor) (domains : List ThermalDomainId) :
    (g.recomputeDomains domains).fences = g.fences := (g.recomputeDomains_same domains).fences

@[simp] theorem fences_recomputeAllDomains (g : Governor) :
    g.recomputeAllDomains.fences = g.fences := g.recomputeAllDomains_same.fences

@[simp] theorem fences_recordTransition (g : Governor) (domain : ThermalDomainId)
    (generation : ThermalDomainGeneration) (e : ThermalEvaluation) :
    (g.recordTransition domain generation e).fences = g.fences :=
  (g.recordTransition_same domain generation e).fences

@[simp] theorem fences_evaluateDomain (g : Governor) (domain : ThermalDomainId) :
    (g.evaluateDomain domain).1.fences = g.fences := (g.evaluateDomain_same domain).fences

theorem fences_advanceTopology (g : Governor) : g.advanceTopology.fences =
    { g.fences with topologyGeneration := advance g.fences.topologyGeneration } := rfl

@[simp] theorem fences_refreshDomain (e : ThermalEvidence) (g : Governor)
    (domain : ThermalDomainId) : (refreshDomain e g domain).fences = g.fences := by
  unfold refreshDomain
  split
  · rfl
  · rw [fences_recomputeDomain, fences_setHistory]

/-! ### Configuration -/

theorem notBackwards_registerDevice (hg : g.fences.Below) (registration : DeviceRegistration) :
    g.fences.NotBackwards (g.registerDevice registration).1.fences := by
  unfold registerDevice
  split
  · exact .refl _
  · rename_i hchecks
    rw [fences_publishLocked, fences_recomputeAllDomains]
    rw [runChecks_eq_ok] at hchecks
    simp only [deviceChecks, List.forall_mem_cons] at hchecks
    have hlater : (g.devices.lookup registration.device).all (fun held =>
        held.generation ≤ registration.generation) = true := hchecks.2.2.2.1
    refine { NotBackwards.refl g.fences with
      capabilityGeneration := le_advance hg.capabilityGeneration
      devices := .insert fun held hheld => ?_ }
    have hheld' : g.devices.lookup registration.device = some held := hheld
    rw [hheld', Option.all_some, decide_eq_true_eq] at hlater
    exact hlater

theorem notBackwards_publishCapabilities (hg : g.fences.Below) (device : DeviceId)
    (generation : DeviceGeneration) (capabilities : CapabilitySet) :
    g.fences.NotBackwards (g.publishCapabilities device generation capabilities).1.fences := by
  unfold publishCapabilities
  split
  · exact .refl _
  · rename_i held hheld
    split
    · exact .refl _
    · rw [fences_publishLocked, fences_recomputeAllDomains]
      refine { NotBackwards.refl g.fences with
        capabilityGeneration := le_advance hg.capabilityGeneration
        devices := .insert fun held' hheld' => ?_ }
      obtain rfl := Option.some.inj (hheld.symm.trans hheld')
      exact le_rfl

theorem notBackwards_registerThermalDomain (hg : g.fences.Below)
    (definition : ThermalDomainDefinition) :
    g.fences.NotBackwards (g.registerThermalDomain definition).1.fences := by
  unfold registerThermalDomain
  split
  · exact .refl _
  · split
    · exact .refl _
    · rename_i domains hadd
      obtain ⟨hcheck, rfl⟩ := DomainRegistry.add_eq_ok hadd
      have hnew := (DomainRegistry.checkAdd_eq_ok.mp hcheck).new
      rw [fences_publishLocked, fences_advanceTopology, fences_recomputeDomain]
      exact { NotBackwards.refl g.fences with
        topologyGeneration := le_advance hg.topologyGeneration
        domains := .insert fun held hheld => by
          have hheld' : g.domains.find definition.id = some held := hheld
          rw [hnew] at hheld'
          cases hheld' }

theorem notBackwards_updateThermalDomain (hg : g.fences.Below)
    (definition : ThermalDomainDefinition) :
    g.fences.NotBackwards (g.updateThermalDomain definition).1.fences := by
  unfold updateThermalDomain
  split
  · exact .refl _
  · rename_i domains hupdate
    obtain ⟨hcheck, rfl⟩ := DomainRegistry.update_eq_ok hupdate
    rw [fences_publishLocked, fences_advanceTopology, fences_recomputeDomain]
    refine { NotBackwards.refl g.fences with
      topologyGeneration := le_advance hg.topologyGeneration
      domains := .insert fun held hheld => ?_ }
    have hheld' : g.domains.find definition.id = some held := hheld
    rw [DomainRegistry.checkUpdate, hheld'] at hcheck
    dsimp only at hcheck
    rw [DomainRegistry.ite_failure_eq_ok] at hcheck
    exact (not_le.mp hcheck.1).le

theorem notBackwards_registerCoupling (hg : g.fences.Below) (relation : CouplingRelation) :
    g.fences.NotBackwards (g.registerCoupling relation).1.fences := by
  unfold registerCoupling
  split
  · exact .refl _
  · rw [fences_publishLocked, fences_advanceTopology, fences_recomputeAllDomains]
    exact { NotBackwards.refl g.fences with
      topologyGeneration := le_advance hg.topologyGeneration }

theorem notBackwards_removeCoupling (hg : g.fences.Below) (id : CouplingId) :
    g.fences.NotBackwards (g.removeCoupling id).1.fences := by
  unfold removeCoupling
  split
  · exact .refl _
  · rw [fences_publishLocked, fences_advanceTopology, fences_recomputeAllDomains]
    exact { NotBackwards.refl g.fences with
      topologyGeneration := le_advance hg.topologyGeneration }

theorem notBackwards_setPolicy (hg : g.fences.Below) (policy : ThermalPolicy) :
    g.fences.NotBackwards (g.setPolicy policy).1.fences := by
  unfold setPolicy
  split
  · exact .refl _
  · split
    · exact .refl _
    · rename_i hlater
      dsimp only
      rw [fences_publishLocked, fences_recomputeAllDomains]
      refine { NotBackwards.refl g.fences with
        policyGeneration := le_advance hg.policyGeneration
        policies := .insert fun held hheld => ?_ }
      have hheld' : g.policies.lookup policy.id = some held := hheld
      rw [hheld', Option.any_some, decide_eq_true_eq] at hlater
      exact (not_le.mp hlater).le

/-! ### Workers -/

theorem fences_retireBootLocked (g : Governor) (worker : WorkerId) (boot : WorkerBootId) :
    (g.retireBootLocked worker boot).fences =
      { g.fences with
        workers := Table.mapValues (fun _ r => r.retire worker boot) g.workers } := rfl

theorem notBackwards_retireBootLocked (g : Governor) (worker : WorkerId) (boot : WorkerBootId) :
    g.fences.NotBackwards (g.retireBootLocked worker boot).fences := by
  rw [fences_retireBootLocked]
  refine { NotBackwards.refl g.fences with workers := .mapValues (fun _ r => ?_) g.workers }
  rw [WorkerRecord.retire_boot]

/-- An entry of the worker table is written over by one of no earlier boot. -/
theorem notBackwards_putWorker (g : Governor) (worker : WorkerId) (record : WorkerRecord)
    (h : ∀ held, g.workers.lookup worker = some held → held.boot ≤ record.boot) :
    g.fences.NotBackwards { g with workers := g.workers.insert worker record }.fences :=
  { NotBackwards.refl g.fences with workers := .insert h }

theorem notBackwards_keepAlive {worker : WorkerId} {held record : WorkerRecord}
    (hheld : g.workers.lookup worker = some held) (hboot : held.boot = record.boot) :
    g.fences.NotBackwards (g.keepAlive worker held record).fences := by
  have hput : g.fences.NotBackwards
      { g with workers := g.workers.insert worker { record with alive := true } }.fences := by
    refine notBackwards_putWorker g worker _ fun held' hheld' => ?_
    obtain rfl := Option.some.inj (hheld.symm.trans hheld')
    exact hboot.le
  unfold keepAlive
  dsimp only
  split
  · exact hput
  · exact hput

theorem notBackwards_enrol {worker : WorkerId} {boot : WorkerBootId} (label : String)
    (h : ∀ held, g.workers.lookup worker = some held → held.boot ≤ boot) :
    g.fences.NotBackwards (g.enrol worker boot label).1.fences := by
  unfold enrol
  split
  · exact .refl _
  · dsimp only
    rw [fences_publishLocked, fences_recomputeAllDomains]
    exact notBackwards_putWorker g worker _ h

theorem notBackwards_registerWorker (g : Governor) (worker : WorkerId) (boot : WorkerBootId)
    (label : String) : g.fences.NotBackwards (g.registerWorker worker boot label).1.fences := by
  refine registerWorker_rule (P := fun g' => g.fences.NotBackwards g'.fences) (.refl _)
    (fun _ hnone => ?_) (fun held hheld _ => ?_) fun held _ hheld hlater => ?_
  · refine notBackwards_enrol label fun held hheld => ?_
    rw [hnone] at hheld
    cases hheld
  · rw [fences_publishLocked]
    exact notBackwards_keepAlive hheld rfl
  · -- the earlier boot is retired first, and keeps its entry
    refine (g.notBackwards_retireBootLocked worker held.boot).trans ?_
    refine notBackwards_enrol label fun retired hretired => ?_
    rw [boot_retireBootLocked hheld hretired]
    exact le_of_lt hlater

theorem notBackwards_workerHeartbeat (g : Governor) (worker : WorkerId) (boot : WorkerBootId) :
    g.fences.NotBackwards (g.workerHeartbeat worker boot).1.fences := by
  unfold workerHeartbeat
  split
  · exact .refl _
  · rename_i held hheld
    split
    · exact .refl _
    · exact notBackwards_keepAlive hheld rfl

theorem notBackwards_noteWorkerDeath (g : Governor) (worker : WorkerId) (boot : WorkerBootId) :
    g.fences.NotBackwards (g.noteWorkerDeath worker boot).1.fences := by
  unfold noteWorkerDeath
  split
  · exact .refl _
  · rename_i held hheld
    split
    · exact .refl _
    · rw [fences_publishLocked, fences_recomputeAllDomains]
      refine .trans (notBackwards_putWorker g worker { held with alive := false } ?_)
        (notBackwards_retireBootLocked _ worker boot)
      intro held' hheld'
      obtain rfl := Option.some.inj (hheld.symm.trans hheld')
      exact le_rfl

/-! ### Evidence -/

theorem fences_commitEvidence (g : Governor) (e : ThermalEvidence) :
    (g.commitEvidence e).1.fences = ((g.acceptEvidence e).countPublication e).fences := by
  have hrefreshed : ∀ (domains : List ThermalDomainId) (t : Governor),
      (domains.foldl (refreshDomain e) t).fences = t.fences :=
    fun domains t => foldl_unchanged (fences_refreshDomain e) domains t
  unfold commitEvidence
  dsimp only
  rw [fences_publishLocked, fences_recomputeDomains, hrefreshed]

theorem notBackwards_commitEvidence (g : Governor) (e : ThermalEvidence) :
    g.fences.NotBackwards (g.commitEvidence e).1.fences := by
  have haccepted : g.fences.NotBackwards (g.acceptEvidence e).fences :=
    { NotBackwards.refl g.fences with telemetryGeneration := le_observe _ _ }
  have hcounted : (g.acceptEvidence e).fences.NotBackwards
      ((g.acceptEvidence e).countPublication e).fences := by
    unfold countPublication
    split
    · exact .refl _
    · split
      · exact .refl _
      · rename_i held hheld
        refine notBackwards_putWorker _ e.worker _ fun held' hheld' => ?_
        obtain rfl := Option.some.inj (hheld.symm.trans hheld')
        exact le_rfl
  rw [fences_commitEvidence]
  exact haccepted.trans hcounted

theorem notBackwards_publishImpl (g : Governor) (e : ThermalEvidence) :
    g.fences.NotBackwards (g.publishImpl e).1.fences :=
  publishImpl_rule (P := fun g' => g.fences.NotBackwards g'.fences) (.refl _)
    fun _ => notBackwards_commitEvidence g e

/-- A publication advances no counter. -/
theorem below_publishImpl (hg : g.fences.Below) (e : ThermalEvidence) :
    (g.publishImpl e).1.fences.Below := by
  have hcounted : ((g.acceptEvidence e).countPublication e).fences.Below := by
    have haccepted : (g.acceptEvidence e).fences.Below :=
      ⟨hg.policyGeneration, hg.topologyGeneration, hg.capabilityGeneration, hg.actionGeneration,
        hg.verificationGeneration, hg.recoveryGeneration⟩
    unfold countPublication
    split
    · exact haccepted
    · split
      · exact haccepted
      · exact ⟨hg.policyGeneration, hg.topologyGeneration, hg.capabilityGeneration,
          hg.actionGeneration, hg.verificationGeneration, hg.recoveryGeneration⟩
  refine publishImpl_rule (P := fun g' => g'.fences.Below) hg fun _ => ?_
  rw [fences_commitEvidence]
  exact hcounted

theorem notBackwards_publishIf (g : Governor) (check : Check) (e : ThermalEvidence) :
    g.fences.NotBackwards (g.publishIf check e).1.fences :=
  publishIf_rule (P := fun g' => g.fences.NotBackwards g'.fences) (.refl _)
    (notBackwards_publishImpl g e)

/-! ### Evaluations and recovery -/

theorem fences_evaluateDevice (g : Governor) (device : DeviceId) :
    (g.evaluateDevice device).1.fences = g.fences := by
  unfold evaluateDevice
  split
  · rfl
  · split
    · rfl
    · exact fences_evaluateDomain g _

theorem notBackwards_authorizeRecovery (hg : g.fences.Below) (domain : ThermalDomainId) :
    g.fences.NotBackwards (g.authorizeRecovery domain).1.fences := by
  unfold authorizeRecovery
  split
  · exact .refl _
  · rw [fences_publishLocked, fences_recomputeDomain]
    exact { NotBackwards.refl g.fences with
      recoveryGeneration := le_advance hg.recoveryGeneration }

theorem fences_revokeRecovery (g : Governor) (domain : ThermalDomainId) :
    (g.revokeRecovery domain).1.fences = g.fences := by
  unfold revokeRecovery
  split
  · rfl
  · rw [fences_publishLocked, fences_recomputeDomain]
    rfl

theorem fences_evaluateAdmission (g : Governor) (request : ThermalAdmissionRequest) :
    (g.evaluateAdmission request).1.fences = g.fences := by
  unfold evaluateAdmission
  split
  · rfl
  · split
    · rfl
    · split
      · rfl
      · split
        · rfl
        · split
          · rename_i heval
            exact (same_of_evaluateLocked heval).fences
          · rename_i heval
            exact (same_of_evaluateLocked heval).fences

/-! ### Actions -/

theorem fences_createAction (g : Governor) (domain : ThermalDomainId)
    (definition : ThermalDomainDefinition) (policy : ThermalPolicy) (e : ThermalEvaluation)
    (record : MitigationIntentRecord) (rationale : String) :
    (g.createAction domain definition policy e record rationale).1.fences =
      { g.fences with actionGeneration := advance g.fences.actionGeneration } := rfl

theorem fences_commitVerification (g : Governor) (id : ActionId) (action : ThermalAction)
    (verified : ActionVerification) :
    (g.commitVerification id action verified).1.fences =
      { g.fences with
        verificationGeneration := advance g.fences.verificationGeneration } := rfl

theorem notBackwards_authorizeMitigation (hg : g.fences.Below) (domain : ThermalDomainId)
    (record : MitigationIntentRecord) (rationale : String) :
    g.fences.NotBackwards (g.authorizeMitigation domain record rationale).1.fences := by
  refine authorizeMitigation_rule (P := fun g' => g.fences.NotBackwards g'.fences) (.refl _)
    (fun _ _ _ _ heval => .of_eq (same_of_evaluateLocked heval).fences) ?_
  intro definition policy t e _ _ heval
  have hsame : t.fences = g.fences := (same_of_evaluateLocked heval).fences
  rw [fences_createAction, hsame]
  exact { NotBackwards.refl g.fences with
    actionGeneration := le_advance hg.actionGeneration }

theorem notBackwards_authorizeDerating (hg : g.fences.Below) (domain : ThermalDomainId)
    (record : MitigationIntentRecord) (rationale : String) :
    g.fences.NotBackwards (g.authorizeDerating domain record rationale).1.fences := by
  have hsame : (g.evaluateDomain domain).1.fences = g.fences := fences_evaluateDomain g domain
  have hbelow : (g.evaluateDomain domain).1.fences.Below := hsame ▸ hg
  refine authorizeDerating_rule (P := fun g' => g.fences.NotBackwards g'.fences) (.of_eq hsame)
    fun demanded => ?_
  rw [← hsame]
  exact notBackwards_authorizeMitigation hbelow domain demanded rationale

theorem fences_recordActionDispatch (g : Governor) (id : ActionId) :
    (g.recordActionDispatch id).1.fences = g.fences :=
  recordActionDispatch_rule (P := fun g' => g'.fences = g.fences) rfl (fun _ => rfl) fun _ => rfl

theorem fences_recordActionAck (g : Governor) (ack : ActionAck) :
    (g.recordActionAck ack).1.fences = g.fences :=
  recordActionAck_rule (P := fun g' => g'.fences = g.fences) rfl fun _ => rfl

theorem fences_recordActionResult (g : Governor) (result : ActionResult) :
    (g.recordActionResult result).1.fences = g.fences :=
  recordActionResult_rule (P := fun g' => g'.fences = g.fences) rfl fun _ => rfl

theorem notBackwards_verifyCommit (hg : g.fences.Below) (id : ActionId)
    (fresh : ThermalEvidence) :
    g.fences.NotBackwards (g.verifyCommit id fresh).1.fences := by
  refine verifyCommit_rule (P := fun g' => g.fences.NotBackwards g'.fences) (.refl _)
    (fun _ _ _ _ _ heval => .of_eq (same_of_evaluateLocked heval).fences) ?_
  intro action definition before t after verified _ _ heval _
  have hsame : t.fences = g.fences := (same_of_evaluateLocked heval).fences
  rw [fences_publishLocked, fences_recordTransition, fences_commitVerification, hsame]
  exact { NotBackwards.refl g.fences with
    verificationGeneration := le_advance hg.verificationGeneration }

theorem fences_cancelAction (g : Governor) (id : ActionId) (reason : String) :
    (g.cancelAction id reason).1.fences = g.fences :=
  cancelAction_rule (P := fun g' => g'.fences = g.fences) rfl (fun _ => rfl) fun _ => rfl

theorem fences_setClock (g : Governor) (clock : Option SteadyTimePoint) :
    (g.setClock clock).1.fences = g.fences := by
  unfold setClock
  split
  · rfl
  · split <;> rfl

theorem fences_shutdown (g : Governor) : g.shutdown.1.fences = g.fences := by
  unfold shutdown
  split <;> rfl

/-- **No operation but a load moves a generation backwards**, whether it succeeds or not. -/
theorem notBackwards_apply (g : Governor) (hg : g.fences.Below) (op : Operation)
    (hload : ∀ file, op ≠ .loadDurable file) : g.fences.NotBackwards (g.apply op).fences := by
  cases op with
  | tick now => exact .refl _
  | setClock clock => exact .of_eq (fences_setClock g clock)
  | registerDevice registration => exact notBackwards_registerDevice hg registration
  | publishCapabilities device generation capabilities =>
    exact notBackwards_publishCapabilities hg device generation capabilities
  | registerThermalDomain definition => exact notBackwards_registerThermalDomain hg definition
  | updateThermalDomain definition => exact notBackwards_updateThermalDomain hg definition
  | registerCoupling relation => exact notBackwards_registerCoupling hg relation
  | removeCoupling id => exact notBackwards_removeCoupling hg id
  | setPolicy policy => exact notBackwards_setPolicy hg policy
  | registerWorker worker boot label => exact notBackwards_registerWorker g worker boot label
  | workerHeartbeat worker boot => exact notBackwards_workerHeartbeat g worker boot
  | noteWorkerDeath worker boot => exact notBackwards_noteWorkerDeath g worker boot
  | publishTemperature e => exact notBackwards_publishImpl g e
  | publishThrottleEvidence e => exact notBackwards_publishIf g _ e
  | publishCoolingEvidence e => exact notBackwards_publishIf g _ e
  | publishNodeTemperature e => exact notBackwards_publishIf g _ e
  | publishRackTemperature e => exact notBackwards_publishIf g _ e
  | evaluateDomain domain => exact .of_eq (fences_evaluateDomain g domain)
  | evaluateDevice device => exact .of_eq (fences_evaluateDevice g device)
  | evaluateAdmission request => exact .of_eq (fences_evaluateAdmission g request)
  | authorizeRecovery domain => exact notBackwards_authorizeRecovery hg domain
  | revokeRecovery domain => exact .of_eq (fences_revokeRecovery g domain)
  | authorizeMitigation domain record rationale =>
    exact notBackwards_authorizeMitigation hg domain record rationale
  | authorizeDerating domain record rationale =>
    exact notBackwards_authorizeDerating hg domain record rationale
  | recordActionDispatch id => exact .of_eq (fences_recordActionDispatch g id)
  | recordActionAck ack => exact .of_eq (fences_recordActionAck g ack)
  | recordActionResult result => exact .of_eq (fences_recordActionResult g result)
  | verifyAction id fresh =>
    -- the record is published, then the verification is committed
    have hpublished := notBackwards_publishImpl g fresh
    have hbelow := below_publishImpl hg fresh
    rw [apply, verifyAction, publishTemperature]
    cases hpublish : g.publishImpl fresh with
    | mk t answer =>
      rw [hpublish] at hpublished hbelow
      cases answer with
      | error e => exact hpublished
      | ok receipt => exact hpublished.trans (notBackwards_verifyCommit hbelow id fresh)
  | verifyCommit id fresh => exact notBackwards_verifyCommit hg id fresh
  | cancelAction id reason => exact .of_eq (fences_cancelAction g id reason)
  | loadDurable file => exact absurd rfl (hload file)
  | shutdown => exact .of_eq (fences_shutdown g)

/-- A later default policy moves one counter on. -/
theorem notBackwards_newPolicy :
    (Deployment.after []).fences.NotBackwards ((Deployment.after []).apply
      (.setPolicy { PolicyOver.makeDefault with generation := 2 })).fences := by
  have hbelow : (Deployment.after []).fences.Below :=
    ⟨by decide +kernel, by decide +kernel, by decide +kernel, by decide +kernel,
      by decide +kernel, by decide +kernel⟩
  exact notBackwards_apply _ hbelow _ fun file hload => by cases hload

end Governor

end ThermalGovernor
