import ThermalGovernor.Ledger.Moves

/-!
# Every operation is a sequence of moves

One lemma for each operation of the coordinator: from the ledger of the state
before to the ledger of the state after there is a sequence of moves.  The guards
of the moves are read off the checks of the operation.  An operation that accepts a
record, revives an incarnation or restores an action asks `ok` for that event; the
others need nothing.
-/

namespace ThermalGovernor

open Lib Ledger

variable {ok : Ledger → Event → Prop}

namespace Governor

@[simp] theorem ledger_publishLocked (g : Governor) : g.publishLocked.ledger = g.ledger := rfl

/-! ### Evaluations -/

/-- An evaluation has the state and the recovery its input determines. -/
theorem evaluationOf_evaluation (g : Governor) (definition : ThermalDomainDefinition)
    (policy : ThermalPolicy) :
    EvaluationOf (g.evaluation definition policy).1 (g.evaluation definition policy).2 :=
  ⟨rfl, rfl⟩

theorem evaluateLocked_moves (g : Governor) (definition : ThermalDomainDefinition) :
    Moves ok g.ledger (g.evaluateLocked definition).1.ledger := by
  unfold evaluateLocked
  split
  · exact .refl
  · rename_i policy hpolicy
    exact .one (.evaluate g.ledger _ _ (g.evaluationOf_evaluation definition policy))

theorem ledger_recordTransition (g : Governor) (domain : ThermalDomainId)
    (generation : ThermalDomainGeneration) (e : ThermalEvaluation) :
    (g.recordTransition domain generation e).ledger = g.ledger := by
  unfold recordTransition
  dsimp only
  split <;> rfl

theorem moves_of_evaluateLocked {g g' : Governor} {definition : ThermalDomainDefinition}
    {r : Result ThermalEvaluation} (h : g.evaluateLocked definition = (g', r)) :
    Moves ok g.ledger g'.ledger := by
  have hmoves : Moves ok g.ledger (g.evaluateLocked definition).1.ledger :=
    g.evaluateLocked_moves definition
  rwa [h] at hmoves

theorem recomputeDomain_moves (g : Governor) (domain : ThermalDomainId) :
    Moves ok g.ledger (g.recomputeDomain domain).ledger := by
  unfold recomputeDomain
  split
  · exact .refl
  · rename_i definition hfind
    split
    · rename_i g' e heval
      rw [ledger_recordTransition]
      exact moves_of_evaluateLocked heval
    · rename_i g' e heval
      exact moves_of_evaluateLocked heval

/-- A loop is a sequence of moves when each of its steps is. -/
theorem foldl_moves {α : Type} {f : Governor → α → Governor}
    (hf : ∀ g a, Moves ok g.ledger (f g a).ledger) (g : Governor) (list : List α) :
    Moves ok g.ledger (list.foldl f g).ledger := by
  induction list generalizing g with
  | nil => exact .refl
  | cons a rest ih => exact (hf g a).trans (ih (f g a))

theorem recomputeDomains_moves (g : Governor) (domains : List ThermalDomainId) :
    Moves ok g.ledger (g.recomputeDomains domains).ledger :=
  foldl_moves recomputeDomain_moves g domains

theorem recomputeAllDomains_moves (g : Governor) :
    Moves ok g.ledger g.recomputeAllDomains.ledger := g.recomputeDomains_moves _

theorem evaluateAndStore_moves (g : Governor) (domain : ThermalDomainId) :
    Moves ok g.ledger (g.evaluateAndStore domain).1.ledger := by
  unfold evaluateAndStore
  split
  · exact .refl
  · rename_i definition hfind
    split
    · rename_i g' e heval
      exact moves_of_evaluateLocked heval
    · rename_i g' e heval
      rw [ledger_recordTransition]
      exact moves_of_evaluateLocked heval

theorem evaluateDevice_moves (g : Governor) (device : DeviceId) :
    Moves ok g.ledger (g.evaluateDevice device).1.ledger := by
  unfold evaluateDevice
  split
  · exact .refl
  · split
    · exact .refl
    · exact g.evaluateAndStore_moves _

theorem evaluateAdmission_moves (g : Governor) (request : ThermalAdmissionRequest) :
    Moves ok g.ledger (g.evaluateAdmission request).1.ledger := by
  unfold evaluateAdmission
  split
  · exact .refl
  · rename_i definition hfind
    split
    · exact .refl
    · split
      · exact .refl
      · split
        · exact .refl
        · split
          · rename_i g' e heval
            exact moves_of_evaluateLocked heval
          · rename_i g' e heval
            exact moves_of_evaluateLocked heval

/-! ### Configuration -/

theorem setClock_moves (g : Governor) (clock : Option SteadyTimePoint) :
    Moves ok g.ledger (g.setClock clock).1.ledger := by
  unfold setClock
  split
  · exact .refl
  · split
    · exact .refl
    · exact .refl

theorem registerDevice_moves (g : Governor) (registration : DeviceRegistration) :
    Moves ok g.ledger (g.registerDevice registration).1.ledger := by
  unfold registerDevice
  split
  · exact .refl
  · exact recomputeAllDomains_moves { g with
      devices := g.devices.insert registration.device registration
      capabilityGeneration := advance g.capabilityGeneration }

theorem publishCapabilities_moves (g : Governor) (device : DeviceId)
    (generation : DeviceGeneration) (capabilities : CapabilitySet) :
    Moves ok g.ledger (g.publishCapabilities device generation capabilities).1.ledger := by
  unfold publishCapabilities
  split
  · exact .refl
  · rename_i held hheld
    split
    · exact .refl
    · exact recomputeAllDomains_moves { g with
        devices := g.devices.insert device { held with capabilities := capabilities }
        capabilityGeneration := advance g.capabilityGeneration }

theorem registerThermalDomain_moves (g : Governor) (definition : ThermalDomainDefinition) :
    Moves ok g.ledger (g.registerThermalDomain definition).1.ledger := by
  unfold registerThermalDomain
  split
  · exact .refl
  · split
    · exact .refl
    · rename_i domains hadd
      exact recomputeDomain_moves (openHistory { g with domains := domains } definition.id) _

theorem updateThermalDomain_moves (g : Governor) (definition : ThermalDomainDefinition) :
    Moves ok g.ledger (g.updateThermalDomain definition).1.ledger := by
  unfold updateThermalDomain
  split
  · exact .refl
  · rename_i domains hupdate
    exact recomputeDomain_moves { g with
      domains := domains
      invalidatedEvidence := g.invalidatedEvidence ∪ g.supersededKeys definition } _

theorem registerCoupling_moves (g : Governor) (relation : CouplingRelation) :
    Moves ok g.ledger (g.registerCoupling relation).1.ledger := by
  unfold registerCoupling
  split
  · exact .refl
  · exact recomputeAllDomains_moves { g with couplings := g.couplings.add relation }

theorem removeCoupling_moves (g : Governor) (id : CouplingId) :
    Moves ok g.ledger (g.removeCoupling id).1.ledger := by
  unfold removeCoupling
  split
  · exact .refl
  · rename_i couplings hremove
    exact recomputeAllDomains_moves { g with couplings := couplings }

theorem setPolicy_moves (g : Governor) (policy : ThermalPolicy) :
    Moves ok g.ledger (g.setPolicy policy).1.ledger := by
  unfold setPolicy
  split
  · exact .refl
  · split
    · exact .refl
    · exact recomputeAllDomains_moves { g with
        policies := g.policies.insert policy.id policy
        policyGeneration := advance g.policyGeneration }

theorem authorizeRecovery_moves (g : Governor) (domain : ThermalDomainId) :
    Moves ok g.ledger (g.authorizeRecovery domain).1.ledger := by
  unfold authorizeRecovery
  split
  · exact .refl
  · exact recomputeDomain_moves { g with
      recoveryGeneration := advance g.recoveryGeneration
      explicitRecovery := insert domain g.explicitRecovery } domain

theorem revokeRecovery_moves (g : Governor) (domain : ThermalDomainId) :
    Moves ok g.ledger (g.revokeRecovery domain).1.ledger := by
  unfold revokeRecovery
  split
  · exact .refl
  · exact recomputeDomain_moves { g with
      explicitRecovery := g.explicitRecovery.erase domain } domain

/-! ### Workers -/

/-- A retired action keeps its binding and ends, unless it is not concerned. -/
theorem settles_retire (a : ThermalAction) (worker : WorkerId) (boot : WorkerBootId)
    (now : SteadyTimePoint) : a.Settles (a.retire worker boot now) := by
  unfold ThermalAction.retire
  split_ifs
  · exact settles_refl a
  · exact settles_refl a
  · exact ⟨rfl, rfl, rfl, rfl, .inr (.inl rfl)⟩

theorem retireBootLocked_moves (g : Governor) {worker : WorkerId} {held : WorkerRecord}
    (hheld : g.workers.lookup worker = some held) :
    Moves ok g.ledger (g.retireBootLocked worker held.boot).ledger := by
  have hretire : Move ok g.ledger _ := .retire g.ledger worker held hheld
  refine (Moves.one hretire).tail (.settle _ _ ?_)
  exact settledInto_mapValues _ fun _ a _ => settles_retire a worker held.boot g.now

theorem keepAlive_moves (g : Governor) {worker : WorkerId} {held record : WorkerRecord}
    (hheld : g.workers.lookup worker = some held) (hworker : record.worker = held.worker)
    (hboot : record.boot = held.boot)
    (hok : held.alive = false → ok g.ledger (.revived worker held.boot)) :
    Moves ok g.ledger (g.keepAlive worker held record).ledger := by
  unfold keepAlive
  dsimp only
  split
  · rename_i halive
    exact .one (.touch g.ledger worker held { record with alive := true } hheld hworker hboot
      fun _ => halive)
  · rename_i hdead
    exact .one (.revive g.ledger worker held { record with alive := true }
      (hok (by simpa using hdead)) hheld hworker hboot)

theorem enrol_moves (g : Governor) (worker : WorkerId) (boot : WorkerBootId) (label : String)
    (hvalid : worker ≠ 0)
    (hboot : ∀ held, g.workers.lookup worker = some held → held.boot < boot) :
    Moves ok g.ledger (g.enrol worker boot label).1.ledger := by
  unfold enrol
  split
  · exact .refl
  · have henrol : Move ok g.ledger _ := .enrol g.ledger worker
      { worker := worker, boot := boot, label := label, alive := true,
        registeredAt := g.now, lastSeenAt := g.now } hvalid rfl hboot
    refine (Moves.one henrol).trans ?_
    exact recomputeAllDomains_moves { g with workers := g.workers.insert worker _ }

theorem registerWorker_moves (g : Governor) (worker : WorkerId) (boot : WorkerBootId)
    (label : String)
    (hok : ∀ held, g.workers.lookup worker = some held → held.boot = boot →
      held.alive = false → ok g.ledger (.revived worker boot)) :
    Moves ok g.ledger (g.registerWorker worker boot label).1.ledger := by
  refine registerWorker_rule (P := fun g' => Moves ok g.ledger g'.ledger) .refl
    (fun hworker hnone => ?_) (fun held hheld hsame => ?_) fun held hworker hheld hlater => ?_
  · apply g.enrol_moves worker boot label hworker
    intro held hheld
    rw [hnone] at hheld
    cases hheld
  · refine g.keepAlive_moves hheld rfl rfl fun hdead => ?_
    rw [hsame]
    exact hok held hheld hsame hdead
  · refine (g.retireBootLocked_moves hheld).trans ?_
    apply enrol_moves _ worker boot label hworker
    intro retired hretired
    -- the retirement changes no boot, so the new one is larger than the retired one
    rw [boot_retireBootLocked hheld hretired]
    exact hlater

theorem workerHeartbeat_moves (g : Governor) (worker : WorkerId) (boot : WorkerBootId)
    (hok : ∀ held, g.workers.lookup worker = some held → held.boot = boot →
      held.alive = false → ok g.ledger (.revived worker boot)) :
    Moves ok g.ledger (g.workerHeartbeat worker boot).1.ledger := by
  unfold workerHeartbeat
  split
  · exact .refl
  · rename_i held hheld
    split
    · exact .refl
    · rename_i hsame
      rw [not_not] at hsame
      refine g.keepAlive_moves hheld rfl rfl fun hdead => ?_
      rw [hsame]
      exact hok held hheld hsame hdead

theorem noteWorkerDeath_moves (g : Governor) (worker : WorkerId) (boot : WorkerBootId) :
    Moves ok g.ledger (g.noteWorkerDeath worker boot).1.ledger := by
  unfold noteWorkerDeath
  split
  · exact .refl
  · rename_i held hheld
    split
    · exact .refl
    · rename_i hsame
      rw [not_not] at hsame
      have hkill : Move ok g.ledger _ :=
        .touch g.ledger worker held { held with alive := false } hheld rfl rfl nofun
      refine (Moves.one hkill).trans ?_
      have hkilled : (Governor.workers { g with
          workers := g.workers.insert worker { held with alive := false } }).lookup worker =
          some { held with alive := false } := AList.lookup_insert g.workers
      rw [← hsame]
      exact (retireBootLocked_moves _ hkilled).trans (recomputeAllDomains_moves _)

/-! ### Evidence -/

theorem acceptEvidence_moves (g : Governor) (e : ThermalEvidence)
    (hok : ok g.ledger (.accepted e)) (hfence : g.ledger.Fenced e) (hlater : g.ledger.Later e) :
    Moves ok g.ledger (g.acceptEvidence e).ledger :=
  .one (.accept g.ledger e hok hfence hlater)

theorem countPublication_moves (g : Governor) (e : ThermalEvidence) :
    Moves ok g.ledger (g.countPublication e).ledger := by
  unfold countPublication
  split
  · exact .refl
  · split
    · exact .refl
    · rename_i held hheld
      exact .one (.touch g.ledger e.worker held
        { held with evidencePublished := held.evidencePublished + 1, lastSeenAt := g.now }
        hheld rfl rfl id)

theorem refreshDomain_moves (e : ThermalEvidence) (g : Governor) (domain : ThermalDomainId) :
    Moves ok g.ledger (refreshDomain e g domain).ledger := by
  unfold refreshDomain
  split
  · exact .refl
  · rename_i definition hfind
    exact recomputeDomain_moves (g.setHistory domain _) domain

theorem commitEvidence_moves (g : Governor) (e : ThermalEvidence)
    (hok : ok g.ledger (.accepted e)) (hfence : g.ledger.Fenced e) (hlater : g.ledger.Later e) :
    Moves ok g.ledger (g.commitEvidence e).1.ledger := by
  unfold commitEvidence
  have haccepted : Moves ok g.ledger ((g.acceptEvidence e).countPublication e).ledger :=
    (g.acceptEvidence_moves e hok hfence hlater).trans (countPublication_moves _ e)
  generalize (g.acceptEvidence e).countPublication e = accepted at haccepted ⊢
  have hrefreshed : Moves ok accepted.ledger
      ((accepted.affectedDomains e).foldl (refreshDomain e) accepted).ledger :=
    foldl_moves (refreshDomain_moves e) accepted _
  dsimp only
  rw [ledger_publishLocked]
  generalize (accepted.affectedDomains e).foldl (refreshDomain e) accepted = refreshed
    at hrefreshed ⊢
  exact haccepted.trans (hrefreshed.trans (recomputeDomains_moves _ _))

/-- A record that passed the fences is one of a live incarnation, or of none. -/
theorem fenced_of_publishChecks {g : Governor} {e : ThermalEvidence}
    (h : runChecks (g.publishChecks e) = .ok ()) : g.ledger.Fenced e := by
  rw [runChecks_eq_ok] at h
  intro hworker
  refine of_workerChecks (fun check hcheck => h check ?_) hworker
  simp [publishChecks, hcheck]

/-- A record that is committed is later than the one of its incarnation it replaces. -/
theorem later_of_commit {g : Governor} {e : ThermalEvidence}
    (h : sequenceVerdict (g.evidence.lookup e.subject.key) e = .commit) : g.ledger.Later e := by
  intro held hheld hsame
  have hlookup : g.evidence.lookup e.subject.key = some held := hheld
  rw [hlookup] at h
  exact lt_of_sequenceVerdict_commit h hsame

theorem publishImpl_moves (g : Governor) (e : ThermalEvidence)
    (hok : ok g.ledger (.accepted e)) : Moves ok g.ledger (g.publishImpl e).1.ledger := by
  refine publishImpl_rule (P := fun g' => Moves ok g.ledger g'.ledger) .refl fun haccepts => ?_
  obtain ⟨-, hchecks, hcommit⟩ := accepts_eq_true.mp haccepts
  exact g.commitEvidence_moves e hok (fenced_of_publishChecks hchecks) (later_of_commit hcommit)

theorem publishIf_moves (g : Governor) (check : Check) (e : ThermalEvidence)
    (hok : ok g.ledger (.accepted e)) : Moves ok g.ledger (g.publishIf check e).1.ledger :=
  publishIf_rule (P := fun g' => Moves ok g.ledger g'.ledger) .refl (g.publishImpl_moves e hok)

/-! ### Actions -/

/-- Writing an action back is one move when the action held settles into it. -/
theorem putAction_moves (g : Governor) {id : ActionId} {a b : ThermalAction}
    (hheld : g.actions.lookup id = some a) (h : a.Settles b) :
    Moves ok g.ledger (g.putAction id b).ledger :=
  .one (.settle g.ledger _ (settledInto_insert g.ledger hheld h))

theorem createAction_moves (g : Governor) (domain : ThermalDomainId)
    (definition : ThermalDomainDefinition) (policy : ThermalPolicy) (e : ThermalEvaluation)
    (record : MitigationIntentRecord) (rationale : String)
    (hroom : Table.size g.actions < g.config.maxActions) :
    Moves ok g.ledger (g.createAction domain definition policy e record rationale).1.ledger := by
  obtain ⟨hid, hgeneration, -⟩ :=
    g.newAuthority_bound domain definition policy e (advance g.actionGeneration)
  exact .one (.authorize g.ledger
    (g.newAction domain definition policy e record rationale (advance g.actionGeneration))
    hroom rfl rfl ⟨hid, hgeneration⟩ rfl)

theorem authorizeMitigation_moves (g : Governor) (domain : ThermalDomainId)
    (record : MitigationIntentRecord) (rationale : String) :
    Moves ok g.ledger (g.authorizeMitigation domain record rationale).1.ledger := by
  refine authorizeMitigation_rule (P := fun g' => Moves ok g.ledger g'.ledger) .refl
    (fun _ _ _ _ heval => moves_of_evaluateLocked heval) ?_
  intro definition policy evaluated e _ hchecks heval
  have hsame : SameExceptEvaluations g evaluated := same_of_evaluateLocked heval
  refine (moves_of_evaluateLocked heval).trans
    (evaluated.createAction_moves domain definition policy e record rationale ?_)
  -- the room was asked for before the evaluation, which does not touch the table
  have hroom : Table.size g.actions < g.config.maxActions := by
    rw [runChecks_eq_ok] at hchecks
    have := hchecks ⟨Table.size g.actions < g.config.maxActions, .resourceExhausted,
      "action queue limit reached"⟩ (by simp [authorizeChecks])
    simpa using this
  rw [hsame.actions, hsame.config]
  exact hroom

theorem authorizeDerating_moves (g : Governor) (domain : ThermalDomainId)
    (record : MitigationIntentRecord) (rationale : String) :
    Moves ok g.ledger (g.authorizeDerating domain record rationale).1.ledger := by
  have hmoves : Moves ok g.ledger (g.evaluateDomain domain).1.ledger :=
    g.evaluateAndStore_moves domain
  exact authorizeDerating_rule (P := fun g' => Moves ok g.ledger g'.ledger) hmoves
    fun demanded => hmoves.trans (authorizeMitigation_moves _ domain demanded rationale)

theorem recordActionDispatch_moves (g : Governor) (id : ActionId) :
    Moves ok g.ledger (g.recordActionDispatch id).1.ledger := by
  unfold recordActionDispatch
  split
  · exact .refl
  · rename_i action hheld
    split
    · exact .refl
    · rename_i hchecks
      split
      · exact g.putAction_moves hheld ⟨rfl, rfl, rfl, rfl, .inr (.inl rfl)⟩
      · have hauthorized : action.lifecycle = .authorized := by
          rw [runChecks_eq_ok] at hchecks
          simp only [dispatchChecks, List.forall_mem_cons] at hchecks
          simpa using hchecks.2.1
        exact .one (.dispatch g.ledger id action g.now hheld hauthorized)

theorem recordActionAck_moves (g : Governor) (ack : ActionAck) :
    Moves ok g.ledger (g.recordActionAck ack).1.ledger := by
  unfold recordActionAck
  split
  · exact .refl
  · rename_i action hheld
    split
    · exact .refl
    · split
      · split <;> exact .refl
      · split <;> exact .refl
      · rename_i hlifecycle
        have hawaits : action.lifecycle.isAwaiting = true := by rw [hlifecycle]; rfl
        split
        · exact g.putAction_moves hheld ⟨rfl, rfl, rfl, rfl, .inr (.inr ⟨hawaits, rfl⟩)⟩
        · exact g.putAction_moves hheld ⟨rfl, rfl, rfl, rfl, .inr (.inl rfl)⟩
      all_goals exact .refl

theorem recordActionResult_moves (g : Governor) (result : ActionResult) :
    Moves ok g.ledger (g.recordActionResult result).1.ledger := by
  unfold recordActionResult
  split
  · exact .refl
  · rename_i action hheld
    split
    · exact .refl
    · split
      · exact g.putAction_moves hheld ⟨rfl, rfl, rfl, rfl, .inr (.inl rfl)⟩
      · -- a report of success leaves an action that waits for a result waiting
        have hreport : action.lifecycle.isAwaiting = true →
            Moves ok g.ledger
              (if result.backendSucceeded then
                (publishLocked <| g.putAction result.actionId
                  { action with detail := result.detail, lifecycle := .verifying },
                  (.ok .verifying : Result ActionLifecycle))
              else
                (publishLocked <| g.putAction result.actionId
                  { action with
                    detail := result.detail, lifecycle := .failed, terminalAt := g.now },
                  .ok .failed)).1.ledger := by
          intro hawaits
          split
          · exact g.putAction_moves hheld ⟨rfl, rfl, rfl, rfl, .inr (.inr ⟨hawaits, rfl⟩)⟩
          · exact g.putAction_moves hheld ⟨rfl, rfl, rfl, rfl, .inr (.inl rfl)⟩
        split
        · exact .refl
        · rename_i hlifecycle
          exact hreport (by rw [hlifecycle]; rfl)
        · rename_i hlifecycle
          exact hreport (by rw [hlifecycle]; rfl)
        all_goals exact .refl

theorem cancelAction_moves (g : Governor) (id : ActionId) (reason : String) :
    Moves ok g.ledger (g.cancelAction id reason).1.ledger := by
  unfold cancelAction
  split
  · exact .refl
  · rename_i action hheld
    dsimp only
    cases hlifecycle : action.lifecycle with
    | planned | authorized =>
      exact g.putAction_moves hheld ⟨rfl, rfl, rfl, rfl, .inr (.inl rfl)⟩
    | dispatched | acknowledged | verifying =>
      refine g.putAction_moves hheld ⟨rfl, rfl, rfl, rfl, .inr (.inr ⟨?_, rfl⟩)⟩
      rw [hlifecycle]
      rfl
    | effective | partiallyEffective | ineffective | worsened | failed | superseded | cancelled
    | outcomeUnknown =>
      exact g.putAction_moves hheld ⟨rfl, rfl, rfl, rfl, .inl hlifecycle.symm⟩

/-! ### Verification -/

theorem verifyCommit_moves (g : Governor) (id : ActionId) (fresh : ThermalEvidence) :
    Moves ok g.ledger (g.verifyCommit id fresh).1.ledger := by
  refine verifyCommit_rule (P := fun g' => Moves ok g.ledger g'.ledger) .refl
    (fun _ _ _ _ _ heval => moves_of_evaluateLocked heval) ?_
  intro action definition before g' after verified hheld _ heval hverified
  have hsame : SameExceptEvaluations g g' := same_of_evaluateLocked heval
  refine (moves_of_evaluateLocked heval).trans ?_
  have hheld' : g'.actions.lookup id = some action := by
    rw [hsame.actions]
    exact hheld
  have hverifiedRecord := ((verifyAction_eq_ok rfl).mp hverified).2
  have hterminal : verified.resultingLifecycle.isTerminal = true := by
    rw [hverifiedRecord]
    exact isTerminal_verifiedRecord _ _
  rw [ledger_publishLocked, ledger_recordTransition]
  exact g'.putAction_moves hheld' ⟨rfl, rfl, rfl, rfl, .inr (.inl hterminal)⟩

theorem verifyAction_moves (g : Governor) (id : ActionId) (fresh : ThermalEvidence)
    (hok : ok g.ledger (.accepted fresh)) :
    Moves ok g.ledger (g.verifyAction id fresh).1.ledger := by
  unfold verifyAction
  have hmoves := g.publishImpl_moves fresh hok
  split
  · rename_i g' e hpublish
    rw [publishTemperature] at hpublish
    rw [hpublish] at hmoves
    exact hmoves
  · rename_i g' receipt hpublish
    rw [publishTemperature] at hpublish
    rw [hpublish] at hmoves
    exact hmoves.trans (g'.verifyCommit_moves id fresh)

/-! ### Restart and shutdown -/

theorem settles_shutDown (a : ThermalAction) (now : SteadyTimePoint) :
    a.Settles (a.shutDown now) := by
  unfold ThermalAction.shutDown
  split
  · exact ⟨rfl, rfl, rfl, rfl, .inr (.inl rfl)⟩
  · exact ⟨rfl, rfl, rfl, rfl, .inr (.inl rfl)⟩
  · exact ⟨rfl, rfl, rfl, rfl, .inr (.inl rfl)⟩
  · exact ⟨rfl, rfl, rfl, rfl, .inr (.inl rfl)⟩
  · exact ⟨rfl, rfl, rfl, rfl, .inr (.inl rfl)⟩
  · exact settles_refl a

theorem shutdown_moves (g : Governor) : Moves ok g.ledger g.shutdown.1.ledger := by
  unfold shutdown
  split
  · exact .refl
  · exact .one (.settle g.ledger _
      (settledInto_mapValues _ fun _ a _ => settles_shutDown a g.now))

theorem isTerminal_restored (a : ThermalAction) : a.restored.lifecycle.isTerminal = true := by
  unfold ThermalAction.restored
  split
  · rename_i h
    exact h
  · rfl

@[simp] theorem restored_id (a : ThermalAction) : a.restored.id = a.id := by
  unfold ThermalAction.restored
  split <;> rfl

theorem restoreAction_moves (g : Governor) (action : ThermalAction)
    (hok : ok g.ledger (.restored action.id)) :
    Moves ok g.ledger (g.restoreAction action).ledger := by
  have hrestore : Move ok g.ledger _ :=
    .restore g.ledger action.restored (by rwa [restored_id]) (isTerminal_restored action)
  rw [restored_id] at hrestore
  exact .one hrestore

/-- The actions of a file are restored one after the other, by one allocator. -/
theorem restoreActions_moves (g : Governor) (actions : List ThermalAction)
    (hok : ∀ (l : Ledger) (a : ThermalAction), a ∈ actions →
      l.actionGeneration = g.actionGeneration → ok l (.restored a.id)) :
    Moves ok g.ledger (actions.foldl restoreAction g).ledger := by
  induction actions generalizing g with
  | nil => exact .refl
  | cons a rest ih =>
    refine (g.restoreAction_moves a (hok _ a List.mem_cons_self rfl)).trans ?_
    exact ih _ fun l b hb hl => hok l b (List.mem_cons_of_mem _ hb) hl

theorem epoch_restoreActions (g : Governor) (actions : List ThermalAction) :
    (actions.foldl restoreAction g).epoch = g.epoch := by
  induction actions generalizing g with
  | nil => rfl
  | cons a rest ih => exact ih (g.restoreAction a)

theorem restore_moves (g : Governor) (file : DurableState)
    (hok : ∀ (l : Ledger) (a : ThermalAction), a ∈ file.actions →
      l.actionGeneration = g.actionGeneration → ok l (.restored a.id))
    (hrestart : ∀ l : Ledger, l.epoch = g.epoch → ok l (.restarted (advance l.epoch))) :
    Moves ok g.ledger (g.restore file).1.ledger := by
  refine restore_rule (I := fun g' => g'.ledger = g.ledger)
    (J := fun r => Moves ok g.ledger r.1.ledger) rfl (fun _ _ _ h => h) (fun _ _ _ _ h => h)
    (fun g₁ _ h => ?_) fun g₂ hledger => ?_
  · rw [h]
  · have hgeneration : g₂.actionGeneration = g.actionGeneration :=
      congrArg Ledger.actionGeneration hledger
    have hrecords : Moves ok g.ledger (g₂.restoreRecords file).ledger := by
      rw [← hledger]
      exact restoreActions_moves { g₂ with history := file.transitions } file.actions
        fun l a ha hl => hok l a ha (hl.trans hgeneration)
    have hepoch : (g₂.restoreRecords file).ledger.epoch = g.epoch :=
      (epoch_restoreActions _ file.actions).trans (congrArg Ledger.epoch hledger)
    refine (hrecords.tail (.restart _ (hrestart _ hepoch))).trans ?_
    exact recomputeAllDomains_moves
      (advanceTopology (discardDynamicState (g₂.restoreRecords file)))

theorem loadDurable_moves (g : Governor) (file : Option (Result DurableState))
    (hok : ∀ (l : Ledger) (state : DurableState) (a : ThermalAction),
      file = some (.ok state) → a ∈ state.actions →
      l.actionGeneration = g.actionGeneration → ok l (.restored a.id))
    (hrestart : ∀ (l : Ledger) (state : DurableState), file = some (.ok state) →
      l.epoch = g.epoch → ok l (.restarted (advance l.epoch))) :
    Moves ok g.ledger (g.loadDurable file).1.ledger := by
  rcases g.fst_loadDurable file with heq | ⟨state, -, rfl, heq⟩
  · rw [heq]
  · rw [heq]
    exact g.restore_moves state (fun l a ha hl => hok l state a rfl ha hl)
      fun l hl => hrestart l state rfl hl

end Governor

end ThermalGovernor
