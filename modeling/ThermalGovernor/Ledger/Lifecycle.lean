import ThermalGovernor.Ledger.Run

/-!
# The lifecycle of an action

Eight operations write the lifecycle position of an action, and each has an order of
checks of its own.  `LifecycleStep` lists every change an operation can make to the
position held under one identity, and `lifecycleStep_apply` says that an operation other
than a load makes one of them.

The guards of the changes are functions of the state before: the identity an operation
gives (`authorizes`), the action a result supersedes (`supersedes`), the incarnation that
is retired (`retires`).
-/

namespace ThermalGovernor

open Lib Ledger

/-- The action has had an effect that a verification has confirmed. -/
def ActionLifecycle.isSuccess : ActionLifecycle → Bool
  | .effective | .partiallyEffective => true
  | _ => false

namespace Operation

/-- The operation reads a durable file. -/
def isLoad : Operation → Bool
  | loadDurable _ => true
  | _ => false

/-- The operation may write to the table of actions. -/
def writesActions : Operation → Bool
  | registerWorker .. | noteWorkerDeath .. | authorizeMitigation .. | authorizeDerating ..
  | recordActionDispatch _ | recordActionAck _ | recordActionResult _ | verifyAction ..
  | verifyCommit .. | cancelAction .. | loadDurable _ | shutdown => true
  | _ => false

/-- The operation verifies the action, in one call or in the second half of one. -/
def verifies (id : ActionId) : Operation → Bool
  | verifyAction other _ | verifyCommit other _ => other = id
  | _ => false

end Operation

namespace Governor

variable {g g' : Governor} {id : ActionId} {op : Operation}

/-- The lifecycle position held under an identity. -/
def lifecycleOf (g : Governor) (id : ActionId) : Option ActionLifecycle :=
  (g.actions.lookup id).map ThermalAction.lifecycle

/-! ### Guards of the operations -/

/-- An authorisation of the record goes through. -/
def mayAuthorize (g : Governor) (domain : ThermalDomainId) (record : MitigationIntentRecord) :
    Bool :=
  match g.domains.find domain with
  | none => false
  | some definition =>
    match g.policyFor definition with
    | none => false
    | some policy =>
      record.intent ≠ .noAction && runChecks (g.authorizeChecks policy record.intent) = .ok () &&
        runChecks (restorationChecks (g.evaluation definition policy).2 record.intent) = .ok ()

/-- The identity an operation gives to a new action. -/
def authorizes (g : Governor) : Operation → Option ActionId
  | .authorizeMitigation domain record _ =>
    if g.mayAuthorize domain record then some (advance g.actionGeneration) else none
  | .authorizeDerating domain record _ =>
    match g.evaluateDomain domain with
    | (_, .error _) => none
    | (evaluated, .ok e) =>
      let demanded := if record.intent ≠ .noAction then some record else demandedIntent e
      if demanded.any (evaluated.mayAuthorize domain) then some (advance g.actionGeneration)
      else none
  | _ => none

/-- The action a result supersedes: it passes the fences of a result, and its policy
generation has moved. -/
def supersedes (g : Governor) : Operation → Option ActionId
  | .recordActionResult result =>
    match g.actions.lookup result.actionId with
    | none => none
    | some action =>
      if runChecks (resultChecks action g.epoch result) = .ok () ∧
          g.resultSuperseded action result = true then
        some result.actionId
      else none
  | _ => none

/-- The worker incarnation an operation retires. -/
def retires (g : Governor) : Operation → Option (WorkerId × WorkerBootId)
  | .noteWorkerDeath worker boot =>
    match g.workers.lookup worker with
    | none => none
    | some held => if held.boot = boot then some (worker, boot) else none
  | .registerWorker worker boot _ =>
    match g.workers.lookup worker with
    | none => none
    | some held =>
      if isValid worker && isValid boot && held.boot < boot then some (worker, held.boot) else none
  | _ => none

/-- **What an operation that retires an incarnation does.** -/
theorem apply_of_retires {worker : WorkerId} {boot : WorkerBootId}
    (h : g.retires op = some (worker, boot)) :
    ∃ held, g.workers.lookup worker = some held ∧ held.boot = boot ∧
      ((op = .noteWorkerDeath worker boot ∧
          g.apply op = (publishLocked <| recomputeAllDomains <| retireBootLocked
            { g with workers := g.workers.insert worker { held with alive := false } }
            worker boot)) ∨
        ∃ later label, op = .registerWorker worker later label ∧ boot < later ∧
          g.apply op = ((g.retireBootLocked worker boot).enrol worker later label).1) := by
  cases op with
  | registerWorker w later label =>
    rw [retires] at h
    rw [apply, registerWorker]
    cases hheld : g.workers.lookup w with
    | none =>
      rw [hheld] at h
      cases h
    | some held =>
      rw [hheld] at h
      dsimp only at h ⊢
      split at h
      · rename_i hguard
        obtain ⟨rfl, rfl⟩ := Prod.mk.inj (Option.some.inj h)
        rw [Bool.and_eq_true, decide_eq_true_eq] at hguard
        have hvalid : ¬ (! isValid w || ! isValid later) = true := by
          rw [← Bool.not_and, hguard.1]
          exact Bool.false_ne_true
        refine ⟨held, hheld, rfl, .inr ⟨later, label, rfl, hguard.2, ?_⟩⟩
        rw [if_neg hvalid, if_neg (Nat.not_lt.mpr (Nat.le_of_lt hguard.2)),
          if_neg (Nat.ne_of_lt hguard.2)]
      · cases h
  | noteWorkerDeath w b =>
    rw [retires] at h
    rw [apply, noteWorkerDeath]
    cases hheld : g.workers.lookup w with
    | none =>
      rw [hheld] at h
      cases h
    | some held =>
      rw [hheld] at h
      dsimp only at h ⊢
      split at h
      · rename_i hsame
        obtain ⟨rfl, rfl⟩ := Prod.mk.inj (Option.some.inj h)
        refine ⟨held, hheld, hsame, .inl ⟨rfl, ?_⟩⟩
        rw [if_neg (not_not.mpr hsame)]
      · cases h
  | _ => cases h

/-! ### What an operation does to one position -/

/-- Every change an operation can make to the position held under an identity. -/
inductive LifecycleStep (g : Governor) (id : ActionId) :
    Operation → Option ActionLifecycle → Option ActionLifecycle → Prop
  | unchanged (op : Operation) (held : Option ActionLifecycle) : LifecycleStep g id op held held
  | authorized (op : Operation) (held : Option ActionLifecycle)
      (h : g.authorizes op = some id) : LifecycleStep g id op held (some .authorized)
  | dispatched (h : (g.recordActionDispatch id).2 = .ok .dispatched) :
      LifecycleStep g id (.recordActionDispatch id) (some .authorized) (some .dispatched)
  | outdated :
      LifecycleStep g id (.recordActionDispatch id) (some .authorized) (some .superseded)
  | acknowledged (ack : ActionAck) (target : ActionLifecycle)
      (h : target = .acknowledged ∨ target = .failed) :
      LifecycleStep g id (.recordActionAck ack) (some .dispatched) (some target)
  | superseded (op : Operation) (held : ActionLifecycle) (h : g.supersedes op = some id) :
      LifecycleStep g id op (some held) (some .superseded)
  | reported (result : ActionResult) (held target : ActionLifecycle)
      (hheld : held.isAwaiting = true) (h : target = .verifying ∨ target = .failed) :
      LifecycleStep g id (.recordActionResult result) (some held) (some target)
  | verified (op : Operation) (held target : ActionLifecycle) (h : op.verifies id = true)
      (hheld : held.isAwaiting = true) (htarget : target.isTerminal = true) :
      LifecycleStep g id op (some held) (some target)
  | cancelled (reason : String) (held : ActionLifecycle)
      (hheld : held.isTerminal = false) :
      LifecycleStep g id (.cancelAction id reason) (some held) (some .cancelled)
  | revoked (reason : String) (held : ActionLifecycle) (hheld : held.isAwaiting = true) :
      LifecycleStep g id (.cancelAction id reason) (some held) (some .verifying)
  | lost (op : Operation) (held : ActionLifecycle) (hheld : held.isTerminal = false) :
      LifecycleStep g id op (some held) (some .outcomeUnknown)
  | stopped (held : ActionLifecycle) (hheld : held.isTerminal = false) :
      LifecycleStep g id .shutdown (some held) (some .cancelled)

/-- A position is unchanged when the actions are. -/
theorem lifecycleStep_of_actions (h : g'.actions = g.actions) :
    LifecycleStep g id op (g.lifecycleOf id) (g'.lifecycleOf id) := by
  have hsame : g'.lifecycleOf id = g.lifecycleOf id := by rw [lifecycleOf, h, lifecycleOf]
  rw [hsame]
  exact .unchanged op _

/-- Writing one action back changes the position under its identity only. -/
theorem lifecycleStep_of_insert {other : ActionId} {action : ThermalAction}
    (h : g'.actions = g.actions.insert other action)
    (hother : other = id →
      LifecycleStep g id op (g.lifecycleOf id) (some action.lifecycle)) :
    LifecycleStep g id op (g.lifecycleOf id) (g'.lifecycleOf id) := by
  have hlookup : g'.lifecycleOf id =
      if id = other then some action.lifecycle else g.lifecycleOf id := by
    rw [lifecycleOf, h, Table.lookup_insert_eq_ite, lifecycleOf]
    split <;> rfl
  rw [hlookup]
  split
  · rename_i hsame
    exact hother hsame.symm
  · exact .unchanged op _

theorem lifecycleOf_of_lookup {action : ThermalAction} (h : g.actions.lookup id = some action) :
    g.lifecycleOf id = some action.lifecycle := by
  rw [lifecycleOf, h, Option.map_some]

/-! ### Operations that write no action -/

@[simp] theorem actions_publishLocked (g : Governor) : g.publishLocked.actions = g.actions := rfl

@[simp] theorem actions_advanceTopology (g : Governor) : g.advanceTopology.actions = g.actions :=
  rfl

@[simp] theorem actions_openHistory (g : Governor) (domain : ThermalDomainId) :
    (g.openHistory domain).actions = g.actions := rfl

@[simp] theorem actions_recomputeDomain (g : Governor) (domain : ThermalDomainId) :
    (g.recomputeDomain domain).actions = g.actions := (g.recomputeDomain_same domain).actions

@[simp] theorem actions_recomputeDomains (g : Governor) (domains : List ThermalDomainId) :
    (g.recomputeDomains domains).actions = g.actions := (g.recomputeDomains_same domains).actions

@[simp] theorem actions_recomputeAllDomains (g : Governor) :
    g.recomputeAllDomains.actions = g.actions := g.recomputeAllDomains_same.actions

@[simp] theorem actions_recordTransition (g : Governor) (domain : ThermalDomainId)
    (generation : ThermalDomainGeneration) (e : ThermalEvaluation) :
    (g.recordTransition domain generation e).actions = g.actions :=
  (g.recordTransition_same domain generation e).actions

@[simp] theorem actions_evaluateDomain (g : Governor) (domain : ThermalDomainId) :
    (g.evaluateDomain domain).1.actions = g.actions := (g.evaluateDomain_same domain).actions

@[simp] theorem actions_keepAlive (g : Governor) (worker : WorkerId) (held record : WorkerRecord) :
    (g.keepAlive worker held record).actions = g.actions := by
  unfold keepAlive
  dsimp only
  split <;> rfl

@[simp] theorem actions_enrol (g : Governor) (worker : WorkerId) (boot : WorkerBootId)
    (label : String) : (g.enrol worker boot label).1.actions = g.actions := by
  unfold enrol
  split
  · rfl
  · simp

@[simp] theorem actions_countPublication (g : Governor) (e : ThermalEvidence) :
    (g.countPublication e).actions = g.actions := by
  unfold countPublication
  split
  · rfl
  · split <;> rfl

theorem actions_refreshDomain (e : ThermalEvidence) (g : Governor) (domain : ThermalDomainId) :
    (refreshDomain e g domain).actions = g.actions := by
  unfold refreshDomain
  split
  · rfl
  · rw [actions_recomputeDomain]
    rfl

theorem actions_commitEvidence (g : Governor) (e : ThermalEvidence) :
    (g.commitEvidence e).1.actions = g.actions := by
  have haccepted : ((g.acceptEvidence e).countPublication e).actions = g.actions :=
    actions_countPublication _ e
  unfold commitEvidence
  dsimp only
  rw [actions_publishLocked, actions_recomputeDomains,
    foldl_unchanged (p := Governor.actions) (actions_refreshDomain e), haccepted]

theorem actions_publishImpl (g : Governor) (e : ThermalEvidence) :
    (g.publishImpl e).1.actions = g.actions :=
  publishImpl_rule (P := fun g' => g'.actions = g.actions) rfl fun _ => g.actions_commitEvidence e

theorem actions_publishIf (g : Governor) (check : Check) (e : ThermalEvidence) :
    (g.publishIf check e).1.actions = g.actions :=
  publishIf_rule (P := fun g' => g'.actions = g.actions) rfl (g.actions_publishImpl e)

/-- **Every other operation leaves the actions as they are.** -/
theorem actions_apply (g : Governor) {op : Operation} (h : op.writesActions = false) :
    (g.apply op).actions = g.actions := by
  cases op with
  | tick now => rfl
  | setClock clock =>
    rw [apply]
    cases clock with
    | none => rfl
    | some now =>
      rw [setClock]
      split <;> rfl
  | registerDevice registration =>
    rw [apply, registerDevice]
    split
    · rfl
    · simp
  | publishCapabilities device generation capabilities =>
    rw [apply, publishCapabilities]
    split
    · rfl
    · split
      · rfl
      · simp
  | registerThermalDomain definition =>
    rw [apply, registerThermalDomain]
    split
    · rfl
    · split
      · rfl
      · simp
  | updateThermalDomain definition =>
    rw [apply, updateThermalDomain]
    split
    · rfl
    · simp
  | registerCoupling relation =>
    rw [apply, registerCoupling]
    split
    · rfl
    · simp
  | removeCoupling other =>
    rw [apply, removeCoupling]
    split
    · rfl
    · simp
  | setPolicy policy =>
    rw [apply, setPolicy]
    split
    · rfl
    · split
      · rfl
      · simp
  | workerHeartbeat worker boot =>
    rw [apply, workerHeartbeat]
    split
    · rfl
    · split
      · rfl
      · simp
  | publishTemperature e => exact g.actions_publishImpl e
  | publishThrottleEvidence e => exact g.actions_publishIf _ e
  | publishCoolingEvidence e => exact g.actions_publishIf _ e
  | publishNodeTemperature e => exact g.actions_publishIf _ e
  | publishRackTemperature e => exact g.actions_publishIf _ e
  | evaluateDomain domain => exact g.actions_evaluateDomain domain
  | evaluateDevice device =>
    rw [apply, evaluateDevice]
    split
    · rfl
    · split
      · rfl
      · exact g.actions_evaluateDomain _
  | evaluateAdmission request =>
    rw [apply, evaluateAdmission]
    split
    · rfl
    · split
      · rfl
      · split
        · rfl
        · split
          · rfl
          · split
            · rename_i heval
              exact (same_of_evaluateLocked heval).actions
            · rename_i heval
              exact (same_of_evaluateLocked heval).actions
  | authorizeRecovery domain =>
    rw [apply, authorizeRecovery]
    split
    · rfl
    · simp
  | revokeRecovery domain =>
    rw [apply, revokeRecovery]
    split
    · rfl
    · simp
  | registerWorker | noteWorkerDeath | authorizeMitigation | authorizeDerating
  | recordActionDispatch | recordActionAck | recordActionResult | verifyAction | verifyCommit
  | cancelAction | loadDurable | shutdown => cases h

/-! ### Authorisations -/

/-- An authorisation stores an authorised action of a registered domain under the next identity
and publishes, or leaves at most an event behind. -/
theorem authorizeMitigation_cases (g : Governor) (domain : ThermalDomainId)
    (record : MitigationIntentRecord) (rationale : String) :
    (g.mayAuthorize domain record = true ∧ ∃ stored action,
      (g.authorizeMitigation domain record rationale).1 = publishLocked stored ∧
      stored.actions = g.actions.insert (advance g.actionGeneration) action ∧
      action.lifecycle = .authorized ∧
      (g.domains.find action.authority.domain).isSome = true) ∨
    (g.mayAuthorize domain record = false ∧ ∃ trace,
      (g.authorizeMitigation domain record rationale).1 = { g with trace := trace }) := by
  unfold authorizeMitigation mayAuthorize
  cases hfind : g.domains.find domain with
  | none => exact .inr ⟨rfl, g.trace, rfl⟩
  | some definition =>
    dsimp only
    by_cases hintent : record.intent = .noAction
    · rw [if_pos hintent]
      refine .inr ⟨?_, g.trace, rfl⟩
      cases g.policyFor definition with
      | none => rfl
      | some policy => simp [hintent]
    rw [if_neg hintent]
    cases hpolicy : g.policyFor definition with
    | none => exact .inr ⟨rfl, g.trace, rfl⟩
    | some policy =>
      dsimp only
      cases hchecks : runChecks (g.authorizeChecks policy record.intent) with
      | error e => exact .inr ⟨by simp, g.trace, rfl⟩
      | ok _ =>
        have heval : g.evaluateLocked definition =
            (g.note (.evaluated (g.evaluation definition policy).1
              (g.evaluation definition policy).2), .ok (g.evaluation definition policy).2) := by
          rw [evaluateLocked, hpolicy]
        rw [heval]
        dsimp only
        cases hrestore : runChecks
            (restorationChecks (g.evaluation definition policy).2 record.intent) with
        | error e => exact .inr ⟨by simp, _, rfl⟩
        | ok _ =>
          refine .inl ⟨by simp [hintent], _, _, rfl, rfl, rfl, ?_⟩
          rw [newAction, (newAuthority_bound _ _ _ _ _ _).2.2.1, hfind]
          rfl

/-- The operation stores an authorised action of a registered domain under the identity it
gives, if it gives one. -/
def StoresAuthorized (g g' : Governor) (op : Operation) : Prop :=
  (∃ id action, g.authorizes op = some id ∧ g'.actions = g.actions.insert id action ∧
    action.lifecycle = .authorized ∧
    (g.domains.find action.authority.domain).isSome = true) ∨
  (g.authorizes op = none ∧ g'.actions = g.actions)

theorem storesAuthorized_authorizeMitigation (g : Governor) (domain : ThermalDomainId)
    (record : MitigationIntentRecord) (rationale : String) :
    StoresAuthorized g (g.authorizeMitigation domain record rationale).1
      (.authorizeMitigation domain record rationale) := by
  rcases g.authorizeMitigation_cases domain record rationale with
    ⟨hmay, stored, action, hstored, hactions, hkept⟩ | ⟨hmay, trace, hstored⟩
  · refine .inl ⟨advance g.actionGeneration, action, ?_, ?_, hkept⟩
    · rw [authorizes, if_pos hmay]
    · rw [hstored, actions_publishLocked, hactions]
  · refine .inr ⟨?_, ?_⟩
    · rw [authorizes, hmay]
      rfl
    · rw [hstored]

theorem storesAuthorized_authorizeDerating (g : Governor) (domain : ThermalDomainId)
    (record : MitigationIntentRecord) (rationale : String) :
    StoresAuthorized g (g.authorizeDerating domain record rationale).1
      (.authorizeDerating domain record rationale) := by
  have hsame := g.evaluateDomain_same domain
  unfold StoresAuthorized
  rw [authorizes, authorizeDerating]
  cases heval : g.evaluateDomain domain with
  | mk evaluated r =>
    rw [heval] at hsame
    have hactions : evaluated.actions = g.actions := hsame.actions
    cases r with
    | error e => exact .inr ⟨rfl, hactions⟩
    | ok e =>
      -- what is authorised: the record that was asked for, or the one the evaluation demands
      have hauthorized : ∀ demanded : MitigationIntentRecord,
          (∃ id action,
            (if (some demanded).any (evaluated.mayAuthorize domain) then
              some (advance g.actionGeneration) else none) = some id ∧
            (evaluated.authorizeMitigation domain demanded rationale).1.actions =
              g.actions.insert id action ∧ action.lifecycle = .authorized ∧
              (g.domains.find action.authority.domain).isSome = true) ∨
          ((if (some demanded).any (evaluated.mayAuthorize domain) then
              some (advance g.actionGeneration) else none) = none ∧
            (evaluated.authorizeMitigation domain demanded rationale).1.actions = g.actions) := by
        intro demanded
        rw [Option.any_some]
        rcases evaluated.authorizeMitigation_cases domain demanded rationale with
          ⟨hmay, stored, action, hstored, hinserted, hkept⟩ | ⟨hmay, trace, hstored⟩
        · rw [hactions, hsame.actionGeneration] at hinserted
          rw [hsame.domains] at hkept
          refine .inl ⟨advance g.actionGeneration, action, if_pos hmay, ?_, hkept⟩
          rw [hstored, actions_publishLocked, hinserted]
        · refine .inr ⟨?_, ?_⟩
          · rw [hmay]
            rfl
          · rw [hstored]
            exact hactions
      dsimp only
      by_cases hintent : record.intent ≠ .noAction
      · rw [if_pos hintent, if_pos hintent]
        exact hauthorized record
      · rw [if_neg hintent, if_neg hintent]
        cases hdemanded : demandedIntent e with
        | none => exact .inr ⟨rfl, hactions⟩
        | some demanded => exact hauthorized demanded

theorem lifecycleStep_of_storesAuthorized (h : StoresAuthorized g g' op) :
    LifecycleStep g id op (g.lifecycleOf id) (g'.lifecycleOf id) := by
  rcases h with ⟨given, action, hgiven, hactions, hlifecycle, -⟩ | ⟨-, hactions⟩
  · refine lifecycleStep_of_insert hactions fun hid => ?_
    rw [hlifecycle]
    refine .authorized _ _ ?_
    rw [hgiven, hid]
  · exact lifecycleStep_of_actions hactions

theorem lifecycleOf_of_storesAuthorized (h : StoresAuthorized g g' op)
    (hgives : g.authorizes op = some id) : g'.lifecycleOf id = some .authorized := by
  rcases h with ⟨given, action, hgiven, hactions, hlifecycle, -⟩ | ⟨hnone, -⟩
  · obtain rfl : given = id := Option.some.inj (hgiven.symm.trans hgives)
    rw [lifecycleOf, hactions, AList.lookup_insert, Option.map_some, hlifecycle]
  · rw [hnone] at hgives
    cases hgives

/-! ### Dispatch, acknowledgement and result -/

theorem lifecycleStep_recordActionDispatch (g : Governor) (other : ActionId) :
    LifecycleStep g id (.recordActionDispatch other) (g.lifecycleOf id)
      ((g.recordActionDispatch other).1.lifecycleOf id) := by
  unfold recordActionDispatch
  cases hheld : g.actions.lookup other with
  | none => exact lifecycleStep_of_actions rfl
  | some action =>
    dsimp only
    cases hchecks : runChecks (dispatchChecks action) with
    | error e => exact lifecycleStep_of_actions rfl
    | ok _ =>
      have hauthorized : action.lifecycle = .authorized := by
        rw [runChecks_eq_ok] at hchecks
        simp only [dispatchChecks, List.forall_mem_cons] at hchecks
        simpa using hchecks.2.1
      dsimp only
      cases hvalid : revalidateActionAuthority action.authority
          (g.dispatchSnapshot action.authority) with
      | error e =>
        refine lifecycleStep_of_insert rfl fun hother => ?_
        rw [hother] at hheld ⊢
        rw [lifecycleOf_of_lookup hheld, hauthorized]
        exact .outdated
      | ok _ =>
        refine lifecycleStep_of_insert rfl fun hother => ?_
        rw [hother] at hheld ⊢
        rw [lifecycleOf_of_lookup hheld, hauthorized]
        refine .dispatched ?_
        rw [recordActionDispatch, hheld]
        dsimp only
        rw [hchecks]
        dsimp only
        rw [hvalid]

theorem lifecycleStep_recordActionAck (g : Governor) (ack : ActionAck) :
    LifecycleStep g id (.recordActionAck ack) (g.lifecycleOf id)
      ((g.recordActionAck ack).1.lifecycleOf id) := by
  unfold recordActionAck
  cases hheld : g.actions.lookup ack.actionId with
  | none => exact lifecycleStep_of_actions rfl
  | some action =>
    dsimp only
    cases hchecks : runChecks (ackChecks action g.epoch ack) with
    | error e => exact lifecycleStep_of_actions rfl
    | ok _ =>
      dsimp only
      cases hlifecycle : action.lifecycle with
      | acknowledged | verifying =>
        dsimp only
        split <;> exact lifecycleStep_of_actions rfl
      | dispatched =>
        -- the one position an acknowledgement moves
        have hmoved : ∀ target : ActionLifecycle, target = .acknowledged ∨ target = .failed →
            ack.actionId = id →
            LifecycleStep g id (.recordActionAck ack) (g.lifecycleOf id) (some target) := by
          intro target htarget hother
          rw [hother] at hheld
          rw [lifecycleOf_of_lookup hheld, hlifecycle]
          exact .acknowledged ack target htarget
        dsimp only
        split
        · exact lifecycleStep_of_insert rfl (hmoved _ (.inl rfl))
        · exact lifecycleStep_of_insert rfl (hmoved _ (.inr rfl))
      | planned | authorized | effective | partiallyEffective | ineffective | worsened | failed
      | superseded | cancelled | outcomeUnknown => exact lifecycleStep_of_actions rfl

theorem lifecycleStep_recordActionResult (g : Governor) (result : ActionResult) :
    LifecycleStep g id (.recordActionResult result) (g.lifecycleOf id)
      ((g.recordActionResult result).1.lifecycleOf id) := by
  unfold recordActionResult
  cases hheld : g.actions.lookup result.actionId with
  | none => exact lifecycleStep_of_actions rfl
  | some action =>
    dsimp only
    cases hchecks : runChecks (resultChecks action g.epoch result) with
    | error e => exact lifecycleStep_of_actions rfl
    | ok _ =>
      dsimp only
      by_cases hpolicy : g.resultSuperseded action result = true
      · rw [if_pos hpolicy]
        refine lifecycleStep_of_insert rfl fun hother => ?_
        have hsupersedes : g.supersedes (.recordActionResult result) = some id := by
          rw [supersedes, hheld]
          dsimp only
          rw [if_pos ⟨hchecks, hpolicy⟩, hother]
        rw [hother] at hheld
        rw [lifecycleOf_of_lookup hheld]
        exact .superseded _ _ hsupersedes
      · rw [if_neg hpolicy]
        have hmoved : ∀ target : ActionLifecycle, action.lifecycle.isAwaiting = true →
            target = .verifying ∨ target = .failed → result.actionId = id →
            LifecycleStep g id (.recordActionResult result) (g.lifecycleOf id) (some target) := by
          intro target hawaits htarget hother
          rw [hother] at hheld
          rw [lifecycleOf_of_lookup hheld]
          exact .reported result _ target hawaits htarget
        cases hlifecycle : action.lifecycle with
        | acknowledged | dispatched =>
          have hawaits : action.lifecycle.isAwaiting = true := by rw [hlifecycle]; rfl
          dsimp only
          split
          · exact lifecycleStep_of_insert rfl (hmoved _ hawaits (.inl rfl))
          · exact lifecycleStep_of_insert rfl (hmoved _ hawaits (.inr rfl))
        | verifying | planned | authorized | effective | partiallyEffective | ineffective
        | worsened | failed | superseded | cancelled | outcomeUnknown =>
          exact lifecycleStep_of_actions rfl

/-! ### Verification and cancellation -/

theorem isAwaiting_of_awaitsVerification {lifecycle : ActionLifecycle}
    (h : awaitsVerification lifecycle = true) : lifecycle.isAwaiting = true := by
  cases lifecycle <;> first | rfl | cases h

/-- A committed verification writes its resulting position. -/
theorem commitVerification_actions (g : Governor) (id : ActionId) (action : ThermalAction)
    (verified : ActionVerification) :
    ∃ updated : ThermalAction, (g.commitVerification id action verified).1.actions =
      g.actions.insert id updated ∧ updated.lifecycle = verified.resultingLifecycle :=
  ⟨_, rfl, rfl⟩

/-- The second half of a verification ends the action, or writes none. -/
theorem verifyCommit_cases (g : Governor) (id : ActionId) (fresh : ThermalEvidence) :
    (g.verifyCommit id fresh).1.actions = g.actions ∨
    ∃ action updated, g.actions.lookup id = some action ∧ action.lifecycle.isAwaiting = true ∧
      (g.verifyCommit id fresh).1.actions = g.actions.insert id updated ∧
      updated.lifecycle.isTerminal = true := by
  unfold verifyCommit
  cases hheld : g.actions.lookup id with
  | none => exact .inl rfl
  | some action =>
    dsimp only
    cases hchecks : runChecks (g.verifyChecks action) with
    | error e => exact .inl rfl
    | ok _ =>
      dsimp only
      cases hfind : g.domains.find action.authority.domain with
      | none => exact .inl rfl
      | some definition =>
        dsimp only
        cases hbefore : g.actionBaselines.lookup id with
        | none => exact .inl rfl
        | some before =>
          dsimp only
          cases heval : g.evaluateLocked definition with
          | mk evaluated r =>
            have hactions : evaluated.actions = g.actions := (same_of_evaluateLocked heval).actions
            cases r with
            | error e => exact .inl hactions
            | ok after =>
              dsimp only
              cases hverified : ThermalGovernor.verifyAction
                  (evaluated.verificationInput definition action before after fresh) with
              | error e => exact .inl hactions
              | ok verified =>
                have hterminal : verified.resultingLifecycle.isTerminal = true := by
                  rw [((verifyAction_eq_ok rfl).mp hverified).2]
                  exact isTerminal_verifiedRecord _ _
                have hawaits : awaitsVerification action.lifecycle = true := by
                  rw [runChecks_eq_ok] at hchecks
                  simp only [verifyChecks, List.forall_mem_cons] at hchecks
                  exact hchecks.2.1
                obtain ⟨updated, hstored, hlifecycle⟩ :=
                  evaluated.commitVerification_actions id action verified
                refine .inr ⟨action, updated, rfl, isAwaiting_of_awaitsVerification hawaits, ?_, ?_⟩
                · dsimp only
                  rw [actions_publishLocked, actions_recordTransition, hstored, hactions]
                · rw [hlifecycle]
                  exact hterminal

/-- A verification steps from a state that holds the same actions. -/
theorem lifecycleStep_verifyCommit {published : Governor} (hsame : published.actions = g.actions)
    (other : ActionId) (fresh : ThermalEvidence) (hop : other = id → op.verifies id = true) :
    LifecycleStep g id op (g.lifecycleOf id)
      ((published.verifyCommit other fresh).1.lifecycleOf id) := by
  rcases published.verifyCommit_cases other fresh with
    hactions | ⟨action, updated, hheld, hawaits, hactions, hterminal⟩
  · exact lifecycleStep_of_actions (hactions.trans hsame)
  · rw [hsame] at hheld hactions
    refine lifecycleStep_of_insert hactions fun hother => ?_
    rw [hother] at hheld
    rw [lifecycleOf_of_lookup hheld]
    exact .verified op _ _ (hop hother) hawaits hterminal

theorem lifecycleStep_verifyAction (g : Governor) (other : ActionId) (fresh : ThermalEvidence) :
    LifecycleStep g id (.verifyAction other fresh) (g.lifecycleOf id)
      ((g.verifyAction other fresh).1.lifecycleOf id) := by
  have hsame : (g.publishTemperature fresh).1.actions = g.actions := g.actions_publishImpl fresh
  unfold verifyAction
  split
  · rename_i published e hpublish
    rw [hpublish] at hsame
    exact lifecycleStep_of_actions hsame
  · rename_i published receipt hpublish
    rw [hpublish] at hsame
    exact lifecycleStep_verifyCommit hsame other fresh fun hother => decide_eq_true hother

theorem lifecycleStep_cancelAction (g : Governor) (other : ActionId) (reason : String) :
    LifecycleStep g id (.cancelAction other reason) (g.lifecycleOf id)
      ((g.cancelAction other reason).1.lifecycleOf id) := by
  unfold cancelAction
  cases hheld : g.actions.lookup other with
  | none => exact lifecycleStep_of_actions rfl
  | some action =>
    have hposition : other = id → g.lifecycleOf id = some action.lifecycle := by
      intro hother
      rw [hother] at hheld
      exact lifecycleOf_of_lookup hheld
    dsimp only
    cases hlifecycle : action.lifecycle with
    | planned | authorized =>
      refine lifecycleStep_of_insert rfl fun hother => ?_
      rw [hposition hother, hlifecycle, hother]
      exact .cancelled reason _ rfl
    | dispatched | acknowledged | verifying =>
      refine lifecycleStep_of_insert rfl fun hother => ?_
      rw [hposition hother, hlifecycle, hother]
      exact .revoked reason _ rfl
    | effective | partiallyEffective | ineffective | worsened | failed | superseded | cancelled
    | outcomeUnknown =>
      -- only the detail is written
      refine lifecycleStep_of_insert rfl fun hother => ?_
      rw [hposition hother, hlifecycle]
      exact .unchanged _ _

/-! ### Retirement and shutdown -/

/-- Rewriting every action changes a position as the rewriting changes its action. -/
theorem lifecycleStep_of_mapValues {f : ActionId → ThermalAction → ThermalAction}
    (h : g'.actions = Table.mapValues f g.actions)
    (hf : ∀ action : ThermalAction,
      LifecycleStep g id op (some action.lifecycle) (some (f id action).lifecycle)) :
    LifecycleStep g id op (g.lifecycleOf id) (g'.lifecycleOf id) := by
  rw [lifecycleOf, lifecycleOf, h, Table.lookup_mapValues]
  cases g.actions.lookup id with
  | none => exact .unchanged op none
  | some action => exact hf action

theorem lifecycle_retire (action : ThermalAction) (worker : WorkerId) (boot : WorkerBootId)
    (now : SteadyTimePoint) :
    (action.retire worker boot now).lifecycle =
      if action.authority.worker = worker ∧ action.authority.workerBoot = boot ∧
          action.lifecycle.isTerminal = false then .outcomeUnknown
      else action.lifecycle := by
  unfold ThermalAction.retire
  split_ifs with h₁ h₂ h₃ h₄ h₅ <;> simp_all

/-- The actions once the incarnation an operation retires, if any, is retired. -/
def retiredActions (g : Governor) : Option (WorkerId × WorkerBootId) → Table ActionId ThermalAction
  | none => g.actions
  | some (worker, boot) => Table.mapValues (fun _ a => a.retire worker boot g.now) g.actions

theorem actions_registerWorker (g : Governor) (worker : WorkerId) (boot : WorkerBootId)
    (label : String) :
    (g.registerWorker worker boot label).1.actions =
      g.retiredActions (g.retires (.registerWorker worker boot label)) := by
  rw [registerWorker, retires]
  cases hheld : g.workers.lookup worker with
  | none =>
    dsimp only
    split
    · rfl
    · exact g.actions_enrol worker boot label
  | some held =>
    dsimp only
    by_cases hvalid : (isValid worker && isValid boot) = true
    · have hrefused : ¬ (! isValid worker || ! isValid boot) = true := by
        rw [← Bool.not_and, hvalid]
        exact Bool.false_ne_true
      rw [if_neg hrefused, hvalid, Bool.true_and]
      by_cases hback : boot < held.boot
      · rw [if_pos hback, if_neg (by simpa using Nat.le_of_lt hback)]
        rfl
      · rw [if_neg hback]
        by_cases hsame : held.boot = boot
        · rw [if_pos hsame, if_neg (by simp [hsame])]
          exact g.actions_keepAlive worker held _
        · have hlater : held.boot < boot := lt_of_le_of_ne (Nat.not_lt.mp hback) hsame
          rw [if_neg hsame, if_pos (decide_eq_true hlater), actions_enrol]
          rfl
    · rw [Bool.not_eq_true] at hvalid
      have hrefused : (! isValid worker || ! isValid boot) = true := by
        rw [← Bool.not_and, hvalid]
        rfl
      rw [if_pos hrefused, hvalid, Bool.false_and, if_neg Bool.false_ne_true]
      rfl

theorem actions_noteWorkerDeath (g : Governor) (worker : WorkerId) (boot : WorkerBootId) :
    (g.noteWorkerDeath worker boot).1.actions =
      g.retiredActions (g.retires (.noteWorkerDeath worker boot)) := by
  rw [noteWorkerDeath, retires]
  cases hheld : g.workers.lookup worker with
  | none => rfl
  | some held =>
    dsimp only
    by_cases hsame : held.boot = boot
    · rw [if_neg (not_not.mpr hsame), if_pos hsame, actions_publishLocked,
        actions_recomputeAllDomains]
      rfl
    · rw [if_pos hsame, if_neg hsame]
      rfl

/-- A retirement loses the open actions of the incarnation. -/
theorem lifecycleStep_of_retires (h : g'.actions = g.retiredActions (g.retires op)) :
    LifecycleStep g id op (g.lifecycleOf id) (g'.lifecycleOf id) := by
  cases hretires : g.retires op with
  | none =>
    rw [hretires] at h
    exact lifecycleStep_of_actions h
  | some incarnation =>
    obtain ⟨worker, boot⟩ := incarnation
    rw [hretires, retiredActions] at h
    refine lifecycleStep_of_mapValues h fun action => ?_
    rw [lifecycle_retire]
    split
    · rename_i hopen
      exact .lost op _ hopen.2.2
    · exact .unchanged op _

theorem lifecycleStep_shutdown (g : Governor) :
    LifecycleStep g id .shutdown (g.lifecycleOf id) (g.shutdown.1.lifecycleOf id) := by
  unfold shutdown
  split
  · exact lifecycleStep_of_actions rfl
  · have hactions : (publishLocked { g with
        stopping := true
        actions := Table.mapValues (fun _ a => a.shutDown g.now) g.actions }).actions =
        Table.mapValues (fun _ a => a.shutDown g.now) g.actions := rfl
    refine lifecycleStep_of_mapValues hactions fun action => ?_
    unfold ThermalAction.shutDown
    cases hlifecycle : action.lifecycle with
    | planned | authorized => exact .stopped _ rfl
    | dispatched | acknowledged | verifying => exact .lost _ _ rfl
    | effective | partiallyEffective | ineffective | worsened | failed | superseded | cancelled
    | outcomeUnknown =>
      dsimp only
      rw [hlifecycle]
      exact .unchanged _ _

/-! ### Every operation -/

/-- **An operation other than a load makes one of the listed changes to a position.** -/
theorem lifecycleStep_apply (g : Governor) (op : Operation) (hload : op.isLoad = false)
    (id : ActionId) : LifecycleStep g id op (g.lifecycleOf id) ((g.apply op).lifecycleOf id) := by
  cases op with
  | tick | setClock | registerDevice | publishCapabilities | registerThermalDomain
  | updateThermalDomain | registerCoupling | removeCoupling | setPolicy | workerHeartbeat
  | publishTemperature | publishThrottleEvidence | publishCoolingEvidence
  | publishNodeTemperature | publishRackTemperature | evaluateDomain | evaluateDevice
  | evaluateAdmission | authorizeRecovery | revokeRecovery =>
    exact lifecycleStep_of_actions (g.actions_apply rfl)
  | registerWorker worker boot label =>
    exact lifecycleStep_of_retires (g.actions_registerWorker worker boot label)
  | noteWorkerDeath worker boot =>
    exact lifecycleStep_of_retires (g.actions_noteWorkerDeath worker boot)
  | authorizeMitigation domain record rationale =>
    exact lifecycleStep_of_storesAuthorized
      (g.storesAuthorized_authorizeMitigation domain record rationale)
  | authorizeDerating domain record rationale =>
    exact lifecycleStep_of_storesAuthorized
      (g.storesAuthorized_authorizeDerating domain record rationale)
  | recordActionDispatch other => exact g.lifecycleStep_recordActionDispatch other
  | recordActionAck ack => exact g.lifecycleStep_recordActionAck ack
  | recordActionResult result => exact g.lifecycleStep_recordActionResult result
  | verifyAction other fresh => exact g.lifecycleStep_verifyAction other fresh
  | verifyCommit other fresh =>
    exact lifecycleStep_verifyCommit rfl other fresh fun hother => decide_eq_true hother
  | cancelAction other reason => exact g.lifecycleStep_cancelAction other reason
  | loadDurable file => cases hload
  | shutdown => exact g.lifecycleStep_shutdown

end Governor

end ThermalGovernor
