import ThermalGovernor.Governor.Actions

/-!
# Verification and cancellation

`verifyAction` takes the state lock twice: it publishes the record it is given, and
then commits the verification (`verifyCommit`).  Other operations may run between
the two, so the second half is an operation of its own in the runs of the model.

The commit evaluates the domain from the evidence held, and asks only of the
record that was passed in whether it is later than the dispatch.  The device
generation and the boot it compares the action with are the action's own.
-/

namespace ThermalGovernor

open Lib

namespace Governor

/-- The lifecycle positions that wait for a verification. -/
def awaitsVerification : ActionLifecycle → Bool
  | .acknowledged | .verifying | .dispatched => true
  | _ => false

/-- The checks before the evaluation, in the order of the source. -/
def verifyChecks (g : Governor) (action : ThermalAction) : List Check :=
  [ ⟨! action.lifecycle.isTerminal, .actionSuperseded,
      "action already reached a terminal state and its verification cannot commit"⟩,
    ⟨awaitsVerification action.lifecycle, .actionInfeasible,
      "action is not awaiting verification"⟩,
    ⟨g.verifications.length < g.config.maxVerifications, .resourceExhausted,
      "verification record limit reached"⟩ ]

/-- The freshness of the evidence held for the domain itself. -/
def verificationFreshness (g : Governor) (definition : ThermalDomainDefinition) :
    FreshnessState :=
  if (SubjectRef.forDomain definition.id definition.generation).key ∈ g.invalidatedEvidence then
    .generationInvalidated
  else .fresh

/-- The authority an action is verified against. -/
def verificationSnapshot (g : Governor) (definition : ThermalDomainDefinition)
    (authority : ActionAuthority) (after : ThermalEvaluation) : AuthoritySnapshot where
  coordinatorEpoch := g.epoch
  domainGeneration := definition.generation
  deviceGeneration := authority.deviceGeneration
  workerBoot := authority.workerBoot
  policyGeneration := g.policyGeneration
  topologyGeneration := g.topologyGeneration
  capabilityGeneration := g.capabilityGeneration
  actionGeneration := g.actionGeneration
  telemetryGeneration := after.telemetryGeneration

/-- The input of a verification. -/
def verificationInput (g : Governor) (definition : ThermalDomainDefinition)
    (action : ThermalAction) (before after : ThermalEvaluation) (fresh : ThermalEvidence) :
    VerificationInput :=
  let freshness := g.verificationFreshness definition
  { action := some action
    before := before
    after := after
    freshEvidence := freshness = .fresh && action.dispatchedAt < fresh.measuredAt
    freshness := freshness
    current := g.verificationSnapshot definition action.authority after
    verificationPolicyGeneration := g.policyGeneration
    secondaryHardViolation := after.state = .critical && before.state ≠ .critical
    now := g.now }

/-- Store the record of a verification in the action and beside it. -/
def commitVerification (g : Governor) (id : ActionId) (action : ThermalAction)
    (verified : ActionVerification) : Governor × ActionVerification :=
  let generation := advance g.verificationGeneration
  let record := { verified with generation := generation }
  let updated : ThermalAction :=
    { action with
      lifecycle := record.resultingLifecycle
      verificationGeneration := generation
      verificationTelemetryGeneration := record.telemetryGeneration
      terminalAt := if record.resultingLifecycle.isTerminal then g.now else action.terminalAt }
  ({ g.putAction id updated with
      verificationGeneration := generation
      verifications := g.verifications ++ [record] }, record)

/-- The second half of a verification. -/
def verifyCommit (g : Governor) (id : ActionId) (fresh : ThermalEvidence) :
    Governor × Result ActionVerification :=
  match g.actions.lookup id with
  | none => (g, failure .unknownAction "action is not registered")
  | some action =>
    match runChecks (g.verifyChecks action) with
    | .error e => (g, .error e)
    | .ok () =>
      match g.domains.find action.authority.domain with
      | none => (g, failure .unknownDomain "action thermal domain is no longer registered")
      | some definition =>
        match g.actionBaselines.lookup id with
        | none =>
          (g, failure .actionInfeasible "no planning baseline is retained for this action")
        | some before =>
          match g.evaluateLocked definition with
          | (g, .error e) => (g, .error e)
          | (g, .ok after) =>
            match ThermalGovernor.verifyAction
                (g.verificationInput definition action before after fresh) with
            | .error e => (g, .error e)
            | .ok verified =>
              let committed := g.commitVerification id action verified
              (publishLocked
                (committed.1.recordTransition definition.id definition.generation after),
                .ok committed.2)

/-- **What a verification that commits has gone through.** -/
theorem verifyCommit_eq_ok {g g' : Governor} {id : ActionId} {fresh : ThermalEvidence}
    {record : ActionVerification} (h : g.verifyCommit id fresh = (g', .ok record)) :
    ∃ action definition policy before,
      g.actions.lookup id = some action ∧ awaitsVerification action.lifecycle = true ∧
      g.domains.find action.authority.domain = some definition ∧
      g.policyFor definition = some policy ∧ g.actionBaselines.lookup id = some before ∧
      VerificationCurrent
        (g.verificationInput definition action before (g.evaluation definition policy).2 fresh)
        action ∧
      record =
        { verifiedRecord
            (g.verificationInput definition action before (g.evaluation definition policy).2 fresh)
            action with generation := advance g.verificationGeneration } := by
  unfold verifyCommit at h
  split at h
  · cases h
  rename_i action haction
  split at h
  · cases h
  rename_i hchecks
  split at h
  · cases h
  rename_i definition hfind
  split at h
  · cases h
  rename_i before hbefore
  split at h
  · cases h
  rename_i gE after heval
  split at h
  · cases h
  rename_i verified hverified
  obtain ⟨-, hrecord⟩ := Prod.mk.inj h
  obtain rfl := Except.ok.inj hrecord
  obtain ⟨policy, hpolicy, rfl, rfl⟩ := evaluateLocked_eq_ok heval
  obtain ⟨hfence, rfl⟩ := (verifyAction_eq_ok rfl).mp hverified
  rw [runChecks_eq_ok] at hchecks
  simp only [verifyChecks, List.forall_mem_cons] at hchecks
  exact ⟨action, definition, policy, before, haction, hchecks.2.1, hfind, hpolicy, hbefore,
    verificationFence_eq_ok.mp hfence, rfl⟩

/-- Publish a record and verify an action from the evidence then held. -/
def verifyAction (g : Governor) (id : ActionId) (fresh : ThermalEvidence) :
    Governor × Result ActionVerification :=
  match g.publishTemperature fresh with
  | (g, .error e) => (g, .error e)
  | (g, .ok _) => g.verifyCommit id fresh

/-- Cancel an action.  The reason is written over its detail in every case. -/
def cancelAction (g : Governor) (id : ActionId) (reason : String) :
    Governor × Result CancellationResult :=
  match g.actions.lookup id with
  | none => (g, failure .unknownAction "action is not registered")
  | some action =>
    let action := { action with detail := reason }
    match action.lifecycle with
    | .planned | .authorized =>
      (publishLocked <| g.putAction id { action with lifecycle := .cancelled, terminalAt := g.now },
        .ok .cancelledBeforeDispatch)
    | .dispatched | .acknowledged | .verifying =>
      (publishLocked <| g.putAction id { action with lifecycle := .verifying },
        .ok .verificationRequired)
    | .effective | .partiallyEffective => (g.putAction id action, .ok .alreadyEffective)
    | .ineffective | .worsened | .failed | .superseded | .cancelled | .outcomeUnknown =>
      (g.putAction id action, .ok .outcomeUnknown)

/-! ### What a verification and a cancellation write -/

section Written

variable {P : Governor → Prop} {g : Governor} {id : ActionId}

/-- A verification is refused before the evaluation or after it, or commits to its action. -/
theorem verifyCommit_rule {fresh : ThermalEvidence} (hrefused : P g)
    (hevaluated : ∀ (action : ThermalAction) definition evaluated r,
      g.domains.find action.authority.domain = some definition →
      g.evaluateLocked definition = (evaluated, r) → P evaluated)
    (hcommitted : ∀ (action : ThermalAction) definition before evaluated after verified,
      g.actions.lookup id = some action →
      g.domains.find action.authority.domain = some definition →
      g.evaluateLocked definition = (evaluated, .ok after) →
      ThermalGovernor.verifyAction
        (evaluated.verificationInput definition action before after fresh) = .ok verified →
      P (publishLocked ((evaluated.commitVerification id action verified).1.recordTransition
        definition.id definition.generation after))) :
    P (g.verifyCommit id fresh).1 := by
  unfold verifyCommit
  split
  · exact hrefused
  rename_i action haction
  split
  · exact hrefused
  split
  · exact hrefused
  rename_i definition hfind
  split
  · exact hrefused
  rename_i before hbefore
  split
  · rename_i evaluated error heval
    exact hevaluated action definition evaluated _ hfind heval
  rename_i evaluated after heval
  split
  · exact hevaluated action definition evaluated _ hfind heval
  rename_i verified hverified
  exact hcommitted action definition before evaluated after verified haction hfind heval hverified

/-- A cancellation writes its action back, and publishes unless the action has ended. -/
theorem cancelAction_rule {reason : String} (hrefused : P g)
    (hwritten : ∀ action, P (g.putAction id action))
    (hpublished : ∀ action, P (publishLocked (g.putAction id action))) :
    P (g.cancelAction id reason).1 := by
  unfold cancelAction
  split
  · exact hrefused
  rename_i action haction
  dsimp only
  cases action.lifecycle with
  | planned | authorized | dispatched | acknowledged | verifying => exact hpublished _
  | effective | partiallyEffective | ineffective | worsened | failed | superseded | cancelled
  | outcomeUnknown => exact hwritten _

end Written

end Governor

end ThermalGovernor
