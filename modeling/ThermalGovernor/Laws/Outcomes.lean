import ThermalGovernor.Laws.ActionIds
import ThermalGovernor.Ledger.Lifecycle

/-!
# How an action ends

Two changes leave a terminal position.  A result that fails its policy check supersedes
the action before anybody asks whether it has ended, and an authorisation writes over the
action a load has put under the next identity.  There are no others (`terminal_kept_iff`).

A position that counts as success is entered by a verification only, and only after a
dispatch (`success_earned`).
-/

namespace ThermalGovernor

open Lib Ledger

namespace Governor

variable {g g' : Governor} {id : ActionId} {op : Operation}

/-! ### Terminal positions -/

/-- The identity an operation gives holds an authorised action afterwards. -/
theorem lifecycleOf_of_authorizes (h : g.authorizes op = some id) :
    (g.apply op).lifecycleOf id = some .authorized := by
  cases op with
  | authorizeMitigation domain record rationale =>
    exact lifecycleOf_of_storesAuthorized
      (g.storesAuthorized_authorizeMitigation domain record rationale) h
  | authorizeDerating domain record rationale =>
    exact lifecycleOf_of_storesAuthorized
      (g.storesAuthorized_authorizeDerating domain record rationale) h
  | _ => cases h

/-- The action a result supersedes is superseded afterwards, whatever it was. -/
theorem lifecycleOf_of_supersedes (h : g.supersedes op = some id) :
    (g.apply op).lifecycleOf id = some .superseded := by
  cases op with
  | recordActionResult result =>
    rw [supersedes] at h
    rw [apply, recordActionResult]
    cases hheld : g.actions.lookup result.actionId with
    | none =>
      rw [hheld] at h
      cases h
    | some action =>
      rw [hheld] at h
      dsimp only at h ⊢
      split at h
      · rename_i hsuperseded
        obtain rfl : result.actionId = id := Option.some.inj h
        rw [hsuperseded.1]
        dsimp only
        rw [if_pos hsuperseded.2, lifecycleOf, actions_publishLocked, putAction,
          AList.lookup_insert, Option.map_some]
      · cases h
  | _ => cases h

/-- The operation writes another position over the terminal one that is held. -/
def OverwritesOutcome (g : Governor) (op : Operation) (id : ActionId) (held : ActionLifecycle) :
    Prop :=
  g.authorizes op = some id ∨ (g.supersedes op = some id ∧ held ≠ .superseded)

instance (g : Governor) (op : Operation) (id : ActionId) (held : ActionLifecycle) :
    Decidable (g.OverwritesOutcome op id held) := inferInstanceAs (Decidable (_ ∨ _))

theorem isTerminal_of_isAwaiting {lifecycle : ActionLifecycle}
    (h : lifecycle.isAwaiting = true) : lifecycle.isTerminal = false := by
  cases lifecycle <;> first | rfl | cases h

/-- **A terminal position is left in two ways only.** -/
theorem LifecycleStep.of_isTerminal {held : ActionLifecycle} {target : Option ActionLifecycle}
    (h : LifecycleStep g id op (some held) target) (hterminal : held.isTerminal = true) :
    target = some held ∨ g.authorizes op = some id ∨
      (g.supersedes op = some id ∧ target = some .superseded) := by
  cases h with
  | unchanged => exact .inl rfl
  | authorized _ _ hgives => exact .inr (.inl hgives)
  | superseded _ _ hsupersedes => exact .inr (.inr ⟨hsupersedes, rfl⟩)
  | dispatched | outdated | acknowledged => cases hterminal
  | reported _ _ _ hawaits =>
    rw [isTerminal_of_isAwaiting hawaits] at hterminal
    cases hterminal
  | verified _ _ _ _ hawaits =>
    rw [isTerminal_of_isAwaiting hawaits] at hterminal
    cases hterminal
  | revoked _ _ hawaits =>
    rw [isTerminal_of_isAwaiting hawaits] at hterminal
    cases hterminal
  | cancelled _ _ hopen =>
    rw [hopen] at hterminal
    cases hterminal
  | lost _ _ hopen =>
    rw [hopen] at hterminal
    cases hterminal
  | stopped _ hopen =>
    rw [hopen] at hterminal
    cases hterminal

theorem lifecycleOf_of_not_overwritesOutcome (hload : op.isLoad = false) {held : ActionLifecycle}
    (hheld : g.lifecycleOf id = some held) (hterminal : held.isTerminal = true)
    (h : ¬ g.OverwritesOutcome op id held) : (g.apply op).lifecycleOf id = some held := by
  have hstep := g.lifecycleStep_apply op hload id
  rw [hheld] at hstep
  rcases hstep.of_isTerminal hterminal with hkept | hgives | ⟨hsupersedes, htarget⟩
  · exact hkept
  · exact absurd (.inl hgives) h
  · by_cases hsame : held = .superseded
    · rw [htarget, hsame]
    · exact absurd (.inr ⟨hsupersedes, hsame⟩) h

/-- **A terminal position is kept, exactly when no result supersedes the action again and no
authorisation is given its identity.** -/
theorem terminal_kept_iff (g : Governor) (op : Operation) (hload : op.isLoad = false)
    (id : ActionId) (held : ActionLifecycle) (hheld : g.lifecycleOf id = some held)
    (hterminal : held.isTerminal = true) :
    (g.apply op).lifecycleOf id = some held ↔ ¬ g.OverwritesOutcome op id held := by
  refine ⟨fun hkept hoverwrites => ?_,
    lifecycleOf_of_not_overwritesOutcome hload hheld hterminal⟩
  rcases hoverwrites with hgives | ⟨hsupersedes, hother⟩
  · rw [lifecycleOf_of_authorizes hgives] at hkept
    rw [← Option.some.inj hkept] at hterminal
    cases hterminal
  · rw [lifecycleOf_of_supersedes hsupersedes] at hkept
    exact hother (Option.some.inj hkept).symm

section Deployment

open Deployment

/-- The planned action of the deployment, cancelled before its dispatch. -/
def cancelledPlan : Governor := planned.apply (.cancelAction 2 "not needed")

/-- A late report on that action. -/
def lateResult (generation : ThermalPolicyGeneration) : ActionResult where
  actionId := 2
  actionGeneration := 2
  coordinatorEpoch := 1
  deviceGeneration := 1
  domainGeneration := 1
  policyGeneration := generation

/-- Under the policy it was made for, the report changes nothing. -/
theorem terminal_kept_samePolicy :
    (cancelledPlan.apply (.recordActionResult (lateResult 1))).lifecycleOf 2 = some .cancelled :=
  (terminal_kept_iff cancelledPlan (.recordActionResult (lateResult 1)) rfl 2 .cancelled
    (by decide +kernel) rfl).mpr (by decide +kernel)

/-- After a policy update, it turns the cancelled action into a superseded one. -/
theorem terminal_not_kept :
    ¬ ∀ (g : Governor) (op : Operation) (id : ActionId) (held : ActionLifecycle),
      g.Reachable → op.isLoad = false → g.lifecycleOf id = some held →
        held.isTerminal = true → (g.apply op).lifecycleOf id = some held := by
  intro h
  let g : Governor :=
    cancelledPlan.apply (.setPolicy { PolicyOver.makeDefault with generation := 2 })
  have hreachable : g.Reachable := ((reachable_after _).apply _).apply _
  have hkept := h g (.recordActionResult (lateResult 1)) 2 .cancelled hreachable rfl
    (by decide +kernel) rfl
  have hsuperseded : (g.apply (.recordActionResult (lateResult 1))).lifecycleOf 2 =
      some .superseded := by decide +kernel
  rw [hsuperseded] at hkept
  cases hkept

end Deployment

/-! ### Success -/

/-- The action has succeeded. -/
def Succeeded (g : Governor) (id : ActionId) : Prop :=
  ∃ held, g.lifecycleOf id = some held ∧ held.isSuccess = true

/-- The run has dispatched the action. -/
def DispatchedIn (g₀ : Governor) (operations : List Operation) (id : ActionId) : Prop :=
  ∃ before middle, operations = before ++ .recordActionDispatch id :: middle ∧
    ((before.foldl apply g₀).recordActionDispatch id).2 = .ok .dispatched

/-- After a dispatch of the action, a verification moved it from a position that waits for
one to the position the run ends in. -/
def EarnedIn (g₀ : Governor) (operations : List Operation) (id : ActionId) : Prop :=
  ∃ before op rest held, operations = before ++ op :: rest ∧ DispatchedIn g₀ before id ∧
    op.verifies id = true ∧ (before.foldl apply g₀).lifecycleOf id = some held ∧
    held.isAwaiting = true ∧
    ((before.foldl apply g₀).apply op).lifecycleOf id = (operations.foldl apply g₀).lifecycleOf id

variable {g₀ : Governor} {operations : List Operation}

theorem dispatchedIn_append (h : DispatchedIn g₀ operations id) (op : Operation) :
    DispatchedIn g₀ (operations ++ [op]) id := by
  obtain ⟨before, middle, rfl, hok⟩ := h
  exact ⟨before, middle ++ [op], by simp, hok⟩

theorem foldl_apply_append (g₀ : Governor) (operations : List Operation) (op : Operation) :
    (operations ++ [op]).foldl apply g₀ = (operations.foldl apply g₀).apply op := by
  rw [List.foldl_append]
  rfl

/-- An operation that leaves the position alone leaves it earned. -/
theorem earnedIn_append (h : EarnedIn g₀ operations id)
    (hkept : ((operations.foldl apply g₀).apply op).lifecycleOf id =
      (operations.foldl apply g₀).lifecycleOf id) : EarnedIn g₀ (operations ++ [op]) id := by
  obtain ⟨before, verification, rest, held, rfl, hdispatched, hverifies, hheld, hawaits, hend⟩ := h
  refine ⟨before, verification, rest ++ [op], held, by simp, hdispatched, hverifies, hheld,
    hawaits, ?_⟩
  rw [foldl_apply_append, hkept, hend]

/-- The positions that presuppose a dispatch have had one, and success was verified. -/
structure Earns (g₀ : Governor) (operations : List Operation) (id : ActionId)
    (position : Option ActionLifecycle) : Prop where
  awaiting : ∀ held, position = some held → held.isAwaiting = true →
    DispatchedIn g₀ operations id
  success : ∀ held, position = some held → held.isSuccess = true → EarnedIn g₀ operations id

/-- A position that presupposes nothing. -/
theorem earns_of_neither {held : ActionLifecycle} (hawaiting : held.isAwaiting = false)
    (hsuccess : held.isSuccess = false) : Earns g₀ operations id (some held) := by
  refine ⟨fun held' hheld hawaits => ?_, fun held' hheld hsucceeds => ?_⟩
  · obtain rfl := Option.some.inj hheld
    rw [hawaiting] at hawaits
    cases hawaits
  · obtain rfl := Option.some.inj hheld
    rw [hsuccess] at hsucceeds
    cases hsucceeds

/-- A position that waits for a verification, after a dispatch. -/
theorem earns_of_dispatchedIn {held : ActionLifecycle} (hsuccess : held.isSuccess = false)
    (h : DispatchedIn g₀ operations id) : Earns g₀ operations id (some held) := by
  refine ⟨fun _ _ _ => h, fun held' hheld hsucceeds => ?_⟩
  obtain rfl := Option.some.inj hheld
  rw [hsuccess] at hsucceeds
  cases hsucceeds

/-- **Every position a run leads to is earned.** -/
theorem earns_foldl (h₀ : g₀.lifecycleOf id = none)
    (hload : ∀ op ∈ operations, op.isLoad = false) :
    Earns g₀ operations id ((operations.foldl apply g₀).lifecycleOf id) := by
  induction operations using List.reverseRecOn with
  | nil =>
    rw [List.foldl_nil, h₀]
    exact ⟨nofun, nofun⟩
  | append_singleton operations op ih =>
    obtain ⟨hawaiting, hsuccess⟩ := ih fun op' hop' => hload op' (List.mem_append_left _ hop')
    have hstep := (operations.foldl apply g₀).lifecycleStep_apply op
      (hload op (List.mem_append_right _ List.mem_cons_self)) id
    rw [foldl_apply_append]
    generalize hheld : (operations.foldl apply g₀).lifecycleOf id = held
      at hstep hawaiting hsuccess
    generalize htarget : ((operations.foldl apply g₀).apply op).lifecycleOf id = target at hstep
    cases hstep with
    | unchanged =>
      refine ⟨fun held' hheld' hawaits => ?_, fun held' hheld' hsucceeds => ?_⟩
      · exact dispatchedIn_append (hawaiting held' hheld' hawaits) op
      · exact earnedIn_append (hsuccess held' hheld' hsucceeds) (by rw [htarget, hheld])
    | authorized => exact earns_of_neither rfl rfl
    | dispatched hok => exact earns_of_dispatchedIn rfl ⟨operations, [], rfl, hok⟩
    | outdated => exact earns_of_neither rfl rfl
    | acknowledged ack target h =>
      have hdispatched : DispatchedIn g₀ operations id := hawaiting _ rfl rfl
      rcases h with rfl | rfl
      · exact earns_of_dispatchedIn rfl (dispatchedIn_append hdispatched _)
      · exact earns_of_neither rfl rfl
    | superseded => exact earns_of_neither rfl rfl
    | reported result held target hawaits h =>
      have hdispatched : DispatchedIn g₀ operations id := hawaiting _ rfl hawaits
      rcases h with rfl | rfl
      · exact earns_of_dispatchedIn rfl (dispatchedIn_append hdispatched _)
      · exact earns_of_neither rfl rfl
    | verified _ held target hverifies hawaits hterminal =>
      have hdispatched : DispatchedIn g₀ operations id := hawaiting _ rfl hawaits
      refine ⟨fun held' hheld' hawaits' => ?_, fun held' hheld' hsucceeds => ?_⟩
      · exact dispatchedIn_append hdispatched _
      · refine ⟨operations, op, [], held, rfl, hdispatched, hverifies, hheld, hawaits, ?_⟩
        rw [foldl_apply_append]
    | cancelled => exact earns_of_neither rfl rfl
    | revoked reason held hawaits =>
      exact earns_of_dispatchedIn rfl (dispatchedIn_append (hawaiting _ rfl hawaits) _)
    | lost => exact earns_of_neither rfl rfl
    | stopped => exact earns_of_neither rfl rfl

/-- Success is entered by a verification of a position that waits for one. -/
theorem LifecycleStep.of_isSuccess {held : Option ActionLifecycle} {target : ActionLifecycle}
    (h : LifecycleStep g id op held (some target)) (hsuccess : target.isSuccess = true) :
    held = some target ∨
      (op.verifies id = true ∧ ∃ waiting, held = some waiting ∧ waiting.isAwaiting = true) := by
  cases h with
  | unchanged => exact .inl rfl
  | verified _ held _ hverifies hawaits => exact .inr ⟨hverifies, held, rfl, hawaits⟩
  | authorized | dispatched | outdated | superseded | cancelled | revoked | lost | stopped =>
    cases hsuccess
  | acknowledged _ _ h => rcases h with rfl | rfl <;> cases hsuccess
  | reported _ _ _ _ h => rcases h with rfl | rfl <;> cases hsuccess

/-! ### Actions that ended without success -/

/-- The action has ended, and not in success. -/
def EndedUnearned (g : Governor) (id : ActionId) : Prop :=
  ∃ held, g.lifecycleOf id = some held ∧ held.isTerminal = true ∧ held.isSuccess = false

variable {config : GovernorConfig} {now : SteadyTimePoint}

theorem room_of_mayAuthorize {domain : ThermalDomainId} {record : MitigationIntentRecord}
    (h : g.mayAuthorize domain record = true) : Table.size g.actions < g.config.maxActions := by
  unfold mayAuthorize at h
  split at h
  · cases h
  split at h
  · cases h
  rw [Bool.and_eq_true, Bool.and_eq_true, decide_eq_true_eq, decide_eq_true_eq,
    runChecks_eq_ok] at h
  have hchecks := h.1.2
  simp only [authorizeChecks, List.forall_mem_cons] at hchecks
  exact of_decide_eq_true hchecks.2.1

theorem room_of_authorizes (h : g.authorizes op = some id) :
    id = advance g.actionGeneration ∧ Table.size g.actions < g.config.maxActions := by
  cases op with
  | authorizeMitigation domain record rationale =>
    rw [authorizes] at h
    split at h
    · rename_i hmay
      exact ⟨(Option.some.inj h).symm, room_of_mayAuthorize hmay⟩
    · cases h
  | authorizeDerating domain record rationale =>
    have hsame := g.evaluateDomain_same domain
    rw [authorizes] at h
    split at h
    · cases h
    · rename_i evaluated e heval
      rw [heval] at hsame
      dsimp only at h
      generalize (if record.intent ≠ .noAction then some record else demandedIntent e) = intent at h
      split at h
      · rename_i hany
        obtain ⟨demanded, -, hmay⟩ := (Option.any_eq_true _ _).mp hany
        have hroom := room_of_mayAuthorize hmay
        rw [hsame.actions, hsame.config] at hroom
        exact ⟨(Option.some.inj h).symm, hroom⟩
      · cases h
  | _ => cases h

/-- An identity that is given is not in use. -/
theorem lifecycleOf_of_fresh (hrun : RunsUnder LoadsGiven (create config now) g)
    (h : g.authorizes op = some id) : g.lifecycleOf id = none := by
  obtain ⟨hid, hroom⟩ := room_of_authorizes h
  have hallocated : g.ledger.Allocated := allocated_of_reachable ⟨config, now, hrun.runs⟩
  have hnext : advance g.actionGeneration = g.actionGeneration + 1 :=
    advance_actionGeneration hallocated hroom
  cases hheld : g.actions.lookup id with
  | none => rw [lifecycleOf, hheld, Option.map_none]
  | some action =>
    have hle : id ≤ g.actionGeneration :=
      givenIdentities_of_runsUnder hrun id (Table.mem_of_lookup hheld)
    rw [hid, hnext] at hle
    exact absurd hle (Nat.not_succ_le_self _)

/-- Without a load, an action that ended without success stays so. -/
theorem endedUnearned_apply (hrun : RunsUnder LoadsGiven (create config now) g)
    (hload : op.isLoad = false) (h : g.EndedUnearned id) : (g.apply op).EndedUnearned id := by
  obtain ⟨held, hheld, hterminal, hsuccess⟩ := h
  have hstep := g.lifecycleStep_apply op hload id
  rw [hheld] at hstep
  rcases hstep.of_isTerminal hterminal with hkept | hgives | ⟨-, htarget⟩
  · exact ⟨held, hkept, hterminal, hsuccess⟩
  · rw [lifecycleOf_of_fresh hrun hgives] at hheld
    cases hheld
  · exact ⟨.superseded, htarget, rfl, rfl⟩

theorem not_succeeded_of_endedUnearned (h : g.EndedUnearned id) : ¬ g.Succeeded id := by
  obtain ⟨held, hheld, -, hsuccess⟩ := h
  rintro ⟨held', hheld', hsucceeds⟩
  obtain rfl := Option.some.inj (hheld.symm.trans hheld')
  rw [hsuccess] at hsucceeds
  cases hsucceeds

theorem loadsGiven_of_not_isLoad (h : op.isLoad = false) (g : Governor) : LoadsGiven g op := by
  intro file hfile
  cases op <;> first | cases hfile | cases h

theorem runsUnder_of_not_isLoad (hload : ∀ op ∈ operations, op.isLoad = false) :
    RunsUnder LoadsGiven (create config now) (operations.foldl apply (create config now)) :=
  runsUnder_foldl operations (fun op hop => loadsGiven_of_not_isLoad (hload op hop)) _

theorem endedUnearned_foldl (hrun : RunsUnder LoadsGiven (create config now) g)
    (hload : ∀ op ∈ operations, op.isLoad = false) (h : g.EndedUnearned id) :
    (operations.foldl apply g).EndedUnearned id := by
  induction operations generalizing g with
  | nil => exact h
  | cons op rest ih =>
    have hop : op.isLoad = false := hload op List.mem_cons_self
    exact ih (.tail op hrun (loadsGiven_of_not_isLoad hop g))
      (fun op' hop' => hload op' (List.mem_cons_of_mem _ hop')) (endedUnearned_apply hrun hop h)

/-- The operation leaves the action cancelled, superseded or rejected, or it retires the
incarnation the action is bound to before the action has succeeded. -/
inductive Closes (g : Governor) (op : Operation) (id : ActionId) : Prop
  | cancelled (h : (g.apply op).lifecycleOf id = some .cancelled)
  | superseded (h : (g.apply op).lifecycleOf id = some .superseded)
  | rejected (h : (g.apply op).lifecycleOf id = some .failed)
  | retired (action : ThermalAction) (hheld : g.actions.lookup id = some action)
      (hretires : g.retires op = some (action.authority.worker, action.authority.workerBoot))
      (hopen : action.lifecycle.isSuccess = false)

theorem actions_of_retires {incarnation : WorkerId × WorkerBootId}
    (h : g.retires op = some incarnation) :
    (g.apply op).actions = g.retiredActions (some incarnation) := by
  rw [← h]
  cases op with
  | registerWorker worker boot label => exact g.actions_registerWorker worker boot label
  | noteWorkerDeath worker boot => exact g.actions_noteWorkerDeath worker boot
  | _ => cases h

theorem endedUnearned_of_closes (h : g.Closes op id) : (g.apply op).EndedUnearned id := by
  cases h with
  | cancelled h => exact ⟨_, h, rfl, rfl⟩
  | superseded h => exact ⟨_, h, rfl, rfl⟩
  | rejected h => exact ⟨_, h, rfl, rfl⟩
  | retired action hheld hretires hopen =>
    have hlifecycle : (g.apply op).lifecycleOf id = some
        (action.retire action.authority.worker action.authority.workerBoot g.now).lifecycle := by
      rw [lifecycleOf, actions_of_retires hretires, retiredActions, Table.lookup_mapValues, hheld]
      rfl
    rw [lifecycle_retire] at hlifecycle
    split at hlifecycle
    · exact ⟨_, hlifecycle, rfl, rfl⟩
    · rename_i hended
      refine ⟨_, hlifecycle, ?_, hopen⟩
      simpa using hended

/-- **No action succeeds unless it was dispatched and a later verification confirmed it**, in
any run without a load.  One that was cancelled, superseded, rejected or retired never does. -/
theorem success_earned (config : GovernorConfig) (now : SteadyTimePoint)
    (operations : List Operation) (hload : ∀ op ∈ operations, op.isLoad = false)
    (id : ActionId) :
    ((operations.foldl apply (create config now)).Succeeded id →
      EarnedIn (create config now) operations id) ∧
    ∀ before op rest, operations = before ++ op :: rest →
      (¬ (before.foldl apply (create config now)).Succeeded id →
        ((before.foldl apply (create config now)).apply op).Succeeded id →
          op.verifies id = true ∧ DispatchedIn (create config now) before id ∧
            ∃ held, (before.foldl apply (create config now)).lifecycleOf id = some held ∧
              held.isAwaiting = true) ∧
      ((before.foldl apply (create config now)).Closes op id →
        ¬ (operations.foldl apply (create config now)).Succeeded id) := by
  have hnone : (create config now).lifecycleOf id = none := rfl
  constructor
  · rintro ⟨held, hheld, hsuccess⟩
    exact (earns_foldl hnone hload).success held hheld hsuccess
  · rintro before op rest rfl
    have hbefore : ∀ op' ∈ before, op'.isLoad = false := fun op' hop' =>
      hload op' (List.mem_append_left _ hop')
    have hop : op.isLoad = false := hload op (List.mem_append_right _ List.mem_cons_self)
    have hrest : ∀ op' ∈ rest, op'.isLoad = false := fun op' hop' =>
      hload op' (List.mem_append_right _ (List.mem_cons_of_mem _ hop'))
    have hrun : RunsUnder LoadsGiven (create config now)
        (before.foldl apply (create config now)) := runsUnder_of_not_isLoad hbefore
    constructor
    · rintro hnot ⟨target, htarget, hsuccess⟩
      have hstep := (before.foldl apply (create config now)).lifecycleStep_apply op hop id
      rw [htarget] at hstep
      rcases hstep.of_isSuccess hsuccess with hheld | ⟨hverifies, waiting, hwaiting, hawaits⟩
      · exact absurd ⟨target, hheld, hsuccess⟩ hnot
      · exact ⟨hverifies, (earns_foldl hnone hbefore).awaiting waiting hwaiting hawaits, waiting,
          hwaiting, hawaits⟩
    · intro hcloses
      have hended := endedUnearned_foldl (.tail op hrun (loadsGiven_of_not_isLoad hop _)) hrest
        (endedUnearned_of_closes hcloses)
      rw [List.foldl_append]
      exact not_succeeded_of_endedUnearned hended

section Deployment

open Deployment

/-- The deployment plans an action, dispatches it and verifies it from a cooler reading. -/
def mitigated : List Operation :=
  setUp ++ [.publishTemperature (reading 82 1 0), .authorizeMitigation 1 clockReduction "",
    .recordActionDispatch 2, .verifyAction 2 (reading 60 2 10)]

/-- Its success is earned. -/
theorem success_earned_mitigated : EarnedIn (create Deployment.config 0) mitigated 2 := by
  have hload : ∀ op ∈ mitigated, op.isLoad = false := by
    simp [mitigated, setUp, Operation.isLoad]
  exact (success_earned Deployment.config 0 mitigated hload 2).1
    ⟨.partiallyEffective, by decide +kernel, rfl⟩

end Deployment

end Governor

end ThermalGovernor
