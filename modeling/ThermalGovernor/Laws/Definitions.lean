import ThermalGovernor.Governed.Reached
import ThermalGovernor.Laws.ActionIds
import ThermalGovernor.Ledger.Lifecycle

/-!
# Definitions that are looked up

Some operations follow an id to a definition without asking whether it is there: a dispatch
to the domain its action names, `explain` to the policy of its domain.  Domains and policies
are never removed and the policy present from the start is one of them; what is left is the
table of actions, which a load fills from a file without a look at the domains.  It enters
finished actions only, and an unfinished action was authorised for a registered domain and
keeps its binding (`KeepsOpen`).

`defined_of_reachable` : whatever an operation follows is there.
-/

namespace ThermalGovernor

open Lib

namespace Governor

variable {g g' g'' : Governor}

/-! ### Unfinished actions -/

/-- Every unfinished action was unfinished before, with the same binding. -/
def KeepsOpen (g g' : Governor) : Prop :=
  ∀ id b, g'.actions.lookup id = some b → b.lifecycle.isTerminal = false →
    ∃ a, g.actions.lookup id = some a ∧ a.lifecycle.isTerminal = false ∧
      b.authority = a.authority

theorem keepsOpen_of_actions (h : g'.actions = g.actions) : KeepsOpen g g' := by
  intro id b hb hopen
  rw [h] at hb
  exact ⟨b, hb, hopen, rfl⟩

theorem KeepsOpen.trans (h : KeepsOpen g g') (h' : KeepsOpen g' g'') : KeepsOpen g g'' := by
  intro id c hc hopen
  obtain ⟨b, hb, hopen', hsame'⟩ := h' id c hc hopen
  obtain ⟨a, ha, hopen'', hsame⟩ := h id b hb hopen'
  exact ⟨a, ha, hopen'', hsame'.trans hsame⟩

/-- One action is written back: it has ended, or it continues one that had not. -/
theorem keepsOpen_of_insert {id : ActionId} {b : ThermalAction}
    (h : g'.actions = g.actions.insert id b)
    (hb : b.lifecycle.isTerminal = false → ∃ a, g.actions.lookup id = some a ∧
      a.lifecycle.isTerminal = false ∧ b.authority = a.authority) : KeepsOpen g g' := by
  intro other c hc hopen
  rw [h, Table.lookup_insert_eq_ite] at hc
  split at hc
  · rename_i hother
    obtain rfl := Option.some.inj hc
    rw [hother]
    exact hb hopen
  · exact ⟨c, hc, hopen, rfl⟩

/-- Every action is rewritten, and none is opened or bound anew. -/
theorem keepsOpen_of_mapValues {f : ActionId → ThermalAction → ThermalAction}
    (h : g'.actions = Table.mapValues f g.actions)
    (hf : ∀ id a, (f id a).lifecycle.isTerminal = false →
      a.lifecycle.isTerminal = false ∧ (f id a).authority = a.authority) : KeepsOpen g g' := by
  intro id b hb hopen
  rw [h, Table.lookup_mapValues, Option.map_eq_some_iff] at hb
  obtain ⟨a, ha, rfl⟩ := hb
  exact ⟨a, ha, hf id a hopen⟩

theorem keepsOpen_recordActionDispatch (g : Governor) (id : ActionId) :
    KeepsOpen g (g.recordActionDispatch id).1 := by
  unfold recordActionDispatch
  cases hheld : g.actions.lookup id with
  | none => exact keepsOpen_of_actions rfl
  | some action =>
    dsimp only
    cases hchecks : runChecks (dispatchChecks action) with
    | error e => exact keepsOpen_of_actions rfl
    | ok _ =>
      have hopen : action.lifecycle.isTerminal = false := by
        rw [runChecks_eq_ok] at hchecks
        simpa using hchecks _ List.mem_cons_self
      dsimp only
      split
      · exact keepsOpen_of_insert rfl fun h => by cases h
      · exact keepsOpen_of_insert rfl fun _ => ⟨action, hheld, hopen, rfl⟩

theorem keepsOpen_recordActionAck (g : Governor) (ack : ActionAck) :
    KeepsOpen g (g.recordActionAck ack).1 := by
  unfold recordActionAck
  cases hheld : g.actions.lookup ack.actionId with
  | none => exact keepsOpen_of_actions rfl
  | some action =>
    dsimp only
    split
    · exact keepsOpen_of_actions rfl
    · cases hlifecycle : action.lifecycle with
      | dispatched =>
        have hopen : action.lifecycle.isTerminal = false := by rw [hlifecycle]; rfl
        dsimp only
        split
        · exact keepsOpen_of_insert rfl fun _ => ⟨action, hheld, hopen, rfl⟩
        · exact keepsOpen_of_insert rfl fun h => by cases h
      | acknowledged | verifying =>
        dsimp only
        split <;> exact keepsOpen_of_actions rfl
      | planned | authorized | effective | partiallyEffective | ineffective | worsened | failed
      | superseded | cancelled | outcomeUnknown => exact keepsOpen_of_actions rfl

theorem keepsOpen_recordActionResult (g : Governor) (result : ActionResult) :
    KeepsOpen g (g.recordActionResult result).1 := by
  unfold recordActionResult
  cases hheld : g.actions.lookup result.actionId with
  | none => exact keepsOpen_of_actions rfl
  | some action =>
    dsimp only
    split
    · exact keepsOpen_of_actions rfl
    · split
      · exact keepsOpen_of_insert rfl fun h => by cases h
      · cases hlifecycle : action.lifecycle with
        | acknowledged | dispatched =>
          have hopen : action.lifecycle.isTerminal = false := by rw [hlifecycle]; rfl
          dsimp only
          split
          · exact keepsOpen_of_insert rfl fun _ => ⟨action, hheld, hopen, rfl⟩
          · exact keepsOpen_of_insert rfl fun h => by cases h
        | verifying | planned | authorized | effective | partiallyEffective | ineffective
        | worsened | failed | superseded | cancelled | outcomeUnknown =>
          exact keepsOpen_of_actions rfl

theorem keepsOpen_verifyCommit (g : Governor) (id : ActionId) (fresh : ThermalEvidence) :
    KeepsOpen g (g.verifyCommit id fresh).1 := by
  rcases g.verifyCommit_cases id fresh with hactions | ⟨_, updated, -, -, hactions, hterminal⟩
  · exact keepsOpen_of_actions hactions
  · exact keepsOpen_of_insert hactions fun hopen => by rw [hterminal] at hopen; cases hopen

theorem keepsOpen_verifyAction (g : Governor) (id : ActionId) (fresh : ThermalEvidence) :
    KeepsOpen g (g.verifyAction id fresh).1 := by
  have hsame := g.actions_publishImpl fresh
  unfold verifyAction publishTemperature
  split
  · rename_i published e hpublish
    rw [hpublish] at hsame
    exact keepsOpen_of_actions hsame
  · rename_i published receipt hpublish
    rw [hpublish] at hsame
    exact (keepsOpen_of_actions hsame).trans (published.keepsOpen_verifyCommit id fresh)

theorem keepsOpen_cancelAction (g : Governor) (id : ActionId) (reason : String) :
    KeepsOpen g (g.cancelAction id reason).1 := by
  unfold cancelAction
  cases hheld : g.actions.lookup id with
  | none => exact keepsOpen_of_actions rfl
  | some action =>
    dsimp only
    cases hlifecycle : action.lifecycle with
    | planned | authorized => exact keepsOpen_of_insert rfl fun h => by cases h
    | dispatched | acknowledged | verifying =>
      have hopen : action.lifecycle.isTerminal = false := by rw [hlifecycle]; rfl
      exact keepsOpen_of_insert rfl fun _ => ⟨action, hheld, hopen, rfl⟩
    | effective | partiallyEffective | ineffective | worsened | failed | superseded | cancelled
    | outcomeUnknown => exact keepsOpen_of_insert rfl fun h => by cases h

theorem keepsOpen_of_retires {op : Operation}
    (h : g'.actions = g.retiredActions (g.retires op)) : KeepsOpen g g' := by
  cases hretires : g.retires op with
  | none =>
    rw [hretires] at h
    exact keepsOpen_of_actions h
  | some incarnation =>
    obtain ⟨worker, boot⟩ := incarnation
    rw [hretires, retiredActions] at h
    refine keepsOpen_of_mapValues h fun id a hopen => ?_
    unfold ThermalAction.retire at hopen ⊢
    split at hopen
    · rename_i hother
      rw [if_pos hother]
      exact ⟨hopen, rfl⟩
    · rename_i hother
      rw [if_neg hother]
      split at hopen
      · rename_i hterminal
        rw [if_pos hterminal]
        exact ⟨hopen, rfl⟩
      · cases hopen

theorem keepsOpen_shutdown (g : Governor) : KeepsOpen g g.shutdown.1 := by
  unfold shutdown
  split
  · exact keepsOpen_of_actions rfl
  · refine keepsOpen_of_mapValues (f := fun _ a => a.shutDown g.now) rfl fun id a hopen => ?_
    -- no action is left open
    unfold ThermalAction.shutDown at hopen
    cases hlifecycle : a.lifecycle <;> rw [hlifecycle] at hopen <;>
      first
        | cases hopen
        | exact absurd (hlifecycle ▸ hopen) (by decide)

/-! ### A load -/

/-- The actions of a file have ended. -/
theorem keepsOpen_restoreActions (g : Governor) (actions : List ThermalAction) :
    KeepsOpen g (actions.foldl restoreAction g) := by
  induction actions generalizing g with
  | nil => exact keepsOpen_of_actions rfl
  | cons action rest ih =>
    have hfirst : KeepsOpen g (g.restoreAction action) :=
      keepsOpen_of_insert rfl fun hopen => by rw [isTerminal_restored] at hopen; cases hopen
    exact hfirst.trans (ih _)

theorem keepsOpen_loadDurable (g : Governor) (file : Option (Result DurableState)) :
    KeepsOpen g (g.loadDurable file).1 := by
  rcases g.fst_loadDurable file with heq | ⟨state, -, -, heq⟩
  · rw [heq]
    exact keepsOpen_of_actions rfl
  · rw [heq]
    refine restore_rule (I := fun g' => g'.actions = g.actions) (J := fun r => KeepsOpen g r.1)
      rfl (fun _ _ _ h => h) (fun _ _ _ _ h => h) (fun _ _ h => keepsOpen_of_actions h)
      fun g₂ h => ?_
    have hbefore : KeepsOpen g { g₂ with history := state.transitions } := keepsOpen_of_actions h
    refine (hbefore.trans (keepsOpen_restoreActions _ state.actions)).trans ?_
    refine keepsOpen_of_actions ?_
    rw [actions_publishLocked, actions_recomputeAllDomains]
    rfl

/-! ### Every operation -/

/-- **An unfinished action is one from before, or has just been authorised for a registered
domain.** -/
theorem open_apply (g : Governor) (op : Operation) {id : ActionId} {b : ThermalAction}
    (hb : (g.apply op).actions.lookup id = some b) (hopen : b.lifecycle.isTerminal = false) :
    (∃ a, g.actions.lookup id = some a ∧ a.lifecycle.isTerminal = false ∧
      b.authority = a.authority) ∨
    (g.domains.find b.authority.domain).isSome = true := by
  have hkept : KeepsOpen g (g.apply op) →
      (∃ a, g.actions.lookup id = some a ∧ a.lifecycle.isTerminal = false ∧
        b.authority = a.authority) ∨
      (g.domains.find b.authority.domain).isSome = true :=
    fun h => .inl (h id b hb hopen)
  have hstored : StoresAuthorized g (g.apply op) op →
      (∃ a, g.actions.lookup id = some a ∧ a.lifecycle.isTerminal = false ∧
        b.authority = a.authority) ∨
      (g.domains.find b.authority.domain).isSome = true := by
    rintro (⟨given, action, -, hactions, -, hfind⟩ | ⟨-, hactions⟩)
    · rw [hactions, Table.lookup_insert_eq_ite] at hb
      split at hb
      · obtain rfl := Option.some.inj hb
        exact .inr hfind
      · exact .inl ⟨b, hb, hopen, rfl⟩
    · exact hkept (keepsOpen_of_actions hactions)
  cases op with
  | tick | setClock | registerDevice | publishCapabilities | registerThermalDomain
  | updateThermalDomain | registerCoupling | removeCoupling | setPolicy | workerHeartbeat
  | publishTemperature | publishThrottleEvidence | publishCoolingEvidence
  | publishNodeTemperature | publishRackTemperature | evaluateDomain | evaluateDevice
  | evaluateAdmission | authorizeRecovery | revokeRecovery =>
    exact hkept (keepsOpen_of_actions (g.actions_apply rfl))
  | registerWorker worker boot label =>
    exact hkept (keepsOpen_of_retires (g.actions_registerWorker worker boot label))
  | noteWorkerDeath worker boot =>
    exact hkept (keepsOpen_of_retires (g.actions_noteWorkerDeath worker boot))
  | authorizeMitigation domain record rationale =>
    exact hstored (g.storesAuthorized_authorizeMitigation domain record rationale)
  | authorizeDerating domain record rationale =>
    exact hstored (g.storesAuthorized_authorizeDerating domain record rationale)
  | recordActionDispatch other => exact hkept (g.keepsOpen_recordActionDispatch other)
  | recordActionAck ack => exact hkept (g.keepsOpen_recordActionAck ack)
  | recordActionResult result => exact hkept (g.keepsOpen_recordActionResult result)
  | verifyAction other fresh => exact hkept (g.keepsOpen_verifyAction other fresh)
  | verifyCommit other fresh => exact hkept (g.keepsOpen_verifyCommit other fresh)
  | cancelAction other reason => exact hkept (g.keepsOpen_cancelAction other reason)
  | loadDurable file => exact hkept (g.keepsOpen_loadDurable file)
  | shutdown => exact hkept g.keepsOpen_shutdown

/-- Every unfinished action names a registered domain. -/
def OpenRegistered (g : Governor) : Prop :=
  ∀ id action, g.actions.lookup id = some action → action.lifecycle.isTerminal = false →
    (g.domains.find action.authority.domain).isSome = true

/-- No operation forgets a domain. -/
theorem isSome_find_apply (g : Governor) (op : Operation) {id : ThermalDomainId}
    (h : (g.domains.find id).isSome = true) :
    ((g.apply op).domains.find id).isSome = true := by
  have hwrites : Writes (fun _ => True) g (g.apply op) := g.apply_writes op fun _ _ => trivial
  exact hwrites.invariant (I := fun g => (g.domains.find id).isSome = true)
    (fun _ _ hwrite => hwrite.isSome_find) h

theorem openRegistered_of_reachable (hg : g.Reachable) : g.OpenRegistered := by
  obtain ⟨config, now, hrun⟩ := hg
  refine RunUnder.invariant (I := OpenRegistered) hrun (fun _ _ h => by cases h) ?_
  intro g op hg _ id b hb hopen
  rcases g.open_apply op hb hopen with ⟨a, ha, hopen', hsame⟩ | hfind
  · rw [hsame]
    exact isSome_find_apply g op (hg id a ha hopen')
  · exact isSome_find_apply g op hfind

/-- **Whatever an operation follows is there**, in every state: the policy of a registered
domain, which an evaluation, an admission and `explain` take, and the domain of an unfinished
action, which a dispatch and a verification take. -/
theorem defined_of_reachable {g : Governor} (hg : g.Reachable) :
    (∀ id definition, g.domains.find id = some definition →
      ∃ policy, g.policyFor definition = some policy) ∧
    (∀ id action, g.actions.lookup id = some action → action.lifecycle.isTerminal = false →
      ∃ definition, g.domains.find action.authority.domain = some definition) ∧
    (∀ id action, g.actions.lookup id = some action →
      (runChecks (dispatchChecks action) = .ok () ∨ runChecks (g.verifyChecks action) = .ok ()) →
      ∃ definition, g.domains.find action.authority.domain = some definition) ∧
    ∀ id definition, g.domains.find id = some definition →
      ∃ e, (g.evaluateLocked definition).2 = .ok e := by
  have hpolicy := exists_policyFor hg
  have hregistered : ∀ id action, g.actions.lookup id = some action →
      action.lifecycle.isTerminal = false →
      ∃ definition, g.domains.find action.authority.domain = some definition :=
    fun id action haction hopen =>
      Option.isSome_iff_exists.mp (openRegistered_of_reachable hg id action haction hopen)
  refine ⟨fun _ definition _ => hpolicy definition, hregistered, ?_, ?_⟩
  · intro id action haction hchecks
    refine hregistered id action haction ?_
    rcases hchecks with hchecks | hchecks
    · rw [runChecks_eq_ok] at hchecks
      simpa using hchecks _ List.mem_cons_self
    · rw [runChecks_eq_ok] at hchecks
      simpa using hchecks _ List.mem_cons_self
  · intro id definition _
    obtain ⟨policy, hpolicy⟩ := hpolicy definition
    rw [evaluateLocked, hpolicy]
    exact ⟨_, rfl⟩

open Deployment in
/-- The action planned for the deployment names a domain that is there, with its policy. -/
theorem defined_planned : ∃ definition policy,
    ((planned.actions.lookup 2).bind fun action => planned.domains.find action.authority.domain) =
      some definition ∧ planned.policyFor definition = some policy := by
  obtain ⟨hpolicies, hopen, -⟩ := defined_of_reachable (g := planned) (reachable_after _)
  obtain ⟨action, haction, hlifecycle⟩ := exists_of_any (planned.actions.lookup 2)
    (fun action => action.lifecycle.isTerminal = false) (by decide +kernel)
  obtain ⟨definition, hfind⟩ := hopen 2 action haction hlifecycle
  obtain ⟨policy, hpolicy⟩ := hpolicies _ definition hfind
  exact ⟨definition, policy, by rw [haction, Option.bind_some, hfind], hpolicy⟩

end Governor

end ThermalGovernor
