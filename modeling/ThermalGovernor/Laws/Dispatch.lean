import ThermalGovernor.Laws.ActionIds

/-!
# Dispatch and the policy a plan was made under

An action is authorised under the generation of the policy that governs its domain.  A
dispatch asks whether that generation is the counter of all policy updates
(`dispatches_iff`).  The two coincide as long as every policy update is the next
generation of the one policy there is.

In general a dispatch whose other bindings are current answers for the governing policy
exactly when the counter does (`dispatches_samePolicy_iff`).
-/

namespace ThermalGovernor

open Lib Ledger

variable {ok : Ledger → Event → Prop} {l l' : Ledger} {id : ActionId}
  {authority : ActionAuthority}

/-- A settled action that has not ended had not ended before. -/
theorem ThermalAction.Settles.not_isTerminal {a b : ThermalAction} (h : a.Settles b)
    (hb : b.lifecycle.isTerminal = false) : a.lifecycle.isTerminal = false := by
  rcases h.lifecycle with hsame | hterminal | ⟨hawaits, -⟩
  · rw [← hsame]
    exact hb
  · rw [hb] at hterminal
    cases hterminal
  · cases hlifecycle : a.lifecycle <;> rw [hlifecycle] at hawaits <;> first | rfl | cases hawaits

namespace Ledger

/-- The identity was given, and an action under it that has not ended has the authority. -/
def BoundTo (id : ActionId) (authority : ActionAuthority) (l : Ledger) : Prop :=
  id ≤ l.actionGeneration ∧ ∀ a, l.actions.lookup id = some a → a.lifecycle.isTerminal = false →
    a.authority = authority

/-- **No move rebinds an action that has not ended.** -/
theorem boundTo_move (h : Move ok l l') (hallocated : l.Allocated) (hl : BoundTo id authority l) :
    BoundTo id authority l' := by
  obtain ⟨hgiven, hbound⟩ := hl
  cases h with
  | settle actions hsettled =>
    refine ⟨hgiven, fun a ha hlive => ?_⟩
    obtain ⟨b, hb, hsettles⟩ := exists_settles hsettled ha
    rw [hsettles.authority]
    exact hbound b hb (hsettles.not_isTerminal hlive)
  | authorize action hroom hid hgeneration hauthority hlifecycle =>
    have hnext : advance l.actionGeneration = l.actionGeneration + 1 :=
      advance_actionGeneration hallocated hroom
    refine ⟨?_, fun a ha hlive => ?_⟩
    · show id ≤ advance l.actionGeneration
      rw [hnext]
      exact Nat.le_succ_of_le hgiven
    · -- the identity is one given before, so it is not the new one
      have hother : id ≠ advance l.actionGeneration := by
        rw [hnext]
        exact Nat.ne_of_lt (Nat.lt_succ_of_le hgiven)
      rw [Table.lookup_insert_eq_ite, if_neg hother] at ha
      exact hbound a ha hlive
  | dispatch id' action now hheld hlifecycle =>
    refine ⟨hgiven, fun a ha hlive => ?_⟩
    rw [Table.lookup_insert_eq_ite] at ha
    split at ha
    · rename_i hsame
      obtain rfl := Option.some.inj ha
      rw [hsame] at hbound
      exact hbound action hheld (by rw [hlifecycle]; rfl)
    · exact hbound a ha hlive
  | restore action hok hterminal =>
    refine ⟨hgiven, fun a ha hlive => ?_⟩
    rw [Table.lookup_insert_eq_ite] at ha
    split at ha
    · obtain rfl := Option.some.inj ha
      rw [hlive] at hterminal
      cases hterminal
    · exact hbound a ha hlive
  | evaluate | accept | touch | enrol | retire | revive | restart => exact ⟨hgiven, hbound⟩

end Ledger

namespace Governor

variable {g g₁ g₂ : Governor} {action : ThermalAction} {domain : ThermalDomainId}
  {record : MitigationIntentRecord} {rationale : String}

theorem policyGeneration_dispatchSnapshot (g : Governor) (authority : ActionAuthority) :
    (g.dispatchSnapshot authority).policyGeneration = g.policyGeneration := by
  unfold dispatchSnapshot
  dsimp only
  split <;> rfl

theorem actionGeneration_dispatchSnapshot (g : Governor) (authority : ActionAuthority) :
    (g.dispatchSnapshot authority).actionGeneration = g.actionGeneration := by
  unfold dispatchSnapshot
  dsimp only
  split <;> rfl

/-- An authorised action is dispatched exactly when its authority is revalidated. -/
theorem recordActionDispatch_eq_ok (haction : g.actions.lookup id = some action)
    (hlifecycle : action.lifecycle = .authorized) :
    (g.recordActionDispatch id).2 = .ok .dispatched ↔
      revalidateActionAuthority action.authority (g.dispatchSnapshot action.authority) =
        .ok () := by
  have hchecks : runChecks (dispatchChecks action) = .ok () := by
    rw [runChecks_eq_ok]
    simp [dispatchChecks, hlifecycle, ActionLifecycle.isTerminal]
  unfold recordActionDispatch
  rw [haction]
  dsimp only
  rw [hchecks]
  dsimp only
  split
  · rename_i e he
    rw [he]
    exact ⟨fun h => (by cases h), fun h => (by cases h)⟩
  · rename_i hok
    exact ⟨fun _ => hok, fun _ => rfl⟩

/-- The binding of an action outlives every run, as long as the action has not ended. -/
theorem boundTo_of_authorizeMitigation (hg : g.Reachable)
    (h : g.authorizeMitigation domain record rationale = (g₁, .ok id)) (hrun : Runs g₁ g₂) :
    ∃ policyGeneration authority, g.governingPolicyGeneration domain = some policyGeneration ∧
      authority.actionId = id ∧ authority.actionGeneration = id ∧
      authority.policyGeneration = policyGeneration ∧ id ≠ 0 ∧
      BoundTo id authority g₂.ledger := by
  obtain ⟨definition, policy, action, hfind, hpolicy, hroom, hid, hgeneration, hactions,
    hactionId, hactionGeneration, -, hbound⟩ := authorizeMitigation_eq_ok h
  have hreachable : g₁.Reachable := by
    have := hg.apply (.authorizeMitigation domain record rationale)
    rwa [apply, h] at this
  have hnext : advance g.actionGeneration = g.actionGeneration + 1 :=
    advance_actionGeneration (allocated_of_reachable hg) hroom
  have hstart : BoundTo id action.authority g₁.ledger := by
    refine ⟨le_of_eq hgeneration.symm, fun a ha _ => ?_⟩
    replace ha : g₁.actions.lookup id = some a := ha
    rw [hactions, AList.lookup_insert] at ha
    obtain rfl := Option.some.inj ha
    rfl
  have hstep : ∀ l l', Move (fun _ _ => True) l l' → l.Allocated ∧ BoundTo id action.authority l →
      l'.Allocated ∧ BoundTo id action.authority l' := fun l l' hmove hl =>
    ⟨allocated_move hmove hl.1, boundTo_move hmove hl.1 hl.2⟩
  have hend : g₂.ledger.Allocated ∧ BoundTo id action.authority g₂.ledger :=
    invariant_of_runs (I := fun l => l.Allocated ∧ BoundTo id action.authority l) hrun hstep
      ⟨allocated_of_reachable hreachable, hstart⟩
  refine ⟨policy.generation, action.authority, ?_, hactionId, hactionGeneration, hbound, ?_,
    hend.2⟩
  · simp [governingPolicyGeneration, hfind, hpolicy]
  · rw [hid, hnext]
    exact Nat.succ_ne_zero _

/-- The action was planned for the domain in `g`; after a run it is still authorised in `g₂`, and
all its bindings but the one to the policy are current there. -/
structure AwaitsDispatch (g g₂ : Governor) (domain : ThermalDomainId) (id : ActionId) : Prop where
  reachable : g.Reachable
  planned : ∃ record rationale g₁,
    g.authorizeMitigation domain record rationale = (g₁, .ok id) ∧ Runs g₁ g₂
  current : ∃ action, g₂.actions.lookup id = some action ∧ action.lifecycle = .authorized ∧
    BindingsCurrent action.authority (g₂.dispatchSnapshot action.authority)

/-- **Such an action is dispatched exactly when the counter of all policy updates is the
generation its domain was governed by.** -/
theorem dispatches_iff (h : AwaitsDispatch g g₂ domain id) :
    (g₂.recordActionDispatch id).2 = .ok .dispatched ↔
      g.governingPolicyGeneration domain = some g₂.policyGeneration := by
  obtain ⟨record, rationale, g₁, hplanned, hrun⟩ := h.planned
  obtain ⟨action, haction, hlifecycle, hcurrent⟩ := h.current
  obtain ⟨policyGeneration, authority, hgoverning, hactionId, hactionGeneration, hpolicy, hvalid,
    hgiven, hbound⟩ := boundTo_of_authorizeMitigation h.reachable hplanned hrun
  have hauthority : action.authority = authority :=
    hbound action haction (by rw [hlifecycle]; rfl)
  have hknown : action.authority.actionId ≠ 0 ∧ action.authority.actionGeneration ≤
      (g₂.dispatchSnapshot action.authority).actionGeneration := by
    rw [actionGeneration_dispatchSnapshot, hauthority, hactionId, hactionGeneration]
    exact ⟨hvalid, hgiven⟩
  rw [recordActionDispatch_eq_ok haction hlifecycle, revalidateActionAuthority_eq_ok,
    policyGeneration_dispatchSnapshot, hgoverning, hauthority, hpolicy, Option.some_inj]
  rw [hauthority] at hknown hcurrent
  exact ⟨fun hok => hok.2.2.symm, fun hsame => ⟨hknown, hcurrent, hsame.symm⟩⟩

/-- Identity and generation of the policy that governs a domain. -/
def governingPolicyIdentity (g : Governor) (domain : ThermalDomainId) :
    Option (ThermalPolicyId × ThermalPolicyGeneration) :=
  ((g.domains.find domain).bind g.policyFor).map fun p => (p.id, p.generation)

/-- The domain is governed by the same policy in both states, at the same generation. -/
def SamePolicy (g g₂ : Governor) (domain : ThermalDomainId) : Prop :=
  g₂.governingPolicyIdentity domain = g.governingPolicyIdentity domain

instance (g g₂ : Governor) (domain : ThermalDomainId) : Decidable (SamePolicy g g₂ domain) :=
  inferInstanceAs (Decidable (_ = _))

/-- **A dispatch answers for the policy the action was authorised under, exactly when the
counter of all policy updates does.** -/
theorem dispatches_samePolicy_iff (h : AwaitsDispatch g g₂ domain id) :
    ((g₂.recordActionDispatch id).2 = .ok .dispatched ↔ SamePolicy g g₂ domain) ↔
      (g.governingPolicyGeneration domain = some g₂.policyGeneration ↔
        SamePolicy g g₂ domain) := by
  rw [dispatches_iff h]

section Deployment

open Deployment

/-- The policy of the deployment at some generation. -/
def policyAt (generation : ThermalPolicyGeneration) : ThermalPolicy :=
  { PolicyOver.makeDefault with generation := generation }

/-- The deployment with a reading that calls for mitigation, after a policy update. -/
def hotUnder (generation : ThermalPolicyGeneration) : Governor :=
  after [.setPolicy (policyAt generation), .publishTemperature (reading 82 1 0)]

/-- The mitigation is planned. -/
def plannedUnder (generation : ThermalPolicyGeneration) : Governor :=
  (hotUnder generation).apply (.authorizeMitigation 1 clockReduction "")

/-- Planning gives the action identity 2, and what follows leaves its bindings current. -/
theorem awaitsDispatch_planned {generation : ThermalPolicyGeneration} {g₂ : Governor}
    (hplanned : ((hotUnder generation).authorizeMitigation 1 clockReduction "").2.toOption.any
      (fun id => decide (id = 2)) = true)
    (hrun : Runs (plannedUnder generation) g₂)
    (hcurrent : (g₂.actions.lookup 2).any (fun a => decide (a.lifecycle = .authorized ∧
      BindingsCurrent a.authority (g₂.dispatchSnapshot a.authority))) = true) :
    AwaitsDispatch (hotUnder generation) g₂ 1 2 := by
  obtain ⟨id, hid, rfl⟩ := exists_of_ok _ (fun id => id = 2) hplanned
  obtain ⟨action, haction, hwaits⟩ := exists_of_any _ _ hcurrent
  exact ⟨reachable_after _, ⟨_, _, _, Prod.ext rfl hid, hrun⟩, action, haction, hwaits⟩

/-- After one policy update from generation 1 to 2, a plan is dispatched. -/
theorem dispatches_samePolicy_oneUpdate :
    ((plannedUnder 2).recordActionDispatch 2).2 = .ok .dispatched := by
  have hawaits : AwaitsDispatch (hotUnder 2) (plannedUnder 2) 1 2 :=
    awaitsDispatch_planned (by decide +kernel) .refl (by decide +kernel)
  have hsame : SamePolicy (hotUnder 2) (plannedUnder 2) 1 := by decide +kernel
  have hcounter : (hotUnder 2).governingPolicyGeneration 1 =
      some (plannedUnder 2).policyGeneration := by decide +kernel
  exact ((dispatches_samePolicy_iff hawaits).mpr (iff_of_true hcounter hsame)).mpr hsame

/-- After one policy update from generation 1 to 5 no plan is dispatched.  After one from 1 to 3
a plan is dispatched once its policy was replaced by the next generation. -/
theorem not_dispatches_samePolicy :
    (¬ ∀ (g g₂ : Governor) (domain : ThermalDomainId) (id : ActionId),
      AwaitsDispatch g g₂ domain id → SamePolicy g g₂ domain →
        (g₂.recordActionDispatch id).2 = .ok .dispatched) ∧
    ¬ ∀ (g g₂ : Governor) (domain : ThermalDomainId) (id : ActionId),
      AwaitsDispatch g g₂ domain id → (g₂.recordActionDispatch id).2 = .ok .dispatched →
        SamePolicy g g₂ domain := by
  constructor
  · intro h
    have hawaits : AwaitsDispatch (hotUnder 5) (plannedUnder 5) 1 2 :=
      awaitsDispatch_planned (by decide +kernel) .refl (by decide +kernel)
    have hcounter := (dispatches_iff hawaits).mp (h _ _ 1 2 hawaits (by decide +kernel))
    exact absurd hcounter (by decide +kernel)
  · intro h
    have hawaits : AwaitsDispatch (hotUnder 3)
        ((plannedUnder 3).apply (.setPolicy (policyAt 4))) 1 2 :=
      awaitsDispatch_planned (by decide +kernel) (RunUnder.tail _ .refl trivial)
        (by decide +kernel)
    have hdispatched := (dispatches_iff hawaits).mpr (by decide +kernel)
    exact absurd (h _ _ 1 2 hawaits hdispatched) (by decide +kernel)

end Deployment

end Governor

end ThermalGovernor
