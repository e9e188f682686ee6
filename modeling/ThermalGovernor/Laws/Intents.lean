import ThermalGovernor.Evaluation.Demands
import ThermalGovernor.Governed.Rests
import ThermalGovernor.Ledger.Run

/-!
# The intents of authorised actions

An evaluation publishes the intents that its state prohibits.  `authorizeMitigation` does not
look at that list: it asks the policy for the intent, and refuses restoration in two of the six
states that prohibit it, and containment in none.  `authorizeDerating` adds nothing to this; it
is the default it takes from the evaluation that is never prohibited, though it may restore.

`MayMitigate` and `MayDerate` are what is left to the caller, and `neverProhibited_iff` says that
an authorised action is as it should be exactly when the caller kept to it.
-/

namespace ThermalGovernor

open Lib

/-- The prohibitions of an evaluation are those of its state. -/
theorem prohibitedIntents_evaluateThermal (input : EvaluationInput) :
    (evaluateThermal input).prohibitedIntents =
      prohibitedIntentsFor (evaluateThermal input).state input.policy := by
  rcases evaluateThermal_cases input with ⟨evidence, -, heq⟩ | ⟨-, hrefuses⟩
  · rw [heq]
    rfl
  · exact hrefuses.prohibited

/-- No restoration in the states that prohibit it and are not looked at, and containment in a
critical state only. -/
structure Permissible (state : ThermalState) (intent : MitigationIntent) : Prop where
  restores : intent.isRestoring = true → state ≠ .derated ∧ state ≠ .throttling ∧
    state ≠ .unknown ∧ state ≠ .revalidationRequired
  contains : intent = .requestContainment → state = .critical

/-- An intent that neither restores nor contains short of danger. -/
structure OnlyDerates (state : ThermalState) (intent : MitigationIntent) : Prop where
  restores : intent.isRestoring = false
  contains : intent = .requestContainment → state = .critical

/-- **Prohibitions of an intent that passed the checks.** -/
theorem not_mem_prohibitedIntentsFor {state : ThermalState} {policy : ThermalPolicy}
    {intent : MitigationIntent} (hallowed : policyAllows policy intent = true)
    (hchecked : intent.isRestoring = true → state ≠ .critical ∧ state ≠ .unsupported) :
    intent ∉ prohibitedIntentsFor state policy ↔ Permissible state intent := by
  have hstates : intent.isRestoring = true →
      (¬ (state.isRestrictive = true ∨ state.isUnresolved = true) ↔ state ≠ .derated ∧
        state ≠ .throttling ∧ state ≠ .unknown ∧ state ≠ .revalidationRequired) := by
    intro hrestores
    obtain ⟨hcritical, hunsupported⟩ := hchecked hrestores
    have hrestrictive : state.isRestrictive = true ↔ state = .derated ∨ state = .throttling := by
      simp [ThermalState.isRestrictive, hcritical]
    have hunresolved : state.isUnresolved = true ↔
        state = .unknown ∨ state = .revalidationRequired := by
      simp [ThermalState.isUnresolved, hunsupported]
    rw [hrestrictive, hunresolved]
    tauto
  rw [mem_prohibitedIntentsFor, hallowed, not_or, not_or]
  constructor
  · rintro ⟨hrestores, hcontains, -⟩
    exact ⟨fun h => (hstates h).mp fun hc => hrestores ⟨h, hc⟩,
      fun h => not_not.mp fun hc => hcontains ⟨h, hc⟩⟩
  · rintro ⟨hrestores, hcontains⟩
    refine ⟨fun h => ?_, fun h => h.2 (hcontains h.1), fun h => by cases h.2⟩
    exact (hstates h.1).mpr (hrestores h.1) h.2

namespace Governor

variable {g g' : Governor} {domain : ThermalDomainId} {record : MitigationIntentRecord}
  {rationale : String} {id : ActionId} {definition : ThermalDomainDefinition}
  {policy : ThermalPolicy}

/-- The action has an intent that the governing policy allows and that the evaluation it was
authorised under does not prohibit. -/
def Permitted (g : Governor) (domain : ThermalDomainId) (g' : Governor) (id : ActionId) : Prop :=
  ∃ definition policy action baseline, g.domains.find domain = some definition ∧
    g.policyFor definition = some policy ∧ g'.actions.lookup id = some action ∧
    g'.actionBaselines.lookup id = some baseline ∧ policyAllows policy action.intent = true ∧
    action.intent ∉ baseline.prohibitedIntents

/-- The action is permitted and takes no restriction back. -/
structure PermittedDerating (g : Governor) (domain : ThermalDomainId) (g' : Governor)
    (id : ActionId) : Prop where
  permitted : g.Permitted domain g' id
  derates : ∀ action, g'.actions.lookup id = some action → action.intent.isRestoring = false

/-- The record that a derating authorisation carries out: the one that is asked for, or the
first that the evaluation demands. -/
def carriedOut (record : MitigationIntentRecord) (e : ThermalEvaluation) :
    Option MitigationIntentRecord :=
  if record.intent ≠ .noAction then some record else demandedIntent e

/-- What is carried out is a containment short of a critical state only if it was asked for. -/
theorem contains_of_carriedOut {carried : MitigationIntentRecord}
    (hcarried : carriedOut record (g.evaluation definition policy).2 = some carried)
    (hasked : record.intent = .requestContainment →
      (g.evaluation definition policy).2.state = .critical) :
    carried.intent = .requestContainment →
      (g.evaluation definition policy).2.state = .critical := by
  intro hcontains
  unfold carriedOut at hcarried
  split at hcarried
  · obtain rfl := Option.some.inj hcarried
    exact hasked hcontains
  · -- a demanded intent is not prohibited
    have hdemands := demandsWithin_evaluateThermal (g.evaluation definition policy).1
    have hpermitted := hdemands.permitted carried (List.mem_of_find?_eq_some hcarried)
    rw [prohibitedIntents_evaluateThermal, mem_prohibitedIntentsFor] at hpermitted
    exact not_not.mp fun hc => hpermitted (.inr (.inl ⟨hcontains, hc⟩))

/-! ### What an authorisation stores -/

/-- What an authorisation that succeeds has found and stored. -/
structure Authorized (g : Governor) (domain : ThermalDomainId) (record : MitigationIntentRecord)
    (g' : Governor) (id : ActionId) (definition : ThermalDomainDefinition)
    (policy : ThermalPolicy) : Prop where
  registered : g.domains.find domain = some definition
  governed : g.policyFor definition = some policy
  allowed : policyAllows policy record.intent = true
  restores : record.intent.isRestoring = true →
    (g.evaluation definition policy).2.state ≠ .critical ∧
      (g.evaluation definition policy).2.state ≠ .unsupported
  action : ∃ action, g'.actions.lookup id = some action ∧ action.intent = record.intent
  baseline : g'.actionBaselines.lookup id = some (g.evaluation definition policy).2

theorem authorized_of_ok (h : g.authorizeMitigation domain record rationale = (g', .ok id)) :
    ∃ definition policy, Authorized g domain record g' id definition policy := by
  obtain ⟨definition, policy, hfind, hpolicy, hchecks, hrestoration, hcreated⟩ :=
    authorizeMitigation_inversion h
  obtain ⟨rfl, rfl⟩ := Prod.mk.inj hcreated
  rw [runChecks_eq_ok] at hchecks hrestoration
  simp only [authorizeChecks, List.forall_mem_cons] at hchecks
  simp only [restorationChecks, List.forall_mem_cons] at hrestoration
  refine ⟨definition, policy, hfind, hpolicy, hchecks.1, fun hrestores => ⟨fun hc => ?_,
    fun hc => ?_⟩, ⟨_, AList.lookup_insert _, rfl⟩, AList.lookup_insert _⟩
  · simp [hc, hrestores] at hrestoration
  · simp [hc, hrestores] at hrestoration

namespace Authorized

/-- **An authorised action is permitted when its intent is permissible in the state of its
evaluation.** -/
theorem permitted_iff (h : Authorized g domain record g' id definition policy) :
    g.Permitted domain g' id ↔
      Permissible (g.evaluation definition policy).2.state record.intent := by
  obtain ⟨action, haction, hintent⟩ := h.action
  have hprohibited : (g.evaluation definition policy).2.prohibitedIntents =
      prohibitedIntentsFor (g.evaluation definition policy).2.state policy :=
    prohibitedIntents_evaluateThermal (g.evaluation definition policy).1
  rw [← not_mem_prohibitedIntentsFor h.allowed h.restores, ← hprohibited]
  constructor
  · rintro ⟨_, _, held, baseline, -, -, hheld, hbaseline, -, hpermitted⟩
    obtain rfl := Option.some.inj (haction.symm.trans hheld)
    obtain rfl := Option.some.inj (h.baseline.symm.trans hbaseline)
    rwa [hintent] at hpermitted
  · intro hpermitted
    rw [← hintent] at hpermitted
    exact ⟨definition, policy, action, _, h.registered, h.governed, haction, h.baseline,
      hintent ▸ h.allowed, hpermitted⟩

theorem permittedDerating_iff (h : Authorized g domain record g' id definition policy) :
    g.PermittedDerating domain g' id ↔
      OnlyDerates (g.evaluation definition policy).2.state record.intent := by
  obtain ⟨action, haction, hintent⟩ := h.action
  constructor
  · rintro ⟨hpermitted, hderates⟩
    exact ⟨hintent ▸ hderates action haction, (h.permitted_iff.mp hpermitted).contains⟩
  · rintro ⟨hrestores, hcontains⟩
    refine ⟨h.permitted_iff.mpr ⟨fun hc => ?_, hcontains⟩, fun held hheld => ?_⟩
    · rw [hrestores] at hc
      cases hc
    · obtain rfl := Option.some.inj (haction.symm.trans hheld)
      rw [hintent, hrestores]

end Authorized

/-! ### Both authorisations -/

/-- What `authorizeMitigation` leaves to its caller. -/
def MayMitigate (g : Governor) (domain : ThermalDomainId) (record : MitigationIntentRecord) :
    Prop :=
  ∀ e, (g.evaluateDomain domain).2 = .ok e → Permissible e.state record.intent

/-- What `authorizeDerating` leaves to its caller: the record, or without an intent the first
that the evaluation demands, takes nothing back, and a containment is asked for in a critical
state only. -/
def MayDerate (g : Governor) (domain : ThermalDomainId) (record : MitigationIntentRecord) :
    Prop :=
  ∀ e, (g.evaluateDomain domain).2 = .ok e →
    (∀ carried, carriedOut record e = some carried → carried.intent.isRestoring = false) ∧
    (record.intent = .requestContainment → e.state = .critical)

theorem evaluateDomain_eq_recompute (hfind : g.domains.find domain = some definition)
    (hpolicy : g.policyFor definition = some policy) :
    g.evaluateDomain domain =
      (g.recomputeDomain domain, .ok (g.evaluation definition policy).2) := by
  rw [evaluateDomain, evaluateAndStore, recomputeDomain, hfind]
  dsimp only
  rw [evaluateLocked, hpolicy]

/-- An evaluation that follows another one at once finds the same state. -/
theorem state_evaluation_again (hkeyed : g.KeyedDomains)
    (hfind : g.domains.find domain = some definition)
    (hpolicy : g.policyFor definition = some policy) :
    ((g.recomputeDomain domain).evaluation definition policy).2.state =
      (g.evaluation definition policy).2.state := by
  have hsame := (g.recomputeDomain_same domain).sameReads
  obtain ⟨definition', policy', hfind', hpolicy', hstanding⟩ :=
    rests_eq_true.mp (rests_recomputeDomain hkeyed hfind hpolicy)
  rw [hsame.domains, hfind] at hfind'
  obtain rfl := Option.some.inj hfind'
  rw [hsame.policyFor, hpolicy] at hpolicy'
  obtain rfl := Option.some.inj hpolicy'
  rw [standingAt, evaluations_recomputeDomain hfind hpolicy, AList.lookup_insert,
    Option.map_some] at hstanding
  exact (congrArg Standing.state (Option.some.inj hstanding)).symm

/-- What a derating authorisation that succeeds evaluates and carries out. -/
theorem authorizeDerating_eq_ok (h : g.authorizeDerating domain record rationale = (g', .ok id)) :
    ∃ evaluated e carried, g.evaluateDomain domain = (evaluated, .ok e) ∧
      carriedOut record e = some carried ∧
      evaluated.authorizeMitigation domain carried rationale = (g', .ok id) := by
  unfold authorizeDerating at h
  split at h
  · cases h
  rename_i evaluated e heval
  by_cases hintent : record.intent ≠ .noAction
  · rw [if_pos hintent] at h
    exact ⟨evaluated, e, record, heval, if_pos hintent, h⟩
  · rw [if_neg hintent] at h
    split at h
    · cases h
    rename_i demanded hdemanded
    exact ⟨evaluated, e, demanded, heval, (if_neg hintent).trans hdemanded, h⟩

theorem permittedDerating_congr {evaluated : Governor} (h : SameReads g evaluated) :
    evaluated.PermittedDerating domain g' id ↔ g.PermittedDerating domain g' id := by
  have hpermitted : evaluated.Permitted domain g' id ↔ g.Permitted domain g' id := by
    unfold Permitted
    rw [h.domains]
    simp only [h.policyFor]
  exact ⟨fun ⟨hp, hd⟩ => ⟨hpermitted.mp hp, hd⟩, fun ⟨hp, hd⟩ => ⟨hpermitted.mpr hp, hd⟩⟩

/-- **When an authorised action is one that nothing prohibits.** -/
theorem neverProhibited_iff (hreached : g.Reachable) (domain : ThermalDomainId)
    (record : MitigationIntentRecord) (rationale : String) (g' : Governor) (id : ActionId) :
    (g.authorizeMitigation domain record rationale = (g', .ok id) →
      (g.Permitted domain g' id ↔ g.MayMitigate domain record)) ∧
    (g.authorizeDerating domain record rationale = (g', .ok id) →
      (g.PermittedDerating domain g' id ↔ g.MayDerate domain record)) := by
  constructor
  · intro h
    obtain ⟨definition, policy, hauthorized⟩ := authorized_of_ok h
    have heval := evaluateDomain_eq_ok hauthorized.registered hauthorized.governed
    rw [hauthorized.permitted_iff, MayMitigate, heval]
    exact ⟨fun hp e he => Except.ok.inj he ▸ hp, fun hp => hp _ rfl⟩
  · intro h
    obtain ⟨evaluated, e, carried, heval, hcarried, h⟩ := authorizeDerating_eq_ok h
    obtain ⟨definition, policy, hauthorized⟩ := authorized_of_ok h
    have hsame : SameExceptEvaluations g evaluated := by
      have := g.evaluateDomain_same domain
      rwa [heval] at this
    have hreads := hsame.sameReads
    have hfind : g.domains.find domain = some definition := by
      rw [← hreads.domains, hauthorized.registered]
    have hpolicy : g.policyFor definition = some policy := by
      rw [← hreads.policyFor, hauthorized.governed]
    have hevaluated := evaluateDomain_eq_recompute hfind hpolicy
    rw [heval] at hevaluated
    obtain ⟨rfl, hresult⟩ := Prod.mk.inj hevaluated
    obtain rfl := Except.ok.inj hresult
    have hstate := state_evaluation_again (keyedDomains_of_reachable hreached) hfind hpolicy
    rw [← permittedDerating_congr hreads, hauthorized.permittedDerating_iff, hstate, MayDerate,
      heval]
    constructor
    · rintro hderates e he
      obtain rfl := Except.ok.inj he
      refine ⟨fun other hother => ?_, fun hasked => hderates.contains ?_⟩
      · obtain rfl := Option.some.inj (hcarried.symm.trans hother)
        exact hderates.restores
      · rw [carriedOut, if_pos (by rw [hasked]; decide)] at hcarried
        rw [← Option.some.inj hcarried, hasked]
    · intro hmay
      obtain ⟨hrestores, hasked⟩ := hmay _ rfl
      exact ⟨hrestores carried hcarried, contains_of_carriedOut hcarried hasked⟩

/-! ### Runs of the deployment -/

/-- The deployment at the given temperature. -/
def measured (temperature : DegreesCelsius) : Governor :=
  Deployment.after [.publishTemperature (Deployment.reading temperature 1 0)]

/-- An intent without a ceiling. -/
def asking (intent : MitigationIntent) : MitigationIntentRecord := { intent := intent }

/-- The evaluation kept for an action prohibits its intent. -/
def prohibits (g : Governor) (id : ActionId) : Bool :=
  (g.actions.lookup id).any fun action =>
    (g.actionBaselines.lookup id).any fun baseline => action.intent ∈ baseline.prohibitedIntents

theorem not_permitted_of_prohibits (h : g'.prohibits id = true) : ¬ g.Permitted domain g' id := by
  rintro ⟨_, _, action, baseline, -, -, haction, hbaseline, -, hpermitted⟩
  rw [prohibits, haction, Option.any_some, hbaseline, Option.any_some] at h
  exact hpermitted (of_decide_eq_true h)

/-- A derated domain is asked to reduce its clock, and then for what its evaluation demands. -/
theorem neverProhibited_derated : ∃ g₁ id₁ g₂ id₂,
    (measured 81).authorizeMitigation 1 (asking .requestClockReduction) "" = (g₁, .ok id₁) ∧
    (measured 81).authorizeDerating 1 (asking .noAction) "" = (g₂, .ok id₂) ∧
    ((measured 81).Permitted 1 g₁ id₁ ↔
      (measured 81).MayMitigate 1 (asking .requestClockReduction)) ∧
    ((measured 81).PermittedDerating 1 g₂ id₂ ↔ (measured 81).MayDerate 1 (asking .noAction)) := by
  obtain ⟨id₁, hid₁, -⟩ := exists_of_ok
    ((measured 81).authorizeMitigation 1 (asking .requestClockReduction) "").2 (fun _ => True)
    (by decide +kernel)
  obtain ⟨id₂, hid₂, -⟩ := exists_of_ok
    ((measured 81).authorizeDerating 1 (asking .noAction) "").2 (fun _ => True)
    (by decide +kernel)
  have hreached : (measured 81).Reachable := Deployment.reachable_after _
  exact ⟨_, id₁, _, id₂, Prod.ext rfl hid₁, Prod.ext rfl hid₂,
    (neverProhibited_iff hreached 1 (asking .requestClockReduction) "" _ id₁).1
      (Prod.ext rfl hid₁),
    (neverProhibited_iff hreached 1 (asking .noAction) "" _ id₂).2 (Prod.ext rfl hid₂)⟩

/-- A derated domain is authorised to restore its clock, a cool one to be contained, and a
derating authorisation restores as well. -/
theorem not_neverProhibited :
    (measured 81).Reachable ∧ (measured 40).Reachable ∧
    (∃ g' id,
      (measured 81).authorizeMitigation 1 (asking .requestClockRestore) "" = (g', .ok id) ∧
      ¬ (measured 81).Permitted 1 g' id) ∧
    (∃ g' id,
      (measured 40).authorizeMitigation 1 (asking .requestContainment) "" = (g', .ok id) ∧
      ¬ (measured 40).Permitted 1 g' id) ∧
    ∃ g' id,
      (measured 40).authorizeDerating 1 (asking .requestClockRestore) "" = (g', .ok id) ∧
      ¬ (measured 40).PermittedDerating 1 g' id := by
  refine ⟨Deployment.reachable_after _, Deployment.reachable_after _, ?_, ?_, ?_⟩
  · obtain ⟨id, hid, hprohibits⟩ := exists_of_ok
      ((measured 81).authorizeMitigation 1 (asking .requestClockRestore) "").2
      (fun id => ((measured 81).authorizeMitigation 1
        (asking .requestClockRestore) "").1.prohibits id = true) (by decide +kernel)
    exact ⟨_, id, Prod.ext rfl hid, not_permitted_of_prohibits hprohibits⟩
  · obtain ⟨id, hid, hprohibits⟩ := exists_of_ok
      ((measured 40).authorizeMitigation 1 (asking .requestContainment) "").2
      (fun id => ((measured 40).authorizeMitigation 1
        (asking .requestContainment) "").1.prohibits id = true) (by decide +kernel)
    exact ⟨_, id, Prod.ext rfl hid, not_permitted_of_prohibits hprohibits⟩
  · obtain ⟨id, hid, hrestores⟩ := exists_of_ok
      ((measured 40).authorizeDerating 1 (asking .requestClockRestore) "").2
      (fun id => (((measured 40).authorizeDerating 1
        (asking .requestClockRestore) "").1.actions.lookup id).any (fun action =>
          action.intent.isRestoring) = true) (by decide +kernel)
    obtain ⟨action, haction, hrestoring⟩ := (Option.any_eq_true _ _).mp hrestores
    refine ⟨_, id, Prod.ext rfl hid, fun hp => ?_⟩
    rw [hp.derates action haction] at hrestoring
    cases hrestoring

end Governor

end ThermalGovernor
