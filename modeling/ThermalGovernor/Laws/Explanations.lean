import ThermalGovernor.Governor.Explain
import ThermalGovernor.Laws.Authorization

/-!
# Explanations under interleaving

`explain` evaluates under one lock and looks the policy up under another.  Its answer is read
off the evaluation, apart from five thresholds of the policy (`buildExplanation_eq_iff`): it is
the explanation of the state that was evaluated exactly if the policy found last shows the
thresholds of the policy the evaluation was made under.

Three kinds of operations can come between the two (`Repolicies`): a policy that is put in and
governs the domain, an update that brings the domain under another policy, and a load.  A call
that none of them interrupts is coherent (`shownFor_apply`), whatever else runs.
`explain_admission` takes all of its answer from its first section.
-/

namespace ThermalGovernor

open Lib

/-- What an explanation shows of the policy. -/
def shownThresholds (policy : ThermalPolicy) : List String :=
  [policy.thresholds.warning, policy.thresholds.nearLimitStart, policy.thresholds.derating,
    policy.thresholds.critical, policy.thresholds.recovery].map Format.temperature

/-- Explanations of one evaluation differ in the thresholds they show, and in nothing else. -/
theorem buildExplanation_eq_iff (e : ThermalEvaluation) (envelope envelope' : ThermalEnvelope)
    (policy policy' : ThermalPolicy) :
    buildExplanation e envelope policy = buildExplanation e envelope' policy' ↔
      shownThresholds policy = shownThresholds policy' := by
  simp [buildExplanation, Explanation.temperatureSection, shownThresholds]

namespace Explanation

/-- The value under a key of a section. -/
def value (x : Explanation) (title key : String) : Option String :=
  (x.sections.find? fun s => s.title = title).bind fun s =>
    (s.lines.find? fun line => line.key = key).map ExplanationLine.value

end Explanation

namespace Governor

/-- The thresholds an explanation of the domain would show now. -/
def shownFor (g : Governor) (domain : ThermalDomainId) : Option (List String) :=
  (g.domains.find domain).bind fun definition => (g.policyFor definition).map shownThresholds

/-- The operation changes the thresholds that are shown for a registered domain. -/
def Repolicies (g : Governor) (domain : ThermalDomainId) : Operation → Prop
  | .updateThermalDomain definition =>
    definition.id = domain ∧ g.domains.checkUpdate definition = .ok () ∧
      (g.policyFor definition).map shownThresholds ≠ g.shownFor domain
  | .setPolicy policy =>
    validatePolicy policy = .ok () ∧
      (∀ held, g.policies.lookup policy.id = some held → held.generation < policy.generation) ∧
      some (shownThresholds policy) ≠ g.shownFor domain ∧
      ∃ definition, g.domains.find domain = some definition ∧ g.Governs definition policy
  | .loadDurable file => (g.loadDurable file).1.shownFor domain ≠ g.shownFor domain
  | _ => False

variable {g g' g₂ g₃ : Governor} {op : Operation} {domain : ThermalDomainId}
  {definition : ThermalDomainDefinition} {x : Explanation}

theorem shownFor_eq {policy : ThermalPolicy} (hfind : g.domains.find domain = some definition)
    (hpolicy : g.policyFor definition = some policy) :
    g.shownFor domain = some (shownThresholds policy) := by
  rw [shownFor, hfind, Option.bind_some, hpolicy, Option.map_some]

/-! ### What keeps the thresholds -/

/-- An accepted update leaves its definition in force. -/
theorem find_apply_updateThermalDomain (h : g.domains.checkUpdate definition = .ok ()) :
    (g.apply (.updateThermalDomain definition)).domains.find definition.id = some definition := by
  rw [apply, updateThermalDomain, DomainRegistry.update, h]
  dsimp only
  have hkept : ∀ g : Governor, (publishLocked (advanceTopology g)).domains = g.domains :=
    fun _ => rfl
  rw [hkept, (recomputeDomain_same _ _).domains]
  exact (DomainRegistry.find_store g.domains definition definition.id).trans (if_pos rfl)

theorem shownFor_apply_updateThermalDomain
    (hcurrent : ¬ g.Repolicies domain (.updateThermalDomain definition))
    (hid : definition.id = domain) :
    (g.apply (.updateThermalDomain definition)).shownFor domain = g.shownFor domain := by
  by_cases haccepted : g.domains.checkUpdate definition = .ok ()
  · have hshown : (g.policyFor definition).map shownThresholds = g.shownFor domain :=
      not_not.mp fun hne => hcurrent ⟨hid, haccepted, hne⟩
    have hpolicies : (g.apply (.updateThermalDomain definition)).policies = g.policies := by
      rcases policies_effects (g.apply_effects (.updateThermalDomain definition) rfl) with
        h | ⟨_, hop, -⟩
      · exact h
      · cases hop
    have hfind := find_apply_updateThermalDomain haccepted
    rw [hid] at hfind
    rw [← hshown, shownFor, hfind, Option.bind_some, policyFor, hpolicies]
    rfl
  · rw [apply_updateThermalDomain_of_refused haccepted]

theorem shownFor_apply_setPolicy {policy : ThermalPolicy}
    (hcurrent : ¬ g.Repolicies domain (.setPolicy policy))
    (hfind : g.domains.find domain = some definition) :
    (g.apply (.setPolicy policy)).shownFor domain = g.shownFor domain := by
  by_cases haccepted : validatePolicy policy = .ok () ∧
      ∀ held, g.policies.lookup policy.id = some held → held.generation < policy.generation
  · have heffects := g.apply_effects (.setPolicy policy) rfl
    have hfind' : (g.apply (.setPolicy policy)).domains.find domain = some definition := by
      rcases find_effects heffects hfind with h | ⟨_, hop, -⟩
      · exact h
      · cases hop
    rcases policies_effects heffects with h | ⟨put, hop, h⟩
    · rw [shownFor, shownFor, hfind, hfind', Option.bind_some, Option.bind_some, policyFor, h]
      rfl
    · obtain rfl := Operation.setPolicy.inj hop
      by_cases hgoverns : g.Governs definition policy
      · rw [shownFor_eq hfind' (policyFor_of_governs hgoverns h)]
        exact not_not.mp fun hne =>
          hcurrent ⟨haccepted.1, haccepted.2, hne, definition, hfind, hgoverns⟩
      · rw [shownFor, shownFor, hfind, hfind', Option.bind_some, Option.bind_some,
          policyFor_of_not_governs hgoverns h]
  · rw [apply_setPolicy_of_refused haccepted]

/-- **An operation that is none of the three keeps the thresholds of a registered domain.** -/
theorem shownFor_apply (hcurrent : ¬ g.Repolicies domain op)
    (hfind : g.domains.find domain = some definition) :
    (g.apply op).shownFor domain = g.shownFor domain := by
  by_cases hupdate : ∃ updated, op = .updateThermalDomain updated ∧ updated.id = domain
  · obtain ⟨updated, rfl, hid⟩ := hupdate
    exact shownFor_apply_updateThermalDomain hcurrent hid
  by_cases hput : ∃ policy, op = .setPolicy policy
  · obtain ⟨policy, rfl⟩ := hput
    exact shownFor_apply_setPolicy hcurrent hfind
  cases hload : op.isLoad with
  | true =>
    cases op with
    | loadDurable file => exact not_not.mp hcurrent
    | _ => cases hload
  | false =>
    have heffects := g.apply_effects op hload
    have hfind' := (find_effects heffects hfind).resolve_right hupdate
    have hpolicies := (policies_effects heffects).resolve_right
      fun ⟨policy, hop, _⟩ => hput ⟨policy, hop⟩
    rw [shownFor, shownFor, hfind, hfind', Option.bind_some, Option.bind_some, policyFor,
      hpolicies]
    rfl

theorem not_repolicies_evaluateDomain (g : Governor) (domain : ThermalDomainId) :
    ¬ g.Repolicies domain (.evaluateDomain domain) := id

/-- A run without the three kinds of operations keeps the thresholds. -/
theorem shownFor_runs {shown : List String}
    (hrun : RunsUnder (fun g op => ¬ g.Repolicies domain op) g g')
    (h : g.shownFor domain = some shown) : g'.shownFor domain = some shown := by
  refine RunUnder.invariant (I := fun g => g.shownFor domain = some shown) hrun h
    fun g op h hcurrent => ?_
  obtain ⟨definition, hfind, -⟩ := Option.bind_eq_some_iff.mp h
  exact (shownFor_apply hcurrent hfind).trans h

/-! ### The answers -/

theorem explainFrom_eq_ok {evaluation : Result ThermalEvaluation}
    {envelope : Result ThermalEnvelope} {policy : Result ThermalPolicy}
    (h : explainFrom evaluation envelope policy = .ok x) :
    ∃ e v p, evaluation = .ok e ∧ envelope = .ok v ∧ policy = .ok p ∧
      x = buildExplanation e v p := by
  unfold explainFrom at h
  split at h
  · cases h
  split at h
  · cases h
  split at h
  · cases h
  exact ⟨_, _, _, rfl, rfl, rfl, (Except.ok.inj h).symm⟩

/-- The policy to explain is the one that governs the domain. -/
theorem policyToExplain_eq_ok (hg : g.Reachable) {policy : ThermalPolicy}
    (h : g.policyToExplain domain = .ok policy) : ∃ definition,
      g.domains.find domain = some definition ∧ g.policyFor definition = some policy := by
  unfold policyToExplain at h
  split at h
  · cases h
  · rename_i definition hfind
    obtain ⟨governing, hgoverning⟩ := exists_policyFor hg definition
    rw [hgoverning] at h
    exact ⟨definition, hfind, hgoverning.trans (congrArg some (Except.ok.inj h))⟩

/-- Without an interruption the evaluation is explained under the policy it was made under. -/
theorem explain_answer {policy : ThermalPolicy} (hfind : g.domains.find domain = some definition)
    (hpolicy : g.policyFor definition = some policy) : ∃ envelope, (g.explain domain).2 =
      .ok (buildExplanation (g.evaluation definition policy).2 envelope policy) := by
  have hanswer := evaluateDomain_eq_ok hfind hpolicy
  have hsame := g.evaluateDomain_same domain
  have hstored : (g.evaluateDomain domain).1.evaluations.lookup domain =
      some (g.evaluation definition policy).2 := by
    unfold evaluateDomain evaluateAndStore
    rw [hfind]
    dsimp only
    unfold evaluateLocked
    rw [hpolicy]
    dsimp only
    rw [evaluations_recordTransition, AList.lookup_insert]
  have hfind' : (g.evaluateDomain domain).1.domains.find domain = some definition := by
    rw [hsame.domains, hfind]
  have hpolicy' : (g.evaluateDomain domain).1.policyFor definition = some policy := by
    rw [policyFor, hsame.sameReads.policies]
    exact hpolicy
  have hlast : (g.evaluateDomain domain).1.policyToExplain domain = .ok policy := by
    rw [policyToExplain, hfind']
    dsimp only
    rw [hpolicy']
    rfl
  refine ⟨(g.evaluateDomain domain).1.makeEnvelope definition (g.evaluation definition policy).2,
    ?_⟩
  rw [explain]
  dsimp only
  rw [hanswer, hlast, queryEnvelope, hfind']
  dsimp only
  rw [hstored]
  rfl

/-- An evaluation that succeeds is made under the policy that governs. -/
theorem governed_of_evaluateDomain (hg : g.Reachable) {e : ThermalEvaluation}
    (h : (g.evaluateDomain domain).2 = .ok e) : ∃ definition policy,
      g.domains.find domain = some definition ∧ g.policyFor definition = some policy ∧
      e = (g.evaluation definition policy).2 := by
  cases hfind : g.domains.find domain with
  | none =>
    unfold evaluateDomain evaluateAndStore at h
    rw [hfind] at h
    cases h
  | some definition =>
    obtain ⟨policy, hpolicy⟩ := exists_policyFor hg definition
    rw [evaluateDomain_eq_ok hfind hpolicy] at h
    exact ⟨definition, policy, rfl, hpolicy, (Except.ok.inj h).symm⟩

/-- The explanation of an admission needs nothing of what comes after its evaluation. -/
theorem explainAdmission_of_interrupted {request : ThermalAdmissionRequest}
    (h : explainAdmissionFrom (g.evaluateAdmission request).2
      (g₂.policyToExplain request.domain) = .ok x) :
    (g.explainAdmission request).2 = .ok x := by
  cases hresult : (g.evaluateAdmission request).2 with
  | error e =>
    rw [hresult] at h
    cases h
  | ok r =>
    cases hfind : g.domains.find request.domain with
    | none =>
      rw [evaluateAdmission, hfind] at hresult
      cases hresult
    | some definition =>
      have hfind' : (g.evaluateAdmission request).1.domains.find request.domain =
          some definition := by
        rcases find_effects (g.apply_effects (.evaluateAdmission request) rfl) hfind with
          h | ⟨_, hop, -⟩
        · exact h
        · cases hop
      rw [hresult] at h
      rw [explainAdmission]
      dsimp only
      rw [hresult, policyToExplain, hfind']
      unfold explainAdmissionFrom at h ⊢
      dsimp only at h ⊢
      split at h
      · cases h
      · exact h

/-- The answer of an interrupted call explains the state that was evaluated exactly if the
thresholds found last are those of that state. -/
theorem explain_eq_iff_shownFor (hg : g.Reachable)
    (hbetween : Runs (g.evaluateDomain domain).1 g₂) (hafter : Runs g₂ g₃)
    (h : explainFrom (g.evaluateDomain domain).2 (g₂.queryEnvelope domain)
      (g₃.policyToExplain domain) = .ok x) :
    (g.explain domain).2 = .ok x ↔ g₃.shownFor domain = g.shownFor domain := by
  have hg₃ : g₃.Reachable := ((hg.apply (.evaluateDomain domain)).runs hbetween).runs hafter
  obtain ⟨e, envelope, last, he, -, hlast, rfl⟩ := explainFrom_eq_ok h
  obtain ⟨definition, policy, hfind, hpolicy, rfl⟩ := governed_of_evaluateDomain hg he
  obtain ⟨definition', hfind', hpolicy'⟩ := policyToExplain_eq_ok hg₃ hlast
  obtain ⟨envelope', hanswer⟩ := explain_answer hfind hpolicy
  rw [hanswer, shownFor_eq hfind hpolicy, shownFor_eq hfind' hpolicy']
  constructor
  · intro heq
    rw [(buildExplanation_eq_iff _ _ _ _ _).mp (Except.ok.inj heq)]
  · intro heq
    rw [(buildExplanation_eq_iff _ envelope' envelope policy last).mpr (Option.some.inj heq).symm]

/-- **An explanation is coherent exactly if the policy found last shows the thresholds of the
policy the evaluation was made under**; so it is in every interleaving with operations that
leave these thresholds alone, and the explanation of an admission is coherent in all of them. -/
theorem coherent_iff (hg : g.Reachable) :
    (∀ domain g₂ g₃ x, Runs (g.evaluateDomain domain).1 g₂ → Runs g₂ g₃ →
      explainFrom (g.evaluateDomain domain).2 (g₂.queryEnvelope domain)
        (g₃.policyToExplain domain) = .ok x →
      ((g.explain domain).2 = .ok x ↔ g₃.shownFor domain = g.shownFor domain)) ∧
    (∀ domain g₂ g₃ x,
      RunsUnder (fun g op => ¬ g.Repolicies domain op) (g.evaluateDomain domain).1 g₂ →
      RunsUnder (fun g op => ¬ g.Repolicies domain op) g₂ g₃ →
      explainFrom (g.evaluateDomain domain).2 (g₂.queryEnvelope domain)
        (g₃.policyToExplain domain) = .ok x → (g.explain domain).2 = .ok x) ∧
    (∀ request g₂ x, Runs (g.evaluateAdmission request).1 g₂ →
      explainAdmissionFrom (g.evaluateAdmission request).2
        (g₂.policyToExplain request.domain) = .ok x → (g.explainAdmission request).2 = .ok x) := by
  refine ⟨fun domain g₂ g₃ x hbetween hafter h => explain_eq_iff_shownFor hg hbetween hafter h,
    fun domain g₂ g₃ x hbetween hafter h => ?_,
    fun request g₂ x _ h => explainAdmission_of_interrupted h⟩
  refine (explain_eq_iff_shownFor hg hbetween.runs hafter.runs h).mpr ?_
  obtain ⟨e, -, -, he, -⟩ := explainFrom_eq_ok h
  obtain ⟨definition, policy, hfind, hpolicy, -⟩ := governed_of_evaluateDomain hg he
  have hshown := shownFor_eq hfind hpolicy
  have hevaluated : (g.evaluateDomain domain).1.shownFor domain = g.shownFor domain :=
    shownFor_apply (g.not_repolicies_evaluateDomain domain) hfind
  rw [shownFor_runs hafter (shownFor_runs hbetween (hevaluated.trans hshown)), hshown]

/-! ### A policy between the evaluation and the explanation -/

/-- A later default policy that warns from 35 degrees on. -/
def earlyWarning : ThermalPolicy :=
  let base : ThermalPolicy := .makeDefault
  { base with generation := 2, thresholds := { base.thresholds with warning := 35 } }

/-- A cool domain is read. -/
def cooled : List Operation :=
  Deployment.setUp ++ [.publishTemperature (Deployment.reading 40 1 0)]

/-- A reading that comes in before the envelope is taken does no harm. -/
theorem coherent_reading : ∃ x,
    explainFrom ((Deployment.after cooled).evaluateDomain 1).2
      ((((Deployment.after cooled).evaluateDomain 1).1.apply
        (.publishTemperature (Deployment.reading 85 2 1))).queryEnvelope 1)
      ((((Deployment.after cooled).evaluateDomain 1).1.apply
        (.publishTemperature (Deployment.reading 85 2 1))).policyToExplain 1) = .ok x ∧
    ((Deployment.after cooled).explain 1).2 = .ok x ∧
    x.value "Temperature" "Current" = some "40" := by
  obtain ⟨x, hx, hcurrent⟩ := exists_of_ok
    (explainFrom ((Deployment.after cooled).evaluateDomain 1).2
      ((((Deployment.after cooled).evaluateDomain 1).1.apply
        (.publishTemperature (Deployment.reading 85 2 1))).queryEnvelope 1)
      ((((Deployment.after cooled).evaluateDomain 1).1.apply
        (.publishTemperature (Deployment.reading 85 2 1))).policyToExplain 1))
    (fun x => x.value "Temperature" "Current" = some "40") (by decide +kernel)
  exact ⟨x, hx, (coherent_iff (Deployment.reachable_after cooled)).2.1 1 _ _ x
    (.tail _ .refl id) .refl hx, hcurrent⟩

/-- After a policy in between, the explanation puts a normal domain at 40 degrees beyond a
warning at 35, under the policy generation that warned from 75 degrees on. -/
theorem not_coherent : (Deployment.after cooled).Reachable ∧
    Runs ((Deployment.after cooled).evaluateDomain 1).1
      (((Deployment.after cooled).evaluateDomain 1).1.apply (.setPolicy earlyWarning)) ∧ ∃ x y,
    explainFrom ((Deployment.after cooled).evaluateDomain 1).2
      (((Deployment.after cooled).evaluateDomain 1).1.queryEnvelope 1)
      ((((Deployment.after cooled).evaluateDomain 1).1.apply
        (.setPolicy earlyWarning)).policyToExplain 1) = .ok x ∧
    x.value "Thermal state" "State" = some "NORMAL" ∧
    x.value "Temperature" "Current" = some "40" ∧
    x.value "Temperature" "Warning" = some "35" ∧
    x.value "Authority" "ThermalPolicyGeneration" = some "1" ∧
    ((Deployment.after cooled).explain 1).2 = .ok y ∧
    y.value "Temperature" "Warning" = some "75" ∧
    y.value "Authority" "ThermalPolicyGeneration" = some "1" ∧ y ≠ x := by
  refine ⟨Deployment.reachable_after cooled, .tail _ .refl trivial, ?_⟩
  obtain ⟨x, hx, hstate, hcurrent, hwarning, hgeneration⟩ := exists_of_ok
    (explainFrom ((Deployment.after cooled).evaluateDomain 1).2
      (((Deployment.after cooled).evaluateDomain 1).1.queryEnvelope 1)
      ((((Deployment.after cooled).evaluateDomain 1).1.apply
        (.setPolicy earlyWarning)).policyToExplain 1))
    (fun x => x.value "Thermal state" "State" = some "NORMAL" ∧
      x.value "Temperature" "Current" = some "40" ∧
      x.value "Temperature" "Warning" = some "35" ∧
      x.value "Authority" "ThermalPolicyGeneration" = some "1") (by decide +kernel)
  obtain ⟨y, hy, hwarning', hgeneration'⟩ := exists_of_ok ((Deployment.after cooled).explain 1).2
    (fun y => y.value "Temperature" "Warning" = some "75" ∧
      y.value "Authority" "ThermalPolicyGeneration" = some "1") (by decide +kernel)
  refine ⟨x, y, hx, hstate, hcurrent, hwarning, hgeneration, hy, hwarning', hgeneration', ?_⟩
  rintro rfl
  rw [hwarning] at hwarning'
  exact absurd hwarning' (by decide)

end Governor

end ThermalGovernor
