import ThermalGovernor.Ledger.Run
import ThermalGovernor.Policy.Requirements

/-!
# What counts as an improvement

A verification says that a mitigation improved or worsened the thermal state when the
temperature fell or rose by more than half a degree.  A policy has a threshold of its own for
this, `improvementEpsilon`, which is validated, stored and loaded, and which no verification is
given.

`classifyOutcome_eq` and `improvement_reason` bring out the two findings that a verification
makes of the temperature change, and `measures_iff` says when they agree with those of another
threshold.
-/

namespace ThermalGovernor

open Lib

/-! ### The findings of a verification -/

/-- The change is found to be an improvement. -/
def improved (change : ℚ) : Bool := change < -verificationEpsilon

/-- The change is found to be a worsening. -/
def worsened (change : ℚ) : Bool := verificationEpsilon < change

/-- Outcome and lifecycle from the two findings, the derating levels and the state. -/
def classifyFindings (improved worsened : Bool) (input : VerificationInput) :
    VerificationOutcome × ActionLifecycle :=
  let violated := input.after.state.isRestrictive
  let relaxed : Bool :=
    input.after.derating.restrictionRank < input.before.derating.restrictionRank
  let tightened : Bool :=
    input.before.derating.restrictionRank < input.after.derating.restrictionRank
  if input.secondaryHardViolation then (.secondaryViolationCreated, .worsened)
  else if tightened || worsened then (.thermalStateWorsened, .worsened)
  else if ! improved && ! relaxed && violated then (.deratingIneffective, .ineffective)
  else if improved && violated then (.deratingPartiallyEffective, .partiallyEffective)
  else if relaxed then (.deratingEffective, .effective)
  else if improved then (.thermalStateImproved, .effective)
  else (.thermalStateUnchanged, .ineffective)

/-- **The temperatures enter the classification through the two findings.** -/
theorem classifyOutcome_eq (input : VerificationInput) :
    classifyOutcome input = classifyFindings (improved (verificationDelta input))
      (worsened (verificationDelta input)) input := rfl

/-- An improvement is among the reasons of a verification that is not superseded. -/
theorem improvement_reason {input : VerificationInput} {action : ThermalAction}
    (h : policySuperseded input action = false) :
    .effectiveHeadroomSufficient ∈ (verifiedRecord input action).reasons ↔
      improved (verificationDelta input) = true := by
  have hcode : ∀ recovered : Bool, ThermalReasonCode.effectiveHeadroomSufficient ≠
      (if recovered then .recoveryAuthorized else .recoveryForbiddenByPolicy) := by
    intro recovered
    cases recovered <;> decide
  simp only [verifiedRecord, h, Bool.false_eq_true, if_false, ReasonCodeSet.mem_canonicalise,
    ReasonCodeSet.mem_addIf, ReasonCodeSet.mem_add]
  simp [hcode, improved]

/-! ### Another threshold -/

/-- The findings are those of a threshold: nothing within it, and beyond it an improvement when
the temperature fell and a worsening when it rose. -/
structure Measures (epsilon change : ℚ) : Prop where
  within : |change| ≤ epsilon → improved change = false ∧ worsened change = false
  beyond : epsilon < |change| → improved change = true ∨ worsened change = true
  falls : improved change = true → change < 0
  rises : worsened change = true → 0 < change

theorem improved_or_worsened {change : ℚ} :
    improved change = true ∨ worsened change = true ↔ verificationEpsilon < |change| := by
  rw [improved, worsened, decide_eq_true_eq, decide_eq_true_eq, lt_abs, lt_neg, or_comm]

/-- **The findings are those of another threshold when both are on one side of the change.** -/
theorem measures_iff {epsilon change : ℚ} :
    Measures epsilon change ↔ (verificationEpsilon < |change| ↔ epsilon < |change|) := by
  have hpositive : (0 : ℚ) < verificationEpsilon := by
    norm_num [verificationEpsilon]
  rw [← improved_or_worsened]
  constructor
  · intro h
    refine ⟨fun hfound => not_le.mp fun hwithin => ?_, h.beyond⟩
    obtain ⟨himproved, hworsened⟩ := h.within hwithin
    rw [himproved, hworsened] at hfound
    rcases hfound with hc | hc <;> cases hc
  · intro h
    refine ⟨fun hwithin => ?_, h.mpr, fun hc => ?_, fun hc => ?_⟩
    · have hnone := mt h.mp (not_lt.mpr hwithin)
      rw [not_or, Bool.not_eq_true, Bool.not_eq_true] at hnone
      exact hnone
    · have hlow : change < -verificationEpsilon := of_decide_eq_true hc
      linarith
    · have hhigh : verificationEpsilon < change := of_decide_eq_true hc
      linarith

/-- **One threshold measures every change as the other does only when they are the same.** -/
theorem measures_all_iff {epsilon : ℚ} :
    (∀ before after : ℚ, Measures epsilon (after - before)) ↔ epsilon = verificationEpsilon := by
  constructor
  · intro h
    have hsides : ∀ change : ℚ, 0 ≤ change → (verificationEpsilon < change ↔ epsilon < change) := by
      intro change hchange
      have hmeasures := measures_iff.mp (h 0 change)
      rwa [sub_zero, abs_of_nonneg hchange] at hmeasures
    have hpositive : (0 : ℚ) ≤ verificationEpsilon := by
      norm_num [verificationEpsilon]
    have hle : verificationEpsilon ≤ epsilon :=
      not_lt.mp fun hlt => lt_irrefl _ ((hsides _ hpositive).mpr hlt)
    exact le_antisymm
      (not_lt.mp fun hlt => lt_irrefl _ ((hsides _ (hpositive.trans hle)).mp hlt)) hle
  · rintro rfl before after
    exact measures_iff.mpr Iff.rfl

namespace Governor

variable {g g' : Governor} {id : ActionId} {fresh : ThermalEvidence}
  {record : ActionVerification}

/-! ### Verifications that commit -/

/-- The record is that of a verification of the action, whose domain the policy governs: its
outcome and its reasons come from the two findings of the change that it shows. -/
def JudgedUnder (g : Governor) (id : ActionId) (fresh : ThermalEvidence)
    (record : ActionVerification) (policy : ThermalPolicy) : Prop :=
  ∃ action definition before input, g.actions.lookup id = some action ∧
    g.domains.find action.authority.domain = some definition ∧
    g.policyFor definition = some policy ∧ g.actionBaselines.lookup id = some before ∧
    input = g.verificationInput definition action before
      (g.evaluation definition policy).2 fresh ∧
    record.delta = record.temperatureAfter - record.temperatureBefore ∧
    (policySuperseded input action = false →
      (record.outcome, record.resultingLifecycle) =
        judgeIntent action.intent input.after.recovery.allowed
          (classifyFindings (improved record.delta) (worsened record.delta) input) ∧
      (.effectiveHeadroomSufficient ∈ record.reasons ↔ improved record.delta = true))

theorem judgedUnder_of_ok (h : g.verifyCommit id fresh = (g', .ok record)) :
    ∃ policy, g.JudgedUnder id fresh record policy := by
  obtain ⟨action, definition, policy, before, haction, -, hdefinition, hpolicy, hbefore, -,
    hrecord⟩ := verifyCommit_eq_ok h
  refine ⟨policy, action, definition, before, _, haction, hdefinition, hpolicy, hbefore, rfl, ?_,
    fun hcurrent => ⟨?_, ?_⟩⟩
  · rw [hrecord]
    rfl
  · rw [hrecord]
    simp only [verifiedRecord, hcurrent, Bool.false_eq_true, if_false, classifyOutcome_eq]
  · rw [hrecord]
    exact improvement_reason hcurrent

/-- **When a verification measures improvement by the policy.** -/
theorem measuresImprovement_iff (h : g.verifyCommit id fresh = (g', .ok record)) :
    ∃ policy : ThermalPolicy, g.JudgedUnder id fresh record policy ∧
      (Measures policy.verification.improvementEpsilon record.delta ↔
        (verificationEpsilon < |record.delta| ↔
          policy.verification.improvementEpsilon < |record.delta|)) ∧
      ((∀ before after : ℚ, Measures policy.verification.improvementEpsilon (after - before)) ↔
        policy.verification.improvementEpsilon = verificationEpsilon) := by
  obtain ⟨policy, hjudged⟩ := judgedUnder_of_ok h
  exact ⟨policy, hjudged, measures_iff, measures_all_iff⟩

/-! ### A policy that asks for more -/

/-- The default policy with a threshold of two degrees. -/
def demandingPolicy : ThermalPolicy :=
  { PolicyOver.makeDefault with generation := 2, verification := { improvementEpsilon := 2 } }

/-- A hot device under the policy is slowed down, and read again a degree cooler. -/
def slowedDown (policy : List Operation) : Governor := Deployment.after
  (policy ++ [.publishTemperature (Deployment.reading 82 1 0),
    .authorizeMitigation 1 { intent := .requestClockReduction } "", .recordActionDispatch 2,
    .publishTemperature (Deployment.reading 81 2 10)])

/-- Under the default policy the degree is an improvement. -/
theorem measuresImprovement_default : ∃ (record : ActionVerification) (policy : ThermalPolicy),
    ((slowedDown []).verifyCommit 2 (Deployment.reading 81 2 10)).2 = .ok record ∧
      (Measures policy.verification.improvementEpsilon record.delta ↔
        (verificationEpsilon < |record.delta| ↔
          policy.verification.improvementEpsilon < |record.delta|)) := by
  obtain ⟨record, hrecord, -⟩ := exists_of_ok
    ((slowedDown []).verifyCommit 2 (Deployment.reading 81 2 10)).2 (fun _ => True)
    (by decide +kernel)
  obtain ⟨policy, -, hmeasures, -⟩ := measuresImprovement_iff (Prod.ext rfl hrecord)
  exact ⟨record, policy, hrecord, hmeasures⟩

/-- Under one that asks for two degrees it is an improvement as well. -/
theorem not_measuresImprovement :
    ¬ ∀ (g g' : Governor) (id : ActionId) (fresh : ThermalEvidence) (record : ActionVerification)
      (policy : ThermalPolicy), g.Reachable → g.verifyCommit id fresh = (g', .ok record) →
      g.JudgedUnder id fresh record policy →
      Measures policy.verification.improvementEpsilon record.delta := by
  intro hclaim
  let g := slowedDown [.setPolicy demandingPolicy]
  obtain ⟨record, hrecord, hdelta⟩ := exists_of_ok
    (g.verifyCommit 2 (Deployment.reading 81 2 10)).2 (fun record => record.delta = -1)
    (by decide +kernel)
  obtain ⟨policy, hjudged⟩ := judgedUnder_of_ok (Prod.ext rfl hrecord)
  have hepsilon : policy.verification.improvementEpsilon = 2 := by
    obtain ⟨action, definition, -, -, haction, hfind, hpolicy, -⟩ := hjudged
    have hgoverning : ((g.actions.lookup 2).bind fun action =>
        (g.domains.find action.authority.domain).bind fun definition =>
          (g.policyFor definition).map fun policy => policy.verification.improvementEpsilon) =
        some 2 := by decide +kernel
    rw [haction, Option.bind_some, hfind, Option.bind_some, hpolicy, Option.map_some] at hgoverning
    exact Option.some.inj hgoverning
  have hmeasures := hclaim g _ 2 _ record policy (Deployment.reachable_after _)
    (Prod.ext rfl hrecord) hjudged
  rw [hepsilon, hdelta] at hmeasures
  exact absurd (hmeasures.within (by decide)).1 (by decide +kernel)

end Governor

end ThermalGovernor
