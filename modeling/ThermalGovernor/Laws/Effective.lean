import ThermalGovernor.Laws.Improvement

/-!
# What an effective mitigation shows

`classify_effective_iff` says when the classification of a verification comes out effective:
nothing new was violated, nothing was tightened, the temperature did not rise, and either the
temperature fell and left no restrictive state, or the derating was relaxed.

An action that restores something is then judged anew, by recovery gating
(`judgeIntent`), so its effect says that recovery was allowed and nothing else
(`showsEffect_of_effective`).
-/

namespace ThermalGovernor

variable {input : VerificationInput} {action : ThermalAction} {record : ActionVerification}

/-- The derating demands less than it did before the action. -/
def Relaxed (input : VerificationInput) : Prop :=
  input.after.derating.restrictionRank < input.before.derating.restrictionRank

/-- **A classification is effective when no hazard came before it in the chain.** -/
theorem classify_effective_iff : (classifyOutcome input).2 = .effective ↔
    input.secondaryHardViolation = false ∧
    input.after.derating.restrictionRank ≤ input.before.derating.restrictionRank ∧
    verificationDelta input ≤ verificationEpsilon ∧
    ((improved (verificationDelta input) = true ∧ input.after.state.isRestrictive = false) ∨
      (improved (verificationDelta input) = false ∧ Relaxed input)) := by
  have hworsened : worsened (verificationDelta input) = false ↔
      verificationDelta input ≤ verificationEpsilon := by
    rw [worsened, decide_eq_false_iff_not, not_lt]
  rw [classifyOutcome_eq, classifyFindings, ← hworsened]
  unfold Relaxed
  generalize improved (verificationDelta input) = improved
  generalize worsened (verificationDelta input) = worsened
  generalize input.after.state.isRestrictive = violated
  cases hsecondary : input.secondaryHardViolation with
  | true => simp
  | false =>
    rcases lt_trichotomy input.after.derating.restrictionRank
      input.before.derating.restrictionRank with hrelaxed | hsame | htightened
    · cases worsened <;> cases improved <;> cases violated <;>
        simp [hrelaxed, not_lt_of_gt hrelaxed, hrelaxed.le]
    · cases worsened <;> cases improved <;> cases violated <;> simp [hsame]
    · simp [htightened, not_le_of_gt htightened]

/-- The danger is gone: no hard constraint is violated, none was created, and the temperature
did not rise beyond the threshold. -/
structure DangerGone (input : VerificationInput) : Prop where
  unviolated : input.after.state.isRestrictive = false
  unspoiled : input.secondaryHardViolation = false
  unheated : verificationDelta input ≤ verificationEpsilon

/-- What the effect of an action shows.  A derating relaxed without a fall of the temperature
is left out of the second part. -/
structure ShowsEffect (input : VerificationInput) (action : ThermalAction) : Prop where
  restored : action.intent.isRestoring = true → input.after.recovery.allowed = true
  mitigated : action.intent.isRestoring = false →
    ¬ (Relaxed input ∧ improved (verificationDelta input) = false) → DangerGone input
  unharmed : action.intent.isRestoring = false → input.secondaryHardViolation = false ∧
    verificationDelta input ≤ verificationEpsilon

/-- The lifecycle of a verified record is the judged one unless the policy moved on. -/
theorem judged_of_effective (h : (verifiedRecord input action).resultingLifecycle = .effective) :
    (judgeIntent action.intent input.after.recovery.allowed (classifyOutcome input)).2 =
      .effective := by
  rw [verifiedRecord] at h
  dsimp only at h
  split at h
  · cases h
  · exact h

/-- **What an action found effective has shown.** -/
theorem showsEffect_of_effective (haction : input.action = some action)
    (hverified : verifyAction input = .ok record)
    (heffective : record.resultingLifecycle = .effective) : ShowsEffect input action := by
  obtain ⟨-, rfl⟩ := (verifyAction_eq_ok haction).mp hverified
  have hjudged := judged_of_effective heffective
  unfold judgeIntent at hjudged
  cases hrestoring : action.intent.isRestoring with
  | true =>
    rw [hrestoring, if_pos rfl] at hjudged
    refine ⟨fun _ => ?_, fun h => (nomatch hrestoring.symm.trans h),
      fun h => (nomatch hrestoring.symm.trans h)⟩
    cases hallowed : input.after.recovery.allowed with
    | true => rfl
    | false =>
      rw [hallowed, if_neg Bool.false_ne_true] at hjudged
      cases hjudged
  | false =>
    rw [hrestoring, if_neg Bool.false_ne_true] at hjudged
    obtain ⟨hsecondary, -, hheated, hcase⟩ := classify_effective_iff.mp hjudged
    refine ⟨fun h => (nomatch hrestoring.symm.trans h), fun _ hleft => ⟨?_, hsecondary, hheated⟩,
      fun _ => ⟨hsecondary, hheated⟩⟩
    rcases hcase with ⟨-, hstate⟩ | ⟨hunchanged, hrelaxed⟩
    · exact hstate
    · exact absurd ⟨hrelaxed, hunchanged⟩ hleft

/-- The evaluation after an action that cooled a domain by ten degrees. -/
def cooledInput : VerificationInput where
  action := some { intent := .requestClockReduction }
  before := { state := .derated, headroom := { currentTemperature := 85 } }
  after := { state := .warm, headroom := { currentTemperature := 75 } }
  freshEvidence := true
  freshness := .fresh

theorem showsEffect_cooled : ∃ record, verifyAction cooledInput = .ok record ∧
    record.resultingLifecycle = .effective ∧
    ShowsEffect cooledInput { intent := .requestClockReduction } :=
  ⟨verifiedRecord cooledInput { intent := .requestClockReduction }, by rfl, by decide +kernel,
    showsEffect_of_effective rfl rfl (by decide +kernel)⟩

/-- Clocks are restored, and the domain is twenty degrees hotter and critical. -/
def overheatedInput : VerificationInput where
  action := some { intent := .requestClockRestore }
  before := { state := .normal, headroom := { currentTemperature := 75 } }
  after := { state := .critical, headroom := { currentTemperature := 95 },
             recovery := { allowed := true } }
  freshEvidence := true
  freshness := .fresh
  secondaryHardViolation := true

/-- **A restoration is found effective by recovery gating, whatever the temperature does.** -/
theorem not_dangerGone : ¬ ∀ (input : VerificationInput) (record : ActionVerification),
    verifyAction input = .ok record → record.resultingLifecycle = .effective →
      DangerGone input := by
  intro h
  have hgone := h overheatedInput
    (verifiedRecord overheatedInput { intent := .requestClockRestore }) (by rfl)
    (by decide +kernel)
  have hsecondary := hgone.unspoiled
  cases hsecondary

end ThermalGovernor
