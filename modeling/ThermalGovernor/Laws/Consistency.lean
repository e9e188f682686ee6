import ThermalGovernor.Evaluation.Standing

/-!
# Chains of evaluations

An evaluation takes the state and the derating of the one before it.  The state is found
anew each time, but the derating may only be tightened while the state is not healthy, in an
order that has the levels of no safe execution, of revalidation and of what is unknown or
unsupported on top.  So such a level outlives the state it was the level of.

`derating_evaluateThermal` says what one evaluation does with the level it is given, and
`consistent_chain` what this comes to along a chain: a level that names a state is the level
of that state, or it was when the level was set, and no evaluation since has been healthy or
has demanded revalidation.
-/

namespace ThermalGovernor

/-- A chain of evaluations; each input after the first follows the evaluation before it. -/
def evaluationChain (inputs : Nat → EvaluationInput) : Nat → ThermalEvaluation
  | 0 => evaluateThermal (inputs 0)
  | n + 1 =>
    let previous := evaluationChain inputs n
    evaluateThermal ((inputs (n + 1)).following previous.state previous.derating)

/-- The state a level is the level of, for the levels under which nothing may run. -/
def DeratingLevel.namedState : DeratingLevel → Option ThermalState
  | .noSafeExecution => some .critical
  | .revalidationRequired => some .revalidationRequired
  | .unknown => some .unknown
  | .unsupported => some .unsupported
  | .fullCapability | .deratedClock | .deratedAdmission | .deratedConcurrency
  | .deratedWorkloadClass | .deratedCombined => none

/-- The decision lets work run. -/
def ThermalDecision.admits (d : ThermalDecision) : Bool := d = .allow || d = .allowDerated

/-! ### One evaluation -/

/-- The evaluation keeps the level it was given, in a state that may not relax it. -/
structure KeepsLevel (level : DeratingLevel) (e : ThermalEvaluation) : Prop where
  derating : e.derating = level
  unhealthy : e.state.isHealthy = false
  unrevalidated : e.state ≠ .revalidationRequired

theorem namedState_deratingForState {state σ : ThermalState} {policy : ThermalPolicy}
    {restricted : Bool}
    (h : (deratingForState state policy restricted).namedState = some σ) : state = σ := by
  cases state with
  | critical | revalidationRequired | unknown | unsupported => exact Option.some.inj h
  | normal | throttling => cases h
  | warm | nearLimit | derated =>
    simp only [deratingForState] at h
    split at h <;> cases h

/-- **A level that names a state is the level of the state found, or the one given.** -/
theorem derating_evaluateThermal (input : EvaluationInput) {σ : ThermalState}
    (h : (evaluateThermal input).derating.namedState = some σ) :
    (evaluateThermal input).state = σ ∨
    (input.previousDerating ≠ .unknown ∧
      KeepsLevel input.previousDerating (evaluateThermal input)) := by
  have hstanding : ∀ standing, (evaluateThermal input).standing = standing →
      (evaluateThermal input).state = standing.state ∧
      (evaluateThermal input).derating = standing.derating := by
    rintro standing rfl
    exact ⟨rfl, rfl⟩
  cases hresolved : resolvedEvidence input with
  | none =>
    obtain ⟨hstate, hderating⟩ := hstanding _ (standing_of_refused hresolved)
    rw [hderating] at h
    rw [hstate]
    left
    unfold refusedStanding at h ⊢
    revert h
    cases input.temperatureCapability <;> exact fun h => Option.some.inj h
  | some evidence =>
    have heq := evaluateThermal_of_resolved hresolved
    obtain ⟨hstate, hderating⟩ := hstanding
      (standingOf input evidence (evaluateThermal input).state)
      (by rw [heq]; exact standing_evaluateResolved input evidence)
    have hclamp : (evaluateThermal input).derating =
        (clampDerating input (evaluateThermal input).state
          (deratingForState (evaluateThermal input).state input.policy
            (workloadTerms input.policy input.workloadProfile).restricted)).1 := hderating
    unfold clampDerating at hclamp
    split at hclamp
    · rename_i hkept
      simp only [Bool.and_eq_true, decide_eq_true_eq, Bool.not_eq_true'] at hkept
      obtain ⟨⟨⟨hknown, hunhealthy⟩, hunrevalidated⟩, hrank⟩ := hkept
      have hlevel : (evaluateThermal input).derating = input.previousDerating := by
        rw [hclamp]
        unfold DeratingLevel.mostRestrictive
        rw [if_neg (by omega)]
      exact .inr ⟨hknown, hlevel, hunhealthy, hunrevalidated⟩
    · left
      rw [hclamp] at h
      exact namedState_deratingForState h

/-- The admission predicate lets nothing run that was not let run before. -/
theorem admits_of_admitHeadroom {policy : ThermalPolicy} {met : Bool} {decision : ThermalDecision}
    {reasons : ReasonCodeSet}
    (h : (admitHeadroom policy met decision reasons).1.admits = true) :
    decision.admits = true := by
  unfold admitHeadroom at h
  split at h
  · exact h
  · dsimp only at h
    split at h
    · rename_i hallow
      rw [hallow]
      rfl
    · exact h

theorem admits_decisionForUnknown {behavior : UnknownBehavior}
    (h : (decisionForUnknown behavior).admits = true) : behavior = .allowDerated := by
  cases behavior <;> first | rfl | cases h

theorem not_admits_decisionForUnsupported (behavior : UnsupportedBehavior) :
    (decisionForUnsupported behavior).admits = false := by
  cases behavior <;> rfl

/-- A state in which work is let run is healthy, derated or throttling, or it is unknown and
the policy asks for that. -/
theorem admits_decisionForState {state : ThermalState} {policy : ThermalPolicy}
    (hdeny : policy.emergency.denyAllExecution = true)
    (h : (decisionForState state policy).admits = true) :
    state.isHealthy = true ∨ state = .derated ∨ state = .throttling ∨
    (state = .unknown ∧ policy.unknownBehavior = .allowDerated) := by
  cases state with
  | normal | warm | nearLimit => exact .inl rfl
  | derated => exact .inr (.inl rfl)
  | throttling => exact .inr (.inr (.inl rfl))
  | unknown => exact .inr (.inr (.inr ⟨rfl, admits_decisionForUnknown h⟩))
  | critical =>
    simp only [decisionForState] at h
    rw [if_pos hdeny] at h
    cases h
  | revalidationRequired => cases h
  | unsupported =>
    rw [decisionForState, not_admits_decisionForUnsupported] at h
    cases h

theorem admits_evaluateThermal (input : EvaluationInput)
    (hdeny : input.policy.emergency.denyAllExecution = true)
    (h : (evaluateThermal input).decision.admits = true) :
    (evaluateThermal input).state.isHealthy = true ∨ (evaluateThermal input).state = .derated ∨
    (evaluateThermal input).state = .throttling ∨
    ((evaluateThermal input).state = .unknown ∧
      input.policy.unknownBehavior = .allowDerated) := by
  cases hresolved : resolvedEvidence input with
  | none =>
    have hstanding := standing_of_refused hresolved
    have hstate := congrArg Standing.state hstanding
    have hdecision := congrArg Standing.decision hstanding
    have hanswer : (refusedStanding input).decision.admits = true := hdecision ▸ h
    have hcases : (refusedStanding input).state = .unknown ∧
        input.policy.unknownBehavior = .allowDerated := by
      unfold refusedStanding at hanswer ⊢
      revert hanswer
      cases input.temperatureCapability with
      | unknown => exact fun hanswer => ⟨rfl, admits_decisionForUnknown hanswer⟩
      | unsupported =>
        intro hanswer
        rw [not_admits_decisionForUnsupported] at hanswer
        cases hanswer
      | supportedReal | supportedReadOnly | supportedSynthetic =>
        exact fun hanswer => (by cases hanswer)
    exact .inr (.inr (.inr ⟨hstate.trans hcases.1, hcases.2⟩))
  | some evidence =>
    rw [evaluateThermal_of_resolved hresolved] at h ⊢
    exact admits_decisionForState hdeny (admits_of_admitHeadroom h)

/-! ### The chain -/

/-- The level was set in the state it names, or handed to the first evaluation, and every
evaluation since has kept it. -/
def Carried (inputs : Nat → EvaluationInput) (n : Nat) (level : DeratingLevel)
    (σ : ThermalState) : Prop :=
  level ≠ .unknown ∧
  ((∃ j < n, (evaluationChain inputs j).state = σ ∧ (evaluationChain inputs j).derating = level ∧
      ∀ k, j < k → k ≤ n → KeepsLevel level (evaluationChain inputs k)) ∨
    ((inputs 0).previousDerating = level ∧
      ∀ k ≤ n, KeepsLevel level (evaluationChain inputs k)))

/-- **A level that names a state is the level of the state found, or it is carried.** -/
theorem carried_of_namedState (inputs : Nat → EvaluationInput) (n : Nat) {σ : ThermalState}
    (h : (evaluationChain inputs n).derating.namedState = some σ) :
    (evaluationChain inputs n).state = σ ∨
    Carried inputs n (evaluationChain inputs n).derating σ := by
  induction n with
  | zero =>
    rcases derating_evaluateThermal (inputs 0) h with hstate | ⟨hknown, hkeeps⟩
    · exact .inl hstate
    · have hlevel : (evaluationChain inputs 0).derating = (inputs 0).previousDerating :=
        hkeeps.derating
      rw [hlevel]
      refine .inr ⟨hknown, .inr ⟨rfl, fun k hk => ?_⟩⟩
      obtain rfl := Nat.le_zero.mp hk
      exact hkeeps
  | succ n ih =>
    rcases derating_evaluateThermal _ h with hstate | ⟨hknown, hkeeps⟩
    · exact .inl hstate
    · -- the level is that of the evaluation before, wherever that one had it from
      have hlevel : (evaluationChain inputs (n + 1)).derating =
          (evaluationChain inputs n).derating := hkeeps.derating
      have hnow : KeepsLevel (evaluationChain inputs n).derating
          (evaluationChain inputs (n + 1)) := hkeeps
      have hextend : ∀ j, (∀ k, j < k → k ≤ n → KeepsLevel (evaluationChain inputs n).derating
          (evaluationChain inputs k)) → ∀ k, j < k → k ≤ n + 1 →
          KeepsLevel (evaluationChain inputs n).derating (evaluationChain inputs k) := by
        intro j hbefore k hjk hk
        rcases Nat.le_succ_iff.mp hk with hk | rfl
        · exact hbefore k hjk hk
        · exact hnow
      rw [hlevel] at h ⊢
      right
      refine ⟨hknown, ?_⟩
      rcases ih h with hstate | ⟨-, ⟨j, hj, hset, hderating, hsince⟩ | ⟨hstart, hsince⟩⟩
      · exact .inl ⟨n, Nat.lt_succ_self n, hstate, rfl,
          hextend n fun k hnk hkn => absurd hkn (not_le.mpr hnk)⟩
      · exact .inl ⟨j, Nat.lt_succ_of_lt hj, hset, hderating, hextend j hsince⟩
      · refine .inr ⟨hstart, fun k hk => ?_⟩
        rcases Nat.le_succ_iff.mp hk with hk | rfl
        · exact hsince k hk
        · exact hnow

theorem Carried.keepsLevel {inputs : Nat → EvaluationInput} {n : Nat} {level : DeratingLevel}
    {σ : ThermalState} (h : Carried inputs n level σ) :
    KeepsLevel level (evaluationChain inputs n) := by
  rcases h with ⟨-, ⟨j, hj, -, -, hsince⟩ | ⟨-, hsince⟩⟩
  · exact hsince n hj (le_refl n)
  · exact hsince n (le_refl n)

/-- A state that a level names is critical or unresolved. -/
theorem namedState_cases {level : DeratingLevel} {σ : ThermalState}
    (h : level.namedState = some σ) :
    σ.isHealthy = false ∧ σ ≠ .derated ∧ σ ≠ .throttling := by
  cases level <;> cases h <;> decide

/-- **State, decision and derating along a chain.**  An unknown level is the level of an
unknown state.  The other levels under which nothing may run are the level of the state, or
carried from the state they name.  Under a policy that denies all execution in an emergency,
work is let run under such a level in an unknown state when the policy asks for it, or
derated or throttling with a carried level. -/
theorem consistent_chain (inputs : Nat → EvaluationInput) (n : Nat) :
    ((evaluationChain inputs n).derating = .unknown →
      (evaluationChain inputs n).state = .unknown) ∧
    (∀ σ, (evaluationChain inputs n).derating.namedState = some σ →
      (evaluationChain inputs n).state = σ ∨
      Carried inputs n (evaluationChain inputs n).derating σ) ∧
    ((inputs n).policy.emergency.denyAllExecution = true →
      (evaluationChain inputs n).decision.admits = true →
      ∀ σ, (evaluationChain inputs n).derating.namedState = some σ →
      ((evaluationChain inputs n).state = .unknown ∧
        (inputs n).policy.unknownBehavior = .allowDerated) ∨
      (((evaluationChain inputs n).state = .derated ∨
          (evaluationChain inputs n).state = .throttling) ∧
        Carried inputs n (evaluationChain inputs n).derating σ)) := by
  refine ⟨fun hunknown => ?_, fun σ hσ => carried_of_namedState inputs n hσ, ?_⟩
  · have hnamed : (evaluationChain inputs n).derating.namedState = some .unknown := by
      rw [hunknown]
      rfl
    rcases carried_of_namedState inputs n hnamed with hstate | hcarried
    · exact hstate
    · exact absurd hunknown hcarried.1
  · intro hdeny hadmits σ hσ
    have hstates : (evaluationChain inputs n).state.isHealthy = true ∨
        (evaluationChain inputs n).state = .derated ∨
        (evaluationChain inputs n).state = .throttling ∨
        ((evaluationChain inputs n).state = .unknown ∧
          (inputs n).policy.unknownBehavior = .allowDerated) := by
      cases n with
      | zero => exact admits_evaluateThermal _ hdeny hadmits
      | succ n => exact admits_evaluateThermal _ hdeny hadmits
    obtain ⟨hunhealthy, hnotDerated, hnotThrottling⟩ := namedState_cases hσ
    have hcarried : (evaluationChain inputs n).state ≠ σ →
        Carried inputs n (evaluationChain inputs n).derating σ :=
      (carried_of_namedState inputs n hσ).resolve_left
    rcases hstates with hhealthy | hderated | hthrottling | hunknown
    · -- a healthy state has a level of its own
      have hkept := (hcarried fun heq => by
        rw [heq, hunhealthy] at hhealthy
        cases hhealthy).keepsLevel.unhealthy
      rw [hhealthy] at hkept
      cases hkept
    · exact .inr ⟨.inl hderated, hcarried fun heq => hnotDerated (heq ▸ hderated)⟩
    · exact .inr ⟨.inr hthrottling, hcarried fun heq => hnotThrottling (heq ▸ hthrottling)⟩
    · exact .inl hunknown

namespace Deployment

/-- A fresh reading under the default policy, or none. -/
def observed (temperature : Option DegreesCelsius) : EvaluationInput :=
  { evidence := temperature.map fun t => { temperature := t, provenance := .real }
    freshness := .fresh
    temperatureCapability := .supportedReal }

/-- A first observation, and the same reading of 85 degrees from then on. -/
def thenDerated (first : Option DegreesCelsius) : Nat → EvaluationInput
  | 0 => observed first
  | _ + 1 => observed (some 85)

end Deployment

open Deployment

/-- After a critical reading a derated domain is let run under the level of no safe
execution, and after missing evidence under the level of revalidation. -/
theorem not_consistent_thenDerated :
    ((evaluationChain (thenDerated (some 95)) 1).state = .derated ∧
      (evaluationChain (thenDerated (some 95)) 1).decision = .allowDerated ∧
      (evaluationChain (thenDerated (some 95)) 1).derating = .noSafeExecution) ∧
    ((evaluationChain (thenDerated none) 1).state = .derated ∧
      (evaluationChain (thenDerated none) 1).decision = .allowDerated ∧
      (evaluationChain (thenDerated none) 1).derating = .revalidationRequired) := by
  decide +kernel

end ThermalGovernor
