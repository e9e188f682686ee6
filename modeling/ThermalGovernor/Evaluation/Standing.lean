import ThermalGovernor.Evaluation.Evaluate

/-!
# The standing of an evaluation

State, derating, decision and concurrency are what an evaluation grants.  Two facts about
them carry everything that is said later about stored evaluations.

Of its coupled domains an evaluation reads the states and nothing else, and of the topology
nothing at all (`standing_evaluateThermal_congr`).  And an evaluation is its own successor:
evaluating the same evidence again, with the result as what was stored before, gives the
same standing (`standing_evaluateThermal_again`).
-/

namespace ThermalGovernor

/-- What an evaluation grants. -/
structure Standing where
  state : ThermalState
  derating : DeratingLevel
  decision : ThermalDecision
  concurrency : ℚ
  deriving DecidableEq

def ThermalEvaluation.standing (e : ThermalEvaluation) : Standing :=
  ⟨e.state, e.derating, e.decision, e.permittedConcurrency⟩

namespace EvaluationInput

/-- The same input after another state and derating. -/
def following (input : EvaluationInput) (state : ThermalState) (derating : DeratingLevel) :
    EvaluationInput :=
  { input with previousState := state, previousDerating := derating }

/-- What the standing of an evaluation is made from, beside what was stored before. -/
def reads (input : EvaluationInput) : EvaluationInput :=
  { input with
    previousState := .unknown
    previousDerating := .unknown
    coupled := input.coupled.map fun p => { state := p.state }
    topologyGeneration := 0 }

@[simp] theorem reads_following (input : EvaluationInput) (state : ThermalState)
    (derating : DeratingLevel) : (input.following state derating).reads = input.reads := rfl

end EvaluationInput

/-! ### What the standing depends on -/

/-- The scan of the coupled domains looks at their states. -/
theorem foldl_couple_congr (policy : CouplingPolicy) :
    ∀ (a b : List CoupledPressure) (s s' : CouplingScan),
      a.map CoupledPressure.state = b.map CoupledPressure.state →
      s.candidate = s'.candidate → s.pressured = s'.pressured →
      (a.foldl (couple policy) s).candidate = (b.foldl (couple policy) s').candidate ∧
      (a.foldl (couple policy) s).pressured = (b.foldl (couple policy) s').pressured := by
  intro a
  induction a with
  | nil =>
    intro b s s' hstates hcandidate hpressured
    rw [List.map_nil, eq_comm, List.map_eq_nil_iff] at hstates
    rw [hstates]
    exact ⟨hcandidate, hpressured⟩
  | cons p rest ih =>
    intro b s s' hstates hcandidate hpressured
    cases b with
    | nil => cases hstates
    | cons q others =>
      rw [List.map_cons, List.map_cons] at hstates
      obtain ⟨hstate, hrest⟩ := List.cons.inj hstates
      rw [List.foldl_cons, List.foldl_cons]
      refine ih others _ _ hrest ?_ ?_
      · simp only [couple, hstate, hcandidate]
      · simp only [couple, hstate, hpressured]

theorem tightened_scanCoupled_congr (policy : CouplingPolicy) {a b : List CoupledPressure}
    (candidate : ThermalState)
    (h : a.map CoupledPressure.state = b.map CoupledPressure.state) :
    (scanCoupled policy a candidate).tightened = (scanCoupled policy b candidate).tightened := by
  unfold scanCoupled
  split
  · obtain ⟨hcandidate, hpressured⟩ :=
      foldl_couple_congr policy a b { candidate := candidate } { candidate := candidate } h rfl rfl
    unfold CouplingScan.tightened
    rw [hcandidate, hpressured]
  · rfl

/-- The gate answers from the states and the assessment; the reasons only travel along. -/
theorem hysteresisGate_congr (previous candidate : ThermalState) (recovery : RecoveryAssessment)
    (reasons reasons' : ReasonCodeSet) :
    (hysteresisGate previous candidate recovery reasons).1 =
      (hysteresisGate previous candidate recovery reasons').1 := by
  unfold hysteresisGate
  split
  · rfl
  split
  · rfl
  split
  · rfl
  split
  · rfl
  · rfl

theorem admitHeadroom_congr (policy : ThermalPolicy) (met : Bool) (decision : ThermalDecision)
    (reasons reasons' : ReasonCodeSet) :
    (admitHeadroom policy met decision reasons).1 =
      (admitHeadroom policy met decision reasons').1 := by
  unfold admitHeadroom
  split
  · rfl
  · dsimp only
    split
    · split <;> rfl
    · rfl

/-- The standing that goes with a state. -/
def standingOf (input : EvaluationInput) (evidence : ThermalEvidence) (state : ThermalState) :
    Standing where
  state := state
  derating := (clampDerating input state (deratingForState state input.policy
    (workloadTerms input.policy input.workloadProfile).restricted)).1
  decision := (admitHeadroom input.policy
    ((computeHeadroom (headroomInputFor input evidence)).meetsDemand
      (input.policy.admission.minEffectiveHeadroom +
        (workloadTerms input.policy input.workloadProfile).demand))
    (decisionForState state input.policy) []).1
  concurrency := concurrencyCeiling input.policy.concurrency state

theorem standing_evaluateResolved (input : EvaluationInput) (evidence : ThermalEvidence) :
    (evaluateResolved input evidence).standing =
      standingOf input evidence (evaluateResolved input evidence).state := by
  unfold ThermalEvaluation.standing standingOf
  congr 1
  exact admitHeadroom_congr _ _ _ _ _

theorem evaluateResolved_state_eq (input : EvaluationInput) (evidence : ThermalEvidence) :
    (evaluateResolved input evidence).state =
      (hysteresisGate input.previousState (candidateState input evidence)
        (evaluateResolved input evidence).recovery []).1 := by
  rw [evaluateResolved_state, nextThermalState]
  exact hysteresisGate_congr _ _ _ _ _

/-- **The standing depends on what is read and what was stored before.** -/
theorem standing_evaluateThermal_congr {a b : EvaluationInput} (hreads : a.reads = b.reads)
    (hstate : a.previousState = b.previousState)
    (hderating : a.previousDerating = b.previousDerating) :
    (evaluateThermal a).standing = (evaluateThermal b).standing := by
  obtain ⟨coupled, generation, hcoupled, rfl⟩ : ∃ coupled generation,
      a.coupled.map CoupledPressure.state = coupled.map CoupledPressure.state ∧
      b = { a with coupled := coupled, topologyGeneration := generation } := by
    refine ⟨b.coupled, b.topologyGeneration, ?_, ?_⟩
    · have h := congrArg (fun i => i.coupled.map CoupledPressure.state) hreads
      simpa [EvaluationInput.reads, Function.comp_def] using h
    · cases a
      cases b
      simp only [EvaluationInput.reads, EvaluationInput.mk.injEq] at hreads
      simp only at hstate hderating
      simp only [EvaluationInput.mk.injEq]
      tauto
  have hcandidate : ∀ evidence, candidateState a evidence =
      candidateState { a with coupled := coupled, topologyGeneration := generation } evidence :=
    fun evidence => tightened_scanCoupled_congr _ _ hcoupled
  have hresolved : ∀ evidence, (evaluateResolved a evidence).standing =
      (evaluateResolved { a with coupled := coupled, topologyGeneration := generation }
        evidence).standing := by
    intro evidence
    have hsame : (evaluateResolved a evidence).state = (evaluateResolved
        { a with coupled := coupled, topologyGeneration := generation } evidence).state := by
      rw [evaluateResolved_state_eq, evaluateResolved_state_eq, hcandidate]
      rfl
    rw [standing_evaluateResolved, standing_evaluateResolved, hsame]
    rfl
  unfold evaluateThermal
  dsimp only
  split
  · rfl
  split
  · rfl
  split
  · rfl
  · split
    · rfl
    split
    · rfl
    · exact hresolved _

/-! ### Evaluating again -/

/-- What the gate answered goes through it again. -/
theorem hysteresisGate_again (previous candidate : ThermalState) (recovery : RecoveryAssessment) :
    (hysteresisGate (hysteresisGate previous candidate recovery []).1 candidate recovery []).1 =
      (hysteresisGate previous candidate recovery []).1 := by
  by_cases hcandidate : candidate.isHealthy = true
  · by_cases hallowed : (hysteresisGate previous candidate recovery []).1.isHealthy = true
    · -- the candidate came through, and a healthy state meets no gate
      have hanswer := hysteresisGate_eq_candidate hallowed
      rw [hanswer]
      have hgate : candidate.requiresRecoveryGate = false := by
        cases candidate <;> first | rfl | cases hcandidate
      unfold hysteresisGate
      rw [if_neg (by simp [hcandidate]), if_pos (by simp [hgate])]
    · -- the restriction was retained, and retaining it again changes nothing
      rw [isHealthy_hysteresisGate, not_and] at hallowed
      have hpending := hallowed hcandidate
      push Not at hpending
      obtain ⟨hrestrictive, hrecovery⟩ := hpending
      have hretained : ∀ p : ThermalState, p.isRestrictive = true →
          (hysteresisGate p candidate recovery []).1 = .derated := by
        intro p hp
        unfold hysteresisGate
        rw [if_neg (by simp [hcandidate])]
        cases p with
        | derated | throttling | critical =>
          rw [if_neg (by decide), if_neg (by decide), if_neg hrecovery]
          rfl
        | normal | warm | nearLimit | revalidationRequired | unknown | unsupported => cases hp
      rw [hretained previous hrestrictive]
      exact hretained _ rfl
  · have hanswer : ∀ p, (hysteresisGate p candidate recovery []).1 = candidate := by
      intro p
      unfold hysteresisGate
      rw [if_pos (by simp [hcandidate])]
    rw [hanswer, hanswer]

/-- Clamping with what was clamped changes nothing. -/
theorem clampDerating_again (input : EvaluationInput) (state previous : ThermalState)
    (derating : DeratingLevel) :
    (clampDerating (input.following previous (clampDerating input state derating).1) state
      derating).1 = (clampDerating input state derating).1 := by
  by_cases hclamped : (input.previousDerating ≠ .unknown && ! state.isHealthy &&
      state ≠ .revalidationRequired &&
      decide (derating.restrictionRank < input.previousDerating.restrictionRank)) = true
  · have hprevious : (clampDerating input state derating).1 = input.previousDerating := by
      unfold clampDerating
      rw [if_pos hclamped]
      simp only [Bool.and_eq_true, decide_eq_true_eq] at hclamped
      show derating.mostRestrictive input.previousDerating = _
      unfold DeratingLevel.mostRestrictive
      rw [if_neg (by omega)]
    rw [hprevious]
    exact hprevious
  · have hkept : (clampDerating input state derating).1 = derating := by
      unfold clampDerating
      rw [if_neg hclamped]
    rw [hkept]
    unfold clampDerating EvaluationInput.following
    rw [if_neg (by simp)]

theorem evaluateThermal_of_resolved {input : EvaluationInput} {evidence : ThermalEvidence}
    (h : resolvedEvidence input = some evidence) :
    evaluateThermal input = evaluateResolved input evidence := by
  rcases evaluateThermal_eq input with ⟨other, hother, heq⟩ | ⟨hnone, -⟩
  · obtain rfl : other = evidence := Option.some.inj (hother.symm.trans h)
    exact heq
  · rw [hnone] at h
    cases h

/-- The standing of a refusal: the capability answers, or revalidation is demanded. -/
def refusedStanding (input : EvaluationInput) : Standing :=
  match input.temperatureCapability with
  | .unsupported =>
    ⟨.unsupported, .unsupported, decisionForUnsupported input.policy.unsupportedBehavior, 0⟩
  | .unknown =>
    ⟨.unknown, .unknown, decisionForUnknown input.policy.unknownBehavior,
      concurrencyCeiling input.policy.concurrency .unknown⟩
  | .supportedReal | .supportedSynthetic | .supportedReadOnly =>
    ⟨.revalidationRequired, .revalidationRequired, .revalidationRequired,
      concurrencyCeiling input.policy.concurrency .revalidationRequired⟩

/-- With a supported capability a refusal is a demand for revalidation. -/
theorem evaluateThermal_of_demanded {input : EvaluationInput}
    (h : resolvedEvidence input = none)
    (hsupported : input.temperatureCapability.isSupported = true) :
    ∃ reason, evaluateThermal input = demandRevalidation input reason := by
  have hunsupported : input.temperatureCapability ≠ .unsupported := by
    intro hc
    rw [hc] at hsupported
    cases hsupported
  have hunknown : input.temperatureCapability ≠ .unknown := by
    intro hc
    rw [hc] at hsupported
    cases hsupported
  unfold evaluateThermal
  rw [if_neg hunsupported, if_neg hunknown]
  split
  · exact ⟨_, rfl⟩
  · rename_i evidence hevidence
    split
    · exact ⟨_, rfl⟩
    · rename_i hconflict
      split
      · exact ⟨_, rfl⟩
      · rename_i hfresh
        rw [resolvedEvidence_eq_some.mpr ⟨hsupported, Bool.not_eq_true _ ▸ hconflict,
          not_not.mp hfresh, hevidence⟩] at h
        cases h

theorem standing_of_refused {input : EvaluationInput} (h : resolvedEvidence input = none) :
    (evaluateThermal input).standing = refusedStanding input := by
  cases hcapability : input.temperatureCapability with
  | unsupported =>
    unfold evaluateThermal refusedStanding
    rw [hcapability]
    rfl
  | unknown =>
    unfold evaluateThermal refusedStanding
    rw [hcapability]
    rfl
  | supportedReal | supportedSynthetic | supportedReadOnly =>
    obtain ⟨reason, hdemanded⟩ :=
      evaluateThermal_of_demanded h (by rw [hcapability]; rfl)
    rw [hdemanded, refusedStanding, hcapability]
    rfl

/-- A refusal does not look at what was stored before. -/
theorem standing_evaluateThermal_refused {input : EvaluationInput}
    (h : resolvedEvidence input = none) (state : ThermalState) (derating : DeratingLevel) :
    (evaluateThermal (input.following state derating)).standing =
      (evaluateThermal input).standing := by
  have hfollowing : resolvedEvidence (input.following state derating) = none := h
  rw [standing_of_refused h, standing_of_refused hfollowing]
  rfl

/-- **An evaluation of the same input, after its own result, has the same standing.** -/
theorem standing_evaluateThermal_again (input : EvaluationInput) :
    (evaluateThermal (input.following (evaluateThermal input).state
      (evaluateThermal input).derating)).standing = (evaluateThermal input).standing := by
  cases hresolved : resolvedEvidence input with
  | none => exact standing_evaluateThermal_refused hresolved _ _
  | some evidence =>
    have hfollowing : ∀ state derating,
        evaluateThermal (input.following state derating) =
          evaluateResolved (input.following state derating) evidence :=
      fun state derating => evaluateThermal_of_resolved hresolved
    rw [evaluateThermal_of_resolved hresolved, hfollowing]
    have hstate : (evaluateResolved (input.following (evaluateResolved input evidence).state
        (evaluateResolved input evidence).derating) evidence).state =
        (evaluateResolved input evidence).state := by
      rw [evaluateResolved_state_eq input, evaluateResolved_state_eq]
      exact hysteresisGate_again _ _ _
    rw [standing_evaluateResolved, standing_evaluateResolved, hstate]
    unfold standingOf
    congr 1
    exact clampDerating_again _ _ _ _

/-- **Evaluating again changes nothing that is granted**: the same input, with the state and
the derating of its own evaluation as what was stored before. -/
theorem evaluateThermal_following (input : EvaluationInput) :
    let first := evaluateThermal input
    let second := evaluateThermal (input.following first.state first.derating)
    second.state = first.state ∧ second.derating = first.derating ∧
      second.decision = first.decision ∧
      second.permittedConcurrency = first.permittedConcurrency := by
  have hsame := standing_evaluateThermal_again input
  exact ⟨congrArg Standing.state hsame, congrArg Standing.derating hsame,
    congrArg Standing.decision hsame, congrArg Standing.concurrency hsame⟩

end ThermalGovernor
