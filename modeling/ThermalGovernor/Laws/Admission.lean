import ThermalGovernor.Evaluation.AllowSound
import ThermalGovernor.Laws.Heating
import ThermalGovernor.Governed.Reached

/-!
# Admission and the evaluator

A request asks for a workload profile, and `evaluateAdmission` answers from an evaluation that
is made for the unknown profile.  The verdict looks at the demand and at the class of the
profile asked for, but what the policy attaches to the unknown profile has already entered:
its demand in the decision, its class in the permitted class.

`evaluationFor` is the evaluation of the same inputs for the profile asked for, and
`AgreesWithEvaluator` says that the answer is the one this evaluation calls for.
`agreesWithEvaluator_iff` says when it is: where the hard predicates refuse the evidence, or
where neither the demand nor the class of the unknown profile makes a difference
(`AsForUnknown`).
-/

namespace ThermalGovernor

open EvaluationInput

/-- The same input for a workload profile. -/
def EvaluationInput.forProfile (input : EvaluationInput) (profile : WorkloadThermalProfile) :
    EvaluationInput := { input with workloadProfile := profile }

/-! ### What a profile changes in an evaluation -/

section Profile

variable (input : EvaluationInput) (evidence : ThermalEvidence) (profile : WorkloadThermalProfile)

/-- The gate holds the evidence back. -/
def heldBack : Bool :=
  holdsBack input.previousState
    (evaluateRecovery (recoveryInputFor input (computeHeadroom (headroomInputFor input evidence))))

theorem evaluateResolved_state_ite :
    (evaluateResolved input evidence).state =
      if (candidateState input evidence).isHealthy && heldBack input evidence then .derated
      else candidateState input evidence := by
  rw [evaluateResolved_state_eq, hysteresisGate_eq]
  rfl

/-- The evidence reads healthy, and the gate lets it through. -/
def passesHealthy : Bool := (candidateState input evidence).isHealthy && ! heldBack input evidence

theorem state_eq_critical_iff :
    (evaluateResolved input evidence).state = .critical ↔
      candidateState input evidence = .critical := by
  rw [evaluateResolved_state_ite]
  split
  · rename_i h
    refine iff_of_false (fun hc => by cases hc) fun hc => ?_
    rw [hc] at h
    cases h
  · exact Iff.rfl

theorem isHealthy_state_eq :
    (evaluateResolved input evidence).state.isHealthy = passesHealthy input evidence := by
  rw [evaluateResolved_state_ite, passesHealthy]
  cases hhealthy : (candidateState input evidence).isHealthy with
  | false => exact hhealthy
  | true =>
    cases heldBack input evidence with
    | false => exact hhealthy
    | true => rfl

theorem state_of_passesHealthy (h : passesHealthy input evidence = true) :
    (evaluateResolved input evidence).state = candidateState input evidence := by
  rw [passesHealthy, Bool.and_eq_true, Bool.not_eq_true'] at h
  rw [evaluateResolved_state_ite, h.2, Bool.and_false]
  rfl

theorem decisionForState_eq_allow_iff (state : ThermalState) (policy : ThermalPolicy) :
    decisionForState state policy = .allow ↔ state.isHealthy = true := by
  refine ⟨decisionForState_allow, fun h => ?_⟩
  cases state <;> first | rfl | cases h

/-- What the hard predicates refuse is the same for every profile. -/
theorem evaluateThermal_forProfile_of_refused (h : resolvedEvidence input = none) :
    evaluateThermal (input.forProfile profile) = evaluateThermal input := by
  unfold evaluateThermal
  by_cases hunsupported : input.temperatureCapability = .unsupported
  · rw [if_pos hunsupported]
    exact if_pos hunsupported
  by_cases hunknown : input.temperatureCapability = .unknown
  · rw [if_neg hunsupported, if_pos hunknown]
    exact (if_neg hunsupported).trans (if_pos hunknown)
  have hsupported : input.temperatureCapability.isSupported = true := by
    cases hcap : input.temperatureCapability <;> first | rfl | contradiction
  rw [if_neg hunsupported, if_neg hunknown]
  refine ((if_neg hunsupported).trans (if_neg hunknown)).trans ?_
  have hread : ∀ e, input.evidence = e → (input.forProfile profile).evidence = e := fun _ h => h
  cases hevidence : input.evidence with
  | none =>
    rw [hread none hevidence]
    rfl
  | some evidence =>
    rw [hread _ hevidence]
    dsimp only
    by_cases hconflict : input.evidenceConflict = true
    · rw [if_pos hconflict]
      exact if_pos hconflict
    by_cases hfresh : input.freshness = .fresh
    · rw [resolvedEvidence_eq_some.mpr
        ⟨hsupported, Bool.not_eq_true _ ▸ hconflict, hfresh, hevidence⟩] at h
      cases h
    · rw [if_neg hconflict, if_pos hfresh]
      exact (if_neg hconflict).trans (if_pos hfresh)

theorem permittedExecutionClass_forProfile :
    (evaluateResolved (input.forProfile profile) evidence).permittedExecutionClass =
      if (evaluateResolved input evidence).state = .critical then .bestEffortThermal
      else (workloadTerms input.policy profile).executionClass := by
  have hunrestricted : (workloadTerms input.policy profile).restricted = false →
      (workloadTerms input.policy profile).executionClass = .unrestricted := by
    unfold workloadTerms
    dsimp only
    split
    · intro h
      cases h
    · intro h
      by_contra hc
      simp [hc] at h
  have hclass : (evaluateResolved (input.forProfile profile) evidence).permittedExecutionClass =
      if (evaluateResolved input evidence).state = .critical then .bestEffortThermal
      else if (workloadTerms input.policy profile).restricted then
        (workloadTerms input.policy profile).executionClass
      else .unrestricted := rfl
  rw [hclass]
  cases hrestricted : (workloadTerms input.policy profile).restricted with
  | true => rfl
  | false => rw [hunrestricted hrestricted]; rfl

end Profile

/-! ### The verdict -/

/-- A request for more than is permitted: more concurrency, or a class above best effort. -/
def ThermalAdmissionRequest.asksForMore (request : ThermalAdmissionRequest) (concurrency : ℚ)
    (permitted : ExecutionClass) : Bool :=
  (request.requestedConcurrency.any fun c => concurrency < c) ||
    (request.requestedClass ≠ .unrestricted && permitted = .bestEffortThermal &&
      request.requestedClass ≠ .bestEffortThermal)

/-- The decision within an evaluation that allows execution. -/
def admitDecision (policy : ThermalPolicy) (request : ThermalAdmissionRequest)
    (required : ExecutionClass) (derated met : Bool) (concurrency : ℚ)
    (permitted : ExecutionClass) : AdmissionDecision :=
  if ! met && ! policy.admission.allowDeratedAdmission then .deny
  else
    let excess := required ≠ .unrestricted && required ≠ permitted
    if excess && permitted = .bestEffortThermal then
      if policy.admission.allowDeratedAdmission then .admitDerated else .deny
    else if derated || ! met || request.asksForMore concurrency permitted || excess then
      .admitDerated
    else .admitted

/-- The decision of a verdict. -/
def verdictDecision (policy : ThermalPolicy) (request : ThermalAdmissionRequest)
    (decision : ThermalDecision) (met : Bool) (concurrency : ℚ) (permitted : ExecutionClass) :
    AdmissionDecision :=
  match workloadExecutionClass policy request.profile with
  | none => .deny
  | some required =>
    match decision with
    | .unknown => .unknown
    | .unsupported => .unsupported
    | .revalidationRequired => .revalidationRequired
    | .deny => .deny
    | .defer => if policy.admission.allowDefer then .defer else .deny
    | .allow => admitDecision policy request required false met concurrency permitted
    | .allowDerated => admitDecision policy request required true met concurrency permitted

section Verdict

variable {policy : ThermalPolicy} {request : ThermalAdmissionRequest}

theorem permittedClass_because (r : ThermalAdmissionResult) (code : ThermalReasonCode) :
    (r.because code).permittedClass = r.permittedClass := rfl

theorem permittedConcurrency_because (r : ThermalAdmissionResult) (code : ThermalReasonCode) :
    (r.because code).permittedConcurrency = r.permittedConcurrency := rfl

/-- A reason added on a condition changes no class. -/
theorem permittedClass_ite (r : ThermalAdmissionResult) (code : ThermalReasonCode) (b : Bool) :
    (if b then r.because code else r).permittedClass = r.permittedClass := by
  cases b <;> rfl

theorem decision_admitWithin (required : ExecutionClass) (e : ThermalEvaluation)
    (r : ThermalAdmissionResult) :
    (admitWithin policy request required e r).decision =
      admitDecision policy request required (decide (e.decision = .allowDerated))
        (e.headroom.meetsDemand r.requiredHeadroom) r.permittedConcurrency r.permittedClass := by
  unfold admitWithin admitDecision ThermalAdmissionRequest.asksForMore
  -- The reasons that are added on the way change nothing that is looked at.
  simp only [permittedClass_ite, permittedClass_because]
  simp only [permittedConcurrency_because, ← Bool.or_assoc]
  split
  · rfl
  split
  · rfl
  · rfl

/-- The second result answers with a decision and reasons, and is else the first one. -/
def Answers (r r' : ThermalAdmissionResult) : Prop :=
  ∃ decision reasons, r' = { r with decision := decision, reasons := reasons }

theorem Answers.refl (r : ThermalAdmissionResult) : Answers r r := ⟨_, _, rfl⟩

theorem Answers.decide {r r' : ThermalAdmissionResult} (h : Answers r r')
    (decision : AdmissionDecision) : Answers r (r'.decide decision) := by
  obtain ⟨_, reasons, rfl⟩ := h
  exact ⟨decision, reasons, rfl⟩

theorem Answers.because {r r' : ThermalAdmissionResult} (h : Answers r r')
    (code : ThermalReasonCode) : Answers r (r'.because code) := by
  obtain ⟨decision, _, rfl⟩ := h
  exact ⟨decision, _, rfl⟩

theorem Answers.ite_cases {r x y : ThermalAdmissionResult} {p : Prop} [Decidable p]
    (hx : Answers r x) (hy : Answers r y) : Answers r (if p then x else y) := by
  split
  · exact hx
  · exact hy

theorem Answers.becauseIf {r r' : ThermalAdmissionResult} (h : Answers r r')
    (code : ThermalReasonCode) (b : Bool) : Answers r (if b then r'.because code else r') :=
  .ite_cases (h.because code) h

theorem answers_admitWithin (required : ExecutionClass) (e : ThermalEvaluation)
    (r : ThermalAdmissionResult) : Answers r (admitWithin policy request required e r) := by
  unfold admitWithin
  simp only [permittedClass_ite, permittedClass_because]
  refine .ite_cases ?_ (.ite_cases ?_ ?_)
  · exact ((Answers.refl r).decide _).because _
  · exact (((((Answers.refl r).because _).becauseIf _ _).becauseIf _ _).decide _).because _
  · obtain ⟨_, reasons, heq⟩ := (((Answers.refl r).because _).becauseIf _ _).becauseIf _ _
    exact ⟨_, _, by rw [heq]; rfl⟩

/-- A verdict reports what the evaluation permits. -/
theorem answers_admissionVerdict (e : ThermalEvaluation) (r : ThermalAdmissionResult) :
    Answers r (admissionVerdict policy request e r) := by
  have hrefl := Answers.refl r
  unfold admissionVerdict
  split
  · exact (hrefl.decide _).because _
  · split
    · exact hrefl.decide _
    · exact hrefl.decide _
    · exact hrefl.decide _
    · exact hrefl.decide _
    · exact (hrefl.decide _).because _
    · exact answers_admitWithin _ e r
    · exact answers_admitWithin _ e r

theorem permittedClass_admissionVerdict (e : ThermalEvaluation) (r : ThermalAdmissionResult) :
    (admissionVerdict policy request e r).permittedClass = r.permittedClass := by
  have hanswers : Answers r (admissionVerdict policy request e r) := answers_admissionVerdict e r
  obtain ⟨_, _, heq⟩ := hanswers
  rw [heq]

/-- **The decision of a verdict reads five values.** -/
theorem decision_admissionVerdict (e : ThermalEvaluation) (r : ThermalAdmissionResult) :
    (admissionVerdict policy request e r).decision =
      verdictDecision policy request e.decision (e.headroom.meetsDemand r.requiredHeadroom)
        r.permittedConcurrency r.permittedClass := by
  unfold admissionVerdict verdictDecision
  cases workloadExecutionClass policy request.profile with
  | none => rfl
  | some required =>
    cases hdecision : e.decision with
    | allow | allowDerated =>
      dsimp only
      rw [decision_admitWithin, hdecision]
      rfl
    | unknown | unsupported | revalidationRequired | deny | defer => rfl

theorem admitHeadroom_of_ne_allow {decision : ThermalDecision} (h : decision ≠ .allow)
    (met : Bool) : (admitHeadroom policy met decision []).1 = decision := by
  unfold admitHeadroom
  cases met with
  | true => rfl
  | false => exact congrArg Prod.fst (if_neg h)

/-- **When the demand of another profile makes no difference to a verdict**: `met'` says whether
that demand is met, `met` whether the demand of the profile asked for is. -/
theorem verdictDecision_eq_iff {base : ThermalDecision} {met' met : Bool} {concurrency : ℚ}
    {permitted : ExecutionClass}
    (hclass : base = .allow → ∀ required, workloadExecutionClass policy request.profile =
      some required → required = permitted) :
    verdictDecision policy request (admitHeadroom policy met' base []).1 met concurrency permitted =
        verdictDecision policy request (admitHeadroom policy met base []).1 met concurrency
          permitted ↔
      workloadExecutionClass policy request.profile = none ∨ base ≠ .allow ∨ met' = true ∨
        met = false ∨ (policy.admission.allowDeratedAdmission = true ∧
          request.asksForMore concurrency permitted = true) := by
  unfold verdictDecision
  cases hlisted : workloadExecutionClass policy request.profile with
  | none => exact iff_of_true rfl (.inl rfl)
  | some required =>
    by_cases hallow : base = .allow
    · obtain rfl := hclass hallow required hlisted
      subst hallow
      cases met' <;> cases met <;> cases hderated : policy.admission.allowDeratedAdmission <;>
        cases hmore : request.asksForMore concurrency required <;>
        simp [admitHeadroom, admitDecision, hderated, hmore]
    · rw [admitHeadroom_of_ne_allow hallow, admitHeadroom_of_ne_allow hallow]
      exact iff_of_true rfl (.inr (.inl hallow))

end Verdict

namespace Governor

/-! ### The evaluation for the profile asked for -/

/-- The evaluation of a domain for a workload profile. -/
def evaluationFor (g : Governor) (definition : ThermalDomainDefinition) (policy : ThermalPolicy)
    (profile : WorkloadThermalProfile) : ThermalEvaluation :=
  let gathered := gatherDomainEvidence definition g.evidence
  g.finishEvaluation policy gathered
    (evaluateThermal ((g.evaluationInput definition policy gathered).forProfile profile))

/-- An answer is the one that the evaluation for the profile asked for calls for. -/
structure AgreesWithEvaluator (g : Governor) (definition : ThermalDomainDefinition)
    (policy : ThermalPolicy) (request : ThermalAdmissionRequest) (r : ThermalAdmissionResult) :
    Prop where
  admits : r.decision = .admitted ∨ r.decision = .admitDerated →
    (g.evaluationFor definition policy request.profile).decision = .allow ∨
      (g.evaluationFor definition policy request.profile).decision = .allowDerated
  decides : r.decision =
    (admissionVerdict policy request (g.evaluationFor definition policy request.profile)
      (g.admissionResult request definition policy
        (g.evaluationFor definition policy request.profile))).decision
  permittedClass : r.permittedClass =
    (g.evaluationFor definition policy request.profile).permittedExecutionClass

/-- Neither the class nor the demand that the policy attaches to the unknown profile makes a
difference to the answer. -/
def AsForUnknown (request : ThermalAdmissionRequest) (input : EvaluationInput)
    (evidence : ThermalEvidence) : Prop :=
  (candidateState input evidence = .critical ∨
    (workloadTerms input.policy .unknownProfile).executionClass =
      (workloadTerms input.policy request.profile).executionClass) ∧
  (workloadExecutionClass input.policy request.profile = none ∨
    passesHealthy input evidence = false ∨
    headroomMet (input.forProfile .unknownProfile) evidence = true ∨
    headroomMet (input.forProfile request.profile) evidence = false ∨
    (input.policy.admission.allowDeratedAdmission = true ∧
      request.asksForMore
        (concurrencyCeiling input.policy.concurrency (candidateState input evidence))
        (workloadTerms input.policy request.profile).executionClass = true))

variable {g : Governor} {request : ThermalAdmissionRequest} {definition : ThermalDomainDefinition}
  {policy : ThermalPolicy} {r : ThermalAdmissionResult}

/-- An answer is the verdict on the evaluation for the unknown profile. -/
theorem evaluateAdmission_eq_ok (hfind : g.domains.find request.domain = some definition)
    (hpolicy : g.policyFor definition = some policy)
    (h : (g.evaluateAdmission request).2 = .ok r) :
    r = admissionVerdict policy request (g.evaluationFor definition policy .unknownProfile)
      (g.admissionResult request definition policy
        (g.evaluationFor definition policy .unknownProfile)) := by
  unfold evaluateAdmission at h
  rw [hfind] at h
  dsimp only at h
  split at h
  · cases h
  · rw [hpolicy] at h
    dsimp only at h
    split at h
    · cases h
    · rw [evaluateLocked, hpolicy] at h
      exact (Except.ok.inj h).symm

/-- Only an evaluation that allows execution is admitted. -/
theorem allows_of_admits {e : ThermalEvaluation} {r : ThermalAdmissionResult}
    (h : (admissionVerdict policy request e r).decision = .admitted ∨
      (admissionVerdict policy request e r).decision = .admitDerated) :
    e.decision = .allow ∨ e.decision = .allowDerated := by
  rw [decision_admissionVerdict] at h
  unfold verdictDecision at h
  cases hlisted : workloadExecutionClass policy request.profile with
  | none =>
    rw [hlisted] at h
    rcases h with h | h <;> cases h
  | some required =>
    rw [hlisted] at h
    cases hdecision : e.decision with
    | allow => exact .inl rfl
    | allowDerated => exact .inr rfl
    | defer =>
      rw [hdecision] at h
      cases hdefer : policy.admission.allowDefer <;> simp [hdefer] at h
    | unknown | unsupported | revalidationRequired | deny =>
      rw [hdecision] at h
      rcases h with h | h <;> cases h

/-- The answer agrees when the class and the decision do. -/
theorem agreesWithEvaluator_iff_decision
    (hr : r = admissionVerdict policy request (g.evaluationFor definition policy .unknownProfile)
      (g.admissionResult request definition policy
        (g.evaluationFor definition policy .unknownProfile))) :
    g.AgreesWithEvaluator definition policy request r ↔
      (g.evaluationFor definition policy .unknownProfile).permittedExecutionClass =
        (g.evaluationFor definition policy request.profile).permittedExecutionClass ∧
      (admissionVerdict policy request (g.evaluationFor definition policy .unknownProfile)
        (g.admissionResult request definition policy
          (g.evaluationFor definition policy .unknownProfile))).decision =
      (admissionVerdict policy request (g.evaluationFor definition policy request.profile)
        (g.admissionResult request definition policy
          (g.evaluationFor definition policy request.profile))).decision := by
  have hclass : r.permittedClass =
      (g.evaluationFor definition policy .unknownProfile).permittedExecutionClass := by
    rw [hr, permittedClass_admissionVerdict]
    rfl
  constructor
  · intro h
    exact ⟨hclass.symm.trans h.permittedClass, hr ▸ h.decides⟩
  · rintro ⟨hsame, hdecision⟩
    have hdecides := (congrArg ThermalAdmissionResult.decision hr).trans hdecision
    exact ⟨fun hadmits => allows_of_admits (hdecides ▸ hadmits), hdecides, hclass.trans hsame⟩

/-- The evaluation of resolved evidence for a profile. -/
theorem evaluationFor_of_resolved {evidence : ThermalEvidence} {input : EvaluationInput}
    (hinput : input = g.evaluationInput definition policy
      (gatherDomainEvidence definition g.evidence))
    (hresolved : resolvedEvidence input = some evidence) (profile : WorkloadThermalProfile) :
    g.evaluationFor definition policy profile =
      g.finishEvaluation policy (gatherDomainEvidence definition g.evidence)
        (evaluateResolved (input.forProfile profile) evidence) := by
  have hresolved' : resolvedEvidence (input.forProfile profile) = some evidence := hresolved
  rw [evaluationFor, ← hinput, evaluateThermal_of_resolved hresolved']

/-- The class that the evaluation for a profile permits. -/
def classFor (input : EvaluationInput) (evidence : ThermalEvidence)
    (profile : WorkloadThermalProfile) : ExecutionClass :=
  if (evaluateResolved input evidence).state = .critical then .bestEffortThermal
  else (workloadTerms input.policy profile).executionClass

/-- The decision of the verdict on the evaluation for a profile. -/
def answerFor (request : ThermalAdmissionRequest) (input : EvaluationInput)
    (evidence : ThermalEvidence) (profile : WorkloadThermalProfile) : AdmissionDecision :=
  verdictDecision input.policy request
    (admitHeadroom input.policy (headroomMet (input.forProfile profile) evidence)
      (decisionForState (evaluateResolved input evidence).state input.policy) []).1
    (headroomMet (input.forProfile request.profile) evidence)
    (concurrencyCeiling input.policy.concurrency (evaluateResolved input evidence).state)
    (classFor input evidence profile)

/-- The verdict on the evaluation of resolved evidence for a profile. -/
theorem decision_of_resolved (input : EvaluationInput) (evidence : ThermalEvidence)
    (profile : WorkloadThermalProfile) (gathered : Option DomainEvidence) :
    (admissionVerdict input.policy request
      (g.finishEvaluation input.policy gathered
        (evaluateResolved (input.forProfile profile) evidence))
      (g.admissionResult request definition input.policy
        (g.finishEvaluation input.policy gathered
          (evaluateResolved (input.forProfile profile) evidence)))).decision =
    answerFor request input evidence profile := by
  have hdecision := congrArg Standing.decision
    (standing_evaluateResolved (input.forProfile profile) evidence)
  have hmet : headroomMet (input.forProfile request.profile) evidence =
      (computeHeadroom (headroomInputFor input evidence)).meetsDemand
        (input.policy.admission.minEffectiveHeadroom +
          workloadHeadroomDemand input.policy request.profile) := by
    rw [← demand_workloadTerms]
    rfl
  rw [decision_admissionVerdict, answerFor, hmet, classFor, ← permittedExecutionClass_forProfile]
  exact congrArg (fun d => verdictDecision input.policy request d _ _ _) hdecision

theorem classFor_eq_iff (input : EvaluationInput) (evidence : ThermalEvidence)
    (profile profile' : WorkloadThermalProfile) :
    classFor input evidence profile = classFor input evidence profile' ↔
      candidateState input evidence = .critical ∨
        (workloadTerms input.policy profile).executionClass =
          (workloadTerms input.policy profile').executionClass := by
  rw [← state_eq_critical_iff, classFor, classFor]
  by_cases hcritical : (evaluateResolved input evidence).state = .critical
  · rw [if_pos hcritical, if_pos hcritical]
    exact iff_of_true rfl (.inl hcritical)
  · rw [if_neg hcritical, if_neg hcritical, or_iff_right hcritical]

/-- The class and the decision agree exactly when the unknown profile makes no difference. -/
theorem asForUnknown_iff (input : EvaluationInput) (evidence : ThermalEvidence) :
    classFor input evidence .unknownProfile = classFor input evidence request.profile ∧
      answerFor request input evidence .unknownProfile =
        answerFor request input evidence request.profile ↔
      AsForUnknown request input evidence := by
  have hallow := decisionForState_eq_allow_iff (evaluateResolved input evidence).state input.policy
  rw [isHealthy_state_eq] at hallow
  unfold AsForUnknown
  rw [← classFor_eq_iff]
  refine and_congr_right fun hsame => ?_
  rw [answerFor, answerFor, hsame]
  cases hpasses : passesHealthy input evidence with
  | false =>
    -- the decision of the state is not `allow`, and no headroom lowers it
    rw [hpasses, Bool.false_eq_true, iff_false] at hallow
    rw [admitHeadroom_of_ne_allow hallow, admitHeadroom_of_ne_allow hallow]
    exact iff_of_true rfl (.inr (.inl rfl))
  | true =>
    have hstate := state_of_passesHealthy input evidence hpasses
    have hhealthy : (candidateState input evidence).isHealthy = true := by
      rw [← hstate, isHealthy_state_eq, hpasses]
    have hcritical : candidateState input evidence ≠ .critical := fun hc => by
      rw [hc] at hhealthy
      cases hhealthy
    rw [hpasses, iff_true_right rfl, hstate] at hallow
    rw [classFor, hstate, if_neg hcritical]
    rw [verdictDecision_eq_iff fun _ required hlisted => by
      unfold workloadTerms
      rw [hlisted]]
    simp only [hallow, ne_eq, not_true_eq_false, false_or, Bool.true_eq_false]

/-- **When admission agrees with the evaluator**: for every state, every request and every
answer given to it, exactly when the hard predicates refuse the evidence or nothing that the
policy attaches to the unknown profile makes a difference. -/
theorem agreesWithEvaluator_iff (hfind : g.domains.find request.domain = some definition)
    (hpolicy : g.policyFor definition = some policy)
    (h : (g.evaluateAdmission request).2 = .ok r) :
    g.AgreesWithEvaluator definition policy request r ↔
      ∀ evidence, resolvedEvidence (g.evaluationInput definition policy
          (gatherDomainEvidence definition g.evidence)) = some evidence →
        AsForUnknown request (g.evaluationInput definition policy
          (gatherDomainEvidence definition g.evidence)) evidence := by
  rw [agreesWithEvaluator_iff_decision (evaluateAdmission_eq_ok hfind hpolicy h)]
  generalize hinput : g.evaluationInput definition policy
    (gatherDomainEvidence definition g.evidence) = input
  cases hresolved : resolvedEvidence input with
  | none =>
    have hsame : g.evaluationFor definition policy .unknownProfile =
        g.evaluationFor definition policy request.profile := by
      rw [evaluationFor, evaluationFor, hinput,
        evaluateThermal_forProfile_of_refused input _ hresolved,
        evaluateThermal_forProfile_of_refused input _ hresolved]
    rw [hsame]
    exact iff_of_true ⟨rfl, rfl⟩ fun evidence hc => by cases hc
  | some evidence =>
    obtain rfl : input.policy = policy := hinput ▸ rfl
    rw [evaluationFor_of_resolved hinput.symm hresolved,
      evaluationFor_of_resolved hinput.symm hresolved, decision_of_resolved, decision_of_resolved]
    have hclass : ∀ profile, (g.finishEvaluation input.policy
        (gatherDomainEvidence definition g.evidence)
        (evaluateResolved (input.forProfile profile) evidence)).permittedExecutionClass =
        classFor input evidence profile :=
      fun profile => permittedExecutionClass_forProfile input evidence profile
    rw [hclass, hclass, asForUnknown_iff]
    exact ⟨fun h other hother => Option.some.inj hother ▸ h, fun h => h evidence rfl⟩

/-! ### Where they part -/

/-- The default policy without derated admission, and with a large demand on work of which
nothing is known. -/
def cautiousPolicy : ThermalPolicy :=
  let base : ThermalPolicy := .makeDefault
  { base with
    generation := 2
    admission := { base.admission with allowDeratedAdmission := false }
    workloadRestrictions := base.workloadRestrictions.map fun r =>
      if r.profile = .unknownProfile then { r with extraHeadroomDemand := 50 } else r }

/-- A request for cool work. -/
def coolRequest : ThermalAdmissionRequest :=
  { domain := 1, profile := .lowThermalIntensity }

/-- The deployment at 40 °C, under the default policy and under the cautious one. -/
def underDefault : Governor := Deployment.after [.publishTemperature (Deployment.reading 40 1 0)]

def underCautious : Governor := Deployment.after
  [.setPolicy cautiousPolicy, .publishTemperature (Deployment.reading 40 1 0)]

/-- A request for work of an unknown profile is answered as the evaluator would. -/
theorem agreesWithEvaluator_unknown : ∃ definition policy r,
    (underDefault.evaluateAdmission { domain := 1 }).2 = .ok r ∧ r.decision = .admitted ∧
      underDefault.AgreesWithEvaluator definition policy { domain := 1 } r := by
  obtain ⟨definition, hfind⟩ := Option.isSome_iff_exists.mp
    (show (underDefault.domains.find 1).isSome = true by decide +kernel)
  obtain ⟨policy, hpolicy⟩ := exists_policyFor (g := underDefault) (Deployment.reachable_after _)
    definition
  obtain ⟨r, hr, hdecision⟩ := exists_of_ok (underDefault.evaluateAdmission { domain := 1 }).2
    (fun r => r.decision = .admitted) (by decide +kernel)
  refine ⟨definition, policy, r, hr, hdecision,
    (agreesWithEvaluator_iff hfind hpolicy hr).mpr fun evidence _ => ⟨.inr rfl, .inr (.inr ?_)⟩⟩
  cases headroomMet (forProfile _ .unknownProfile) evidence with
  | true => exact .inl rfl
  | false => exact .inr (.inl rfl)

/-- Under the cautious policy cool work is denied for the demand of unknown work, although its
own evaluation allows it; under the default policy it is given the class of unknown work. -/
theorem not_agreesWithEvaluator :
    (∃ definition policy r, underCautious.domains.find 1 = some definition ∧
      underCautious.policyFor definition = some policy ∧
      (underCautious.evaluateAdmission coolRequest).2 = .ok r ∧ r.decision = .deny ∧
      (underCautious.evaluationFor definition policy coolRequest.profile).decision = .allow ∧
      ¬ underCautious.AgreesWithEvaluator definition policy coolRequest r) ∧
    ∃ definition policy r, underDefault.domains.find 1 = some definition ∧
      underDefault.policyFor definition = some policy ∧
      (underDefault.evaluateAdmission coolRequest).2 = .ok r ∧
      r.permittedClass = .reducedConcurrency ∧
      (underDefault.evaluationFor definition policy
        coolRequest.profile).permittedExecutionClass = .unrestricted ∧
      ¬ underDefault.AgreesWithEvaluator definition policy coolRequest r := by
  constructor
  · obtain ⟨r, hr, hdecision⟩ := exists_of_ok (underCautious.evaluateAdmission coolRequest).2
      (fun r => r.decision = .deny) (by decide +kernel)
    obtain ⟨definition, hfind, hgoverned⟩ := exists_of_any (underCautious.domains.find 1)
      (fun definition => (underCautious.policyFor definition).any (fun policy => decide
        ((underCautious.evaluationFor definition policy coolRequest.profile).decision = .allow ∧
        (admissionVerdict policy coolRequest
          (underCautious.evaluationFor definition policy coolRequest.profile)
          (underCautious.admissionResult coolRequest definition policy
            (underCautious.evaluationFor definition policy coolRequest.profile))).decision ≠
          .deny)) = true) (by decide +kernel)
    obtain ⟨policy, hpolicy, hallow, hverdict⟩ := exists_of_any _ _ hgoverned
    refine ⟨definition, policy, r, hfind, hpolicy, hr, hdecision, hallow, fun hagrees => ?_⟩
    exact hverdict (hagrees.decides.symm.trans hdecision)
  · obtain ⟨r, hr, hclass⟩ := exists_of_ok (underDefault.evaluateAdmission coolRequest).2
      (fun r => r.permittedClass = .reducedConcurrency) (by decide +kernel)
    obtain ⟨definition, hfind, hgoverned⟩ := exists_of_any (underDefault.domains.find 1)
      (fun definition => (underDefault.policyFor definition).any (fun policy => decide
        ((underDefault.evaluationFor definition policy
          coolRequest.profile).permittedExecutionClass = .unrestricted)) = true)
      (by decide +kernel)
    obtain ⟨policy, hpolicy, hunrestricted⟩ := exists_of_any _ _ hgoverned
    refine ⟨definition, policy, r, hfind, hpolicy, hr, hclass, hunrestricted, fun hagrees => ?_⟩
    have hsame := hagrees.permittedClass
    rw [hclass, hunrestricted] at hsame
    cases hsame

end Governor

end ThermalGovernor
