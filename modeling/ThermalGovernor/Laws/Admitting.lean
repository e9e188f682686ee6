import ThermalGovernor.Laws.Admission

/-!
# What an admission rests on

A request that is admitted has passed every guard on the way: the fences, the decision of the
evaluation made for it, the profile, the demand, the concurrency (`admissionSound_of_admitted`).

A policy can forbid derated admission.  The switch is asked where the headroom falls short and
where a required class meets best effort; it is not asked where the state derates, the
concurrency is above its ceiling, the class asked for is above best effort, or the required
class is another than the permitted one.  `neverDerated_iff` says which answers are affected.
-/

namespace ThermalGovernor

open EvaluationInput

/-! ### The two admitting answers -/

section Verdict

variable {policy : ThermalPolicy} {request : ThermalAdmissionRequest} {concurrency : ℚ}
  {required permitted : ExecutionClass} {derated met : Bool}

/-- The policy requires a class that the evaluation does not permit. -/
def exceeds (required permitted : ExecutionClass) : Prop :=
  required ≠ .unrestricted ∧ required ≠ permitted

theorem exceeds_iff :
    (required ≠ .unrestricted && required ≠ permitted) = true ↔ exceeds required permitted := by
  rw [Bool.and_eq_true, decide_eq_true_iff, decide_eq_true_iff]
  rfl

/-- The request asks for more than is permitted, or the policy requires another class. -/
def Derates (request : ThermalAdmissionRequest) (required : ExecutionClass) (concurrency : ℚ)
    (permitted : ExecutionClass) : Prop :=
  (∃ c ∈ request.requestedConcurrency, concurrency < c) ∨
  (request.requestedClass ≠ .unrestricted ∧ request.requestedClass ≠ .bestEffortThermal ∧
    permitted = .bestEffortThermal) ∨
  exceeds required permitted

theorem asksForMore_iff :
    request.asksForMore concurrency permitted = true ↔
      (∃ c ∈ request.requestedConcurrency, concurrency < c) ∨
      (request.requestedClass ≠ .unrestricted ∧ request.requestedClass ≠ .bestEffortThermal ∧
        permitted = .bestEffortThermal) := by
  unfold ThermalAdmissionRequest.asksForMore
  rw [Bool.or_eq_true, Option.any_eq_true]
  refine or_congr (exists_congr fun c => and_congr Iff.rfl decide_eq_true_iff) ?_
  simp only [Bool.and_eq_true, decide_eq_true_eq]
  tauto

theorem derates_iff :
    Derates request required concurrency permitted ↔
      request.asksForMore concurrency permitted = true ∨ exceeds required permitted := by
  rw [asksForMore_iff, or_assoc]
  rfl

theorem admitDecision_eq_admitted :
    admitDecision policy request required derated met concurrency permitted = .admitted ↔
      derated = false ∧ met = true ∧ ¬ Derates request required concurrency permitted := by
  rw [derates_iff, ← exceeds_iff, admitDecision]
  generalize policy.admission.allowDeratedAdmission = switch
  generalize request.asksForMore concurrency permitted = more
  generalize (required ≠ .unrestricted && required ≠ permitted) = excess
  generalize decide (permitted = .bestEffortThermal) = best
  revert derated met switch more excess best
  decide

/-- **What is still admitted as derated when the switch is off.** -/
theorem admitDecision_eq_admitDerated (hswitch : policy.admission.allowDeratedAdmission = false) :
    admitDecision policy request required derated met concurrency permitted = .admitDerated ↔
      met = true ∧ ¬ (exceeds required permitted ∧ permitted = .bestEffortThermal) ∧
        (derated = true ∨ Derates request required concurrency permitted) := by
  rw [derates_iff, ← exceeds_iff, admitDecision, hswitch]
  generalize request.asksForMore concurrency permitted = more
  generalize (required ≠ .unrestricted && required ≠ permitted) = excess
  generalize hbest : decide (permitted = .bestEffortThermal) = best
  have hpermitted : permitted = .bestEffortThermal ↔ best = true := by
    rw [← hbest, decide_eq_true_iff]
  rw [hpermitted]
  clear hbest hpermitted
  revert derated met more excess best
  decide

/-- **An admission passes every guard.** -/
theorem verdictDecision_eq_admitted {decision : ThermalDecision} :
    verdictDecision policy request decision met concurrency permitted = .admitted ↔
      decision = .allow ∧ met = true ∧
        ∃ required, workloadExecutionClass policy request.profile = some required ∧
          ¬ Derates request required concurrency permitted := by
  unfold verdictDecision
  cases hlisted : workloadExecutionClass policy request.profile with
  | none => simp
  | some required =>
    cases decision with
    | allow => simp [admitDecision_eq_admitted]
    | allowDerated => simp [admitDecision_eq_admitted]
    | defer => cases policy.admission.allowDefer <;> simp
    | unknown | unsupported | revalidationRequired | deny => simp

/-- **A derated admission with the switch off.** -/
theorem verdictDecision_eq_admitDerated {decision : ThermalDecision}
    (hswitch : policy.admission.allowDeratedAdmission = false) :
    verdictDecision policy request decision met concurrency permitted = .admitDerated ↔
      met = true ∧ ∃ required, workloadExecutionClass policy request.profile = some required ∧
        ¬ (exceeds required permitted ∧ permitted = .bestEffortThermal) ∧
        (decision = .allowDerated ∨
          (decision = .allow ∧ Derates request required concurrency permitted)) := by
  unfold verdictDecision
  cases hlisted : workloadExecutionClass policy request.profile with
  | none => simp
  | some required =>
    cases decision with
    | allow => simp [admitDecision_eq_admitDerated hswitch]
    | allowDerated => simp [admitDecision_eq_admitDerated hswitch]
    | defer => cases policy.admission.allowDefer <;> simp
    | unknown | unsupported | revalidationRequired | deny => simp

end Verdict

theorem admitHeadroom_eq_allowDerated {policy : ThermalPolicy}
    (hswitch : policy.admission.allowDeratedAdmission = false) {met : Bool}
    {decision : ThermalDecision} {reasons : ReasonCodeSet} :
    (admitHeadroom policy met decision reasons).1 = .allowDerated ↔ decision = .allowDerated := by
  unfold admitHeadroom
  cases met with
  | true => exact Iff.rfl
  | false =>
    dsimp only
    by_cases hallow : decision = .allow
    · rw [hallow, hswitch]
      exact iff_of_false (fun h => by cases h) fun h => by cases h
    · rw [if_neg Bool.false_ne_true, if_neg hallow]

/-- Without derated admission the headroom derates no evaluation, and only the state does. -/
theorem decision_eq_allowDerated_iff {input : EvaluationInput}
    (hswitch : input.policy.admission.allowDeratedAdmission = false) :
    (evaluateThermal input).decision = .allowDerated ↔
      decisionForState (evaluateThermal input).state input.policy = .allowDerated := by
  rcases evaluateThermal_cases input with ⟨evidence, -, heq⟩ | ⟨-, hrefuses⟩
  · rw [heq]
    exact admitHeadroom_eq_allowDerated hswitch
  · rw [hrefuses.decision]

namespace Governor

variable {g : Governor} {request : ThermalAdmissionRequest} {definition : ThermalDomainDefinition}
  {policy : ThermalPolicy} {r : ThermalAdmissionResult}

/-- The domain a request names, its policy, and the expectations that are fenced. -/
structure Fenced (g : Governor) (request : ThermalAdmissionRequest)
    (definition : ThermalDomainDefinition) (policy : ThermalPolicy) : Prop where
  registered : g.domains.find request.domain = some definition
  governed : g.policyFor definition = some policy
  domainGeneration : isValid request.expectedDomainGeneration = true →
    request.expectedDomainGeneration = definition.generation
  epoch : ∀ epoch ∈ request.expectedCoordinatorEpoch, epoch = g.epoch
  policyGeneration : ∀ generation ∈ request.expectedPolicyGeneration,
    generation = policy.generation

/-- A request that is answered has passed the fences. -/
theorem fenced_of_ok (h : (g.evaluateAdmission request).2 = .ok r) :
    ∃ definition policy, g.Fenced request definition policy := by
  unfold evaluateAdmission at h
  split at h
  · cases h
  rename_i definition hfind
  split at h
  · cases h
  rename_i hchecks
  split at h
  · cases h
  rename_i policy hpolicy
  split at h
  · cases h
  rename_i hpolicyCheck
  have hholds := runChecks_eq_ok.mp hchecks
  have hgeneration := hholds _ List.mem_cons_self
  have hepoch := hholds _ (List.mem_cons_of_mem _ List.mem_cons_self)
  have hpolicyHolds := runChecks_eq_ok.mp hpolicyCheck _ List.mem_cons_self
  refine ⟨definition, policy, hfind, hpolicy, fun hvalid => ?_, fun epoch hexpected => ?_,
    fun generation hexpected => ?_⟩
  · rw [hvalid] at hgeneration
    simpa using hgeneration
  · rw [Option.mem_def.mp hexpected] at hepoch
    simpa using hepoch
  · unfold admissionPolicyCheck at hpolicyHolds
    rw [Option.mem_def.mp hexpected] at hpolicyHolds
    simpa using hpolicyHolds

/-! ### Soundness -/

/-- What holds when a request is admitted: of its expectations, of the evaluation made for it,
and of the answer. -/
structure AdmissionSound (g : Governor) (request : ThermalAdmissionRequest)
    (definition : ThermalDomainDefinition) (policy : ThermalPolicy)
    (r : ThermalAdmissionResult) : Prop extends g.Fenced request definition policy where
  allow : (g.evaluation definition policy).2.decision = .allow
  healthy : (g.evaluation definition policy).2.state.isHealthy = true
  fresh : ∃ gathered, gatherDomainEvidence definition g.evidence = some gathered ∧
    g.classifyFreshness policy gathered.evidence = .fresh
  listed : ∃ restriction, policy.workloadRestrictions.find?
    (fun restriction => restriction.profile = request.profile) = some restriction ∧
      restriction.allowed = true
  headroom : policy.admission.minEffectiveHeadroom +
      workloadHeadroomDemand policy request.profile ≤
    (g.evaluation definition policy).2.headroom.effectiveHeadroom
  concurrency : ∀ c ∈ request.requestedConcurrency, c ≤ r.permittedConcurrency
  permitted : r.permittedConcurrency = (g.evaluation definition policy).2.permittedConcurrency

/-- **Admission is sound.** -/
theorem admissionSound_of_admitted (h : (g.evaluateAdmission request).2 = .ok r)
    (hadmitted : r.decision = .admitted) :
    ∃ definition policy, g.AdmissionSound request definition policy r := by
  obtain ⟨definition, policy, hfenced⟩ := fenced_of_ok h
  have hr := evaluateAdmission_eq_ok hfenced.registered hfenced.governed h
  rw [hr, decision_admissionVerdict, verdictDecision_eq_admitted] at hadmitted
  obtain ⟨hallow, hmet, required, hlisted, hwithin⟩ := hadmitted
  obtain ⟨evidence, hjustified⟩ := allowJustified_of_allow
    (g.evaluation definition policy).1 hallow
  have hpermitted : r.permittedConcurrency =
      (g.evaluation definition policy).2.permittedConcurrency := by
    let given := g.admissionResult request definition policy
      (g.evaluationFor definition policy .unknownProfile)
    have hanswers : Answers given r := hr ▸ answers_admissionVerdict _ given
    obtain ⟨_, _, heq⟩ := hanswers
    rw [heq]
    rfl
  refine ⟨definition, policy, { hfenced with
    allow := hallow
    healthy := ?_
    fresh := ?_
    listed := ?_
    headroom := of_decide_eq_true hmet
    concurrency := fun c hc => ?_
    permitted := hpermitted }⟩
  · rcases hjustified.healthy with h | h | h <;> exact congrArg ThermalState.isHealthy h
  · have hfresh := hjustified.fresh
    have hpresent : (gatherDomainEvidence definition g.evidence).map DomainEvidence.evidence =
        some evidence := hjustified.present
    obtain ⟨gathered, hgathered, rfl⟩ := Option.map_eq_some_iff.mp hpresent
    refine ⟨gathered, hgathered, ?_⟩
    simp only [evaluation, evaluationInput, hgathered] at hfresh
    exact hfresh
  · unfold workloadExecutionClass at hlisted
    split at hlisted
    · rename_i restriction hfind
      split at hlisted
      · rename_i hallowed
        exact ⟨restriction, hfind, hallowed⟩
      · cases hlisted
    · cases hlisted
  · rw [hpermitted]
    exact not_lt.mp fun hlt => hwithin (.inl ⟨c, hc, hlt⟩)

/-- A request with every expectation filled in. -/
def expectingRequest : ThermalAdmissionRequest :=
  { domain := 1
    expectedDomainGeneration := 1
    requestedConcurrency := some 80
    expectedPolicyGeneration := some 1
    expectedCoordinatorEpoch := some 1 }

/-- A cool domain admits it. -/
theorem admissionSound_expecting : ∃ definition policy r,
    underDefault.AdmissionSound expectingRequest definition policy r := by
  obtain ⟨r, hr, hadmitted⟩ := exists_of_ok (underDefault.evaluateAdmission expectingRequest).2
    (fun r => r.decision = .admitted) (by decide +kernel)
  obtain ⟨definition, policy, hsound⟩ := admissionSound_of_admitted hr hadmitted
  exact ⟨definition, policy, r, hsound⟩

/-! ### Derated admission -/

/-- What would derate the admission of a request that is not refused is not there: neither the
state that decides so, nor more asked for or required than is permitted. -/
def LeavesNothingDerated (policy : ThermalPolicy) (request : ThermalAdmissionRequest)
    (e : ThermalEvaluation) : Prop :=
  ∀ required, workloadExecutionClass policy request.profile = some required →
    e.headroom.meetsDemand (policy.admission.minEffectiveHeadroom +
      workloadHeadroomDemand policy request.profile) = true →
    ¬ (exceeds required e.permittedExecutionClass ∧
      e.permittedExecutionClass = .bestEffortThermal) →
    decisionForState e.state policy ≠ .allowDerated ∧
      (e.decision = .allow →
        ¬ Derates request required e.permittedConcurrency e.permittedExecutionClass)

/-- **When a policy that forbids derated admission is obeyed.** -/
theorem neverDerated_iff (hfind : g.domains.find request.domain = some definition)
    (hpolicy : g.policyFor definition = some policy)
    (hswitch : policy.admission.allowDeratedAdmission = false)
    (h : (g.evaluateAdmission request).2 = .ok r) :
    r.decision ≠ .admitDerated ↔
      LeavesNothingDerated policy request (g.evaluation definition policy).2 := by
  have hstate : (g.evaluation definition policy).2.decision = .allowDerated ↔
      decisionForState (g.evaluation definition policy).2.state policy = .allowDerated :=
    @decision_eq_allowDerated_iff (g.evaluation definition policy).1 hswitch
  have hderated : r.decision = .admitDerated ↔
      (g.evaluation definition policy).2.headroom.meetsDemand
        (policy.admission.minEffectiveHeadroom +
          workloadHeadroomDemand policy request.profile) = true ∧
      ∃ required, workloadExecutionClass policy request.profile = some required ∧
        ¬ (exceeds required (g.evaluation definition policy).2.permittedExecutionClass ∧
          (g.evaluation definition policy).2.permittedExecutionClass = .bestEffortThermal) ∧
        ((g.evaluation definition policy).2.decision = .allowDerated ∨
          ((g.evaluation definition policy).2.decision = .allow ∧
            Derates request required (g.evaluation definition policy).2.permittedConcurrency
              (g.evaluation definition policy).2.permittedExecutionClass)) := by
    rw [evaluateAdmission_eq_ok hfind hpolicy h, decision_admissionVerdict]
    exact verdictDecision_eq_admitDerated hswitch
  rw [ne_eq, hderated, hstate]
  generalize (g.evaluation definition policy).2 = e
  constructor
  · intro hnot required hlisted hmet hclass
    refine ⟨fun hstate => hnot ⟨hmet, required, hlisted, hclass, .inl hstate⟩,
      fun hallow hderates => hnot ⟨hmet, required, hlisted, hclass, .inr ⟨hallow, hderates⟩⟩⟩
  · rintro hleaves ⟨hmet, required, hlisted, hclass, hderates⟩
    obtain ⟨hstate, hasks⟩ := hleaves required hlisted hmet hclass
    rcases hderates with hderated | ⟨hallow, hmore⟩
    · exact hstate hderated
    · exact hasks hallow hmore

/-- The default policy without derated admission. -/
def strictPolicy : ThermalPolicy :=
  let base : ThermalPolicy := .makeDefault
  { base with
    generation := 2
    admission := { base.admission with allowDeratedAdmission := false } }

/-- The deployment under the strict policy, at the given temperature. -/
def underStrict (temperature : DegreesCelsius) : Governor := Deployment.after
  [.setPolicy strictPolicy, .publishTemperature (Deployment.reading temperature 1 0)]

/-- A cool request under the strict policy is admitted outright. -/
theorem neverDerated_strict : ∃ definition policy r,
    ((underStrict 40).evaluateAdmission coolRequest).2 = .ok r ∧ r.decision = .admitted ∧
      (r.decision ≠ .admitDerated ↔ LeavesNothingDerated policy coolRequest
        ((underStrict 40).evaluation definition policy).2) := by
  obtain ⟨definition, hfind, hgoverned⟩ := exists_of_any ((underStrict 40).domains.find 1)
    (fun definition => ((underStrict 40).policyFor definition).any (fun policy =>
      decide (policy.admission.allowDeratedAdmission = false)) = true) (by decide +kernel)
  obtain ⟨policy, hpolicy, hswitch⟩ := exists_of_any _ _ hgoverned
  obtain ⟨r, hr, hadmitted⟩ := exists_of_ok ((underStrict 40).evaluateAdmission coolRequest).2
    (fun r => r.decision = .admitted) (by decide +kernel)
  exact ⟨definition, policy, r, hr, hadmitted, neverDerated_iff hfind hpolicy hswitch hr⟩

/-- A derated domain admits the same request as derated although the policy forbids it. -/
theorem not_neverDerated :
    ¬ ∀ (g : Governor) (request : ThermalAdmissionRequest) (definition policy r), g.Reachable →
      g.domains.find request.domain = some definition →
      g.policyFor definition = some policy →
      policy.admission.allowDeratedAdmission = false →
      (g.evaluateAdmission request).2 = .ok r → r.decision ≠ .admitDerated := by
  intro hnever
  obtain ⟨definition, hfind, hgoverned⟩ := exists_of_any ((underStrict 81).domains.find 1)
    (fun definition => ((underStrict 81).policyFor definition).any (fun policy =>
      decide (policy.admission.allowDeratedAdmission = false)) = true) (by decide +kernel)
  obtain ⟨policy, hpolicy, hswitch⟩ := exists_of_any _ _ hgoverned
  obtain ⟨r, hr, hderated⟩ := exists_of_ok ((underStrict 81).evaluateAdmission coolRequest).2
    (fun r => r.decision = .admitDerated) (by decide +kernel)
  exact hnever _ coolRequest definition policy r (Deployment.reachable_after _) hfind hpolicy
    hswitch hr hderated

end Governor

end ThermalGovernor
