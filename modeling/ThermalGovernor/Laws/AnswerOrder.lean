import ThermalGovernor.Laws.LateCodes

/-!
# The order of the reasons of an answer

An answer to a request for admission adds reasons to those of the evaluation it rests on, and
only its last exit canonicalises.  On the other exits the answer is in order when every code
that is added is there already or is above all that are (`ordered_add_iff`).  `KeepsOrder` says
of an input and a request when the exit that is taken adds its codes in order.
-/

namespace ThermalGovernor

open ReasonCodeSet

/-! ### The reasons of a verdict -/

/-- The class asked for is above best effort, and no more is permitted. -/
def ThermalAdmissionRequest.downgraded (request : ThermalAdmissionRequest)
    (permitted : ExecutionClass) : Bool :=
  request.requestedClass ≠ .unrestricted && permitted = .bestEffortThermal &&
    request.requestedClass ≠ .bestEffortThermal

/-- More concurrency is asked for than is permitted. -/
def ThermalAdmissionRequest.crowded (request : ThermalAdmissionRequest) (concurrency : ℚ) : Bool :=
  request.requestedConcurrency.any fun c => concurrency < c

/-- The policy demands a class of the profile that best effort does not give. -/
def exceedsBestEffort (required permitted : ExecutionClass) : Bool :=
  (required ≠ .unrestricted && required ≠ permitted) && permitted = .bestEffortThermal

/-- The reasons given where execution is allowed. -/
def admitReasons (policy : ThermalPolicy) (request : ThermalAdmissionRequest)
    (required : ExecutionClass) (met : Bool) (concurrency : ℚ) (permitted : ExecutionClass)
    (reasons : ReasonCodeSet) : ReasonCodeSet :=
  if ! met && ! policy.admission.allowDeratedAdmission then
    reasons.add .deratedAdmissionForbidden
  else
    let told := ((reasons.add
      (if ! met then .deratedAdmissionAllowed else .effectiveHeadroomSufficient)).addIf
      (request.crowded concurrency) .concurrencyCeilingApplied).addIf
      (request.downgraded permitted) .workloadRequiresDerating
    if exceedsBestEffort required permitted then told.add .workloadRequiresDerating
    else told.canonicalise

/-- The reasons of a verdict. -/
def verdictReasons (policy : ThermalPolicy) (request : ThermalAdmissionRequest)
    (decision : ThermalDecision) (met : Bool) (concurrency : ℚ) (permitted : ExecutionClass)
    (reasons : ReasonCodeSet) : ReasonCodeSet :=
  match workloadExecutionClass policy request.profile with
  | none => reasons.add .workloadProfileExcluded
  | some required =>
    match decision with
    | .unknown | .unsupported | .revalidationRequired | .deny => reasons
    | .defer => reasons.add .admissionDeferredByPolicy
    | .allow | .allowDerated =>
      admitReasons policy request required met concurrency permitted reasons

section Verdict

variable {policy : ThermalPolicy} {request : ThermalAdmissionRequest}

/-- A reason added on a condition is all that is changed. -/
theorem ite_because (r : ThermalAdmissionResult) (b : Bool) (code : ThermalReasonCode) :
    (if b then r.because code else r) = { r with reasons := r.reasons.addIf b code } := by
  cases b <;> rfl

theorem reasons_admitWithin (required : ExecutionClass) (e : ThermalEvaluation)
    (r : ThermalAdmissionResult) :
    (admitWithin policy request required e r).reasons =
      admitReasons policy request required (e.headroom.meetsDemand r.requiredHeadroom)
        r.permittedConcurrency r.permittedClass r.reasons := by
  unfold admitWithin admitReasons
  simp only [ite_because]
  generalize e.headroom.meetsDemand r.requiredHeadroom = met
  by_cases hforbidden : (! met && ! policy.admission.allowDeratedAdmission) = true
  · rw [if_pos hforbidden, if_pos hforbidden]
    rfl
  rw [if_neg hforbidden, if_neg hforbidden]
  by_cases hexceeds : exceedsBestEffort required r.permittedClass = true
  · refine (congrArg ThermalAdmissionResult.reasons (if_pos hexceeds)).trans ?_
    exact (if_pos hexceeds).symm
  · refine (congrArg ThermalAdmissionResult.reasons (if_neg hexceeds)).trans ?_
    exact (if_neg hexceeds).symm

/-- **The reasons of a verdict read six values.** -/
theorem reasons_admissionVerdict (e : ThermalEvaluation) (r : ThermalAdmissionResult) :
    (admissionVerdict policy request e r).reasons =
      verdictReasons policy request e.decision (e.headroom.meetsDemand r.requiredHeadroom)
        r.permittedConcurrency r.permittedClass r.reasons := by
  unfold admissionVerdict verdictReasons
  cases workloadExecutionClass policy request.profile with
  | none => rfl
  | some required =>
    cases e.decision with
    | allow | allowDerated => exact reasons_admitWithin required e r
    | unknown | unsupported | revalidationRequired | deny | defer => rfl

end Verdict

/-! ### When a verdict keeps the order -/

section KeepsOrder

variable (request : ThermalAdmissionRequest) (input : EvaluationInput) (evidence : ThermalEvidence)

/-- Neither the gate nor the derating kept shows what was before. -/
def PastUnmarked : Prop := gateCode input evidence = .none ∧ deratingKept input evidence = false

/-- No code above those of the admission predicate is given. -/
def Unmarked : Prop := concurrencyCut input evidence = false ∧ PastUnmarked input evidence

/-- What is permitted by the evaluation for the unknown profile. -/
def permittedOf : ExecutionClass :=
  if nextStateOf input evidence = .critical then .bestEffortThermal
  else (workloadTerms input.policy .unknownProfile).executionClass

/-- What that evaluation decides. -/
def decidedOf : ThermalDecision :=
  (admitHeadroom input.policy (headroomMet input evidence)
    (decisionForState (nextStateOf input evidence) input.policy) []).1

/-- The exit at best effort adds what the headroom, the concurrency and the class asked for call
for, one code after the other. -/
structure BestEffortKeepsOrder (met crowded : Bool) : Prop where
  sufficient : met = true → sufficiencyTold input evidence = true
  derated : met = false → admissionCode input evidence = .deratedAdmissionAllowed ∨
    Unmarked input evidence
  concurrency : crowded = true →
    concurrencyCut input evidence = true ∨ PastUnmarked input evidence
  demanding : 0 < workloadHeadroomDemand input.policy .unknownProfile ∨
    (workloadExecutionClass input.policy .unknownProfile = none ∧
      nextStateOf input evidence ≠ .critical ∧ admissionCode input evidence = .none ∧
      Unmarked input evidence ∧ met = true ∧ crowded = false)

/-- The exit that an answer takes adds its codes in order. -/
def KeepsOrder : Prop :=
  match resolvedEvidence input, workloadExecutionClass input.policy request.profile with
  | none, none => True
  | none, some required =>
    -- refused evidence is admitted only as the policy says of the unknown
    input.temperatureCapability = .unknown → input.policy.unknownBehavior = .allowDerated →
      exceedsBestEffort required .bestEffortThermal = true →
      (input.policy.admission.minEffectiveHeadroom +
          workloadHeadroomDemand input.policy request.profile ≤ 0 ∧
        request.crowded (concurrencyCeiling input.policy.concurrency .unknown) = false) ∨
      (0 < input.policy.admission.minEffectiveHeadroom +
          workloadHeadroomDemand input.policy request.profile ∧
        input.policy.admission.allowDeratedAdmission = false)
  | some _, none => workloadExecutionClass input.policy .unknownProfile = none
  | some evidence, some required =>
    let met := headroomMet (input.forProfile request.profile) evidence
    match decidedOf input evidence with
    | .defer => Unmarked input evidence
    | .allow | .allowDerated =>
      if ! met && ! input.policy.admission.allowDeratedAdmission then Unmarked input evidence
      else if exceedsBestEffort required (permittedOf input evidence) then
        BestEffortKeepsOrder input evidence met
          (request.crowded (concurrencyCeiling input.policy.concurrency
            (nextStateOf input evidence)))
      else True
    | .unknown | .unsupported | .revalidationRequired | .deny => True

variable {request input evidence}

/-! The late codes, one by one. -/

theorem decisionReason_cases (state : ThermalState) (policy : ThermalPolicy) :
    (state = .critical ∧ decisionReason state policy ∈
      [ThermalReasonCode.emergencyContainmentRequired, .emergencyExecutionDenied]) ∨
    (state ≠ .critical ∧ decisionReason state policy ∈
      [ThermalReasonCode.none, .policyUnknownBehaviorApplied,
        .policyUnsupportedBehaviorApplied]) := by
  unfold decisionReason
  cases state <;> cases policy.emergency.denyAllExecution <;> simp

theorem gateCode_cases : gateCode input evidence ∈
    [ThermalReasonCode.none, .authorityRevalidated, .stateRetainedByHysteresis] := by
  unfold gateCode
  split_ifs <;> simp

theorem admissionCode_cases : admissionCode input evidence ∈
    [ThermalReasonCode.none, .deratedAdmissionAllowed, .deratedAdmissionForbidden] := by
  unfold admissionCode
  split_ifs <;> simp

/-- Which codes that an answer may add are among the late ones. -/
theorem mem_lateCodes_iff {c : ThermalReasonCode} (hc : c ∉ [ThermalReasonCode.none,
      .policyUnknownBehaviorApplied, .policyUnsupportedBehaviorApplied, .workloadProfileUnknown,
      .emergencyContainmentRequired, .emergencyExecutionDenied, .authorityRevalidated,
      .stateRetainedByHysteresis, .deratingCannotExpand]) :
    c ∈ lateCodes input evidence ↔
      (workloadExecutionClass input.policy .unknownProfile = none ∧
        c = .workloadProfileExcluded) ∨
      (0 < workloadHeadroomDemand input.policy .unknownProfile ∧ c = .workloadRequiresDerating) ∨
      admissionCode input evidence = c ∨
      (concurrencyCut input evidence = true ∧ c = .concurrencyCeilingApplied) := by
  simp only [List.mem_cons, List.not_mem_nil, or_false, not_or] at hc
  obtain ⟨hnone, hunknown, hunsupported, hprofile, hcontain, hdeny, hrevalidated, hretained,
    hexpand⟩ := hc
  have hdecision : c ≠ decisionReason (nextStateOf input evidence) input.policy := by
    rintro rfl
    rcases decisionReason_cases (nextStateOf input evidence) input.policy with ⟨-, h⟩ | ⟨-, h⟩ <;>
      simp only [List.mem_cons, List.not_mem_nil, or_false] at h <;> tauto
  have hgate : c ≠ gateCode input evidence := by
    rintro rfl
    have h : gateCode input evidence ∈ _ := gateCode_cases
    simp only [List.mem_cons, List.not_mem_nil, or_false] at h
    tauto
  have hite : ∀ (p : Prop) [Decidable p] (code : ThermalReasonCode),
      (c = if p then code else .none) ↔ p ∧ c = code := by
    intro p _ code
    by_cases hp : p <;> simp [hp, hnone]
  have hlisted : (c = if (workloadExecutionClass input.policy .unknownProfile).isSome then
      .workloadProfileUnknown else .workloadProfileExcluded) ↔
      workloadExecutionClass input.policy .unknownProfile = none ∧
        c = .workloadProfileExcluded := by
    cases workloadExecutionClass input.policy .unknownProfile <;> simp [hprofile]
  unfold lateCodes
  simp only [List.mem_cons, List.not_mem_nil, or_false, hite, hlisted, hdecision, hgate, hexpand,
    and_false, false_or, eq_comm (a := c) (b := admissionCode input evidence)]

/-- Below a bound among the codes of admission. -/
theorem below_lateCodes_iff {bound : Nat} (hlow : 82 ≤ bound) (hhigh : bound ≤ 93) :
    Below bound (lateCodes input evidence) ↔
      (admissionCode input evidence).value < bound ∧ Unmarked input evidence := by
  have hworkload : (if (workloadExecutionClass input.policy .unknownProfile).isSome then
      ThermalReasonCode.workloadProfileUnknown else .workloadProfileExcluded).value < bound := by
    split <;> exact lt_of_lt_of_le (by decide) hlow
  have hdemand : (if 0 < workloadHeadroomDemand input.policy .unknownProfile then
      ThermalReasonCode.workloadRequiresDerating else .none).value < bound := by
    split <;> exact lt_of_lt_of_le (by decide) hlow
  have hdecision : (decisionReason (nextStateOf input evidence) input.policy).value < bound := by
    refine lt_of_lt_of_le ?_ hlow
    rcases decisionReason_cases (nextStateOf input evidence) input.policy with ⟨-, h⟩ | ⟨-, h⟩ <;>
      revert h <;> generalize decisionReason _ _ = code <;> cases code <;> decide
  have hcut : (if concurrencyCut input evidence then
      ThermalReasonCode.concurrencyCeilingApplied else .none).value < bound ↔
      concurrencyCut input evidence = false := by
    cases concurrencyCut input evidence
    · exact iff_of_true (lt_of_lt_of_le (by decide) hlow) rfl
    · exact iff_of_false (Nat.not_lt.mpr hhigh) Bool.noConfusion
  have hgate : (gateCode input evidence).value < bound ↔ gateCode input evidence = .none := by
    have h : gateCode input evidence ∈ _ := gateCode_cases
    simp only [List.mem_cons, List.not_mem_nil, or_false] at h
    rcases h with h | h | h <;> rw [h]
    · exact iff_of_true (lt_of_lt_of_le (by decide) hlow) rfl
    · exact iff_of_false (Nat.not_lt.mpr (hhigh.trans (by decide))) (by decide)
    · exact iff_of_false (Nat.not_lt.mpr (hhigh.trans (by decide))) (by decide)
  have hkept : (if deratingKept input evidence then
      ThermalReasonCode.deratingCannotExpand else .none).value < bound ↔
      deratingKept input evidence = false := by
    cases deratingKept input evidence
    · exact iff_of_true (lt_of_lt_of_le (by decide) hlow) rfl
    · exact iff_of_false (Nat.not_lt.mpr (hhigh.trans (by decide))) Bool.noConfusion
  unfold Below lateCodes Unmarked PastUnmarked
  simp only [List.forall_mem_cons, List.not_mem_nil, false_imp_iff, implies_true, and_true,
    hworkload, hdemand, hdecision, hcut, hgate, hkept, true_and]

/-- Below the code of a workload that is derated. -/
theorem below_lateCodes_workload : Below 71 (lateCodes input evidence) ↔
    workloadExecutionClass input.policy .unknownProfile = none ∧
    ¬ 0 < workloadHeadroomDemand input.policy .unknownProfile ∧
    nextStateOf input evidence ≠ .critical ∧ admissionCode input evidence = .none ∧
    Unmarked input evidence := by
  have hworkload : (if (workloadExecutionClass input.policy .unknownProfile).isSome then
      ThermalReasonCode.workloadProfileUnknown else .workloadProfileExcluded).value < 71 ↔
      workloadExecutionClass input.policy .unknownProfile = none := by
    cases workloadExecutionClass input.policy .unknownProfile <;> simp [ThermalReasonCode.value]
  have hite : ∀ (p : Prop) [Decidable p] {code : ThermalReasonCode}, 71 ≤ code.value →
      ((if p then code else .none).value < 71 ↔ ¬ p) := by
    intro p _ code hcode
    by_cases hp : p
    · simp only [hp, if_true, not_true, iff_false, not_lt]
      exact hcode
    · rw [if_neg hp]
      exact iff_of_true (by decide) hp
  have hdecision : (decisionReason (nextStateOf input evidence) input.policy).value < 71 ↔
      nextStateOf input evidence ≠ .critical := by
    rcases decisionReason_cases (nextStateOf input evidence) input.policy with
      ⟨hcritical, h⟩ | ⟨hother, h⟩
    · refine iff_of_false ?_ (not_not.mpr hcritical)
      revert h
      generalize decisionReason _ _ = code
      cases code <;> decide
    · refine iff_of_true ?_ hother
      revert h
      generalize decisionReason _ _ = code
      cases code <;> decide
  have hadmission : (admissionCode input evidence).value < 71 ↔
      admissionCode input evidence = .none := by
    have h : admissionCode input evidence ∈ _ := admissionCode_cases
    simp only [List.mem_cons, List.not_mem_nil, or_false] at h
    rcases h with h | h | h <;> rw [h] <;> decide
  have hgate : (gateCode input evidence).value < 71 ↔ gateCode input evidence = .none := by
    have h : gateCode input evidence ∈ _ := gateCode_cases
    simp only [List.mem_cons, List.not_mem_nil, or_false] at h
    rcases h with h | h | h <;> rw [h] <;> decide
  unfold Below lateCodes Unmarked PastUnmarked
  simp only [List.forall_mem_cons, List.not_mem_nil, false_imp_iff, implies_true, and_true,
    hworkload, hite _ (show 71 ≤ ThermalReasonCode.value .workloadRequiresDerating by decide),
    hite _ (show 71 ≤ ThermalReasonCode.value .concurrencyCeilingApplied by decide),
    hite _ (show 71 ≤ ThermalReasonCode.value .deratingCannotExpand by decide), hdecision,
    hadmission, hgate, Bool.not_eq_true]

/-- The late codes alone decide what is below a bound among them. -/
theorem below_reasons_iff {bound : Nat} (hbound : 70 ≤ bound)
    (hprofile : input.workloadProfile = .unknownProfile) :
    Below bound (evaluateResolved input evidence).reasons ↔
      Below bound (lateCodes input evidence) := by
  constructor
  · intro h c hc
    by_cases hlate : 70 ≤ c.value
    · exact h c ((mem_reasons_late input evidence hlate hprofile).mpr hc)
    · omega
  · intro h c hc
    by_cases hlate : 70 ≤ c.value
    · exact h c ((mem_reasons_late input evidence hlate hprofile).mp hc)
    · omega

/-- One of the workload codes is always given. -/
theorem not_below_reasons (hprofile : input.workloadProfile = .unknownProfile) :
    ¬ Below 70 (evaluateResolved input evidence).reasons := by
  rw [below_reasons_iff (Nat.le_refl _) hprofile]
  intro h
  have hfirst := h _ List.mem_cons_self
  split at hfirst <;> exact absurd hfirst (by decide)

/-! The exits, one by one. -/

theorem mem_reasons_of_late {c : ThermalReasonCode} (hc : 70 ≤ c.value)
    (hprofile : input.workloadProfile = .unknownProfile) (h : c ∉ [ThermalReasonCode.none,
      .policyUnknownBehaviorApplied, .policyUnsupportedBehaviorApplied, .workloadProfileUnknown,
      .emergencyContainmentRequired, .emergencyExecutionDenied, .authorityRevalidated,
      .stateRetainedByHysteresis, .deratingCannotExpand]) :
    c ∈ (evaluateResolved input evidence).reasons ↔
      (workloadExecutionClass input.policy .unknownProfile = none ∧
        c = .workloadProfileExcluded) ∨
      (0 < workloadHeadroomDemand input.policy .unknownProfile ∧ c = .workloadRequiresDerating) ∨
      admissionCode input evidence = c ∨
      (concurrencyCut input evidence = true ∧ c = .concurrencyCeilingApplied) :=
  (mem_reasons_late input evidence hc hprofile).trans (mem_lateCodes_iff h)

theorem admissionCode_ne {c : ThermalReasonCode} (h : c ∉ [ThermalReasonCode.none,
    .deratedAdmissionAllowed, .deratedAdmissionForbidden]) : admissionCode input evidence ≠ c :=
  fun heq => h (heq ▸ admissionCode_cases)

/-- A code of admission is in order after what is there when it is there or nothing from it on
is. -/
theorem ordered_add_admission_iff {code : ThermalReasonCode} (hlow : 82 ≤ code.value)
    (hhigh : code.value ≤ 93) (hprofile : input.workloadProfile = .unknownProfile) :
    Ordered ((evaluateResolved input evidence).reasons.add code) ↔
      code ∈ (evaluateResolved input evidence).reasons ∨
      ((admissionCode input evidence).value < code.value ∧ Unmarked input evidence) := by
  have hne : code ≠ .none := by
    rintro rfl
    exact absurd hlow (by decide)
  rw [ordered_add_iff, and_iff_right (ordered_evaluateResolved _ _), or_iff_right hne,
    ← below_lateCodes_iff hlow hhigh, ← below_reasons_iff (by omega) hprofile]
  rfl

theorem ordered_add_excluded_iff (hprofile : input.workloadProfile = .unknownProfile) :
    Ordered ((evaluateResolved input evidence).reasons.add .workloadProfileExcluded) ↔
      workloadExecutionClass input.policy .unknownProfile = none := by
  have hlate : ¬ ∀ c ∈ (evaluateResolved input evidence).reasons,
      c.value < ThermalReasonCode.workloadProfileExcluded.value := not_below_reasons hprofile
  rw [ordered_add_iff, and_iff_right (ordered_evaluateResolved _ _), or_iff_right (by decide),
    or_iff_left hlate, mem_reasons_of_late (by decide) hprofile (by decide)]
  have hadmission : admissionCode input evidence ≠ .workloadProfileExcluded :=
    admissionCode_ne (by decide)
  simp [hadmission]

/-- Where execution is allowed, the evaluation did not forbid it for want of headroom. -/
theorem admissionCode_of_decided (h : decidedOf input evidence ≠ .deny) :
    admissionCode input evidence ≠ .deratedAdmissionForbidden := by
  intro hforbidden
  refine h ?_
  unfold admissionCode at hforbidden
  split at hforbidden
  · rename_i hwants
    split at hforbidden
    · cases hforbidden
    · rename_i hderated
      rw [Bool.and_eq_true, Bool.not_eq_true'] at hwants
      have hallow := (decisionForState_eq_allow_iff _ input.policy).mpr hwants.1
      unfold decidedOf
      rw [hallow, hwants.2]
      unfold admitHeadroom
      simp [hderated]
  · cases hforbidden

theorem admissionCode_of_not_derated (h : decidedOf input evidence ≠ .deny)
    (hderated : input.policy.admission.allowDeratedAdmission = false) :
    admissionCode input evidence = .none := by
  have hforbidden := admissionCode_of_decided h
  unfold admissionCode at hforbidden ⊢
  rw [hderated] at hforbidden ⊢
  split
  · rename_i hwants
    rw [if_pos hwants] at hforbidden
    exact absurd rfl hforbidden
  · rfl

theorem admissionCode_of_defer (h : decidedOf input evidence = .defer) :
    admissionCode input evidence = .none := by
  have hunhealthy : (nextStateOf input evidence).isHealthy = false := by
    by_contra hhealthy
    have hallow := (decisionForState_eq_allow_iff _ input.policy).mpr
      (Bool.not_eq_false _ ▸ hhealthy)
    unfold decidedOf at h
    rw [hallow] at h
    unfold admitHeadroom at h
    cases hmet : headroomMet input evidence <;>
      cases hderated : input.policy.admission.allowDeratedAdmission <;> simp [hmet, hderated] at h
  unfold admissionCode
  rw [hunhealthy]
  rfl

theorem ordered_add_deferred_iff (hprofile : input.workloadProfile = .unknownProfile)
    (h : decidedOf input evidence = .defer) :
    Ordered ((evaluateResolved input evidence).reasons.add .admissionDeferredByPolicy) ↔
      Unmarked input evidence := by
  rw [ordered_add_admission_iff (by decide) (by decide) hprofile,
    mem_reasons_of_late (by decide) hprofile (by decide), admissionCode_of_defer h]
  simp [ThermalReasonCode.value]

theorem ordered_add_forbidden_iff (hprofile : input.workloadProfile = .unknownProfile)
    (h : decidedOf input evidence ≠ .deny)
    (hderated : input.policy.admission.allowDeratedAdmission = false) :
    Ordered ((evaluateResolved input evidence).reasons.add .deratedAdmissionForbidden) ↔
      Unmarked input evidence := by
  rw [ordered_add_admission_iff (by decide) (by decide) hprofile,
    mem_reasons_of_late (by decide) hprofile (by decide), admissionCode_of_not_derated h hderated]
  simp [ThermalReasonCode.value]

/-- What a headroom that suffices, or does not, adds. -/
theorem ordered_add_headroom_iff (hprofile : input.workloadProfile = .unknownProfile)
    (h : admissionCode input evidence ≠ .deratedAdmissionForbidden) (met : Bool) :
    Ordered ((evaluateResolved input evidence).reasons.add
      (if ! met then .deratedAdmissionAllowed else .effectiveHeadroomSufficient)) ↔
      (met = true → sufficiencyTold input evidence = true) ∧
      (met = false → admissionCode input evidence = .deratedAdmissionAllowed ∨
        Unmarked input evidence) := by
  cases met with
  | true =>
    have hlate : ¬ ∀ c ∈ (evaluateResolved input evidence).reasons,
        c.value < ThermalReasonCode.effectiveHeadroomSufficient.value := fun hbelow =>
      not_below_reasons hprofile fun c hc => lt_trans (hbelow c hc) (by decide)
    simp only [Bool.not_true, Bool.false_eq_true, if_false, true_imp_iff, Bool.true_eq_false,
      false_imp_iff, and_true]
    rw [ordered_add_iff, and_iff_right (ordered_evaluateResolved _ _), or_iff_right (by decide),
      or_iff_left hlate, mem_reasons_sufficient]
  | false =>
    simp only [Bool.not_false, if_true, Bool.false_eq_true, false_imp_iff, true_imp_iff, true_and]
    rw [ordered_add_admission_iff (by decide) (by decide) hprofile,
      mem_reasons_of_late (by decide) hprofile (by decide)]
    have hcodes : admissionCode input evidence ∈ _ := admissionCode_cases
    simp only [List.mem_cons, List.not_mem_nil, or_false] at hcodes
    rcases hcodes with hcode | hcode | hcode
    · simp [hcode, ThermalReasonCode.value]
    · simp [hcode]
    · exact absurd hcode h

theorem addIf_add (s : ReasonCodeSet) (b : Bool) (code : ThermalReasonCode) :
    (s.addIf b code).add code = s.add code := by
  cases b with
  | false => rfl
  | true =>
    have hthere : code = .none ∨ code ∈ s.add code := by
      by_cases hnone : code = .none
      · exact .inl hnone
      · exact .inr (mem_add.mpr (.inr ⟨rfl, hnone⟩))
    exact if_pos hthere

/-- **The exit at best effort.** -/
theorem ordered_bestEffort_iff (hprofile : input.workloadProfile = .unknownProfile)
    (h : admissionCode input evidence ≠ .deratedAdmissionForbidden)
    (met crowded downgraded : Bool) :
    Ordered (((((evaluateResolved input evidence).reasons.add
      (if ! met then .deratedAdmissionAllowed else .effectiveHeadroomSufficient)).addIf crowded
      .concurrencyCeilingApplied).addIf downgraded .workloadRequiresDerating).add
      .workloadRequiresDerating) ↔
    BestEffortKeepsOrder input evidence met crowded := by
  generalize htold : (evaluateResolved input evidence).reasons.add
    (if ! met then .deratedAdmissionAllowed else .effectiveHeadroomSufficient) = told
  have hheadroom : Ordered told ↔ _ := htold ▸ ordered_add_headroom_iff hprofile h met
  have hne : (if ! met then ThermalReasonCode.deratedAdmissionAllowed
      else .effectiveHeadroomSufficient) ≠ .none := by
    cases met <;> decide
  have hcrowd : (.concurrencyCeilingApplied ∈ told ∨
      ∀ c ∈ told, c.value < ThermalReasonCode.concurrencyCeilingApplied.value) ↔
      concurrencyCut input evidence = true ∨ PastUnmarked input evidence := by
    have hbelow : (∀ c ∈ told, c.value < ThermalReasonCode.concurrencyCeilingApplied.value) ↔
        Unmarked input evidence := by
      rw [← htold]
      refine (below_add_iff hne).trans ?_
      rw [and_iff_left (by cases met <;> decide), below_reasons_iff (by decide) hprofile,
        below_lateCodes_iff (by decide) (by decide), and_iff_right]
      have hcodes : admissionCode input evidence ∈ _ := admissionCode_cases
      simp only [List.mem_cons, List.not_mem_nil, or_false] at hcodes
      rcases hcodes with hcode | hcode | hcode <;> rw [hcode] <;> decide
    rw [hbelow, ← htold, mem_add_of_ne (by cases met <;> decide),
      mem_reasons_of_late (by decide) hprofile (by decide)]
    have hadmission : admissionCode input evidence ≠ .concurrencyCeilingApplied :=
      admissionCode_ne (by decide)
    unfold Unmarked
    cases concurrencyCut input evidence <;> simp [hadmission]
  have hdemand : (.workloadRequiresDerating ∈ told.addIf crowded .concurrencyCeilingApplied ∨
      ∀ c ∈ told.addIf crowded .concurrencyCeilingApplied,
        c.value < ThermalReasonCode.workloadRequiresDerating.value) ↔
      0 < workloadHeadroomDemand input.policy .unknownProfile ∨
      (workloadExecutionClass input.policy .unknownProfile = none ∧
        nextStateOf input evidence ≠ .critical ∧ admissionCode input evidence = .none ∧
        Unmarked input evidence ∧ met = true ∧ crowded = false) := by
    have hmem : .workloadRequiresDerating ∈ told.addIf crowded .concurrencyCeilingApplied ↔
        0 < workloadHeadroomDemand input.policy .unknownProfile := by
      have hadmission : admissionCode input evidence ≠ .workloadRequiresDerating :=
        admissionCode_ne (by decide)
      rw [mem_addIf_of_ne (by decide), ← htold, mem_add_of_ne (by cases met <;> decide),
        mem_reasons_of_late (by decide) hprofile (by decide)]
      simp [hadmission]
    have hbelow : (∀ c ∈ told.addIf crowded .concurrencyCeilingApplied,
        c.value < ThermalReasonCode.workloadRequiresDerating.value) ↔
        Below 71 (lateCodes input evidence) ∧ met = true ∧ crowded = false := by
      refine (below_addIf_iff (by decide)).trans ?_
      rw [← htold, below_add_iff hne, and_assoc]
      refine and_congr (below_reasons_iff (by decide) hprofile) (and_congr ?_ ?_)
      · cases met <;> decide
      · cases crowded <;> decide
    rw [hmem, hbelow, below_lateCodes_workload]
    by_cases hasks : 0 < workloadHeadroomDemand input.policy .unknownProfile
    · simp [hasks]
    · simp [hasks, and_assoc]
  rw [addIf_add, ordered_add_iff, or_iff_right (by decide), hdemand, ordered_addIf_iff,
    or_iff_right (by decide), hcrowd, hheadroom]
  exact ⟨fun ⟨⟨⟨hmet, hderated⟩, hconcurrency⟩, hdemanding⟩ =>
      ⟨hmet, hderated, hconcurrency, hdemanding⟩,
    fun ⟨hmet, hderated, hconcurrency, hdemanding⟩ =>
      ⟨⟨⟨hmet, hderated⟩, hconcurrency⟩, hdemanding⟩⟩

/-! The exits after a refusal: all codes that are there are low. -/

theorem ordered_add_of_below {s : ReasonCodeSet} {code : ThermalReasonCode} (h : Ordered s)
    {bound : Nat} (hbelow : Below bound s) (hcode : bound ≤ code.value) : Ordered (s.add code) :=
  ordered_add_iff.mpr ⟨h, .inr (.inr fun c hc => lt_of_lt_of_le (hbelow c hc) hcode)⟩

theorem ordered_bestEffort_of_below {s : ReasonCodeSet} (h : Ordered s) (hbelow : Below 30 s)
    (met crowded downgraded : Bool) :
    Ordered ((((s.add
      (if ! met then .deratedAdmissionAllowed else .effectiveHeadroomSufficient)).addIf crowded
      .concurrencyCeilingApplied).addIf downgraded .workloadRequiresDerating).add
      .workloadRequiresDerating) ↔
    met = true ∧ crowded = false := by
  have habsent : ∀ {code : ThermalReasonCode}, 30 ≤ code.value → code ∉ s := fun hcode hmem =>
    Nat.not_lt.mpr hcode (hbelow _ hmem)
  have hhead : Ordered (s.add
      (if ! met then .deratedAdmissionAllowed else .effectiveHeadroomSufficient)) :=
    ordered_add_of_below h hbelow (by cases met <;> decide)
  have hcrowd : ∀ c ∈ s.add
      (if ! met then .deratedAdmissionAllowed else .effectiveHeadroomSufficient),
      c.value < ThermalReasonCode.concurrencyCeilingApplied.value :=
    below_add (fun c hc => lt_trans (hbelow c hc) (by decide)) (by cases met <;> decide)
  rw [addIf_add, ordered_add_iff, ordered_addIf_iff,
    and_iff_right ⟨hhead, fun _ => .inr (.inr hcrowd)⟩, or_iff_right (by decide),
    mem_addIf_of_ne (by decide), mem_add_of_ne (by cases met <;> decide),
    or_iff_right (habsent (by decide))]
  refine (below_addIf_iff (by decide)).trans ?_
  rw [below_add_iff (by cases met <;> decide),
    and_iff_right (show Below _ s from fun c hc => lt_trans (hbelow c hc) (by decide))]
  cases met <;> cases crowded <;> decide

/-- What a refusal leaves to be admitted. -/
theorem refused_allows (h : resolvedEvidence input = none) :
    ((evaluateThermal input).decision = .allowDerated ↔
      input.temperatureCapability = .unknown ∧ input.policy.unknownBehavior = .allowDerated) ∧
    (evaluateThermal input).decision ≠ .allow ∧
    (evaluateThermal input).headroom.effectiveHeadroom = 0 ∧
    (evaluateThermal input).permittedExecutionClass = .bestEffortThermal ∧
    (input.temperatureCapability = .unknown → (evaluateThermal input).permittedConcurrency =
      concurrencyCeiling input.policy.concurrency .unknown) := by
  obtain ⟨hcap, heq⟩ | ⟨hcap, heq⟩ | ⟨hcap, reason, -, heq⟩ := refused_cases h
  · have hdecision : ∀ d, d = .allow ∨ d = .allowDerated →
        decisionForUnsupported input.policy.unsupportedBehavior ≠ d := by
      rintro d (rfl | rfl) <;> cases input.policy.unsupportedBehavior <;> decide
    rw [heq, hcap]
    exact ⟨iff_of_false (hdecision _ (.inr rfl)) fun hboth => (nomatch hboth.1),
      hdecision _ (.inl rfl), rfl, rfl, fun hc => (nomatch hc)⟩
  · have hderated : decisionForUnknown input.policy.unknownBehavior = .allowDerated ↔
        input.policy.unknownBehavior = .allowDerated := by
      cases input.policy.unknownBehavior <;> decide
    have hallow : decisionForUnknown input.policy.unknownBehavior ≠ .allow := by
      cases input.policy.unknownBehavior <;> decide
    rw [heq, and_iff_right hcap]
    exact ⟨hderated, hallow, rfl, rfl, fun _ => rfl⟩
  · rw [heq]
    exact ⟨iff_of_false (fun hd => (nomatch hd)) fun hboth => hcap hboth.1, fun hd => (nomatch hd),
      rfl, rfl, fun hc => absurd hc hcap⟩

theorem ordered_admitReasons_of_below {policy : ThermalPolicy} {s : ReasonCodeSet} (h : Ordered s)
    (hbelow : Below 30 s) {required permitted : ExecutionClass} {met : Bool} {concurrency : ℚ} :
    Ordered (admitReasons policy request required met concurrency permitted s) ↔
      (exceedsBestEffort required permitted = true →
        (met = true ∧ request.crowded concurrency = false) ∨
        (met = false ∧ policy.admission.allowDeratedAdmission = false)) := by
  unfold admitReasons
  by_cases hforbidden : (! met && ! policy.admission.allowDeratedAdmission) = true
  · rw [if_pos hforbidden]
    rw [Bool.and_eq_true, Bool.not_eq_true', Bool.not_eq_true'] at hforbidden
    exact iff_of_true (ordered_add_of_below h hbelow (by decide)) fun _ => .inr hforbidden
  have hadmitted : ¬ (met = false ∧ policy.admission.allowDeratedAdmission = false) := by
    rwa [Bool.and_eq_true, Bool.not_eq_true', Bool.not_eq_true'] at hforbidden
  rw [if_neg hforbidden, or_iff_left hadmitted]
  by_cases hexceeds : exceedsBestEffort required permitted = true
  · rw [if_pos hexceeds, forall_prop_of_true hexceeds]
    exact ordered_bestEffort_of_below h hbelow _ _ _
  · rw [if_neg hexceeds]
    refine iff_of_true (ordered_canonicalise ?_) fun hc => absurd hc hexceeds
    exact nodup_addIf (nodup_addIf (nodup_add h.nodup _) _ _) _ _

theorem forProfile_self {profile : WorkloadThermalProfile}
    (h : input.workloadProfile = profile) : input.forProfile profile = input := by
  subst h
  rfl

/-- **The exits where execution is allowed.** -/
theorem ordered_admitReasons_iff (hprofile : input.workloadProfile = .unknownProfile)
    (h : decidedOf input evidence ≠ .deny) {required permitted : ExecutionClass} {met : Bool}
    {concurrency : ℚ} :
    Ordered (admitReasons input.policy request required met concurrency permitted
      (evaluateResolved input evidence).reasons) ↔
    if ! met && ! input.policy.admission.allowDeratedAdmission then Unmarked input evidence
    else if exceedsBestEffort required permitted then
      BestEffortKeepsOrder input evidence met (request.crowded concurrency)
    else True := by
  unfold admitReasons
  by_cases hforbidden : (! met && ! input.policy.admission.allowDeratedAdmission) = true
  · rw [if_pos hforbidden, if_pos hforbidden]
    rw [Bool.and_eq_true, Bool.not_eq_true', Bool.not_eq_true'] at hforbidden
    exact ordered_add_forbidden_iff hprofile h hforbidden.2
  rw [if_neg hforbidden, if_neg hforbidden]
  by_cases hexceeds : exceedsBestEffort required permitted = true
  · rw [if_pos hexceeds, if_pos hexceeds]
    exact ordered_bestEffort_iff hprofile (admissionCode_of_decided h) _ _ _
  · rw [if_neg hexceeds, if_neg hexceeds]
    refine iff_of_true (ordered_canonicalise ?_) trivial
    exact nodup_addIf (nodup_addIf (nodup_add (ordered_evaluateResolved _ _).nodup _) _ _) _ _

/-- **When the reasons of a verdict are in order.** -/
theorem ordered_verdictReasons_iff (hprofile : input.workloadProfile = .unknownProfile) :
    Ordered (verdictReasons input.policy request (evaluateThermal input).decision
      ((evaluateThermal input).headroom.meetsDemand (input.policy.admission.minEffectiveHeadroom +
        workloadHeadroomDemand input.policy request.profile))
      (evaluateThermal input).permittedConcurrency (evaluateThermal input).permittedExecutionClass
      (evaluateThermal input).reasons) ↔ KeepsOrder request input := by
  rcases evaluateThermal_cases input with ⟨evidence, hresolved, heq⟩ | ⟨hresolved, -⟩
  · have hdecision : (evaluateResolved input evidence).decision = decidedOf input evidence :=
      congrArg Standing.decision (standing_evaluateResolved input evidence)
    have hpermitted : (evaluateResolved input evidence).permittedExecutionClass =
        permittedOf input evidence := by
      have hclass := permittedExecutionClass_forProfile input evidence .unknownProfile
      rw [forProfile_self hprofile] at hclass
      exact hclass
    have hmet : (evaluateResolved input evidence).headroom.meetsDemand
        (input.policy.admission.minEffectiveHeadroom +
          workloadHeadroomDemand input.policy request.profile) =
        headroomMet (input.forProfile request.profile) evidence := by
      rw [← demand_workloadTerms]
      rfl
    unfold KeepsOrder verdictReasons
    rw [heq, hresolved, hdecision, hpermitted, hmet]
    cases workloadExecutionClass input.policy request.profile with
    | none => exact ordered_add_excluded_iff hprofile
    | some required =>
      dsimp only
      cases hdecided : decidedOf input evidence with
      | unknown | unsupported | revalidationRequired | deny =>
        exact iff_of_true (ordered_evaluateResolved _ _) trivial
      | defer => exact ordered_add_deferred_iff hprofile hdecided
      | allow | allowDerated =>
        exact ordered_admitReasons_iff hprofile (by rw [hdecided]; decide)
  · obtain ⟨hderated, hallow, hheadroom, hpermitted, hconcurrency⟩ := refused_allows hresolved
    obtain ⟨hordered, hlow⟩ := reasons_of_refused hresolved
    unfold KeepsOrder verdictReasons
    rw [hresolved]
    cases workloadExecutionClass input.policy request.profile with
    | none => exact iff_of_true (ordered_add_of_below hordered hlow (by decide)) trivial
    | some required =>
      dsimp only
      cases hdecision : (evaluateThermal input).decision with
      | unknown | unsupported | revalidationRequired | deny =>
        refine iff_of_true hordered fun hcap hbehavior => ?_
        rw [hderated.mpr ⟨hcap, hbehavior⟩] at hdecision
        cases hdecision
      | defer =>
        refine iff_of_true (ordered_add_of_below hordered hlow (by decide)) fun hcap hbehavior => ?_
        rw [hderated.mpr ⟨hcap, hbehavior⟩] at hdecision
        cases hdecision
      | allow => exact absurd hdecision hallow
      | allowDerated =>
        obtain ⟨hcap, hbehavior⟩ := hderated.mp hdecision
        rw [hpermitted, hconcurrency hcap]
        refine (ordered_admitReasons_of_below hordered hlow).trans ?_
        unfold HeadroomBreakdown.meetsDemand
        rw [hheadroom, forall_prop_of_true hcap, forall_prop_of_true hbehavior, decide_eq_true_eq,
          decide_eq_false_iff_not, not_le]

end KeepsOrder

/-! ### The law -/

namespace Governor

variable {g : Governor} {request : ThermalAdmissionRequest} {definition : ThermalDomainDefinition}
  {policy : ThermalPolicy} {r : ThermalAdmissionResult}

/-- **When an answer is in order.** -/
theorem ordered_answer_iff (hfind : g.domains.find request.domain = some definition)
    (hpolicy : g.policyFor definition = some policy)
    (h : (g.evaluateAdmission request).2 = .ok r) :
    Ordered r.reasons ↔ KeepsOrder request (g.evaluation definition policy).1 := by
  have hevaluation : g.evaluationFor definition policy .unknownProfile =
      (g.evaluation definition policy).2 := rfl
  obtain ⟨gathered, hfinish⟩ : ∃ gathered, (g.evaluation definition policy).2 =
      g.finishEvaluation policy gathered (evaluateThermal (g.evaluation definition policy).1) :=
    ⟨_, rfl⟩
  have hsame : (g.evaluation definition policy).1.policy = policy := rfl
  have hprofile : (g.evaluation definition policy).1.workloadProfile = .unknownProfile := rfl
  rw [evaluateAdmission_eq_ok hfind hpolicy h, hevaluation, reasons_admissionVerdict, hfinish]
  revert hsame hprofile
  generalize (g.evaluation definition policy).1 = input
  rintro rfl hprofile
  exact ordered_verdictReasons_iff hprofile

/-- **When reasons are in order**: always those of evaluations, of recoveries and of
verifications, and those of an answer exactly when the exit it takes adds its codes in order. -/
theorem ordered_reasons_iff (g : Governor) (request : ThermalAdmissionRequest) :
    (∀ input, Ordered (evaluateThermal input).reasons ∧
      (evaluateThermal input).recovery.Ordered) ∧
    (∀ input, (ThermalGovernor.evaluateRecovery input).Ordered) ∧
    (∀ input record, ThermalGovernor.verifyAction input = .ok record → Ordered record.reasons) ∧
    ∀ definition policy r, g.domains.find request.domain = some definition →
      g.policyFor definition = some policy → (g.evaluateAdmission request).2 = .ok r →
      (Ordered r.reasons ↔ KeepsOrder request (g.evaluation definition policy).1) := by
  refine ⟨ordered_evaluateThermal, ordered_evaluateRecovery, fun input record h => ?_,
    fun definition policy r hfind hpolicy h => ordered_answer_iff hfind hpolicy h⟩
  cases haction : input.action with
  | none =>
    unfold ThermalGovernor.verifyAction at h
    rw [haction] at h
    cases h
  | some action =>
    rw [((verifyAction_eq_ok haction).mp h).2]
    exact ordered_verifiedRecord input action

/-- The deployment at 85 °C under the cautious policy. -/
def cautiousAndHot : Governor := Deployment.after
  [.setPolicy cautiousPolicy, .publishTemperature (Deployment.reading 85 1 0)]

/-- At 40 °C under the default policy cool work is answered in order. -/
theorem ordered_reasons_cool : ∃ definition policy r,
    underDefault.domains.find 1 = some definition ∧
    underDefault.policyFor definition = some policy ∧
    (underDefault.evaluateAdmission coolRequest).2 = .ok r ∧ Ordered r.reasons ∧
    KeepsOrder coolRequest (underDefault.evaluation definition policy).1 := by
  obtain ⟨definition, hfind⟩ := Option.isSome_iff_exists.mp
    (show (underDefault.domains.find 1).isSome = true by decide +kernel)
  obtain ⟨policy, hpolicy⟩ := exists_policyFor (g := underDefault) (Deployment.reachable_after _)
    definition
  obtain ⟨r, hr, hordered⟩ := exists_of_ok (underDefault.evaluateAdmission coolRequest).2
    (fun r => Ordered r.reasons) (by decide +kernel)
  exact ⟨definition, policy, r, hfind, hpolicy, hr, hordered,
    ((ordered_reasons_iff underDefault coolRequest).2.2.2 _ _ _ hfind hpolicy hr).mp hordered⟩

/-- At 85 °C under the cautious policy cool work is forbidden after the ceiling is told: the code
of the lower value comes last. -/
theorem not_ordered_reasons : ¬ ∀ g : Governor, g.Reachable → ∀ request r,
    (g.evaluateAdmission request).2 = .ok r → Ordered r.reasons := by
  intro hall
  obtain ⟨r, hr, hlast⟩ := exists_of_ok (cautiousAndHot.evaluateAdmission coolRequest).2
    (fun r => ¬ Ordered r.reasons) (by decide +kernel)
  exact hlast (hall cautiousAndHot (Deployment.reachable_after _) coolRequest r hr)

end Governor

end ThermalGovernor
