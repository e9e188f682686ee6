import ThermalGovernor.Laws.Reasons

/-!
# The late codes of an evaluation

The codes of evidence, headroom and recovery have low values.  From the workload codes on, an
evaluation for the unknown profile gives few: `lateCodes` lists them, and `mem_reasons_late`
says that they are all.  One of the low codes matters as well to who adds to such a set
afterwards: that the headroom suffices (`sufficiencyTold`).
-/

namespace ThermalGovernor

open ReasonCodeSet

/-- All codes of the set have a value below the bound. -/
def ReasonCodeSet.Below (bound : Nat) (s : ReasonCodeSet) : Prop := ∀ c ∈ s, c.value < bound

namespace ReasonCodeSet

variable {s : ReasonCodeSet} {code c : ThermalReasonCode} {bound : Nat}

theorem below_nil : Below bound [] := fun _ hc => absurd hc List.not_mem_nil

theorem below_add (h : Below bound s) (hcode : code.value < bound) : Below bound (s.add code) := by
  intro c hc
  rcases mem_add.mp hc with hold | ⟨rfl, -⟩
  · exact h c hold
  · exact hcode

theorem below_add_iff (hcode : code ≠ .none) :
    Below bound (s.add code) ↔ Below bound s ∧ code.value < bound := by
  refine ⟨fun h => ⟨fun c hc => h c (mem_add.mpr (.inl hc)), ?_⟩, fun h => below_add h.1 h.2⟩
  exact h code (mem_add.mpr (.inr ⟨rfl, hcode⟩))

theorem below_addIf_iff (hcode : code ≠ .none) {b : Bool} :
    Below bound (s.addIf b code) ↔ Below bound s ∧ (b = true → code.value < bound) := by
  cases b with
  | false => exact (and_iff_left fun h => absurd h Bool.false_ne_true).symm
  | true =>
    exact (below_add_iff hcode).trans (and_congr_right fun _ => ⟨fun h _ => h, fun h => h rfl⟩)

theorem below_addIf (h : Below bound s) (b : Bool) (hcode : code.value < bound) :
    Below bound (s.addIf b code) := by
  cases b with
  | false => exact h
  | true => exact below_add h hcode

theorem below_foldl_add {codes : List ThermalReasonCode} (h : Below bound s)
    (hcodes : Below bound codes) : Below bound (codes.foldl add s) := by
  intro c hc
  rcases mem_foldl_add.mp hc with hold | ⟨hnew, -⟩
  · exact h c hold
  · exact hcodes c hnew

theorem mem_add_of_ne (h : c ≠ code) : c ∈ s.add code ↔ c ∈ s :=
  mem_add.trans (or_iff_left fun hboth => h hboth.1)

theorem mem_addIf_of_ne (h : c ≠ code) {b : Bool} : c ∈ s.addIf b code ↔ c ∈ s :=
  mem_addIf.trans (or_iff_left fun hboth => h hboth.2.1)

/-- A code from the workload codes on is none of those below. -/
theorem mem_add_late (hc : 70 ≤ c.value) : c ∈ s.add code ↔ c ∈ s ∨ c = code := by
  rw [mem_add]
  refine or_congr_right (and_iff_left_of_imp ?_)
  rintro rfl rfl
  exact absurd hc (by decide)

theorem mem_addIf_late (hc : 70 ≤ c.value) {b : Bool} :
    c ∈ s.addIf b code ↔ c ∈ s ∨ c = if b then code else .none := by
  cases b with
  | true => exact mem_add_late hc
  | false =>
    refine (or_iff_left fun heq => ?_).symm
    have hnone : c = .none := heq
    rw [hnone] at hc
    exact absurd hc (by decide)

end ReasonCodeSet

section Late

variable (input : EvaluationInput) (evidence : ThermalEvidence)

/-- What the hysteresis gate marks a healthy candidate with. -/
def gateCode : ThermalReasonCode :=
  if ! (candidateState input evidence).isHealthy then .none
  else if input.previousState = .revalidationRequired then .authorityRevalidated
  else if heldBack input evidence then .stateRetainedByHysteresis
  else .none

/-- The previous derating is more restrictive than that of the state, and is kept. -/
def deratingKept : Bool :=
  (clampDerating input (nextStateOf input evidence) (deratingForState (nextStateOf input evidence)
    input.policy (workloadTerms input.policy input.workloadProfile).restricted)).2

/-- The concurrency of the state is limited. -/
def concurrencyCut : Bool :=
  concurrencyCeiling input.policy.concurrency (nextStateOf input evidence) < 100

/-- What the admission predicate makes of a healthy state without the headroom demanded. -/
def admissionCode : ThermalReasonCode :=
  if (nextStateOf input evidence).isHealthy && ! headroomMet input evidence then
    if input.policy.admission.allowDeratedAdmission then .deratedAdmissionAllowed
    else .deratedAdmissionForbidden
  else .none

/-- The codes of an evaluation for the unknown profile, from the workload codes on. -/
def lateCodes : List ThermalReasonCode :=
  [ if (workloadExecutionClass input.policy .unknownProfile).isSome then .workloadProfileUnknown
    else .workloadProfileExcluded,
    if 0 < workloadHeadroomDemand input.policy .unknownProfile then .workloadRequiresDerating
    else .none,
    decisionReason (nextStateOf input evidence) input.policy,
    admissionCode input evidence,
    if concurrencyCut input evidence then .concurrencyCeilingApplied else .none,
    gateCode input evidence,
    if deratingKept input evidence then .deratingCannotExpand else .none ]

theorem below_recoveryReasons (policy : ThermalPolicy) (r : RecoveryInput) (w : RecoveryWalk)
    (below headroomOk : Bool) : Below 70 (recoveryReasons policy r w below headroomOk) := by
  unfold recoveryReasons
  refine below_addIf (below_addIf (below_addIf (below_addIf (below_addIf (below_addIf (below_addIf
    (below_addIf (below_add below_nil ?_) _ ?_) _ ?_) _ ?_) _ ?_) _ ?_) _ ?_) _ ?_) _ ?_
  · cases below <;> decide
  · cases headroomOk <;> decide
  all_goals decide

theorem below_evaluateRecovery (r : RecoveryInput) :
    Below 70 (evaluateRecovery r).blockingReasons := by
  have hone : ∀ code : ThermalReasonCode, code.value < 70 → Below 70 [code] := by
    intro code hcode c hc
    rw [List.mem_singleton.mp hc]
    exact hcode
  unfold evaluateRecovery
  split
  · exact hone _ (by decide)
  · split
    · exact hone _ (by decide)
    · unfold assessRecovery
      dsimp only
      split
      · exact hone _ (by decide)
      · exact fun c hc => below_recoveryReasons _ _ _ _ _ c (mem_canonicalise.mp hc)

theorem below_scan (policy : CouplingPolicy) (coupled : List CoupledPressure) :
    ∀ {scan : CouplingScan}, Below 70 scan.reasons →
      Below 70 (coupled.foldl (couple policy) scan).reasons := by
  induction coupled with
  | nil => exact fun h => h
  | cons p coupled ih => exact fun h => ih (below_addIf h _ (by decide))

/-- What the state machine tells before the gate. -/
theorem below_coupledScan : Below 70 (coupledScan input evidence).reasons := by
  unfold coupledScan scanCoupled
  split
  · exact below_scan _ _ below_nil
  · exact below_nil

/-- The gate alone gives the state machine a late code. -/
theorem mem_nextThermalState_late {c : ThermalReasonCode} (hc : 70 ≤ c.value) :
    c ∈ (nextThermalState input evidence (evaluateRecovery (recoveryInputFor input
      (computeHeadroom (headroomInputFor input evidence)))) []).reasons ↔
      c = gateCode input evidence := by
  have hlow : ∀ {s : ReasonCodeSet}, Below 70 s → c ∉ s := fun h hmem =>
    Nat.not_lt.mpr hc (h c hmem)
  have hne : c ≠ .none := by
    rintro rfl
    exact absurd hc (by decide)
  unfold nextThermalState gateCode heldBack holdsBack
  dsimp only
  generalize hrecovery : evaluateRecovery (recoveryInputFor input
    (computeHeadroom (headroomInputFor input evidence))) = recovery
  have hblocking : Below 70 recovery.blockingReasons := hrecovery ▸ below_evaluateRecovery _
  generalize hbefore : List.foldl ReasonCodeSet.add _ _ = before
  have hbelow : Below 70 before := by
    rw [← hbefore]
    refine below_foldl_add (below_add (below_add below_nil ?_) ?_)
      (below_addIf (below_coupledScan input evidence) _ (by decide))
    · cases resolveThrottle input evidence <;> decide
    · cases bandState _ _ _ <;> decide
  unfold hysteresisGate
  by_cases hcandidate : (candidateState input evidence).isHealthy = true
  · simp only [hcandidate, Bool.not_true, Bool.false_eq_true, if_false]
    by_cases hgate : input.previousState.requiresRecoveryGate = true
    · simp only [hgate, Bool.not_true, Bool.false_eq_true, if_false]
      by_cases hrevalidate : input.previousState = .revalidationRequired
      · rw [if_pos hrevalidate, if_pos hrevalidate]
        exact (mem_add_late hc).trans (or_iff_right (hlow hbelow))
      · rw [if_neg hrevalidate, if_neg hrevalidate,
          ThermalState.isRestrictive_of_gate hgate hrevalidate]
        cases recovery.allowed with
        | true =>
          refine (mem_add_late hc).trans ?_
          rw [or_iff_right (hlow hbelow)]
          refine iff_of_false (fun heq => ?_) hne
          rw [heq] at hc
          exact absurd hc (by decide)
        | false =>
          show c ∈ List.foldl ReasonCodeSet.add _ _ ↔ c = .stateRetainedByHysteresis
          rw [mem_foldl_add, or_iff_left fun hboth => hlow hblocking hboth.1, mem_add_late hc]
          exact or_iff_right (hlow hbelow)
    · have hfree : input.previousState ≠ .revalidationRequired ∧
          input.previousState.isRestrictive = false := by
        revert hgate
        cases input.previousState <;> decide
      rw [if_pos (by simpa using hgate), if_neg hfree.1, hfree.2]
      exact iff_of_false (hlow hbelow) hne
  · have hfalse : (candidateState input evidence).isHealthy = false :=
      Bool.not_eq_true _ ▸ hcandidate
    rw [hfalse]
    exact iff_of_false (hlow hbelow) hne

/-- **From the workload codes on, the reasons of an evaluation are its late codes.** -/
theorem mem_reasons_late {c : ThermalReasonCode} (hc : 70 ≤ c.value)
    (hprofile : input.workloadProfile = .unknownProfile) :
    c ∈ (evaluateResolved input evidence).reasons ↔ c ∈ lateCodes input evidence := by
  have hne : ∀ {code : ThermalReasonCode}, code.value < 70 → c ≠ code := by
    rintro code hlt rfl
    exact Nat.not_le.mpr hlt hc
  have hvendor : ∀ b : Bool, c ≠ if b then .vendorLimitGoverns else .policyLimitGoverns := by
    intro b
    cases b <;> exact hne (by decide)
  have hraw : ∀ b : Bool, c ≠ if b then .rawHeadroomNegative else .none := by
    intro b
    cases b <;> exact hne (by decide)
  have hworkload : ∀ s, c ∈ workloadReasons input.policy .unknownProfile s ↔
      c ∈ s ∨ (c = (if (workloadExecutionClass input.policy .unknownProfile).isSome then
          .workloadProfileUnknown else .workloadProfileExcluded) ∨
        c = if 0 < workloadHeadroomDemand input.policy .unknownProfile then
          .workloadRequiresDerating else .none) := by
    intro s
    unfold workloadReasons
    dsimp only
    rw [mem_addIf_late hc, mem_addIf_late hc, mem_addIf_late hc, or_assoc, or_assoc]
    refine or_congr_right ?_
    rw [← or_assoc]
    refine or_congr ?_ (by simp)
    have hnone : c ≠ .none := hne (by decide)
    cases workloadExecutionClass input.policy .unknownProfile <;> simp [hnone]
  have hadmitted : ∀ (decision : ThermalDecision) (met : Bool) (s : ReasonCodeSet),
      c ∈ (admitHeadroom input.policy met decision s).2 ↔ c ∈ s ∨ c =
        if decision = .allow && ! met then
          if input.policy.admission.allowDeratedAdmission then .deratedAdmissionAllowed
          else .deratedAdmissionForbidden
        else .none := by
    intro decision met s
    have hbelow : c ≠ .effectiveHeadroomBelowDemand := hne (by decide)
    have hsufficient : c ≠ .effectiveHeadroomSufficient := hne (by decide)
    have hnone : c ≠ .none := hne (by decide)
    unfold admitHeadroom
    cases met
    · by_cases hallow : decision = .allow
      · cases input.policy.admission.allowDeratedAdmission <;>
          simp [hallow, mem_add_late hc, hbelow]
      · simp [hallow, mem_add_late hc, hbelow, hnone]
    · simp [mem_add_late hc, hsufficient, hnone]
  have hallow : decide (decisionForState (nextStateOf input evidence) input.policy = .allow) =
      (nextStateOf input evidence).isHealthy := by
    rw [Bool.eq_iff_iff, decide_eq_true_eq]
    exact decisionForState_eq_allow_iff _ _
  unfold evaluateResolved
  dsimp only
  rw [mem_canonicalise, mem_addIf_late hc, hadmitted, mem_addIf_late hc, hprofile, hworkload,
    mem_add_late hc, mem_addIf_late hc, mem_add_late hc,
    mem_nextThermalState_late input evidence hc, or_iff_left (hvendor _), or_iff_left (hraw _)]
  unfold lateCodes admissionCode concurrencyCut deratingKept headroomMet
  rw [← hallow, hprofile]
  simp only [List.mem_cons, List.not_mem_nil, or_false]
  tauto

/-- The headroom is told to suffice: for the demand, or, where the gate holds a domain back, for
a recovery. -/
def sufficiencyTold : Bool :=
  headroomMet input evidence ||
    ((candidateState input evidence).isHealthy && heldBack input evidence &&
      ! (input.recovery.evidenceProvenance = .unsupported &&
        input.policy.recovery.forbidRecoveryAfterUnsupportedEvidence) &&
      input.policy.recovery.requireHeadroomAboveRecoveryMargin &&
      decide (0 < (computeHeadroom (headroomInputFor input evidence)).effectiveHeadroom))

/-- A blocked recovery tells that the headroom suffices if the policy asks for headroom and there
is some. -/
theorem sufficient_mem_blockingReasons {policy : ThermalPolicy} {r : RecoveryInput}
    (hpolicy : r.policy = some policy) (hblocked : (evaluateRecovery r).allowed = false) :
    .effectiveHeadroomSufficient ∈ (evaluateRecovery r).blockingReasons ↔
      (! (r.evidenceProvenance = .unsupported &&
        policy.recovery.forbidRecoveryAfterUnsupportedEvidence)) = true ∧
      policy.recovery.requireHeadroomAboveRecoveryMargin = true ∧
      0 < r.headroom.effectiveHeadroom := by
  unfold evaluateRecovery at hblocked ⊢
  rw [hpolicy] at hblocked ⊢
  dsimp only at hblocked ⊢
  split
  · rename_i hforbidden
    rw [hforbidden]
    simp
  · rename_i hassessed
    rw [if_neg hassessed] at hblocked
    have hreasons : ∀ w below ok,
        .effectiveHeadroomSufficient ∈ recoveryReasons policy r w below ok ↔
        policy.recovery.requireHeadroomAboveRecoveryMargin = true ∧ ok = true := by
      intro w below ok
      cases below <;> cases ok <;>
        simp [recoveryReasons, mem_addIf, mem_add]
    have hblocking : (assessRecovery policy r).blockingReasons = (recoveryReasons policy r
        (walkSamples policy r (((r.history.map RecoveryHistory.samples).getD []).reverse) {})
        (r.headroom.distanceAboveRecoveryGate < 0)
        (! policy.recovery.requireHeadroomAboveRecoveryMargin ||
          decide (0 < r.headroom.effectiveHeadroom))).canonicalise := by
      show (if (assessRecovery policy r).allowed then _ else _) = _
      rw [hblocked]
      rfl
    rw [hblocking, mem_canonicalise, hreasons, Bool.eq_false_of_not_eq_true hassessed]
    cases policy.recovery.requireHeadroomAboveRecoveryMargin <;> simp

/-- The state machine tells it where the gate holds a domain back. -/
theorem sufficient_mem_nextThermalState (recovery : RecoveryAssessment) :
    .effectiveHeadroomSufficient ∈ (nextThermalState input evidence recovery []).reasons ↔
      (candidateState input evidence).isHealthy = true ∧
      holdsBack input.previousState recovery = true ∧
      .effectiveHeadroomSufficient ∈ recovery.blockingReasons := by
  unfold nextThermalState
  dsimp only
  generalize hbefore : List.foldl ReasonCodeSet.add _ _ = before
  have habsent : .effectiveHeadroomSufficient ∉ before := by
    have hscan : ∀ (policy : CouplingPolicy) (coupled : List CoupledPressure)
        (scan : CouplingScan), .effectiveHeadroomSufficient ∉ scan.reasons →
          .effectiveHeadroomSufficient ∉ (coupled.foldl (couple policy) scan).reasons := by
      intro policy coupled
      induction coupled with
      | nil => exact fun _ h => h
      | cons p coupled ih =>
        exact fun scan h => ih _ fun hmem => h ((mem_addIf_of_ne (by decide)).mp hmem)
    rw [← hbefore, mem_foldl_add, mem_add_of_ne, mem_add_of_ne, mem_addIf_of_ne (by decide)]
    · rintro (hnil | ⟨hmem, -⟩)
      · exact List.not_mem_nil hnil
      · revert hmem
        unfold coupledScan scanCoupled
        split
        · exact hscan _ _ _ List.not_mem_nil
        · exact List.not_mem_nil
    · cases resolveThrottle input evidence <;> decide
    · cases bandState _ _ _ <;> decide
  unfold hysteresisGate holdsBack
  by_cases hcandidate : (candidateState input evidence).isHealthy = true
  · simp only [hcandidate, Bool.not_true, Bool.false_eq_true, if_false, true_and]
    by_cases hgate : input.previousState.requiresRecoveryGate = true
    · simp only [hgate, Bool.not_true, Bool.false_eq_true, if_false]
      by_cases hrevalidate : input.previousState = .revalidationRequired
      · rw [if_pos hrevalidate, hrevalidate]
        exact iff_of_false (fun h => habsent ((mem_add_of_ne (by decide)).mp h))
          fun h => absurd h.1 Bool.false_ne_true
      · rw [if_neg hrevalidate, ThermalState.isRestrictive_of_gate hgate hrevalidate]
        cases recovery.allowed with
        | true =>
          exact iff_of_false (fun h => habsent ((mem_add_of_ne (by decide)).mp h))
            fun h => absurd h.1 Bool.false_ne_true
        | false =>
          show .effectiveHeadroomSufficient ∈ List.foldl ReasonCodeSet.add _ _ ↔ _
          rw [mem_foldl_add, mem_add_of_ne (by decide)]
          simp [habsent]
    · have hfree : input.previousState.isRestrictive = false := by
        revert hgate
        cases input.previousState <;> decide
      rw [if_pos (by simpa using hgate), hfree]
      exact iff_of_false habsent fun h => absurd h.1 Bool.false_ne_true
  · have hfalse : (candidateState input evidence).isHealthy = false :=
      Bool.not_eq_true _ ▸ hcandidate
    rw [hfalse]
    exact iff_of_false habsent fun h => absurd h.1 Bool.false_ne_true

theorem mem_reasons_sufficient :
    .effectiveHeadroomSufficient ∈ (evaluateResolved input evidence).reasons ↔
      sufficiencyTold input evidence = true := by
  have hadmitted : ∀ (decision : ThermalDecision) (met : Bool) (s : ReasonCodeSet),
      .effectiveHeadroomSufficient ∈ (admitHeadroom input.policy met decision s).2 ↔
        .effectiveHeadroomSufficient ∈ s ∨ met = true := by
    intro decision met s
    unfold admitHeadroom
    cases met
    · by_cases hallow : decision = .allow
      · cases input.policy.admission.allowDeratedAdmission <;> simp [hallow, mem_add]
      · simp [hallow, mem_add]
    · simp [mem_add]
  have hworkload : ∀ s, .effectiveHeadroomSufficient ∈
      workloadReasons input.policy input.workloadProfile s ↔ .effectiveHeadroomSufficient ∈ s := by
    intro s
    simp [workloadReasons, mem_addIf]
  have hdecision : ∀ state, .effectiveHeadroomSufficient ≠ decisionReason state input.policy := by
    intro state
    unfold decisionReason
    cases state <;> cases input.policy.emergency.denyAllExecution <;> decide
  have hvendor : ∀ b : Bool, ThermalReasonCode.effectiveHeadroomSufficient ≠
      if b then .vendorLimitGoverns else .policyLimitGoverns := by decide
  unfold evaluateResolved
  dsimp only
  rw [mem_canonicalise, mem_addIf_of_ne (by decide), hadmitted, mem_addIf_of_ne (by decide),
    hworkload, mem_add_of_ne (hdecision _), mem_addIf_of_ne (by decide), mem_add_of_ne (hvendor _),
    sufficient_mem_nextThermalState]
  unfold sufficiencyTold headroomMet heldBack
  simp only [Bool.or_eq_true, Bool.and_eq_true, decide_eq_true_eq]
  rw [or_comm, and_assoc, and_assoc, and_assoc]
  refine or_congr_right (and_congr_right fun _ => and_congr_right fun hheld => ?_)
  unfold holdsBack at hheld
  rw [Bool.and_eq_true, Bool.not_eq_true'] at hheld
  exact sufficient_mem_blockingReasons rfl hheld.2

end Late

end ThermalGovernor
