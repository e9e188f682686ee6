import ThermalGovernor.Evaluation.Heating

/-!
# What heating up does to an evaluation

Severity is monotone in the temperature and the concurrency ceiling antitone
(`severity_le_of_heated`): both are read off the states, which are a `Hotter` pair.

The decision and the derating level are not monotone under every policy, because two tables
disagree with the order of the states.  A headroom that is too short turns an `allow` of a
healthy state into a `deny` where derated admission is off, while the `allowDerated` of a
derated state is not asked for headroom at all.  And near the limit the level is a concurrency
derating, while a derated state that keeps its full concurrency gets a clock derating, which
ranks lower.  `withheld_le_iff` and `rank_le_iff` say that these are the only two ways, pair
of temperatures by pair, and `heating_iff_of_valid` what that asks of a policy.
-/

namespace ThermalGovernor

open EvaluationInput

/-! ### Ceilings and demands of an accepted policy -/

section Valid

variable {policy : ThermalPolicy}

/-- The ceilings of an accepted policy do not grow with the severity. -/
theorem ceilings_of_valid (h : validatePolicy policy = .ok ()) :
    policy.concurrency.warm ≤ policy.concurrency.normal ∧
    policy.concurrency.nearLimit ≤ policy.concurrency.warm ∧
    policy.concurrency.derated ≤ policy.concurrency.nearLimit ∧
    policy.concurrency.critical ≤ policy.concurrency.derated := by
  have hcheck := holds_of_valid h (i := 16) rfl
  simp only [orInvalid, Scalar.le, Bool.and_eq_true, decide_eq_true_eq] at hcheck
  obtain ⟨⟨⟨hwarm, hnear⟩, hderated⟩, hcritical⟩ := hcheck
  exact ⟨hwarm, hnear, hderated, hcritical⟩

/-- The thresholds of an accepted policy are ordered, and the first is a reading. -/
theorem thresholds_of_valid (h : validatePolicy policy = .ok ()) :
    policy.thresholds.warning < policy.thresholds.derating ∧
    policy.thresholds.derating < policy.thresholds.critical ∧
    0 < policy.thresholds.nearLimitBand ∧
    DegreesCelsius.valid policy.thresholds.warning = true := by
  have hreadings := holds_of_valid h (i := 0) rfl
  have hwarning := holds_of_valid h (i := 1) rfl
  have hderating := holds_of_valid h (i := 2) rfl
  have hband := holds_of_valid h (i := 4) rfl
  simp only [orInvalid, Bool.and_eq_true] at hreadings
  exact ⟨of_decide_eq_true hwarning, of_decide_eq_true hderating, of_decide_eq_true hband,
    hreadings.1.1.1⟩

/-- The margins and the headroom demanded by an accepted policy are not negative. -/
theorem margins_of_valid (h : validatePolicy policy = .ok ()) :
    0 ≤ policy.margins.policySafetyMargin ∧ 0 ≤ policy.margins.uncertaintyMargin ∧
    0 ≤ policy.admission.minEffectiveHeadroom := by
  have hsafety := holds_of_valid h (i := 6) rfl
  have huncertainty := holds_of_valid h (i := 7) rfl
  have hminimum := holds_of_valid h (i := 14) rfl
  simp only [orInvalid, Scalar.negative, Scalar.lt, Scalar.ofRat, id, Bool.not_eq_true',
    decide_eq_false_iff_not, not_lt] at hsafety huncertainty hminimum
  exact ⟨hsafety, huncertainty, hminimum⟩

/-- No restriction of an accepted policy takes headroom away. -/
theorem nonneg_of_restrictionChecks :
    ∀ (restrictions : List (WorkloadRestriction ℚ)) (seen : List WorkloadThermalProfile),
      (∀ check ∈ restrictionChecks seen restrictions, check.holds = true) →
      ∀ r ∈ restrictions, 0 ≤ r.extraHeadroomDemand := by
  intro restrictions
  induction restrictions with
  | nil => intro seen _ r hr; cases hr
  | cons first rest ih =>
    intro seen hchecks r hr
    rw [restrictionChecks, List.forall_mem_cons, List.forall_mem_cons] at hchecks
    obtain ⟨-, hdemand, hrest⟩ := hchecks
    rcases List.mem_cons.mp hr with rfl | hr
    · simpa [orInvalid, Scalar.negative, Scalar.lt, Scalar.ofRat] using hdemand
    · exact ih _ hrest r hr

theorem workloadHeadroomDemand_nonneg (h : validatePolicy policy = .ok ())
    (profile : WorkloadThermalProfile) : 0 ≤ workloadHeadroomDemand policy profile := by
  have hrestrictions := nonneg_of_restrictionChecks policy.workloadRestrictions [] fun check hc =>
    validatePolicy_eq_ok.mp h check (List.mem_append_right _ hc)
  unfold workloadHeadroomDemand
  split
  · rename_i r hfind
    exact hrestrictions r (List.mem_of_find?_eq_some hfind)
  · exact le_refl _

theorem concurrencyCeiling_antitone (h : validatePolicy policy = .ok ()) {s s' : ThermalState}
    (hs : Hotter s s') : concurrencyCeiling policy.concurrency s' ≤
      concurrencyCeiling policy.concurrency s := by
  obtain ⟨hwarm, hnear, hderated, hcritical⟩ := ceilings_of_valid h
  have hnormal := hnear.trans hwarm
  cases hs with
  | same => exact le_refl _
  | critical =>
    show policy.concurrency.critical ≤ _
    cases s <;> simp only [concurrencyCeiling] <;> linarith
  | derated hs =>
    show policy.concurrency.derated ≤ _
    cases s with
    | normal => exact hderated.trans hnormal
    | warm => exact hderated.trans hnear
    | nearLimit => exact hderated
    | derated | throttling | critical | revalidationRequired | unknown | unsupported => cases hs
  | healthy hs' hle =>
    cases s' with
    | normal =>
      obtain rfl : s = .normal := ThermalState.severity_injective (Nat.le_zero.mp hle)
      exact le_refl _
    | warm =>
      cases s with
      | normal => exact hwarm
      | warm => exact le_refl _
      | nearLimit | derated | throttling | critical | revalidationRequired | unknown
      | unsupported => exact absurd hle (by decide)
    | nearLimit =>
      cases s with
      | normal => exact hnormal
      | warm => exact hnear
      | nearLimit => exact le_refl _
      | derated | throttling | critical | revalidationRequired | unknown | unsupported =>
        exact absurd hle (by decide)
    | derated | throttling | critical | revalidationRequired | unknown | unsupported => cases hs'

end Valid

/-! ### The two evaluations -/

section Heated

variable {input : EvaluationInput} {evidence : ThermalEvidence} {low high : DegreesCelsius}

theorem resolvedEvidence_heatedTo (input : EvaluationInput) (t : DegreesCelsius) :
    resolvedEvidence (input.heatedTo t) =
      (resolvedEvidence input).map fun e => { e with temperature := t } := by
  unfold resolvedEvidence heatedTo
  dsimp only
  split <;> rfl

/-- A refusal does not look at the temperature. -/
theorem standing_heatedTo_of_refused (h : resolvedEvidence input = none) (t : DegreesCelsius) :
    (evaluateThermal (input.heatedTo t)).standing = (evaluateThermal input).standing := by
  have hheated : resolvedEvidence (input.heatedTo t) = none := by
    rw [resolvedEvidence_heatedTo, h]
    rfl
  rw [standing_of_refused h, standing_of_refused hheated]
  rfl

/-- What passes the hard predicates is evaluated at the temperature given. -/
theorem standing_heatedTo (h : resolvedEvidence input = some evidence) (t : DegreesCelsius) :
    (evaluateThermal (input.heatedTo t)).standing =
      standingOf input { evidence with temperature := t }
        (evaluateResolved input { evidence with temperature := t }).state := by
  have hresolved : resolvedEvidence (input.heatedTo t) =
      some { evidence with temperature := t } := by
    rw [resolvedEvidence_heatedTo, h]
    rfl
  rw [evaluateThermal_of_resolved hresolved, standing_evaluateResolved]
  rfl

end Heated

/-- An input under a policy with a measured limit where its warning begins. -/
def limitedInput (policy : ThermalPolicy) : EvaluationInput where
  policy := policy
  evidence := some
    { provenance := .real, temperatureLimit := some policy.thresholds.warning }
  freshness := .fresh
  temperatureCapability := .supportedReal
  limitCapability := .supportedReal

/-- **Heating up never lowers the severity and never raises the concurrency**, under an
accepted policy and with everything but the temperature of the evidence unchanged. -/
theorem severity_le_of_heated {input : EvaluationInput}
    (hpolicy : validatePolicy input.policy = .ok ()) {low high : DegreesCelsius}
    (h : low ≤ high) :
    (evaluateThermal (input.heatedTo low)).state.severity ≤
      (evaluateThermal (input.heatedTo high)).state.severity ∧
    (evaluateThermal (input.heatedTo high)).permittedConcurrency ≤
      (evaluateThermal (input.heatedTo low)).permittedConcurrency := by
  cases hresolved : resolvedEvidence input with
  | none =>
    have hlow := standing_heatedTo_of_refused hresolved low
    have hhigh := standing_heatedTo_of_refused hresolved high
    have hsame := hlow.trans hhigh.symm
    have hstate := congrArg Standing.state hsame
    have hconcurrency := congrArg Standing.concurrency hsame
    exact ⟨(congrArg ThermalState.severity hstate).le, hconcurrency.ge⟩
  | some evidence =>
    have hpair := hotter_evaluateResolved input evidence h
    have hstate : ∀ t, (evaluateThermal (input.heatedTo t)).state =
        (evaluateResolved input { evidence with temperature := t }).state := fun t =>
      congrArg Standing.state (standing_heatedTo hresolved t)
    have hconcurrency : ∀ t, (evaluateThermal (input.heatedTo t)).permittedConcurrency =
        concurrencyCeiling input.policy.concurrency
          (evaluateResolved input { evidence with temperature := t }).state := fun t =>
      congrArg Standing.concurrency (standing_heatedTo hresolved t)
    rw [hstate, hstate, hconcurrency, hconcurrency]
    exact ⟨hpair.severity_le, concurrencyCeiling_antitone hpolicy hpair⟩

theorem severity_le_of_heated_default :
    (evaluateThermal ((limitedInput .makeDefault).heatedTo 70)).state.severity ≤
      (evaluateThermal ((limitedInput .makeDefault).heatedTo 90)).state.severity ∧
    (evaluateThermal ((limitedInput .makeDefault).heatedTo 90)).permittedConcurrency ≤
      (evaluateThermal ((limitedInput .makeDefault).heatedTo 70)).permittedConcurrency := by
  have hpolicy : validatePolicy (limitedInput .makeDefault).policy = .ok () :=
    validatePolicy_makeDefault
  have hle : (70 : DegreesCelsius) ≤ 90 := by norm_num
  exact severity_le_of_heated hpolicy hle

/-! ### Decision and derating of a pair -/

/-- How far a decision is from letting a workload run. -/
def ThermalDecision.withheld : ThermalDecision → Nat
  | .allow => 0
  | .allowDerated => 1
  | .defer | .deny | .revalidationRequired | .unknown | .unsupported => 2

section Pair

variable {policy : ThermalPolicy} {s s' : ThermalState}

/-- Outside the healthy states something is always withheld. -/
theorem one_le_withheld (h : s.isHealthy = false) :
    1 ≤ (decisionForState s policy).withheld := by
  cases hd : decisionForState s policy with
  | allow =>
    rw [decisionForState_allow hd] at h
    cases h
  | allowDerated | defer | deny | revalidationRequired | unknown | unsupported => decide

/-- A healthy state is allowed as far as the headroom and the policy go. -/
theorem admitted_of_healthy (h : s.isHealthy = true) (met : Bool) :
    (admitHeadroom policy met (decisionForState s policy) []).1 =
      if met then .allow
      else if policy.admission.allowDeratedAdmission then .allowDerated else .deny := by
  have hallow : decisionForState s policy = .allow := by
    cases s with
    | normal | warm | nearLimit => rfl
    | derated | throttling | critical | revalidationRequired | unknown | unsupported => cases h
  rw [hallow]
  unfold admitHeadroom
  cases met
  · cases policy.admission.allowDeratedAdmission <;> rfl
  · rfl

/-- Another state is not asked for headroom. -/
theorem admitted_of_unhealthy (h : s.isHealthy = false) (met : Bool) :
    (admitHeadroom policy met (decisionForState s policy) []).1 = decisionForState s policy := by
  have hallow : decisionForState s policy ≠ .allow := fun hallow => by
    rw [decisionForState_allow hallow] at h
    cases h
  unfold admitHeadroom
  cases met
  · simp only [Bool.false_eq_true, if_false]
    rw [if_neg hallow]
  · rfl

/-- Heating up turns a denial into a derated execution: the colder reading is healthy but short
of headroom, which its policy does not let pass, and the hotter one is not asked. -/
def DecisionRelaxes (policy : ThermalPolicy) (met : Bool) (s s' : ThermalState) : Prop :=
  s.isHealthy = true ∧ met = false ∧ policy.admission.allowDeratedAdmission = false ∧
    s'.isHealthy = false ∧ decisionForState s' policy = .allowDerated

theorem withheld_le_iff (policy : ThermalPolicy) (h : Hotter s s') {met met' : Bool}
    (hmet : met' = true → met = true) :
    (admitHeadroom policy met (decisionForState s policy) []).1.withheld ≤
      (admitHeadroom policy met' (decisionForState s' policy) []).1.withheld ↔
    ¬ DecisionRelaxes policy met s s' := by
  have hcold : s'.isHealthy = true → s.isHealthy = true := fun h' =>
    (isHealthy_iff_severity s).mpr (h.severity_le.trans ((isHealthy_iff_severity s').mp h'))
  unfold DecisionRelaxes
  cases hs' : s'.isHealthy with
  | true =>
    rw [admitted_of_healthy (hcold hs'), admitted_of_healthy hs']
    simp only [Bool.true_eq_false, false_and, and_false, not_false_eq_true, iff_true]
    cases met' with
    | true => rw [hmet rfl]
    | false =>
      cases met
      · exact le_refl _
      · exact Nat.zero_le _
  | false =>
    rw [admitted_of_unhealthy hs']
    cases hs : s.isHealthy with
    | true =>
      rw [admitted_of_healthy hs]
      have hatleast : 1 ≤ (decisionForState s' policy).withheld := one_le_withheld hs'
      have hderated : (decisionForState s' policy).withheld < 2 ↔
          decisionForState s' policy = .allowDerated := by
        generalize decisionForState s' policy = d at hatleast
        cases d <;> simp_all [ThermalDecision.withheld]
      cases met with
      | true => simp [ThermalDecision.withheld]
      | false =>
        cases policy.admission.allowDeratedAdmission with
        | true => exact iff_of_true hatleast fun hc => absurd hc.2.2.1 (by decide)
        | false =>
          simp only [true_and, ← hderated]
          exact not_lt.symm
    | false =>
      rw [admitted_of_unhealthy hs]
      simp only [Bool.false_eq_true, false_and, not_false_eq_true, iff_true]
      cases h with
      | same => exact le_refl _
      | critical hle =>
        cases s with
        | derated | throttling => exact one_le_withheld rfl
        | critical => exact le_refl _
        | normal | warm | nearLimit => cases hs
        | revalidationRequired | unknown | unsupported => exact absurd hle (by decide)
      | derated h => rw [h] at hs; cases hs
      | healthy h' => rw [h'] at hs'; cases hs'

/-- Heating up lowers the level: the derating near the limit ranks above the one of a derated
state that keeps its full concurrency, and no previous level makes up for it. -/
def DeratingRelaxes (input : EvaluationInput) (restricted : Bool) (s s' : ThermalState) : Prop :=
  s = .nearLimit ∧ s' = .derated ∧ ¬ input.policy.concurrency.derated < 100 ∧
    (input.previousDerating = .unknown ∨ input.previousDerating.restrictionRank <
      (deratingForState .nearLimit input.policy restricted).restrictionRank)

/-- The previous level counts where the state is restrictive or undecided. -/
theorem rank_clampDerating (input : EvaluationInput) (s : ThermalState) (d : DeratingLevel) :
    (clampDerating input s d).1.restrictionRank =
      if input.previousDerating ≠ .unknown ∧ s.isHealthy = false ∧ s ≠ .revalidationRequired then
        max d.restrictionRank input.previousDerating.restrictionRank
      else d.restrictionRank := by
  unfold clampDerating
  simp only [Bool.and_eq_true, Bool.not_eq_true', decide_eq_true_eq]
  by_cases h : input.previousDerating ≠ .unknown ∧ s.isHealthy = false ∧ s ≠ .revalidationRequired
  · rw [if_pos h]
    by_cases hlt : d.restrictionRank < input.previousDerating.restrictionRank
    · rw [if_pos ⟨⟨⟨h.1, h.2.1⟩, h.2.2⟩, hlt⟩, max_eq_right hlt.le]
      show (d.mostRestrictive input.previousDerating).restrictionRank = _
      unfold DeratingLevel.mostRestrictive
      rw [if_neg (by omega)]
    · rw [if_neg fun hc => hlt hc.2, max_eq_left (not_lt.mp hlt)]
  · rw [if_neg h, if_neg fun hc => h ⟨hc.1.1.1, hc.1.1.2, hc.1.2⟩]

/-- The ranks of the levels, by state. -/
theorem rank_deratingForState (policy : ThermalPolicy) (restricted : Bool) :
    (deratingForState .normal policy restricted).restrictionRank = 0 ∧
    (deratingForState .warm policy restricted).restrictionRank = (if restricted then 1 else 0) ∧
    (deratingForState .nearLimit policy restricted).restrictionRank =
      (if restricted then 5 else 4) ∧
    (deratingForState .derated policy restricted).restrictionRank =
      (if policy.concurrency.derated < 100 then 5 else 2) ∧
    (deratingForState .throttling policy restricted).restrictionRank = 5 ∧
    (deratingForState .critical policy restricted).restrictionRank = 6 := by
  refine ⟨rfl, ?_, ?_, ?_, rfl, rfl⟩
  · cases restricted <;> rfl
  · cases restricted <;> rfl
  · exact apply_ite DeratingLevel.restrictionRank _ _ _

theorem rank_le_iff (input : EvaluationInput) (restricted : Bool) (h : Hotter s s') :
    (clampDerating input s (deratingForState s input.policy restricted)).1.restrictionRank ≤
      (clampDerating input s' (deratingForState s' input.policy restricted)).1.restrictionRank ↔
    ¬ DeratingRelaxes input restricted s s' := by
  obtain ⟨hnormal, hwarm, hnear, hderated, hthrottling, hcritical⟩ :=
    rank_deratingForState input.policy restricted
  have hwarm' : (deratingForState .warm input.policy restricted).restrictionRank ≤ 1 := by
    rw [hwarm]; split <;> omega
  have hnear' : (deratingForState .nearLimit input.policy restricted).restrictionRank ≤ 5 ∧
      4 ≤ (deratingForState .nearLimit input.policy restricted).restrictionRank := by
    rw [hnear]; split <;> omega
  rw [rank_clampDerating, rank_clampDerating]
  unfold DeratingRelaxes
  cases h with
  | same =>
    refine iff_of_true (le_refl _) fun hc => ?_
    have heq := hc.1.symm.trans hc.2.1
    cases heq
  | critical hle =>
    refine iff_of_true ?_ fun hc => by cases hc.2.1
    have hlow : (deratingForState s input.policy restricted).restrictionRank ≤ 6 := by
      cases s with
      | normal => omega
      | warm => omega
      | nearLimit => omega
      | derated => rw [hderated]; split <;> omega
      | throttling => omega
      | critical => omega
      | revalidationRequired | unknown | unsupported => exact absurd hle (by decide)
    by_cases hprevious : input.previousDerating = .unknown
    · rw [if_neg fun hc => hc.1 hprevious, if_neg fun hc => hc.1 hprevious]
      omega
    · rw [if_pos (show _ ∧ ThermalState.critical.isHealthy = false ∧ _ from
        ⟨hprevious, rfl, by decide⟩)]
      split <;> omega
  | derated hs =>
    rw [if_neg (by simp [hs])]
    by_cases hfull : input.policy.concurrency.derated < 100
    · -- a combined derating ranks with the highest level of a healthy state
      rw [if_pos hfull] at hderated
      refine iff_of_true ?_ fun hc => hc.2.2.1 hfull
      have hlow : (deratingForState s input.policy restricted).restrictionRank ≤ 5 := by
        cases s with
        | normal | warm | nearLimit => omega
        | derated | throttling | critical | revalidationRequired | unknown | unsupported =>
          cases hs
      split <;> omega
    · rw [if_neg hfull] at hderated
      by_cases hs' : s = .nearLimit
      · subst hs'
        simp only [true_and, hfull, not_false_eq_true]
        by_cases hprevious : input.previousDerating = .unknown
        · rw [if_neg fun hc => hc.1 hprevious]
          refine iff_of_false (by omega) fun hc => hc (.inl hprevious)
        · rw [if_pos (show _ ∧ ThermalState.derated.isHealthy = false ∧ _ from
            ⟨hprevious, rfl, by decide⟩)]
          simp only [hprevious, false_or]
          omega
      · refine iff_of_true ?_ fun hc => hs' hc.1
        have hlow : (deratingForState s input.policy restricted).restrictionRank ≤ 1 := by
          cases s with
          | normal | warm => omega
          | nearLimit => exact absurd rfl hs'
          | derated | throttling | critical | revalidationRequired | unknown | unsupported =>
            cases hs
        split <;> omega
  | healthy hs' hle =>
    have hs := (isHealthy_iff_severity s).mpr (hle.trans ((isHealthy_iff_severity s').mp hs'))
    rw [if_neg (by simp [hs]), if_neg (by simp [hs'])]
    refine iff_of_true ?_ fun hc => ?_
    · cases s' with
      | normal =>
        obtain rfl : s = .normal := ThermalState.severity_injective (Nat.le_zero.mp hle)
        exact le_refl _
      | warm =>
        cases s with
        | normal => omega
        | warm => exact le_refl _
        | nearLimit => exact absurd hle (by decide)
        | derated | throttling | critical | revalidationRequired | unknown | unsupported =>
          cases hs
      | nearLimit =>
        cases s with
        | normal | warm | nearLimit => omega
        | derated | throttling | critical | revalidationRequired | unknown | unsupported =>
          cases hs
      | derated | throttling | critical | revalidationRequired | unknown | unsupported => cases hs'
    · rw [hc.2.1] at hs'
      cases hs'

end Pair

/-! ### What monotonicity asks of a policy -/

/-- Heating up makes no decision more permissive, whatever else the input holds. -/
def DecisionMonotone (policy : ThermalPolicy) : Prop :=
  ∀ input : EvaluationInput, input.policy = policy → ∀ low high, low ≤ high →
    (evaluateThermal (input.heatedTo low)).decision.withheld ≤
      (evaluateThermal (input.heatedTo high)).decision.withheld

/-- Heating up lowers no derating level, whatever else the input holds. -/
def DeratingMonotone (policy : ThermalPolicy) : Prop :=
  ∀ input : EvaluationInput, input.policy = policy → ∀ low high, low ≤ high →
    (evaluateThermal (input.heatedTo low)).derating.restrictionRank ≤
      (evaluateThermal (input.heatedTo high)).derating.restrictionRank

/-- The headroom of a reading covers the demand of the policy and the workload. -/
def headroomMet (input : EvaluationInput) (evidence : ThermalEvidence) : Bool :=
  (computeHeadroom (headroomInputFor input evidence)).meetsDemand
    (input.policy.admission.minEffectiveHeadroom +
      (workloadTerms input.policy input.workloadProfile).demand)

/-- The next thermal state of a reading. -/
def nextStateOf (input : EvaluationInput) (evidence : ThermalEvidence) : ThermalState :=
  (nextThermalState input evidence (evaluateRecovery (recoveryInputFor input
    (computeHeadroom (headroomInputFor input evidence)))) []).state

/-- The decision relaxes from one temperature of the evidence to the other. -/
def EvaluationInput.decisionRelaxes (input : EvaluationInput) (low high : DegreesCelsius) : Prop :=
  ∃ evidence, resolvedEvidence input = some evidence ∧
    DecisionRelaxes input.policy (headroomMet input { evidence with temperature := low })
      (nextStateOf input { evidence with temperature := low })
      (nextStateOf input { evidence with temperature := high })

/-- The derating relaxes from one temperature of the evidence to the other. -/
def EvaluationInput.deratingRelaxes (input : EvaluationInput) (low high : DegreesCelsius) : Prop :=
  ∃ evidence, resolvedEvidence input = some evidence ∧
    DeratingRelaxes input (workloadTerms input.policy input.workloadProfile).restricted
      (nextStateOf input { evidence with temperature := low })
      (nextStateOf input { evidence with temperature := high })

section Pairs

variable {input : EvaluationInput} {low high : DegreesCelsius}

theorem withheld_heatedTo_iff (h : low ≤ high) :
    (evaluateThermal (input.heatedTo low)).decision.withheld ≤
        (evaluateThermal (input.heatedTo high)).decision.withheld ↔
      ¬ input.decisionRelaxes low high := by
  unfold EvaluationInput.decisionRelaxes
  cases hresolved : resolvedEvidence input with
  | none =>
    have hsame := congrArg Standing.decision ((standing_heatedTo_of_refused hresolved low).trans
      (standing_heatedTo_of_refused hresolved high).symm)
    refine iff_of_true (congrArg ThermalDecision.withheld hsame).le fun hc => ?_
    obtain ⟨_, hnone, -⟩ := hc
    cases hnone
  | some evidence =>
    have hdecision := fun t => congrArg Standing.decision (standing_heatedTo hresolved t)
    have hmet : headroomMet input { evidence with temperature := high } = true →
        headroomMet input { evidence with temperature := low } = true :=
      meetsDemand_of_hotter input evidence h
    have hiff := withheld_le_iff input.policy (hotter_evaluateResolved input evidence h) hmet
    have hpair : (evaluateThermal (input.heatedTo low)).decision.withheld ≤
        (evaluateThermal (input.heatedTo high)).decision.withheld ↔ _ :=
      (iff_of_eq (congrArg₂ (fun a b : ThermalDecision => a.withheld ≤ b.withheld)
        (hdecision low) (hdecision high))).trans hiff
    rw [hpair]
    simp only [Option.some.injEq, exists_eq_left']
    rfl

theorem rank_heatedTo_iff (h : low ≤ high) :
    (evaluateThermal (input.heatedTo low)).derating.restrictionRank ≤
        (evaluateThermal (input.heatedTo high)).derating.restrictionRank ↔
      ¬ input.deratingRelaxes low high := by
  unfold EvaluationInput.deratingRelaxes
  cases hresolved : resolvedEvidence input with
  | none =>
    have hsame := congrArg Standing.derating ((standing_heatedTo_of_refused hresolved low).trans
      (standing_heatedTo_of_refused hresolved high).symm)
    refine iff_of_true (congrArg DeratingLevel.restrictionRank hsame).le fun hc => ?_
    obtain ⟨_, hnone, -⟩ := hc
    cases hnone
  | some evidence =>
    have hderating := fun t => congrArg Standing.derating (standing_heatedTo hresolved t)
    have hiff := rank_le_iff input
      (workloadTerms input.policy input.workloadProfile).restricted
      (hotter_evaluateResolved input evidence h)
    have hpair : (evaluateThermal (input.heatedTo low)).derating.restrictionRank ≤
        (evaluateThermal (input.heatedTo high)).derating.restrictionRank ↔ _ :=
      (iff_of_eq (congrArg₂ (fun a b : DeratingLevel => a.restrictionRank ≤ b.restrictionRank)
        (hderating low) (hderating high))).trans hiff
    rw [hpair]
    simp only [Option.some.injEq, exists_eq_left']
    rfl

end Pairs

section Valid

variable {policy : ThermalPolicy}

/-- Without coupled domains and a state before, the next state is the band. -/
theorem nextStateOf_limitedInput (evidence : ThermalEvidence) (h : evidence.throttle = none) :
    nextStateOf (limitedInput policy) evidence =
      bandState policy.thresholds .throttleUnknown evidence.temperature := by
  have hcandidate : candidateState (limitedInput policy) evidence =
      bandState policy.thresholds .throttleUnknown evidence.temperature := by
    have hthrottle : resolveThrottle (limitedInput policy) evidence = .throttleUnknown := by
      unfold resolveThrottle
      rw [h]
      rfl
    unfold candidateState coupledScan scanCoupled
    rw [hthrottle]
    split <;> rfl
  unfold nextStateOf nextThermalState
  dsimp only
  rw [hysteresisGate_eq, hcandidate]
  rw [if_neg (by simp [holdsBack, limitedInput, ThermalState.isRestrictive])]

theorem bandState_derating (h : validatePolicy policy = .ok ()) :
    bandState policy.thresholds .throttleUnknown policy.thresholds.derating = .derated := by
  obtain ⟨-, hcritical, -⟩ := thresholds_of_valid h
  unfold bandState
  rw [if_neg (not_le.mpr hcritical), if_neg (by decide), if_pos (le_refl _)]

theorem isHealthy_bandState_of_lt (h : validatePolicy policy = .ok ()) {t : DegreesCelsius}
    (ht : t < policy.thresholds.derating) :
    (bandState policy.thresholds .throttleUnknown t).isHealthy = true := by
  obtain ⟨-, hcritical, -⟩ := thresholds_of_valid h
  unfold bandState
  rw [if_neg (not_le.mpr (ht.trans hcritical)), if_neg (by decide), if_neg (not_le.mpr ht)]
  repeat' split
  all_goals rfl

/-- Above its measured limit the input is short of any headroom. -/
theorem headroomMet_limitedInput (h : validatePolicy policy = .ok ()) {t : DegreesCelsius}
    (ht : policy.thresholds.warning < t) :
    headroomMet (limitedInput policy)
      { provenance := .real, temperatureLimit := some policy.thresholds.warning,
        temperature := t } = false := by
  obtain ⟨-, -, -, hvalid⟩ := thresholds_of_valid h
  obtain ⟨hsafety, huncertainty, hminimum⟩ := margins_of_valid h
  have hdemand := workloadHeadroomDemand_nonneg h .unknownProfile
  by_contra hmet
  rw [Bool.not_eq_false] at hmet
  have hfits := le_governingLimit_of_meetsDemand hmet
  have hlimit : governingLimit (headroomInputFor (limitedInput policy)
      { provenance := .real, temperatureLimit := some policy.thresholds.warning,
        temperature := t }) ≤ policy.thresholds.warning :=
    governingLimit_le_vendorLimit rfl hvalid rfl
  have hterms : (workloadTerms policy .unknownProfile).demand =
      workloadHeadroomDemand policy .unknownProfile := by
    unfold workloadTerms
    split <;> rfl
  have hsum : t + policy.margins.policySafetyMargin + policy.margins.uncertaintyMargin +
      (policy.admission.minEffectiveHeadroom + (workloadTerms policy .unknownProfile).demand) ≤
      policy.thresholds.warning := hfits.trans hlimit
  rw [hterms] at hsum
  linarith

/-- **Heating up makes no decision more permissive exactly under the policies that let a
workload without headroom pass derated.** -/
theorem decisionMonotone_iff (h : validatePolicy policy = .ok ()) :
    DecisionMonotone policy ↔ policy.admission.allowDeratedAdmission = true := by
  constructor
  · intro hmonotone
    by_contra hallow
    rw [Bool.not_eq_true] at hallow
    obtain ⟨hwarning, -⟩ := thresholds_of_valid h
    -- between the two thresholds the state is healthy and the measured limit exceeded; at the
    -- derating threshold the limit is exceeded too, but a derated state is not asked for it
    let low : DegreesCelsius :=
      ((policy.thresholds.warning : ℚ) + policy.thresholds.derating) / 2
    have habove : policy.thresholds.warning < low := by
      show (policy.thresholds.warning : ℚ) < _ / 2
      linarith
    have hbelow : low < policy.thresholds.derating := by
      show _ / 2 < (policy.thresholds.derating : ℚ)
      linarith
    refine (withheld_heatedTo_iff hbelow.le).mp (hmonotone (limitedInput policy) rfl _ _ hbelow.le)
      ⟨_, rfl, ?_, headroomMet_limitedInput h habove, hallow, ?_, ?_⟩
    · rw [nextStateOf_limitedInput _ rfl]
      exact isHealthy_bandState_of_lt h hbelow
    · rw [nextStateOf_limitedInput _ rfl, bandState_derating h]
      rfl
    · rw [nextStateOf_limitedInput _ rfl, bandState_derating h]
      rfl
  · intro hallow input hpolicy low high hle
    rw [withheld_heatedTo_iff hle]
    rintro ⟨evidence, -, -, -, hforbidden, -⟩
    rw [hpolicy, hallow] at hforbidden
    cases hforbidden

/-- **Heating up lowers no derating level exactly under the policies that take concurrency
away from a derated domain.** -/
theorem deratingMonotone_iff (h : validatePolicy policy = .ok ()) :
    DeratingMonotone policy ↔ policy.concurrency.derated < 100 := by
  constructor
  · intro hmonotone
    by_contra hfull
    obtain ⟨-, hcritical, hband, -⟩ := thresholds_of_valid h
    have hbelow : policy.thresholds.nearLimitStart < policy.thresholds.derating := by
      show (policy.thresholds.derating : ℚ) - policy.thresholds.nearLimitBand < _
      linarith
    refine (rank_heatedTo_iff hbelow.le).mp (hmonotone (limitedInput policy) rfl _ _ hbelow.le)
      ⟨_, rfl, ?_, ?_, hfull, .inl rfl⟩
    · rw [nextStateOf_limitedInput _ rfl]
      unfold bandState
      rw [if_neg (not_le.mpr (hbelow.trans hcritical)), if_neg (by decide),
        if_neg (not_le.mpr hbelow), if_pos (le_refl _)]
    · rw [nextStateOf_limitedInput _ rfl, bandState_derating h]
  · intro hfull input hpolicy low high hle
    rw [rank_heatedTo_iff hle]
    rintro ⟨evidence, -, -, -, hceiling, -⟩
    rw [hpolicy] at hceiling
    exact hceiling hfull

/-- **When heating up lets nothing more through**: for a pair of temperatures, unless one of
the two relaxations applies to it; and for all of them, when the policy allows derated
admission and takes concurrency away from a derated domain. -/
theorem heating_iff_of_valid (h : validatePolicy policy = .ok ()) :
    (∀ input : EvaluationInput, input.policy = policy → ∀ low high, low ≤ high →
      ((evaluateThermal (input.heatedTo low)).decision.withheld ≤
            (evaluateThermal (input.heatedTo high)).decision.withheld ∧
          (evaluateThermal (input.heatedTo low)).derating.restrictionRank ≤
            (evaluateThermal (input.heatedTo high)).derating.restrictionRank ↔
        ¬ input.decisionRelaxes low high ∧ ¬ input.deratingRelaxes low high)) ∧
    (DecisionMonotone policy ∧ DeratingMonotone policy ↔
      policy.admission.allowDeratedAdmission = true ∧ policy.concurrency.derated < 100) :=
  ⟨fun _ _ _ _ hle => and_congr (withheld_heatedTo_iff hle) (rank_heatedTo_iff hle),
    and_congr (decisionMonotone_iff h) (deratingMonotone_iff h)⟩

end Valid

theorem heating_iff_of_valid_default :
    DecisionMonotone .makeDefault ∧ DeratingMonotone .makeDefault :=
  (heating_iff_of_valid validatePolicy_makeDefault).2.mpr ⟨rfl, by decide +kernel⟩

/-- The default policy without derated admission. -/
def strictPolicy : ThermalPolicy :=
  { PolicyOver.makeDefault with
    admission := { minEffectiveHeadroom := 2, allowDeratedAdmission := false } }

/-- The default policy with full concurrency in every state but the last. -/
def fullPolicy : ThermalPolicy :=
  { PolicyOver.makeDefault with
    concurrency := { normal := 100, warm := 100, nearLimit := 100, derated := 100, critical := 0 } }

/-- Under the one policy four degrees more turn a denial into a derated execution, under the
other three degrees more lower the level from a combined derating to one of the clock. -/
theorem heating_relaxes :
    (validatePolicy strictPolicy = .ok () ∧
      (evaluateThermal ((limitedInput strictPolicy).heatedTo 76)).decision = .deny ∧
      (evaluateThermal ((limitedInput strictPolicy).heatedTo 80)).decision = .allowDerated) ∧
    validatePolicy fullPolicy = .ok () ∧
      (evaluateThermal ((limitedInput fullPolicy).heatedTo 77)).derating = .deratedCombined ∧
      (evaluateThermal ((limitedInput fullPolicy).heatedTo 80)).derating = .deratedClock := by
  decide +kernel

end ThermalGovernor
