import ThermalGovernor.Evaluation.Standing

/-!
# A hotter reading

Two inputs that differ in the temperature of their evidence alone (`heatedTo`) are compared
stage by stage.  `Hotter s s'` says what a higher temperature can make of a state: nothing,
`critical`, `derated` where the state was healthy, or another healthy state of a higher
severity.  The band gives such a pair, coupled pressure keeps it, since it escalates both
candidates to the same state, and so does the hysteresis gate, since a recovery that is
allowed at the higher temperature is allowed at the lower one.

So the states of the two evaluations are such a pair (`hotter_evaluateResolved`), and what is
read off the states is compared by cases on it.
-/

namespace ThermalGovernor

/-- The same input with its evidence at another temperature. -/
def EvaluationInput.heatedTo (input : EvaluationInput) (temperature : DegreesCelsius) :
    EvaluationInput :=
  { input with evidence := input.evidence.map fun e => { e with temperature := temperature } }

/-- What a higher temperature can make of a state. -/
inductive Hotter : ThermalState → ThermalState → Prop
  | same (s : ThermalState) : Hotter s s
  | critical {s : ThermalState} (h : s.severity ≤ 5) : Hotter s .critical
  | derated {s : ThermalState} (h : s.isHealthy = true) : Hotter s .derated
  | healthy {s s' : ThermalState} (h' : s'.isHealthy = true) (h : s.severity ≤ s'.severity) :
    Hotter s s'

theorem isHealthy_iff_severity (s : ThermalState) : s.isHealthy = true ↔ s.severity ≤ 2 := by
  cases s <;> decide

theorem Hotter.severity_le {s s' : ThermalState} (h : Hotter s s') :
    s.severity ≤ s'.severity := by
  cases h with
  | same => exact le_refl _
  | critical h => exact h
  | derated h =>
    have := (isHealthy_iff_severity s).mp h
    show s.severity ≤ 3
    omega
  | healthy _ h => exact h

/-! ### The stages of the candidate -/

theorem severity_bandState_le (t : ThermalThresholds ℚ) (throttle : ThrottleClass)
    (temperature : DegreesCelsius) : (bandState t throttle temperature).severity ≤ 5 := by
  unfold bandState
  repeat' split
  all_goals decide

/-- The band of a higher temperature. -/
theorem hotter_bandState (t : ThermalThresholds ℚ) (throttle : ThrottleClass)
    {low high : DegreesCelsius} (h : low ≤ high) :
    Hotter (bandState t throttle low) (bandState t throttle high) := by
  by_cases hcritical : t.critical ≤ high
  · have hband : bandState t throttle high = .critical := if_pos hcritical
    rw [hband]
    exact .critical (severity_bandState_le t throttle low)
  have hlow : ¬ t.critical ≤ low := fun hc => hcritical (hc.trans h)
  by_cases hthrottle : throttle = .thermalThrottleObserved
  · have hband : ∀ temperature, ¬ t.critical ≤ temperature →
        bandState t throttle temperature = .throttling := fun temperature hc =>
      (if_neg hc).trans (if_pos hthrottle)
    rw [hband low hlow, hband high hcritical]
    exact .same _
  have hbelow : ∀ temperature, ¬ t.critical ≤ temperature →
      bandState t throttle temperature =
        if t.derating ≤ temperature then .derated
        else if t.nearLimitStart ≤ temperature then .nearLimit
        else if t.warning ≤ temperature then .warm
        else .normal := fun temperature hc => (if_neg hc).trans (if_neg hthrottle)
  rw [hbelow low hlow, hbelow high hcritical]
  by_cases hderated : t.derating ≤ high
  · rw [if_pos hderated]
    by_cases hlow' : t.derating ≤ low
    · rw [if_pos hlow']
      exact .same _
    · rw [if_neg hlow']
      refine .derated ?_
      repeat' split
      all_goals rfl
  · rw [if_neg hderated, if_neg fun hc => hderated (hc.trans h)]
    by_cases hnear : t.nearLimitStart ≤ high
    · rw [if_pos hnear]
      refine .healthy rfl ?_
      repeat' split
      all_goals decide
    · rw [if_neg hnear, if_neg fun hc => hnear (hc.trans h)]
      by_cases hwarm : t.warning ≤ high
      · rw [if_pos hwarm]
        refine .healthy rfl ?_
        split <;> decide
      · rw [if_neg hwarm, if_neg fun hc => hwarm (hc.trans h)]
        exact .same _

/-- Escalating two candidates to the same state. -/
theorem Hotter.escalate {s s' : ThermalState} (h : Hotter s s') (m : ThermalState) :
    Hotter (escalate s m) (escalate s' m) := by
  unfold ThermalGovernor.escalate
  have hle := h.severity_le
  by_cases hm : s'.severity < m.severity
  · rw [if_pos hm, if_pos (lt_of_le_of_lt hle hm)]
    exact .same m
  rw [if_neg hm]
  cases h with
  | same => rw [if_neg hm]; exact .same s
  | critical h =>
    refine .critical ?_
    have hfive : ThermalState.critical.severity = 5 := rfl
    split <;> omega
  | derated h =>
    by_cases hlow : s.severity < m.severity
    · rw [if_pos hlow]
      by_cases hm' : m = .derated
      · rw [hm']; exact .same _
      · refine .derated ((isHealthy_iff_severity m).mpr ?_)
        have hthree : ThermalState.derated.severity = 3 := rfl
        have hne : m.severity ≠ 3 := fun hc =>
          hm' (ThermalState.severity_injective (hc.trans hthree.symm))
        omega
    · rw [if_neg hlow]
      exact .derated h
  | healthy h' h =>
    refine .healthy h' ?_
    split <;> omega

/-- The scan of the coupled domains goes over the same states from either candidate. -/
theorem hotter_foldl_couple (policy : CouplingPolicy) (coupled : List CoupledPressure) :
    ∀ (a b : CouplingScan), Hotter a.candidate b.candidate → a.pressured = b.pressured →
      Hotter (coupled.foldl (couple policy) a).candidate
        (coupled.foldl (couple policy) b).candidate ∧
      (coupled.foldl (couple policy) a).pressured =
        (coupled.foldl (couple policy) b).pressured := by
  induction coupled with
  | nil => exact fun a b h hpressured => ⟨h, hpressured⟩
  | cons p rest ih =>
    intro a b h hpressured
    refine ih _ _ ?_ ?_
    · simp only [couple]
      split
      · exact h.escalate p.state
      · exact h
    · simp only [couple, hpressured]

theorem hotter_tightened {a b : CouplingScan} (h : Hotter a.candidate b.candidate)
    (hpressured : a.pressured = b.pressured) : Hotter a.tightened b.tightened := by
  unfold CouplingScan.tightened
  rw [hpressured]
  cases hb : b.pressured with
  | false => exact h
  | true =>
    simp only [Bool.true_and]
    generalize a.candidate = s at h
    generalize b.candidate = s' at h
    cases h with
    | same => exact .same _
    | critical h =>
      refine .critical ?_
      split
      · decide
      · exact h
    | derated h =>
      rw [if_pos h]
      exact .same _
    | healthy h' h =>
      have hs := (isHealthy_iff_severity s).mpr (h.trans ((isHealthy_iff_severity s').mp h'))
      rw [if_pos hs, if_pos h']
      exact .same _

theorem hotter_candidateState (input : EvaluationInput) (evidence : ThermalEvidence)
    {low high : DegreesCelsius} (h : low ≤ high) :
    Hotter (candidateState input { evidence with temperature := low })
      (candidateState input { evidence with temperature := high }) := by
  have hband := hotter_bandState input.policy.thresholds (resolveThrottle input evidence) h
  unfold candidateState coupledScan scanCoupled
  split
  · obtain ⟨hcandidate, hpressured⟩ := hotter_foldl_couple input.policy.coupling input.coupled
      { candidate := bandState input.policy.thresholds (resolveThrottle input evidence) low }
      { candidate := bandState input.policy.thresholds (resolveThrottle input evidence) high }
      hband rfl
    exact hotter_tightened hcandidate hpressured
  · exact hotter_tightened (a := { candidate := bandState _ _ low })
      (b := { candidate := bandState _ _ high }) hband rfl

/-! ### The gate -/

/-- The gate holds a healthy candidate back: the state before was restrictive, and recovery is
not allowed. -/
def holdsBack (previous : ThermalState) (recovery : RecoveryAssessment) : Bool :=
  previous.isRestrictive && ! recovery.allowed

theorem hysteresisGate_eq (previous candidate : ThermalState) (recovery : RecoveryAssessment)
    (reasons : ReasonCodeSet) :
    (hysteresisGate previous candidate recovery reasons).1 =
      if candidate.isHealthy && holdsBack previous recovery then .derated else candidate := by
  unfold hysteresisGate holdsBack
  cases candidate.isHealthy <;> cases recovery.allowed <;> cases previous <;> rfl

/-- A gate that does not open for the hotter reading alone keeps the pair. -/
theorem Hotter.gate {s s' : ThermalState} (h : Hotter s s') (previous : ThermalState)
    {recovery recovery' : RecoveryAssessment} (reasons : ReasonCodeSet)
    (hallowed : recovery'.allowed = true → recovery.allowed = true) :
    Hotter (hysteresisGate previous s recovery reasons).1
      (hysteresisGate previous s' recovery' reasons).1 := by
  rw [hysteresisGate_eq, hysteresisGate_eq]
  have hcold : s'.isHealthy = true → s.isHealthy = true := fun h' =>
    (isHealthy_iff_severity s).mpr (h.severity_le.trans ((isHealthy_iff_severity s').mp h'))
  cases hheld : holdsBack previous recovery with
  | false =>
    -- the colder candidate comes through, and the hotter one may be held back
    rw [Bool.and_false, if_neg Bool.false_ne_true]
    split
    · rename_i h'
      exact .derated (hcold (Bool.and_eq_true_iff.mp h').1)
    · exact h
  | true =>
    have hheld' : holdsBack previous recovery' = true := by
      simp only [holdsBack, Bool.and_eq_true, Bool.not_eq_true'] at hheld ⊢
      refine ⟨hheld.1, ?_⟩
      cases hr : recovery'.allowed with
      | false => rfl
      | true => exact (hallowed hr).symm.trans hheld.2
    rw [hheld', Bool.and_true, Bool.and_true]
    cases h with
    | same => exact .same _
    | critical h =>
      refine .critical ?_
      split
      · decide
      · exact h
    | derated h =>
      rw [if_pos h]
      exact .same _
    | healthy h' h =>
      rw [if_pos h', if_pos (hcold h')]
      exact .same _

theorem allowed_assessRecovery_antitone {policy : ThermalPolicy} {input : RecoveryInput}
    {low high : HeadroomBreakdown} (heffective : high.effectiveHeadroom ≤ low.effectiveHeadroom)
    (hdistance : low.distanceAboveRecoveryGate ≤ high.distanceAboveRecoveryGate)
    (h : (assessRecovery policy { input with headroom := high }).allowed = true) :
    (assessRecovery policy { input with headroom := low }).allowed = true := by
  have hwalk : ∀ samples w, walkSamples policy { input with headroom := high } samples w =
      walkSamples policy { input with headroom := low } samples w := by
    intro samples
    induction samples with
    | nil => exact fun w => rfl
    | cons s rest ih =>
      intro w
      rw [walkSamples, walkSamples, ih]
      rfl
  simp only [assessRecovery, hwalk, Bool.and_eq_true, Bool.or_eq_true, Bool.not_eq_true',
    decide_eq_true_eq] at h ⊢
  obtain ⟨⟨⟨⟨⟨⟨⟨hbelow, hhead⟩, hclear⟩, hsamples⟩, hspan⟩, hwit⟩, hcoupled⟩, hexplicit⟩ := h
  have hbelow' : low.distanceAboveRecoveryGate < 0 := lt_of_le_of_lt hdistance hbelow
  have hhead' := hhead.imp_right fun hpositive => lt_of_lt_of_le hpositive heffective
  exact ⟨⟨⟨⟨⟨⟨⟨hbelow', hhead'⟩, hclear⟩, hsamples⟩, hspan⟩, hwit⟩, hcoupled⟩, hexplicit⟩

/-- The policy forbids recovery outright after evidence of this provenance. -/
def forbidsRecovery (policy : ThermalPolicy) (input : RecoveryInput) : Bool :=
  input.evidenceProvenance = .unsupported &&
    policy.recovery.forbidRecoveryAfterUnsupportedEvidence

theorem allowed_evaluateRecovery_iff {input : RecoveryInput} {policy : ThermalPolicy}
    (hpolicy : input.policy = some policy) :
    (evaluateRecovery input).allowed = true ↔
      forbidsRecovery policy input = false ∧ (assessRecovery policy input).allowed = true := by
  unfold evaluateRecovery forbidsRecovery
  rw [hpolicy]
  dsimp only
  split
  · rename_i hforbidden
    simp [hforbidden]
  · rename_i hforbidden
    rw [Bool.not_eq_true] at hforbidden
    simp [hforbidden]

/-- **What is allowed at a higher temperature is allowed at a lower one**: the headroom
shrinks with the temperature, and nothing else of the assessment looks at it. -/
theorem allowed_evaluateRecovery_antitone {input : RecoveryInput} {low high : HeadroomBreakdown}
    (heffective : high.effectiveHeadroom ≤ low.effectiveHeadroom)
    (hdistance : low.distanceAboveRecoveryGate ≤ high.distanceAboveRecoveryGate)
    (h : (evaluateRecovery { input with headroom := high }).allowed = true) :
    (evaluateRecovery { input with headroom := low }).allowed = true := by
  obtain ⟨policy, hpolicy, -⟩ := evaluateRecovery_allowed h
  obtain ⟨hforbids, hassess⟩ := (allowed_evaluateRecovery_iff hpolicy).mp h
  have hpolicy' : ({ input with headroom := low } : RecoveryInput).policy = some policy := hpolicy
  rw [allowed_evaluateRecovery_iff hpolicy']
  exact ⟨hforbids, allowed_assessRecovery_antitone heffective hdistance hassess⟩

/-! ### Two evaluations -/

section Heated

variable (input : EvaluationInput) (evidence : ThermalEvidence) {low high : DegreesCelsius}

/-- The headroom of a hotter reading is smaller by the difference. -/
theorem effectiveHeadroom_heated (low high : DegreesCelsius) :
    (computeHeadroom (headroomInputFor input
      { evidence with temperature := high })).effectiveHeadroom =
    (computeHeadroom (headroomInputFor input
      { evidence with temperature := low })).effectiveHeadroom - (high - low) := by
  have hlimit : governingLimit (headroomInputFor input { evidence with temperature := high }) =
      governingLimit (headroomInputFor input { evidence with temperature := low }) := rfl
  rw [computeHeadroom_effectiveHeadroom, computeHeadroom_effectiveHeadroom, hlimit]
  simp only [headroomInputFor]
  linarith

theorem meetsDemand_of_hotter (h : low ≤ high) {demand : ℚ}
    (hmet : (computeHeadroom (headroomInputFor input
      { evidence with temperature := high })).meetsDemand demand = true) :
    (computeHeadroom (headroomInputFor input
      { evidence with temperature := low })).meetsDemand demand = true := by
  unfold HeadroomBreakdown.meetsDemand at hmet ⊢
  rw [decide_eq_true_eq] at hmet ⊢
  rw [effectiveHeadroom_heated input evidence low high] at hmet
  linarith

/-- **The states of two resolved evaluations that differ in the temperature.** -/
theorem hotter_evaluateResolved (h : low ≤ high) :
    Hotter (evaluateResolved input { evidence with temperature := low }).state
      (evaluateResolved input { evidence with temperature := high }).state := by
  rw [evaluateResolved_state_eq, evaluateResolved_state_eq]
  refine (hotter_candidateState input evidence h).gate _ _ fun hallowed => ?_
  have hallowed' : (evaluateRecovery { recoveryInputFor input {} with
      headroom := computeHeadroom (headroomInputFor input
        { evidence with temperature := high }) }).allowed = true := hallowed
  refine allowed_evaluateRecovery_antitone ?_ ?_ hallowed'
  · rw [effectiveHeadroom_heated input evidence low high]
    linarith
  · show low - _ ≤ high - _
    exact sub_le_sub_right h _

end Heated

end ThermalGovernor
