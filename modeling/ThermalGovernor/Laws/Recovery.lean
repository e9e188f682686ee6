import ThermalGovernor.Policy.Requirements
import ThermalGovernor.Evaluation.Evaluate

/-!
# The laws of recovery

Three laws that `evaluateRecovery` is to satisfy, each of them about every policy and
every history.

* The answer is the conjunction of the enabled requirements, and a refusal names one
  that fails.  It also asks for recovered coupled domains when no policy does
  (`gatedExactly_iff`).
* The newest qualifying run decides, whatever came before it.  A throttled sample just
  before the run still blocks, and a sample with a late timestamp can shorten the span
  (`decidedByNewestRun_iff`).
* The gate lies below the derating threshold.  The validator orders the recovery
  threshold alone, and the gate adds the recovery margin to it
  (`positiveHysteresis_iff`).
-/

namespace ThermalGovernor

open RecoveryRequirement

variable {policy : ThermalPolicy} {input : RecoveryInput}

/-! ### The enabled requirements -/

/-- Recovery gating is exactly the enabled requirements. -/
structure GatedExactly (policy : ThermalPolicy) (input : RecoveryInput) : Prop where
  allowed_iff : (evaluateRecovery input).allowed = true ↔
    ∀ r : RecoveryRequirement, r.enabled policy input = true → r.met policy input = true
  named : (evaluateRecovery input).allowed = false →
    ∃ r : RecoveryRequirement, r.enabled policy input = true ∧ r.met policy input = false ∧
      r.reason ∈ (evaluateRecovery input).blockingReasons

theorem fails_eq_true {r : RecoveryRequirement} :
    r.fails policy input = true ↔
      r.enabled policy input = true ∧ r.met policy input = false := by
  unfold RecoveryRequirement.fails
  rw [Bool.and_eq_true, Bool.not_eq_true']

/-- **Recovery gating is exactly the enabled requirements when the coupled domains are
recovered or an enabled requirement fails.** -/
theorem gatedExactly_iff (h : input.policy = some policy) :
    GatedExactly policy input ↔
      input.coupledDomainsRecovered = true ∨
      ∃ r : RecoveryRequirement, r.enabled policy input = true ∧ r.met policy input = false := by
  have hallowed := allowed_iff_no_fails h
  constructor
  · intro hexact
    by_contra hneither
    rw [not_or, not_exists] at hneither
    obtain ⟨hunrecovered, hnone⟩ := hneither
    have hmet : ∀ r : RecoveryRequirement,
        r.enabled policy input = true → r.met policy input = true := by
      intro r henabled
      by_contra hunmet
      exact hnone r ⟨henabled, Bool.eq_false_iff.mpr hunmet⟩
    exact hunrecovered (hallowed.mp (hexact.allowed_iff.mpr hmet)).1
  · intro hcases
    have hgate : (evaluateRecovery input).allowed = true ↔
        ∀ r : RecoveryRequirement, r.enabled policy input = true → r.met policy input = true := by
      rw [hallowed]
      constructor
      · intro hpassed r
        exact fails_eq_false.mp (hpassed.2 r)
      · intro hmet
        refine ⟨?_, fun r => fails_eq_false.mpr (hmet r)⟩
        rcases hcases with hrecovered | ⟨r, henabled, hunmet⟩
        · exact hrecovered
        · rw [hmet r henabled] at hunmet
          cases hunmet
    refine ⟨hgate, fun hblocked => ?_⟩
    have hfails : ∃ r : RecoveryRequirement, r.fails policy input = true := by
      by_contra hnone
      rw [not_exists] at hnone
      have hpassed := hgate.mpr fun r => fails_eq_false.mp (Bool.eq_false_iff.mpr (hnone r))
      rw [hblocked] at hpassed
      cases hpassed
    obtain ⟨r, hr, hnamed⟩ := exists_named_of_fails h hblocked hfails
    obtain ⟨henabled, hunmet⟩ := fails_eq_true.mp hr
    exact ⟨r, henabled, hunmet, hnamed⟩

namespace Deployment

/-- A cool sample, a second after the one before it. -/
def coolSample (second : Nat) : RecoverySample :=
  { temperature := 70, atTime := second * 1000000000, admissible := true }

/-- The default policy, which leaves the coupled domains alone. -/
def uncoupledPolicy : ThermalPolicy :=
  { PolicyOver.makeDefault with
    recovery := { requireCoupledDomainsRecovered := false } }

/-- Three cool samples under a policy, with plenty of headroom. -/
def recovering (policy : ThermalPolicy) : RecoveryInput :=
  { policy := some policy
    history := some { samples := [coolSample 1, coolSample 2, coolSample 3] }
    recoveryThreshold := policy.thresholds.recovery
    recoveryMargin := policy.margins.recoveryMargin
    headroom := { currentTemperature := 70, effectiveHeadroom := 15,
                  distanceAboveRecoveryGate := -3 }
    evidenceProvenance := .real }

end Deployment

open Deployment

theorem gatedExactly_recovering : GatedExactly uncoupledPolicy (recovering uncoupledPolicy) :=
  (gatedExactly_iff rfl).mpr (.inl rfl)

/-- A hot neighbour blocks a domain whose policy leaves the coupled domains alone, and no
reason says so. -/
theorem not_gatedExactly_recovering :
    ¬ GatedExactly uncoupledPolicy
      { recovering uncoupledPolicy with
        coupledDomainsRecovered := false
        coupledDomainsChecked := true } := by
  intro h
  have hblocked : (evaluateRecovery
      { recovering uncoupledPolicy with
        coupledDomainsRecovered := false
        coupledDomainsChecked := true }).allowed = false := by decide +kernel
  obtain ⟨r, henabled, hunmet, -⟩ := h.named hblocked
  revert henabled hunmet
  cases r <;> decide +kernel

/-! ### The newest qualifying run -/

/-- The same input with the run as its whole history. -/
def RecoveryInput.alone (input : RecoveryInput) (h : RecoveryHistory)
    (run : List RecoverySample) : RecoveryInput :=
  { input with history := some { h with samples := run } }

/-- The run, oldest sample first, qualifies and is what the policy asks for. -/
structure SufficientRun (policy : ThermalPolicy) (input : RecoveryInput)
    (run : List RecoverySample) : Prop where
  qualify : ∀ s ∈ run, qualifies policy input s = true
  count : policy.freshness.requiredConsecutiveSamples ≤ run.length
  span : policy.freshness.minEvidenceSpan ≤ spanOf run.reverse
  witnesses : policy.freshness.minDistinctWitnesses ≤ distinctBoots run.reverse

/-- Everything that is asked beside the samples. -/
def ReadyButForSamples (policy : ThermalPolicy) (input : RecoveryInput) : Prop :=
  input.coupledDomainsRecovered = true ∧ temperature.fails policy input = false ∧
  headroom.fails policy input = false ∧ authorization.fails policy input = false ∧
  provenance.fails policy input = false

/-- None of the samples within the gate that come just before the run was throttled, and
the qualifying ones among them leave the span long enough. -/
structure QuietBefore (policy : ThermalPolicy) (input : RecoveryInput)
    (before run : List RecoverySample) : Prop where
  clear : ∀ s ∈ before.reverse.takeWhile (withinGate policy input), throttles policy s = false
  span : policy.freshness.minEvidenceSpan ≤
    spanOf (run.reverse ++ before.reverse.takeWhile (qualifies policy input))

theorem distinctBoots_append_le (run earlier : List RecoverySample) :
    distinctBoots run ≤ distinctBoots (run ++ earlier) := by
  refine (List.subperm_of_subset (List.nodup_dedup _) fun boot hboot => ?_).length_le
  rw [List.mem_dedup] at hboot ⊢
  rw [List.map_append]
  exact List.mem_append_left _ hboot

section NewestRun

variable {h : RecoveryHistory} {before run : List RecoverySample}

/-- The run that counts is the given one and what qualifies just before it. -/
theorem qualifyingRun_append (hhistory : input.history = some h)
    (hsamples : h.samples = before ++ run)
    (hrun : ∀ s ∈ run, qualifies policy input s = true) :
    qualifyingRun policy input =
      run.reverse ++ before.reverse.takeWhile (qualifies policy input) := by
  have hreverse : ∀ s ∈ run.reverse, qualifies policy input s = true :=
    fun s hs => hrun s (List.mem_reverse.mp hs)
  rw [qualifyingRun, newestFirst, hhistory, Option.map_some, Option.getD_some, hsamples,
    List.reverse_append, List.takeWhile_append_of_pos hreverse]

/-- The walk ends where it ends before the run. -/
theorem throttle_fails_append (hhistory : input.history = some h)
    (hsamples : h.samples = before ++ run)
    (hrun : ∀ s ∈ run, qualifies policy input s = true) :
    throttle.fails policy input =
      (before.reverse.takeWhile (withinGate policy input)).any (throttles policy) := by
  have hreverse : ∀ s ∈ run.reverse, qualifies policy input s = true :=
    fun s hs => hrun s (List.mem_reverse.mp hs)
  have hend : endOfWalk policy input (newestFirst input) =
      endOfWalk policy input before.reverse := by
    rw [endOfWalk, newestFirst, hhistory, Option.map_some, Option.getD_some, hsamples,
      List.reverse_append, List.dropWhile_append_of_pos hreverse, endOfWalk]
  rw [throttle_fails_eq, throttleClear_recoveryWalk, Bool.not_not, hend, endOfWalk_withinGate]

/-- What is required beside the samples, and the samples' own requirements. -/
theorem allowed_iff_ready (hpolicy : input.policy = some policy) :
    (evaluateRecovery input).allowed = true ↔
      ReadyButForSamples policy input ∧ throttle.fails policy input = false ∧
      samples.fails policy input = false ∧ span.fails policy input = false ∧
      witnesses.fails policy input = false := by
  rw [allowed_iff_no_fails hpolicy]
  constructor
  · rintro ⟨hrecovered, hmet⟩
    exact ⟨⟨hrecovered, hmet _, hmet _, hmet _, hmet _⟩, hmet _, hmet _, hmet _, hmet _⟩
  · rintro ⟨⟨hrecovered, htemperature, hheadroom, hauthorization, hprovenance⟩, hthrottle,
      hsamples, hspan, hwitnesses⟩
    refine ⟨hrecovered, fun r => ?_⟩
    cases r with
    | coupledDomains => exact fails_eq_false.mpr fun _ => hrecovered
    | temperature | headroom | throttle | samples | span | witnesses | authorization
    | provenance => assumption

/-- After a sufficient run the count and the witnesses are met, and the rest is what
comes before the run. -/
theorem allowed_iff_quietBefore (hpolicy : input.policy = some policy)
    (hhistory : input.history = some h) (hsamples : h.samples = before ++ run)
    (hrun : SufficientRun policy input run) :
    (evaluateRecovery input).allowed = true ↔
      ReadyButForSamples policy input ∧ QuietBefore policy input before run := by
  have hcounted := qualifyingRun_append hhistory hsamples hrun.qualify
  have hthrottle := throttle_fails_append hhistory hsamples hrun.qualify
  have hcount : samples.fails policy input = false := by
    refine fails_eq_false.mpr fun _ => decide_eq_true ?_
    have hlength := hrun.count
    rw [hcounted, List.length_append, List.length_reverse]
    omega
  have hwitnesses : witnesses.fails policy input = false := by
    refine fails_eq_false.mpr fun _ => decide_eq_true ?_
    rw [hcounted]
    exact hrun.witnesses.trans (distinctBoots_append_le _ _)
  have hspan : span.fails policy input = false ↔ policy.freshness.minEvidenceSpan ≤
      spanOf (run.reverse ++ before.reverse.takeWhile (qualifies policy input)) := by
    rw [fails_eq_false, ← hcounted]
    exact ⟨fun hmet => of_decide_eq_true (hmet rfl), fun hle _ => decide_eq_true hle⟩
  rw [allowed_iff_ready hpolicy, hspan, hthrottle, List.any_eq_false]
  constructor
  · rintro ⟨hready, hclear, -, hlong, -⟩
    exact ⟨hready, fun s hs => Bool.eq_false_iff.mpr (hclear s hs), hlong⟩
  · rintro ⟨hready, hquiet⟩
    exact ⟨hready, fun s hs => Bool.eq_false_iff.mp (hquiet.clear s hs), hcount, hquiet.span,
      hwitnesses⟩

/-- **The newest qualifying run decides alone, unless a throttled sample or a late one comes
just before it.** -/
theorem decidedByNewestRun_iff (hpolicy : input.policy = some policy)
    (hhistory : input.history = some h) (hsamples : h.samples = before ++ run)
    (hrun : SufficientRun policy input run) :
    (evaluateRecovery input).allowed = (evaluateRecovery (input.alone h run)).allowed ↔
      (ReadyButForSamples policy input → QuietBefore policy input before run) := by
  have hwhole := allowed_iff_quietBefore hpolicy hhistory hsamples hrun
  have halone : (evaluateRecovery (input.alone h run)).allowed = true ↔
      ReadyButForSamples policy input := by
    have hrunAlone : SufficientRun policy (input.alone h run) run :=
      ⟨hrun.qualify, hrun.count, hrun.span, hrun.witnesses⟩
    have hquiet : QuietBefore policy (input.alone h run) [] run :=
      ⟨fun s hs => absurd hs List.not_mem_nil, by
        rw [List.reverse_nil, List.takeWhile_nil, List.append_nil]; exact hrun.span⟩
    have hrunDecides : (evaluateRecovery (input.alone h run)).allowed = true ↔
        ReadyButForSamples policy (input.alone h run) ∧
          QuietBefore policy (input.alone h run) [] run :=
      allowed_iff_quietBefore hpolicy rfl (List.nil_append run).symm hrunAlone
    rw [hrunDecides]
    exact ⟨fun hboth => hboth.1, fun hready => ⟨hready, hquiet⟩⟩
  rw [Bool.eq_iff_iff, hwhole, halone]
  tauto

end NewestRun

namespace Deployment

/-- Three cool samples, a second apart. -/
def coolRun : List RecoverySample := [coolSample 1, coolSample 2, coolSample 3]

/-- The three cool samples after others, under the default policy. -/
def recoveringAfter (before : List RecoverySample) : RecoveryInput :=
  { recovering .makeDefault with history := some { samples := before ++ coolRun } }

theorem sufficientRun_coolRun (before : List RecoverySample) :
    SufficientRun .makeDefault (recoveringAfter before) coolRun := by
  refine ⟨?_, by decide +kernel, by decide +kernel, by decide +kernel⟩
  -- whether a sample qualifies does not depend on the history it is part of
  show ∀ s ∈ coolRun, qualifies .makeDefault (recovering .makeDefault) s = true
  decide +kernel

end Deployment

/-- A hot sample before the run changes nothing. -/
theorem decidedByNewestRun_hot :
    (evaluateRecovery (recoveringAfter [{ coolSample 0 with temperature := 85 }])).allowed =
      (evaluateRecovery ((recoveringAfter [{ coolSample 0 with temperature := 85 }]).alone
        { samples := [{ coolSample 0 with temperature := 85 }] ++ coolRun } coolRun)).allowed :=
  (decidedByNewestRun_iff rfl rfl rfl (sufficientRun_coolRun _)).mpr fun _ =>
    ⟨by decide +kernel, by decide +kernel⟩

/-- A throttled sample before a sufficient run blocks recovery, and so does a qualifying one
with a timestamp after the run. -/
theorem not_decidedByNewestRun :
    SufficientRun .makeDefault (recoveringAfter []) coolRun ∧
    (evaluateRecovery (recoveringAfter [])).allowed = true ∧
    (evaluateRecovery (recoveringAfter
      [{ coolSample 0 with throttleClass := .thermalThrottleObserved }])).allowed = false ∧
    (evaluateRecovery (recoveringAfter [coolSample 9])).allowed = false := by
  refine ⟨sufficientRun_coolRun _, ?_, ?_, ?_⟩ <;> decide +kernel

/-! ### The width of the hysteresis -/

/-- The input as an evaluation under the policy prepares it. -/
structure RecoveryInput.PreparedFor (policy : ThermalPolicy) (input : RecoveryInput) : Prop where
  policy_eq : input.policy = some policy
  threshold : input.recoveryThreshold = policy.thresholds.recovery
  margin : input.recoveryMargin = policy.margins.recoveryMargin
  distance : input.headroom.distanceAboveRecoveryGate =
    input.headroom.currentTemperature -
      (policy.thresholds.recovery + policy.margins.recoveryMargin)

theorem preparedFor_recoveryInputFor (input : EvaluationInput) (evidence : ThermalEvidence) :
    (recoveryInputFor input (computeHeadroom (headroomInputFor input evidence))).PreparedFor
      input.policy :=
  ⟨rfl, rfl, rfl, rfl⟩

/-- The temperature below which a reading may leave a restriction. -/
def recoveryGate (policy : ThermalPolicy) : DegreesCelsius :=
  policy.thresholds.recovery + policy.margins.recoveryMargin

/-- Every sample that counts was below the derating threshold. -/
def CountsBelowDerating (policy : ThermalPolicy) : Prop :=
  ∀ input : RecoveryInput, input.PreparedFor policy →
    ∀ s ∈ qualifyingRun policy input, s.temperature < policy.thresholds.derating

/-- A temperature that passes the threshold predicate is below the derating threshold. -/
def PassesBelowDerating (policy : ThermalPolicy) : Prop :=
  ∀ input : RecoveryInput, input.PreparedFor policy →
    (evaluateRecovery input).temperatureBelowThreshold = true →
    (evaluateRecovery input).currentTemperature < policy.thresholds.derating

/-- Hysteresis has positive width. -/
structure PositiveHysteresis (policy : ThermalPolicy) : Prop where
  counted : CountsBelowDerating policy
  current : PassesBelowDerating policy
  width : 0 < policy.thresholds.derating - recoveryGate policy

/-- The samples that count are the qualifying ones. -/
theorem qualifyingSamples_assessRecovery (policy : ThermalPolicy) (input : RecoveryInput) :
    (assessRecovery policy input).qualifyingSamples = (qualifyingRun policy input).length :=
  qualifying_recoveryWalk policy input

/-- An input of this temperature, with a sample of the same temperature. -/
def atTemperature (policy : ThermalPolicy) (t : DegreesCelsius) : RecoveryInput :=
  { policy := some policy
    history := some { samples := [{ temperature := t, admissible := true }] }
    recoveryThreshold := policy.thresholds.recovery
    recoveryMargin := policy.margins.recoveryMargin
    headroom :=
      { currentTemperature := t
        distanceAboveRecoveryGate :=
          t - (policy.thresholds.recovery + policy.margins.recoveryMargin) } }

theorem preparedFor_atTemperature (policy : ThermalPolicy) (t : DegreesCelsius) :
    (atTemperature policy t).PreparedFor policy :=
  ⟨rfl, rfl, rfl, rfl⟩

theorem temperatureBelowThreshold_iff {policy : ThermalPolicy} {input : RecoveryInput}
    (hprepared : input.PreparedFor policy)
    (hassessed : provenance.fails policy input = false) :
    (evaluateRecovery input).temperatureBelowThreshold = true ↔
      (evaluateRecovery input).currentTemperature < recoveryGate policy := by
  rcases evaluateRecovery_of_policy hprepared.policy_eq with ⟨hfails, -⟩ | ⟨-, heq⟩
  · rw [hassessed] at hfails
    cases hfails
  · rw [heq]
    show decide (input.headroom.distanceAboveRecoveryGate < 0) = true ↔
      input.headroom.currentTemperature < _
    rw [hprepared.distance, decide_eq_true_eq, sub_neg, recoveryGate]

theorem countsBelowDerating_iff (policy : ThermalPolicy) :
    CountsBelowDerating policy ↔ recoveryGate policy ≤ policy.thresholds.derating := by
  constructor
  · intro hcounted
    by_contra habove
    rw [not_le] at habove
    -- a sample at the derating threshold counts
    have hqualifies : qualifies policy (atTemperature policy policy.thresholds.derating)
        { temperature := policy.thresholds.derating, admissible := true } = true := by
      have hbelow : policy.thresholds.derating <
          policy.thresholds.recovery + policy.margins.recoveryMargin := habove
      simp [qualifies, withinGate, throttles, bindingBroken, atTemperature, hbelow]
    have hmem : { temperature := policy.thresholds.derating, admissible := true } ∈
        qualifyingRun policy (atTemperature policy policy.thresholds.derating) := by
      show _ ∈ List.takeWhile _ [_]
      rw [List.takeWhile_cons_of_pos hqualifies]
      exact List.mem_cons_self
    exact absurd (hcounted _ (preparedFor_atTemperature policy _) _ hmem) (lt_irrefl _)
  · intro hle input hprepared s hs
    have hgate := List.mem_takeWhile_imp hs
    simp only [qualifies, withinGate, Bool.and_eq_true, decide_eq_true_eq] at hgate
    have hbelow := hgate.1.2
    rw [hprepared.threshold, hprepared.margin] at hbelow
    exact lt_of_lt_of_le hbelow hle

theorem passesBelowDerating_iff (policy : ThermalPolicy) :
    PassesBelowDerating policy ↔ recoveryGate policy ≤ policy.thresholds.derating := by
  constructor
  · intro hpasses
    by_contra habove
    rw [not_le] at habove
    have hprepared := preparedFor_atTemperature policy policy.thresholds.derating
    have hassessed : provenance.fails policy
        (atTemperature policy policy.thresholds.derating) = false :=
      fails_eq_false.mpr fun _ => rfl
    have hcurrent : (evaluateRecovery
        (atTemperature policy policy.thresholds.derating)).currentTemperature =
        policy.thresholds.derating := by
      rcases evaluateRecovery_of_policy hprepared.policy_eq with ⟨hfails, -⟩ | ⟨-, heq⟩
      · rw [hassessed] at hfails
        cases hfails
      · rw [heq]
        rfl
    have hbelow := hpasses _ hprepared
      ((temperatureBelowThreshold_iff hprepared hassessed).mpr (by rw [hcurrent]; exact habove))
    rw [hcurrent] at hbelow
    exact absurd hbelow (lt_irrefl _)
  · intro hle input hprepared hbelow
    rcases evaluateRecovery_of_policy hprepared.policy_eq with ⟨hfails, -⟩ | ⟨hassessed, -⟩
    · -- a refusal passes no predicate
      unfold evaluateRecovery at hbelow
      rw [hprepared.policy_eq] at hbelow
      dsimp only at hbelow
      split at hbelow
      · cases hbelow
      · rename_i hforbidden
        simp [RecoveryRequirement.fails, enabled, met] at hfails
        simp [hfails] at hforbidden
    · exact lt_of_lt_of_le ((temperatureBelowThreshold_iff hprepared hassessed).mp hbelow) hle

/-- **Hysteresis has positive width when the recovery gate, margin included, lies below the
derating threshold**; the samples and the temperature that pass stay below that threshold
when the gate does not lie above it. -/
theorem positiveHysteresis_iff (policy : ThermalPolicy) :
    (CountsBelowDerating policy ↔ recoveryGate policy ≤ policy.thresholds.derating) ∧
    (PassesBelowDerating policy ↔ recoveryGate policy ≤ policy.thresholds.derating) ∧
    (PositiveHysteresis policy ↔ recoveryGate policy < policy.thresholds.derating) := by
  refine ⟨countsBelowDerating_iff policy, passesBelowDerating_iff policy, ?_, ?_⟩
  · intro hpositive
    exact sub_pos.mp hpositive.width
  · intro hlt
    exact ⟨(countsBelowDerating_iff policy).mpr (le_of_lt hlt),
      (passesBelowDerating_iff policy).mpr (le_of_lt hlt), sub_pos.mpr hlt⟩

/-- A recovery margin of ten degrees passes validation, and samples above the derating
threshold of eighty count. -/
theorem not_positiveHysteresis :
    validatePolicy { PolicyOver.makeDefault with
      margins := { policySafetyMargin := 2, uncertaintyMargin := 1, recoveryMargin := 10 } } =
      .ok () ∧
    ¬ CountsBelowDerating { PolicyOver.makeDefault with
      margins := { policySafetyMargin := 2, uncertaintyMargin := 1, recoveryMargin := 10 } } ∧
    ¬ PositiveHysteresis { PolicyOver.makeDefault with
      margins := { policySafetyMargin := 2, uncertaintyMargin := 1, recoveryMargin := 10 } } := by
  have hcounted : ¬ CountsBelowDerating { PolicyOver.makeDefault with
      margins := { policySafetyMargin := 2, uncertaintyMargin := 1, recoveryMargin := 10 } } := by
    rw [countsBelowDerating_iff]
    decide +kernel
  exact ⟨by decide +kernel, hcounted, fun hpositive => hcounted hpositive.counted⟩

end ThermalGovernor
