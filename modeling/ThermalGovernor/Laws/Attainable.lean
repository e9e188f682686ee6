import ThermalGovernor.Laws.Heating
import ThermalGovernor.Laws.Hysteresis
import ThermalGovernor.Laws.Latch
import ThermalGovernor.Laws.Recovery

/-!
# Recoveries that can be reached

The validator checks the fields of a policy one by one.  Some policies that pass ask for a
recovery that no evidence brings about: for more samples than a history retains, for several
witnesses of one boot, for a reading below absolute zero.  `Attainable` lists the bounds
that the fields have together.

An allowed recovery shows that its policy keeps them (`attainable_of_allowed`).  And a policy
that keeps them allows recovery on the best evidence there is, a history of readings at
absolute zero, as far as the coupled domains do (`allowed_of_bestEvidence`).
-/

namespace ThermalGovernor

open RecoveryRequirement

/-- The longest span that a run of samples can cover. -/
def longestSpan : Milliseconds := milliseconds (2 ^ 63 - 1)

/-- What the policy asks of a recovery stays within what a history of this capacity and a
reading can show. -/
structure Attainable (capacity : Nat) (policy : ThermalPolicy) : Prop where
  samples : policy.freshness.requiredConsecutiveSamples ≤ capacity
  span : policy.freshness.minEvidenceSpan ≤ longestSpan
  witnesses : policy.recovery.requireSameWorkerBoot = true →
    policy.freshness.minDistinctWitnesses ≤ 1
  gate : DegreesCelsius.absoluteZero < recoveryGate policy
  headroom : policy.recovery.requireHeadroomAboveRecoveryMargin = true →
    DegreesCelsius.absoluteZero + policy.margins.policySafetyMargin < policy.thresholds.critical

instance (capacity : Nat) (policy : ThermalPolicy) : Decidable (Attainable capacity policy) :=
  decidable_of_iff
    (policy.freshness.requiredConsecutiveSamples ≤ capacity ∧
      policy.freshness.minEvidenceSpan ≤ longestSpan ∧
      (policy.recovery.requireSameWorkerBoot = true →
        policy.freshness.minDistinctWitnesses ≤ 1) ∧
      DegreesCelsius.absoluteZero < recoveryGate policy ∧
      (policy.recovery.requireHeadroomAboveRecoveryMargin = true →
        DegreesCelsius.absoluteZero + policy.margins.policySafetyMargin <
          policy.thresholds.critical))
    ⟨fun ⟨hsamples, hspan, hwitnesses, hgate, hheadroom⟩ =>
      ⟨hsamples, hspan, hwitnesses, hgate, hheadroom⟩,
      fun h => ⟨h.samples, h.span, h.witnesses, h.gate, h.headroom⟩⟩

/-! ### What an allowed recovery shows -/

theorem elapsed_lt (now since : SteadyTimePoint) : elapsed now since < 2 ^ 63 := by
  have hlt := Int.bmod_lt (x := now - since) (m := wordSize) (by decide)
  have hhalf : ((wordSize : Int) + 1) / 2 = 2 ^ 63 := by decide
  rw [hhalf] at hlt
  exact hlt

/-- No run covers more than the longest span. -/
theorem spanOf_le_longestSpan (run : List RecoverySample) : spanOf run ≤ longestSpan := by
  unfold spanOf
  split
  · rename_i newest oldest _ _
    have hlt := elapsed_lt newest.atTime oldest.atTime
    exact Int.tdiv_le_tdiv (c := 1000000) (by decide) (Int.le_sub_one_of_lt hlt)
  · decide

/-- Samples have no more witnesses than boots they can be of. -/
theorem distinctBoots_le {run : List RecoverySample} {boots : List WorkerBootId}
    (h : ∀ s ∈ run, s.workerBoot ∈ boots) : distinctBoots run ≤ boots.length := by
  have hsubset : (run.map RecoverySample.workerBoot).dedup ⊆ boots := by
    intro b hb
    obtain ⟨s, hs, rfl⟩ := List.mem_map.mp (List.mem_dedup.mp hb)
    exact h s hs
  exact ((List.nodup_dedup _).subperm hsubset).length_le

/-- What an allowed recovery rests on: evidence that was resolved, coupled domains that are
recovered, and no requirement that fails. -/
theorem resolved_of_allowed {input : EvaluationInput}
    (hallowed : (evaluateThermal input).recovery.allowed = true) :
    ∃ evidence, resolvedEvidence input = some evidence ∧
      input.recovery.coupledDomainsRecovered = true ∧
      ∀ r : RecoveryRequirement, r.fails input.policy
        (recoveryInputFor input (computeHeadroom (headroomInputFor input evidence))) = false := by
  rw [evaluateThermal_recovery, recoveryFor] at hallowed
  cases hresolved : resolvedEvidence input with
  | none =>
    rw [hresolved] at hallowed
    cases hallowed
  | some evidence =>
    rw [hresolved] at hallowed
    obtain ⟨hcoupled, hmet⟩ := (allowed_iff_no_fails rfl).mp hallowed
    exact ⟨evidence, rfl, hcoupled, hmet⟩

/-- The evidence is colder than the recovery gate. -/
theorem gate_of_allowed {input : EvaluationInput}
    (hallowed : (evaluateThermal input).recovery.allowed = true) :
    ∃ evidence, input.evidence = some evidence ∧
      evidence.temperature < recoveryGate input.policy := by
  obtain ⟨evidence, hresolved, -, hmet⟩ := resolved_of_allowed hallowed
  have htemperature := fails_eq_false.mp (hmet temperature) rfl
  simp only [met, decide_eq_true_eq] at htemperature
  exact ⟨evidence, (resolvedEvidence_eq_some.mp hresolved).2.2.2, sub_neg.mp htemperature⟩

/-- The samples of the history have the witnesses that the policy asks for. -/
theorem witnesses_of_allowed {input : EvaluationInput}
    (hallowed : (evaluateThermal input).recovery.allowed = true) {boots : List WorkerBootId}
    (hboots : ∀ s ∈ newestFirst input.recovery, s.workerBoot ∈ boots) :
    input.policy.freshness.minDistinctWitnesses ≤ boots.length := by
  obtain ⟨evidence, -, -, hmet⟩ := resolved_of_allowed hallowed
  have hwitnesses := fails_eq_false.mp (hmet witnesses) rfl
  simp only [met, decide_eq_true_eq] at hwitnesses
  refine le_trans hwitnesses (distinctBoots_le fun s hs => hboots s ?_)
  exact (List.takeWhile_sublist _).subset hs

/-- **An allowed recovery keeps within the bounds of its history.** -/
theorem attainable_of_allowed {input : EvaluationInput} {capacity : Nat}
    (hvalid : validatePolicy input.policy = .ok ())
    (hreading : ∀ e, input.evidence = some e → DegreesCelsius.absoluteZero ≤ e.temperature)
    (hcapacity : ∀ h, input.recovery.history = some h → h.samples.length ≤ capacity)
    (hallowed : (evaluateThermal input).recovery.allowed = true) :
    Attainable capacity input.policy := by
  obtain ⟨evidence, hresolved, -, hmet⟩ := resolved_of_allowed hallowed
  have hcold := hreading evidence (resolvedEvidence_eq_some.mp hresolved).2.2.2
  have hsamples := fails_eq_false.mp (hmet samples) rfl
  have hspan := fails_eq_false.mp (hmet span) rfl
  have hwitnesses := fails_eq_false.mp (hmet witnesses) rfl
  have htemperature := fails_eq_false.mp (hmet temperature) rfl
  have hheadroom := fails_eq_false.mp (hmet headroom)
  simp only [met, decide_eq_true_eq] at hsamples hspan hwitnesses htemperature hheadroom
  refine ⟨?_, le_trans hspan (spanOf_le_longestSpan _), fun hboot => ?_, ?_, fun hrequired => ?_⟩
  · refine le_trans hsamples (le_trans (List.takeWhile_sublist _).length_le ?_)
    show ((input.recovery.history.map RecoveryHistory.samples).getD []).reverse.length ≤ _
    rw [List.length_reverse]
    cases hhistory : input.recovery.history with
    | none => exact Nat.zero_le _
    | some h => exact hcapacity h hhistory
  · have hone : ∀ s ∈ qualifyingRun input.policy (recoveryInputFor input
        (computeHeadroom (headroomInputFor input evidence))),
        s.workerBoot ∈ [input.recovery.currentBoot] := by
      intro s hs
      have hqualifies := List.mem_takeWhile_imp hs
      simp only [qualifies, withinGate, bindingBroken, hboot, Bool.true_and, Bool.and_eq_true,
        Bool.not_eq_true', Bool.or_eq_false_iff, bne_eq_false_iff_eq] at hqualifies
      exact List.mem_singleton.mpr hqualifies.1.1.2.1.1
    exact le_trans hwitnesses (distinctBoots_le hone)
  · exact lt_of_le_of_lt hcold (sub_neg.mp htemperature)
  · have hpositive : (0 : ℚ) < governingLimit (headroomInputFor input evidence) -
        evidence.temperature - input.policy.margins.policySafetyMargin -
        uncertaintyFromConfidence evidence.confidence input.policy.margins.uncertaintyMargin :=
      hheadroom hrequired
    have hlimit := governingLimit_le_policyCritical (headroomInputFor input evidence)
    have huncertain := (uncertaintyFromConfidence_bounds (margins_of_valid hvalid).2.1
      evidence.confidence).1
    have hcritical : (headroomInputFor input evidence).policyCritical =
        input.policy.thresholds.critical := rfl
    rw [hcritical] at hlimit
    linarith

/-! ### The best evidence there is -/

/-- The reading is as cold as a reading can be, and certain of it. -/
structure Coldest (e : ThermalEvidence) : Prop where
  temperature : e.temperature = DegreesCelsius.absoluteZero
  confidence : e.confidence = some 1
  throttle : e.throttle = none
  limit : e.temperatureLimit = none
  provenance : e.provenance = .synthetic

/-- The sample was taken of such a reading, under the current epoch and device generation. -/
structure ColdestSample (input : RecoveryInput) (s : RecoverySample) : Prop where
  admissible : s.admissible = true
  temperature : s.temperature = DegreesCelsius.absoluteZero
  throttle : s.throttleClass = .throttleUnknown
  epoch : s.coordinatorEpoch = input.currentEpoch
  device : s.deviceGeneration = input.currentDeviceGeneration

/-- The evidence is the coldest, and its samples meet what the policy counts. -/
structure BestEvidence (input : EvaluationInput) (evidence : ThermalEvidence) : Prop where
  resolved : resolvedEvidence input = some evidence
  cold : Coldest evidence
  provenance : input.recovery.evidenceProvenance = .synthetic
  samples : ∀ s ∈ newestFirst input.recovery, ColdestSample input.recovery s
  boot : input.policy.recovery.requireSameWorkerBoot = true →
    ∀ s ∈ newestFirst input.recovery, s.workerBoot = input.recovery.currentBoot
  count : input.policy.freshness.requiredConsecutiveSamples ≤
    (newestFirst input.recovery).length
  span : input.policy.freshness.minEvidenceSpan ≤ spanOf (newestFirst input.recovery)
  witnesses : input.policy.freshness.minDistinctWitnesses ≤
    distinctBoots (newestFirst input.recovery)
  authorized : input.policy.recovery.requireExplicitAuthorization = true →
    input.recovery.explicitAuthorization = true

section Best

variable {input : EvaluationInput} {evidence : ThermalEvidence} {capacity : Nat}

/-- Every one of its samples qualifies. -/
theorem qualifyingRun_of_bestEvidence (hattainable : Attainable capacity input.policy)
    (hbest : BestEvidence input evidence) (headroom : HeadroomBreakdown) :
    qualifyingRun input.policy (recoveryInputFor input headroom) =
      newestFirst input.recovery := by
  refine List.takeWhile_eq_self_iff.mpr fun s hs => ?_
  have hcold := hbest.samples s hs
  have hgate : DegreesCelsius.absoluteZero <
      (recoveryInputFor input headroom).recoveryThreshold +
        (recoveryInputFor input headroom).recoveryMargin := hattainable.gate
  have hbinding : bindingBroken input.policy (recoveryInputFor input headroom) s = false := by
    have hepoch : (s.coordinatorEpoch != input.recovery.currentEpoch) = false :=
      bne_eq_false_iff_eq.mpr hcold.epoch
    have hdevice : (s.deviceGeneration != input.recovery.currentDeviceGeneration) = false :=
      bne_eq_false_iff_eq.mpr hcold.device
    have hboot : (input.policy.recovery.requireSameWorkerBoot &&
        s.workerBoot != input.recovery.currentBoot) = false := by
      cases hrequired : input.policy.recovery.requireSameWorkerBoot with
      | false => rfl
      | true => exact bne_eq_false_iff_eq.mpr (hbest.boot hrequired s hs)
    simp only [bindingBroken, recoveryInputFor, hboot, hepoch, hdevice, Bool.and_false,
      Bool.or_false]
  simp [qualifies, withinGate, throttles, hcold.admissible, hbinding, hcold.temperature,
    hcold.throttle, hgate]

/-- **On the best evidence recovery waits for the coupled domains alone.** -/
theorem allowed_of_bestEvidence (hattainable : Attainable capacity input.policy)
    (hbest : BestEvidence input evidence) :
    (evaluateThermal input).recovery.allowed = input.recovery.coupledDomainsRecovered := by
  rw [evaluateThermal_recovery, recoveryFor, hbest.resolved]
  dsimp only
  have hrun := qualifyingRun_of_bestEvidence hattainable hbest
    (computeHeadroom (headroomInputFor input evidence))
  rw [Bool.eq_iff_iff, allowed_iff_no_fails rfl]
  refine ⟨And.left, fun hcoupled => ⟨hcoupled, fun r => fails_eq_false.mpr fun henabled => ?_⟩⟩
  cases r with
  | temperature =>
    have hgate : DegreesCelsius.absoluteZero <
        input.policy.thresholds.recovery + input.policy.margins.recoveryMargin :=
      hattainable.gate
    refine decide_eq_true ?_
    show evidence.temperature - _ < 0
    rw [hbest.cold.temperature]
    exact sub_neg.mpr hgate
  | headroom =>
    have hroom := hattainable.headroom henabled
    have hlimit : governingLimit (headroomInputFor input evidence) =
        input.policy.thresholds.critical := by
      simp [governingLimit, headroomInputFor, hbest.cold.limit]
    refine decide_eq_true ?_
    show 0 < governingLimit (headroomInputFor input evidence) - evidence.temperature -
      input.policy.margins.policySafetyMargin -
      uncertaintyFromConfidence evidence.confidence input.policy.margins.uncertaintyMargin
    rw [hlimit, hbest.cold.temperature, hbest.cold.confidence]
    simp only [uncertaintyFromConfidence, min_self, max_eq_right zero_le_one, sub_self, mul_zero]
    linarith
  | throttle =>
    refine List.all_eq_true.mpr fun s hs => ?_
    have hmem := (List.takeWhile_sublist _).subset hs
    rw [(hbest.samples s hmem).throttle]
    rfl
  | samples =>
    rw [met, hrun]
    exact decide_eq_true hbest.count
  | span =>
    rw [met, hrun]
    exact decide_eq_true hbest.span
  | witnesses =>
    rw [met, hrun]
    exact decide_eq_true hbest.witnesses
  | coupledDomains => exact hcoupled
  | authorization => exact hbest.authorized henabled
  | provenance =>
    refine decide_eq_true ?_
    show input.recovery.evidenceProvenance ≠ .unsupported
    rw [hbest.provenance]
    decide

/-- The assessment names whether the coupled domains are recovered. -/
theorem coupledDomainsSatisfied_of_bestEvidence (hbest : BestEvidence input evidence) :
    (evaluateThermal input).recovery.coupledDomainsSatisfied =
      input.recovery.coupledDomainsRecovered := by
  rw [evaluateThermal_recovery, recoveryFor, hbest.resolved]
  dsimp only
  have hpolicy : (recoveryInputFor input (computeHeadroom
      (headroomInputFor input evidence))).policy = some input.policy := rfl
  rcases evaluateRecovery_of_policy hpolicy with ⟨hfails, -⟩ | ⟨-, hassessed⟩
  · have hsupported : input.recovery.evidenceProvenance ≠ .unsupported := by
      rw [hbest.provenance]
      decide
    have hmet : provenance.fails input.policy (recoveryInputFor input
        (computeHeadroom (headroomInputFor input evidence))) = false :=
      fails_eq_false.mpr fun _ => decide_eq_true hsupported
    rw [hmet] at hfails
    cases hfails
  · rw [hassessed]
    rfl

/-- A reading at absolute zero is in a healthy band of an accepted policy. -/
theorem isHealthy_bandState_coldest {policy : ThermalPolicy}
    (hvalid : validatePolicy policy = .ok ()) {throttle : ThrottleClass}
    (hthrottle : throttle ≠ .thermalThrottleObserved) :
    (bandState policy.thresholds throttle DegreesCelsius.absoluteZero).isHealthy = true := by
  obtain ⟨hwarning, hcritical, -, hreading⟩ := thresholds_of_valid hvalid
  simp only [DegreesCelsius.valid, Bool.and_eq_true, decide_eq_true_eq] at hreading
  have hderating : DegreesCelsius.absoluteZero < policy.thresholds.derating :=
    lt_of_le_of_lt hreading.1 hwarning
  unfold bandState
  rw [if_neg (not_le.mpr (hderating.trans hcritical)), if_neg hthrottle,
    if_neg (not_le.mpr hderating)]
  repeat' split
  all_goals rfl

/-- **On the best evidence the state is healthy when the coupled domains are.** -/
theorem isHealthy_of_bestEvidence (hvalid : validatePolicy input.policy = .ok ())
    (hattainable : Attainable capacity input.policy) (hbest : BestEvidence input evidence)
    (hrecovered : input.recovery.coupledDomainsRecovered = true)
    (hcoupled : ∀ p ∈ input.coupled, p.state.isHealthy = true) :
    (evaluateThermal input).state.isHealthy = true := by
  refine (isHealthy_evaluateThermal input).mpr ⟨?_, fun _ => ?_⟩
  · have hthrottle : resolveThrottle input evidence ≠ .thermalThrottleObserved := by
      unfold resolveThrottle
      rw [hbest.cold.throttle]
      split <;> decide
    have hband := isHealthy_bandState_coldest hvalid hthrottle
    rw [reachesGate, hbest.resolved, Option.any_some, candidateState, coupledScan,
      scanCoupled_of_quiet, hbest.cold.temperature]
    · exact hband
    · exact fun p hp => ⟨ThermalState.not_restrictive_of_healthy (hcoupled p hp),
        fun _ => hcoupled p hp⟩
  · rw [allowed_of_bestEvidence hattainable hbest, hrecovered]

end Best

end ThermalGovernor
