import ThermalGovernor.Governed.Rests

/-!
# Reported throttle reasons

An observation carries the raw reason bits and what they were classified as.  An evaluation
looks at the classification alone, so bits of the thermal mask beside another class are not
heeded.

Each stage of an evaluation is followed through the severity of throttling: the band reaches it
by the class or by the critical temperature, coupled pressure by a neighbour of that severity
under a policy that escalates, and the gate neither reaches nor leaves it
(`throttling_le_evaluateThermal_iff`).
-/

namespace ThermalGovernor

open Lib

/-- The severity of a state is at least that of throttling. -/
def ThermalState.AtLeastThrottling (s : ThermalState) : Prop :=
  ThermalState.throttling.severity ≤ s.severity

namespace ThermalState

instance (s : ThermalState) : Decidable s.AtLeastThrottling :=
  inferInstanceAs (Decidable (_ ≤ _))

theorem AtLeastThrottling.not_isHealthy {s : ThermalState} (h : s.AtLeastThrottling) :
    s.isHealthy = false := by
  revert h
  cases s <;> decide

theorem AtLeastThrottling.counts {s : ThermalState} (h : s.AtLeastThrottling) :
    (s.isRestrictive || s.isUnresolved) = true := by
  revert h
  cases s <;> decide

theorem atLeastThrottling_of_isUnresolved {s : ThermalState} (h : s.isUnresolved = true) :
    s.AtLeastThrottling := by
  revert h
  cases s <;> decide

end ThermalState

/-! ### The stages of an evaluation -/

theorem atLeastThrottling_bandState {t : ThermalThresholds ℚ} {throttle : ThrottleClass}
    {temperature : DegreesCelsius} :
    (bandState t throttle temperature).AtLeastThrottling ↔
      throttle = .thermalThrottleObserved ∨ t.critical ≤ temperature := by
  by_cases hcritical : t.critical ≤ temperature
  · rw [bandState, if_pos hcritical]
    exact iff_of_true (by decide) (.inr hcritical)
  by_cases hthrottle : throttle = .thermalThrottleObserved
  · rw [bandState, if_neg hcritical, if_pos hthrottle]
    exact iff_of_true (by decide) (.inl hthrottle)
  · refine iff_of_false ?_ (not_or.mpr ⟨hthrottle, hcritical⟩)
    rw [bandState, if_neg hcritical, if_neg hthrottle]
    split_ifs
    all_goals decide

theorem atLeastThrottling_couple {policy : CouplingPolicy} {scan : CouplingScan}
    {p : CoupledPressure} :
    (couple policy scan p).candidate.AtLeastThrottling ↔ scan.candidate.AtLeastThrottling ∨
      (policy.escalateToHottestNeighbour = true ∧ p.state.AtLeastThrottling) := by
  unfold couple
  dsimp only
  by_cases hescalate : policy.escalateToHottestNeighbour = true
  · by_cases hcounts : (p.state.isRestrictive || p.state.isUnresolved) = true
    · rw [if_pos (by rw [hescalate, hcounts]; rfl), ThermalState.AtLeastThrottling,
        severity_escalate, le_max_iff]
      simp [ThermalState.AtLeastThrottling, hescalate]
    · rw [if_neg (by simpa [hescalate] using hcounts)]
      have hnot : ¬ p.state.AtLeastThrottling := fun h => hcounts h.counts
      simp [hnot]
  · rw [if_neg (by simp [hescalate])]
    simp [hescalate]

theorem atLeastThrottling_foldl_couple (policy : CouplingPolicy) (coupled : List CoupledPressure) :
    ∀ scan : CouplingScan, (coupled.foldl (couple policy) scan).candidate.AtLeastThrottling ↔
      scan.candidate.AtLeastThrottling ∨ (policy.escalateToHottestNeighbour = true ∧
        ∃ p ∈ coupled, p.state.AtLeastThrottling) := by
  induction coupled with
  | nil =>
    intro scan
    simp
  | cons p rest ih =>
    intro scan
    rw [List.foldl_cons, ih, atLeastThrottling_couple, or_assoc, ← and_or_left,
      List.exists_mem_cons_iff]

/-- Tightening reaches the derated state and no further. -/
theorem atLeastThrottling_tightened {scan : CouplingScan} :
    scan.tightened.AtLeastThrottling ↔ scan.candidate.AtLeastThrottling := by
  unfold CouplingScan.tightened
  split
  · rename_i hpressed
    rw [Bool.and_eq_true] at hpressed
    refine iff_of_false (by decide) fun h => ?_
    rw [h.not_isHealthy] at hpressed
    cases hpressed.2
  · rfl

/-- What the gate retains is the derated state at most. -/
theorem atLeastThrottling_hysteresisGate {previous candidate : ThermalState}
    {recovery : RecoveryAssessment} {reasons : ReasonCodeSet} :
    (hysteresisGate previous candidate recovery reasons).1.AtLeastThrottling ↔
      candidate.AtLeastThrottling := by
  unfold hysteresisGate
  split
  · rfl
  rename_i hhealthy
  split
  · rfl
  rename_i hgate
  split
  · rfl
  rename_i hrevalidated
  split
  · rfl
  · refine iff_of_false ?_ fun h => hhealthy (by rw [h.not_isHealthy]; rfl)
    show ¬ (retentionState previous).AtLeastThrottling
    revert hgate hrevalidated
    cases previous <;> decide

/-- The coupled domains raise the candidate to the severity of throttling. -/
def RaisedByNeighbour (input : EvaluationInput) : Prop :=
  input.policy.coupling.coDerateCoupledDomains = true ∧
    input.policy.coupling.escalateToHottestNeighbour = true ∧
    ∃ p ∈ input.coupled, p.state.AtLeastThrottling

theorem atLeastThrottling_candidateState {input : EvaluationInput} {e : ThermalEvidence} :
    (candidateState input e).AtLeastThrottling ↔
      resolveThrottle input e = .thermalThrottleObserved ∨
      input.policy.thresholds.critical ≤ e.temperature ∨ RaisedByNeighbour input := by
  unfold candidateState coupledScan RaisedByNeighbour
  rw [atLeastThrottling_tightened]
  by_cases hcouples : input.policy.coupling.coDerateCoupledDomains = true
  · rw [scanCoupled, if_pos hcouples, atLeastThrottling_foldl_couple, atLeastThrottling_bandState,
      or_assoc]
    simp [hcouples]
  · rw [scanCoupled, if_neg hcouples, atLeastThrottling_bandState]
    simp [hcouples]

/-- **An evaluation comes to the severity of throttling by a hard predicate, the class, the
critical temperature or a neighbour.** -/
theorem throttling_le_evaluateThermal_iff (input : EvaluationInput) :
    (evaluateThermal input).state.AtLeastThrottling ↔ resolvedEvidence input = none ∨
      ∃ e, resolvedEvidence input = some e ∧
        (resolveThrottle input e = .thermalThrottleObserved ∨
          input.policy.thresholds.critical ≤ e.temperature ∨ RaisedByNeighbour input) := by
  rcases evaluateThermal_cases input with ⟨e, hresolved, heq⟩ | ⟨hnone, hrefuses⟩
  · rw [heq, hresolved, evaluateResolved_state, nextThermalState]
    dsimp only
    rw [atLeastThrottling_hysteresisGate, atLeastThrottling_candidateState]
    simp
  · exact iff_of_true (ThermalState.atLeastThrottling_of_isUnresolved hrefuses.unresolved)
      (.inl hnone)

namespace Governor

variable {g : Governor} {id : ThermalDomainId} {input : EvaluationInput} {e : ThermalEvidence}
variable {observed : ThrottleObservation}

/-- Fresh evidence that governs the domain reports a thermal reason from a supported source. -/
structure ReportsThrottle (g : Governor) (id : ThermalDomainId) (input : EvaluationInput)
    (e : ThermalEvidence) (observed : ThrottleObservation) : Prop where
  evaluates : g.inputOf id = some input
  governs : input.evidence = some e
  fresh : input.freshness = .fresh
  supported : input.throttleCapability.isSupported = true
  observation : e.throttle = some observed
  reason : observed.rawReasons &&& thermalThrottleMask ≠ 0

/-- The evaluation of the domain is at least as severe as throttling. -/
def HeedsThrottle (g : Governor) (id : ThermalDomainId) : Prop :=
  ∀ e, (g.evaluateDomain id).2 = .ok e → e.state.AtLeastThrottling

/-- **A reported throttle is heeded exactly when its class says so, or something else is as
severe.** -/
theorem heedsThrottle_iff (h : g.ReportsThrottle id input e observed) :
    g.HeedsThrottle id ↔ observed.classification = .thermalThrottleObserved ∨
      input.policy.thresholds.critical ≤ e.temperature ∨ RaisedByNeighbour input ∨
      input.temperatureCapability.isSupported = false ∨ input.evidenceConflict = true := by
  obtain ⟨definition, policy, hfind, hpolicy, rfl⟩ := inputOf_eq_some.mp h.evaluates
  have hstate : g.HeedsThrottle id ↔
      (evaluateThermal (g.evaluation definition policy).1).state.AtLeastThrottling := by
    unfold HeedsThrottle
    rw [evaluateDomain_eq_ok hfind hpolicy]
    exact ⟨fun heeds => heeds (g.evaluation definition policy).2 rfl,
      fun heeds e he => Except.ok.inj he ▸ heeds⟩
  have hclass : resolveThrottle (g.evaluation definition policy).1 e = observed.classification := by
    have hnot : (g.evaluation definition policy).1.throttleCapability ≠ .unsupported := by
      intro hunsupported
      have hsupported := h.supported
      rw [hunsupported] at hsupported
      cases hsupported
    rw [resolveThrottle, if_neg hnot, h.observation]
  rw [hstate, throttling_le_evaluateThermal_iff]
  generalize (g.evaluation definition policy).1 = input at h hclass ⊢
  cases hsupported : input.temperatureCapability.isSupported with
  | false =>
    refine iff_of_true (.inl ?_) (by simp)
    simp [resolvedEvidence, hsupported]
  | true =>
    cases hconflict : input.evidenceConflict with
    | true =>
      refine iff_of_true (.inl ?_) (by simp)
      simp [resolvedEvidence, hconflict]
    | false =>
      have hresolved : resolvedEvidence input = some e :=
        resolvedEvidence_eq_some.mpr ⟨hsupported, hconflict, h.fresh, h.governs⟩
      simp [hresolved, hclass]

section Deployment

open Deployment

/-- The device of the deployment with a throttle source. -/
def throttleSource : DeviceRegistration :=
  { device with
    capabilities :=
      { states := fun c =>
          match c with
          | .temperature | .throttleReasons => .supportedSynthetic
          | _ => .unsupported } }

/-- A cool reading with a thermal reason bit beside a class. -/
def slowedReading (kind : ThrottleClass) : ThermalEvidence :=
  { reading 40 1 0 with throttle := some { rawReasons := 1 <<< 5, classification := kind } }

/-- The device of the deployment, with a throttle source. -/
def watched : Governor :=
  [.registerDevice throttleSource, .registerThermalDomain domain].foldl apply
    (create Deployment.config 0)

/-- The reading is published. -/
def slowed (kind : ThrottleClass) : Governor := (watched.publishTemperature (slowedReading kind)).1

/-- The input of the domain after the reading. -/
def slowedInput (kind : ThrottleClass) : EvaluationInput :=
  ((slowed kind).inputOf 1).getD {}

/-- What the domain makes of the reading depends on its class; that it reports a thermal reason
does not. -/
theorem reportsThrottle_slowed {kind : ThrottleClass}
    (hinput : ((slowed kind).inputOf 1).isSome = true)
    (hgoverns : (slowedInput kind).evidence = some (slowedReading kind))
    (hfresh : (slowedInput kind).freshness = .fresh)
    (hsupported : (slowedInput kind).throttleCapability.isSupported = true) :
    ReportsThrottle (slowed kind) 1 (slowedInput kind) (slowedReading kind)
      { rawReasons := 1 <<< 5, classification := kind } where
  evaluates := by
    obtain ⟨input, hsome⟩ := Option.isSome_iff_exists.mp hinput
    rw [slowedInput, hsome]
    rfl
  governs := hgoverns
  fresh := hfresh
  supported := hsupported
  observation := rfl
  reason := by
    show 1 <<< 5 &&& thermalThrottleMask ≠ 0
    decide

/-- The class that goes with the bit is heeded. -/
theorem heedsThrottle_slowed : HeedsThrottle (slowed .thermalThrottleObserved) 1 :=
  (heedsThrottle_iff (reportsThrottle_slowed (by decide +kernel) (by decide +kernel)
    (by decide +kernel) (by decide +kernel))).mpr (.inl rfl)

/-- **Beside a class of no throttling the bit is accepted and not heeded.** -/
theorem not_heedsThrottle :
    ¬ ∀ (g : Governor) (e : ThermalEvidence) (id : ThermalDomainId) (input : EvaluationInput)
      (observed : ThrottleObservation), g.Reachable → g.accepts e = true →
      ReportsThrottle (g.publishTemperature e).1 id input e observed →
        HeedsThrottle (g.publishTemperature e).1 id := by
  intro h
  have hheeds := h watched (slowedReading .noThrottleObserved) 1
    (slowedInput .noThrottleObserved)
    { rawReasons := 1 <<< 5, classification := .noThrottleObserved }
    ⟨Deployment.config, 0, runs_foldl _ _⟩ (by decide +kernel)
    (reportsThrottle_slowed (by decide +kernel) (by decide +kernel) (by decide +kernel)
      (by decide +kernel))
  have hnormal : (((slowed .noThrottleObserved).evaluateDomain 1).2.toOption.map
      ThermalEvaluation.state) = some .normal := by decide +kernel
  cases hresult : ((slowed .noThrottleObserved).evaluateDomain 1).2 with
  | error e =>
    rw [hresult] at hnormal
    cases hnormal
  | ok e =>
    rw [hresult] at hnormal
    have hsevere := hheeds e hresult
    rw [Option.some.inj hnormal] at hsevere
    exact absurd hsevere (by decide)

end Deployment

end Governor

end ThermalGovernor
