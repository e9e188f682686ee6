import ThermalGovernor.Evaluation.Evaluate

/-!
# What an `allow` rests on

The decision of an evaluation comes at the end of a long chain: five hard
predicates, the temperature band, the pressure of coupled domains, the hysteresis
gate, the admission predicate.  `AllowJustified` lists what each of them has let
through when the answer is `allow`, and `allowJustified_of_allow` follows the chain
backwards.  Nothing is assumed about the policy; a policy that passes its
validation is a special case.
-/

namespace ThermalGovernor

/-- The vendor limit that may govern: one that the domain can measure, inside the
representable range, read from a real source. -/
def realVendorLimit (input : EvaluationInput) (evidence : ThermalEvidence) :
    Option DegreesCelsius :=
  if input.limitCapability ≠ .unsupported ∧ evidence.provenance = .real then
    evidence.temperatureLimit.filter DegreesCelsius.valid
  else none

/-- The smaller of the policy's critical threshold and the real vendor limit, if any. -/
def governingCeiling (input : EvaluationInput) (evidence : ThermalEvidence) : DegreesCelsius :=
  match realVendorLimit input evidence with
  | some limit => min input.policy.thresholds.critical limit
  | none => input.policy.thresholds.critical

/-- What the policy and the profile demand of the effective headroom. -/
def headroomDemand (input : EvaluationInput) : ℚ :=
  input.policy.admission.minEffectiveHeadroom +
    workloadHeadroomDemand input.policy input.workloadProfile

/-- The guards an evaluation that answers `allow` has passed. -/
structure AllowJustified (input : EvaluationInput) (evidence : ThermalEvidence)
    (e : ThermalEvaluation) : Prop where
  capability : input.temperatureCapability.isSupported = true
  present : input.evidence = some evidence
  noConflict : input.evidenceConflict = false
  fresh : input.freshness = .fresh
  healthy : e.state = .normal ∨ e.state = .warm ∨ e.state = .nearLimit
  throttle : e.throttleClass ≠ .thermalThrottleObserved
  belowDerating : evidence.temperature < input.policy.thresholds.derating
  coupled : input.policy.coupling.coDerateCoupledDomains = true →
    ∀ p ∈ input.coupled, p.state ≠ .derated ∧ p.state ≠ .throttling ∧ p.state ≠ .critical
  headroom : headroomDemand input ≤ e.headroom.effectiveHeadroom
  underCeiling : evidence.temperature + input.policy.margins.policySafetyMargin +
    uncertaintyFromConfidence evidence.confidence input.policy.margins.uncertaintyMargin +
    headroomDemand input ≤ governingCeiling input evidence

/-- The governing limit of the headroom is the ceiling. -/
theorem governingLimit_headroomInputFor (input : EvaluationInput) (evidence : ThermalEvidence) :
    governingLimit (headroomInputFor input evidence) = governingCeiling input evidence := by
  rw [governingLimit_eq]
  unfold governingCeiling realVendorLimit headroomInputFor
  by_cases hcapability : input.limitCapability = .unsupported
  · simp [hcapability]
  by_cases hnone : evidence.temperatureLimit = none
  · simp [hnone]
  obtain ⟨limit, hlimit⟩ := Option.ne_none_iff_exists'.mp hnone
  by_cases hreal : evidence.provenance = .real
  · by_cases hvalid : DegreesCelsius.valid limit = true
    · simp [hcapability, hlimit, hreal, hvalid, Option.filter]
    · simp [hcapability, hlimit, hreal, hvalid, Option.filter]
  · simp [hcapability, hlimit, hreal]

theorem demand_workloadTerms (policy : ThermalPolicy) (profile : WorkloadThermalProfile) :
    (workloadTerms policy profile).demand = workloadHeadroomDemand policy profile := by
  unfold workloadTerms
  dsimp only
  split <;> rfl

/-- The states that are not restrictive, spelled out. -/
theorem ThermalState.not_isRestrictive_iff {s : ThermalState} :
    s.isRestrictive = false ↔ s ≠ .derated ∧ s ≠ .throttling ∧ s ≠ .critical := by
  cases s <;> decide

theorem ThermalState.isHealthy_cases {s : ThermalState} (h : s.isHealthy = true) :
    s = .normal ∨ s = .warm ∨ s = .nearLimit := by
  revert h
  cases s <;> decide

/-- **An `allow` has passed every guard.** -/
theorem allowJustified_of_allow (input : EvaluationInput)
    (h : (evaluateThermal input).decision = .allow) :
    ∃ evidence, AllowJustified input evidence (evaluateThermal input) := by
  rcases evaluateThermal_eq input with ⟨evidence, hres, heq⟩ | ⟨_, _, _, hne⟩
  · rw [heq] at h ⊢
    obtain ⟨hcapability, hconflict, hfresh, hpresent⟩ := resolvedEvidence_eq_some.mp hres
    obtain ⟨hmet, hdecision⟩ := admitHeadroom_allow h
    have hhealthy : (evaluateResolved input evidence).state.isHealthy = true :=
      decisionForState_allow hdecision
    obtain ⟨hthrottle, htemperature, hcoupled⟩ := of_isHealthy_nextThermalState hhealthy
    rw [demand_workloadTerms] at hmet
    have hceiling := le_governingLimit_of_meetsDemand hmet
    rw [governingLimit_headroomInputFor] at hceiling
    exact ⟨evidence,
      { capability := hcapability
        present := hpresent
        noConflict := hconflict
        fresh := hfresh
        healthy := ThermalState.isHealthy_cases hhealthy
        throttle := hthrottle
        belowDerating := htemperature
        coupled := fun hpolicy p hp =>
          ThermalState.not_isRestrictive_iff.mp (hcoupled hpolicy p hp)
        headroom := of_decide_eq_true hmet
        underCeiling := hceiling }⟩
  · exact absurd h hne

/-- An input that is allowed. -/
def allowedInput : EvaluationInput where
  temperatureCapability := .supportedSynthetic
  freshness := .fresh
  evidence := some { temperature := 40, provenance := .synthetic, source := .syntheticModel }

/-- The guards at a cool reading. -/
theorem allowJustified_allowedInput :
    (evaluateThermal allowedInput).decision = .allow ∧
      ∃ evidence, AllowJustified allowedInput evidence (evaluateThermal allowedInput) := by
  have hallow : (evaluateThermal allowedInput).decision = .allow := by decide +kernel
  exact ⟨hallow, allowJustified_of_allow allowedInput hallow⟩

end ThermalGovernor
