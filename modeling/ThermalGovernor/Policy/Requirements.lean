import ThermalGovernor.Policy.Recovery
import Mathlib.Data.List.Dedup
import Mathlib.Data.List.TakeWhile

/-!
# What recovery requires

`evaluateRecovery` walks the samples and computes its answer in one conjunction; here
the same answer is read as a list of requirements.  The walk is put in closed form
first (`walkSamples_eq`): it counts the qualifying samples up to the first one that
does not qualify, and of that one it keeps whether it was throttled or broke a binding.

A `RecoveryRequirement` is enabled by the policy or not, met by the input or not, and
has the reason code that names its failure.  `allowed_iff_no_fails` compares the answer
with the enabled requirements, and `reason_mem_of_fails` the reasons with the failing
ones.
-/

namespace ThermalGovernor

/-! ### The walk in closed form -/

section Walk

variable (policy : ThermalPolicy) (input : RecoveryInput)

/-- The sample is admissible, bound to the current incarnations and below the gate. -/
def withinGate (s : RecoverySample) : Bool :=
  s.admissible && ! bindingBroken policy input s &&
  decide (s.temperature < input.recoveryThreshold + input.recoveryMargin)

/-- The sample was throttled, and the policy asks for none that is. -/
def throttles (s : RecoverySample) : Bool :=
  policy.recovery.requireNoThermalThrottle && s.throttleClass = .thermalThrottleObserved

/-- The sample counts towards recovery. -/
def qualifies (s : RecoverySample) : Bool := withinGate policy input s && ! throttles policy s

/-- What the walk keeps of the sample that ends it. -/
def RecoveryWalk.endedBy (w : RecoveryWalk) : Option RecoverySample → RecoveryWalk
  | none => w
  | some s =>
    { w with
      throttleClear := w.throttleClear && ! withinGate policy input s
      generationBindingOk :=
        w.generationBindingOk && ! (s.admissible && bindingBroken policy input s) }

/-- The sample that ends the walk over these samples, newest first. -/
def endOfWalk (samples : List RecoverySample) : Option RecoverySample :=
  (samples.dropWhile (qualifies policy input)).head?

/-- **The walk counts the qualifying samples up to the first other one.** -/
theorem walkSamples_eq : ∀ (samples : List RecoverySample) (w : RecoveryWalk),
    walkSamples policy input samples w =
      ((samples.takeWhile (qualifies policy input)).foldl RecoveryWalk.count w).endedBy policy
        input (endOfWalk policy input samples) := by
  intro samples
  induction samples with
  | nil => intro w; rfl
  | cons s rest ih =>
    intro w
    by_cases hq : qualifies policy input s = true
    · have htake : (s :: rest).takeWhile (qualifies policy input) =
          s :: rest.takeWhile (qualifies policy input) := List.takeWhile_cons_of_pos hq
      have hend : endOfWalk policy input (s :: rest) = endOfWalk policy input rest := by
        rw [endOfWalk, List.dropWhile_cons_of_pos hq, endOfWalk]
      rw [htake, hend, List.foldl_cons, ← ih]
      simp only [qualifies, withinGate, throttles, Bool.and_eq_true, Bool.not_eq_true',
        decide_eq_true_eq] at hq
      obtain ⟨⟨⟨hadmissible, hbinding⟩, hbelow⟩, hthrottle⟩ := hq
      rw [walkSamples, if_neg (by simp [hadmissible]), if_neg (by simp [hbinding]),
        if_neg (not_le.mpr hbelow), if_neg (by simp [hthrottle])]
    · rw [List.takeWhile_cons_of_neg hq, List.foldl_nil, endOfWalk,
        List.dropWhile_cons_of_neg hq, List.head?_cons, RecoveryWalk.endedBy, walkSamples]
      by_cases hadmissible : s.admissible = true
      · rw [if_neg (by simp [hadmissible])]
        by_cases hbinding : bindingBroken policy input s = true
        · simp [hbinding, hadmissible, withinGate]
        · rw [if_neg hbinding]
          by_cases hbelow : s.temperature < input.recoveryThreshold + input.recoveryMargin
          · have hthrottle : throttles policy s = true := by
              simpa [qualifies, withinGate, hadmissible, hbinding, hbelow] using hq
            unfold throttles at hthrottle
            rw [if_neg (not_le.mpr hbelow), if_pos hthrottle]
            simp [withinGate, hadmissible, hbinding, hbelow]
          · rw [if_pos (not_lt.mp hbelow)]
            simp [withinGate, hadmissible, hbinding, hbelow]
      · rw [if_pos (by simp [hadmissible])]
        simp [withinGate, hadmissible]

end Walk

/-- The distinct boots among the samples. -/
def distinctBoots (samples : List RecoverySample) : Nat :=
  (samples.map RecoverySample.workerBoot).dedup.length

/-- The span of a run, newest sample first. -/
def spanOf (run : List RecoverySample) : Milliseconds :=
  match run.head?, run.getLast? with
  | some newest, some oldest => milliseconds (elapsed newest.atTime oldest.atTime)
  | _, _ => 0

/-! Counting a run adds its length, its ends and its boots. -/

@[simp] theorem qualifying_foldl_count : ∀ (run : List RecoverySample) (w : RecoveryWalk),
    (run.foldl RecoveryWalk.count w).qualifying = w.qualifying + run.length := by
  intro run
  induction run with
  | nil => intro w; rfl
  | cons s rest ih =>
    intro w
    have hcount : (w.count s).qualifying = w.qualifying + 1 := rfl
    rw [List.foldl_cons, ih, hcount, List.length_cons]
    omega

@[simp] theorem throttleClear_foldl_count : ∀ (run : List RecoverySample) (w : RecoveryWalk),
    (run.foldl RecoveryWalk.count w).throttleClear = w.throttleClear := by
  intro run
  induction run with
  | nil => intro w; rfl
  | cons s rest ih => intro w; exact ih (w.count s)

@[simp] theorem newest_foldl_count : ∀ (run : List RecoverySample) (w : RecoveryWalk),
    (run.foldl RecoveryWalk.count w).newest =
      w.newest.or (run.head?.map RecoverySample.atTime) := by
  intro run
  induction run with
  | nil => intro w; exact (Option.or_none).symm
  | cons s rest ih =>
    intro w
    have hcount : (w.count s).newest = w.newest.or (some s.atTime) := rfl
    rw [List.foldl_cons, ih, hcount, Option.or_assoc]
    rfl

@[simp] theorem oldest_foldl_count : ∀ (run : List RecoverySample) (w : RecoveryWalk),
    (run.foldl RecoveryWalk.count w).oldest =
      (run.getLast?.map RecoverySample.atTime).or w.oldest := by
  intro run
  induction run with
  | nil => intro w; rfl
  | cons s rest ih =>
    intro w
    have hcount : (w.count s).oldest = some s.atTime := rfl
    rw [List.foldl_cons, ih, hcount]
    cases rest with
    | nil => rfl
    | cons t others =>
      rw [List.getLast?_cons_cons, List.getLast?_eq_some_getLast (List.cons_ne_nil t others)]
      rfl

/-- The witnesses of a walk are the boots it has counted, each once. -/
theorem witnesses_foldl_count : ∀ (run : List RecoverySample) (w : RecoveryWalk),
    w.witnesses.Nodup → (run.foldl RecoveryWalk.count w).witnesses.Nodup ∧
      ∀ boot, boot ∈ (run.foldl RecoveryWalk.count w).witnesses ↔
        boot ∈ w.witnesses ∨ boot ∈ run.map RecoverySample.workerBoot := by
  intro run
  induction run with
  | nil => intro w hw; exact ⟨hw, fun boot => by simp⟩
  | cons s rest ih =>
    intro w hw
    have hstep : (w.count s).witnesses.Nodup ∧
        ∀ boot, boot ∈ (w.count s).witnesses ↔ boot ∈ w.witnesses ∨ boot = s.workerBoot := by
      simp only [RecoveryWalk.count]
      split
      · rename_i hmem
        refine ⟨hw, fun boot => ⟨.inl, ?_⟩⟩
        rintro (h | rfl)
        · exact h
        · exact hmem
      · rename_i hnew
        refine ⟨?_, fun boot => by rw [List.mem_append, List.mem_singleton]⟩
        refine List.nodup_append.mpr ⟨hw, List.nodup_singleton _, ?_⟩
        intro a ha b hb
        obtain rfl := List.mem_singleton.mp hb
        rintro rfl
        exact hnew ha
    rw [List.foldl_cons]
    obtain ⟨hnodup, hmem⟩ := ih (w.count s) hstep.1
    refine ⟨hnodup, fun boot => ?_⟩
    rw [hmem, hstep.2, List.map_cons, List.mem_cons, or_assoc]

/-- The walk counts as many witnesses as the run has boots. -/
theorem length_witnesses_foldl_count (run : List RecoverySample) :
    (run.foldl RecoveryWalk.count {}).witnesses.length = distinctBoots run := by
  obtain ⟨hnodup, hmem⟩ := witnesses_foldl_count run {} List.nodup_nil
  have hperm : (run.foldl RecoveryWalk.count {}).witnesses.Perm
      (run.map RecoverySample.workerBoot).dedup := by
    refine (List.perm_ext_iff_of_nodup hnodup (List.nodup_dedup _)).mpr fun boot => ?_
    rw [hmem, List.mem_dedup]
    exact ⟨fun h => h.resolve_left List.not_mem_nil, .inr⟩
  exact hperm.length_eq

/-! ### The run, and what the assessment reads off it -/

section Run

variable (policy : ThermalPolicy) (input : RecoveryInput)

/-- The samples of the input, newest first. -/
def newestFirst : List RecoverySample :=
  ((input.history.map RecoveryHistory.samples).getD []).reverse

/-- The newest samples within the gate, throttled ones included. -/
def gateRun : List RecoverySample := (newestFirst input).takeWhile (withinGate policy input)

/-- The newest qualifying samples, which are the ones that count. -/
def qualifyingRun : List RecoverySample := (newestFirst input).takeWhile (qualifies policy input)

/-- The walk over the samples of the input. -/
def recoveryWalk : RecoveryWalk := walkSamples policy input (newestFirst input) {}

theorem recoveryWalk_eq :
    recoveryWalk policy input =
      ((qualifyingRun policy input).foldl RecoveryWalk.count {}).endedBy policy input
        (endOfWalk policy input (newestFirst input)) :=
  walkSamples_eq policy input _ _

/-- How the walk ends touches none of the counts. -/
theorem endedBy_counts (w : RecoveryWalk) (last : Option RecoverySample) :
    (w.endedBy policy input last).qualifying = w.qualifying ∧
    (w.endedBy policy input last).newest = w.newest ∧
    (w.endedBy policy input last).oldest = w.oldest ∧
    (w.endedBy policy input last).witnesses = w.witnesses := by
  cases last with
  | none => exact ⟨rfl, rfl, rfl, rfl⟩
  | some s => exact ⟨rfl, rfl, rfl, rfl⟩

theorem qualifying_recoveryWalk :
    (recoveryWalk policy input).qualifying = (qualifyingRun policy input).length := by
  rw [recoveryWalk_eq, (endedBy_counts policy input _ _).1, qualifying_foldl_count]
  exact Nat.zero_add _

theorem span_recoveryWalk :
    (recoveryWalk policy input).span = spanOf (qualifyingRun policy input) := by
  obtain ⟨-, hnewest, holdest, -⟩ := endedBy_counts policy input
    ((qualifyingRun policy input).foldl RecoveryWalk.count {})
    (endOfWalk policy input (newestFirst input))
  rw [recoveryWalk_eq, RecoveryWalk.span, hnewest, holdest, newest_foldl_count,
    oldest_foldl_count, spanOf]
  cases hrun : qualifyingRun policy input with
  | nil => rfl
  | cons s rest => rw [List.getLast?_eq_some_getLast (List.cons_ne_nil s rest)]; rfl

theorem witnesses_recoveryWalk :
    (recoveryWalk policy input).witnesses.length = distinctBoots (qualifyingRun policy input) := by
  rw [recoveryWalk_eq, (endedBy_counts policy input _ _).2.2.2, length_witnesses_foldl_count]

/-- The walk is clear of throttling when the sample that ends it lies outside the gate. -/
theorem throttleClear_recoveryWalk :
    (recoveryWalk policy input).throttleClear =
      ! (endOfWalk policy input (newestFirst input)).any (withinGate policy input) := by
  rw [recoveryWalk_eq]
  cases endOfWalk policy input (newestFirst input) with
  | none => exact throttleClear_foldl_count _ _
  | some s =>
    show (_ && ! withinGate policy input s) = _
    rw [throttleClear_foldl_count]
    rfl

/-- The sample that ends the walk lies within the gate when one of the samples within the
gate is throttled. -/
theorem endOfWalk_withinGate : ∀ samples : List RecoverySample,
    (endOfWalk policy input samples).any (withinGate policy input) =
      (samples.takeWhile (withinGate policy input)).any (throttles policy) := by
  intro samples
  induction samples with
  | nil => rfl
  | cons s rest ih =>
    unfold endOfWalk at ih ⊢
    by_cases hgate : withinGate policy input s = true
    · rw [List.takeWhile_cons_of_pos hgate, List.any_cons]
      by_cases hthrottle : throttles policy s = true
      · have hq : ¬ qualifies policy input s = true := by simp [qualifies, hthrottle]
        rw [List.dropWhile_cons_of_neg hq, hthrottle, Bool.true_or]
        exact hgate
      · have hq : qualifies policy input s = true := by simp [qualifies, hgate, hthrottle]
        rw [List.dropWhile_cons_of_pos hq, ih, Bool.eq_false_iff.mpr hthrottle, Bool.false_or]
    · have hq : ¬ qualifies policy input s = true := by simp [qualifies, hgate]
      rw [List.takeWhile_cons_of_neg hgate, List.dropWhile_cons_of_neg hq]
      exact Bool.eq_false_iff.mpr hgate

end Run

/-! ### The requirements -/

/-- What a policy may require of a recovery. -/
inductive RecoveryRequirement
  | temperature | headroom | throttle | samples | span | witnesses | coupledDomains
  | authorization | provenance
  deriving DecidableEq

namespace RecoveryRequirement

/-- The policy asks for it. -/
def enabled (policy : ThermalPolicy) (input : RecoveryInput) : RecoveryRequirement → Bool
  | temperature | samples | span | witnesses => true
  | headroom => policy.recovery.requireHeadroomAboveRecoveryMargin
  | throttle => policy.recovery.requireNoThermalThrottle
  | coupledDomains =>
    policy.recovery.requireCoupledDomainsRecovered && input.coupledDomainsChecked
  | authorization => policy.recovery.requireExplicitAuthorization
  | provenance => policy.recovery.forbidRecoveryAfterUnsupportedEvidence

/-- The input meets it. -/
def met (policy : ThermalPolicy) (input : RecoveryInput) : RecoveryRequirement → Bool
  | temperature => input.headroom.distanceAboveRecoveryGate < 0
  | headroom => 0 < input.headroom.effectiveHeadroom
  | throttle => (gateRun policy input).all fun s => s.throttleClass ≠ .thermalThrottleObserved
  | samples =>
    policy.freshness.requiredConsecutiveSamples ≤ (qualifyingRun policy input).length
  | span => policy.freshness.minEvidenceSpan ≤ spanOf (qualifyingRun policy input)
  | witnesses =>
    policy.freshness.minDistinctWitnesses ≤ distinctBoots (qualifyingRun policy input)
  | coupledDomains => input.coupledDomainsRecovered
  | authorization => input.explicitAuthorization
  | provenance => input.evidenceProvenance ≠ .unsupported

/-- The reason that names its failure. -/
def reason : RecoveryRequirement → ThermalReasonCode
  | temperature => .recoveryThresholdExceeded
  | headroom => .effectiveHeadroomBelowDemand
  | throttle => .recoveryBlockedByThrottleEvidence
  | samples => .recoverySamplesInsufficient
  | span => .recoveryEvidenceSpanInsufficient
  | witnesses => .recoveryWitnessesInsufficient
  | coupledDomains => .recoveryBlockedByCoupledDomain
  | authorization => .recoveryRequiresExplicitAuthorization
  | provenance => .recoveryForbiddenByPolicy

/-- The policy asks for it and the input does not meet it. -/
def fails (policy : ThermalPolicy) (input : RecoveryInput) (r : RecoveryRequirement) : Bool :=
  r.enabled policy input && ! r.met policy input

theorem fails_eq_false {policy : ThermalPolicy} {input : RecoveryInput}
    {r : RecoveryRequirement} :
    r.fails policy input = false ↔
      (r.enabled policy input = true → r.met policy input = true) := by
  unfold fails
  cases r.enabled policy input <;> cases r.met policy input <;> decide

end RecoveryRequirement

section Requirements

open RecoveryRequirement

variable {policy : ThermalPolicy} {input : RecoveryInput}

theorem throttle_fails :
    throttle.fails policy input =
      (policy.recovery.requireNoThermalThrottle &&
        ! (recoveryWalk policy input).throttleClear) := by
  rw [throttleClear_recoveryWalk, endOfWalk_withinGate, Bool.not_not]
  show (policy.recovery.requireNoThermalThrottle && ! (gateRun policy input).all _) = _
  rw [List.not_all_eq_any_not]
  unfold throttles gateRun
  cases policy.recovery.requireNoThermalThrottle <;> simp

/-- Without a throttle requirement nothing makes the walk end throttled. -/
theorem throttleClear_of_not_required
    (h : policy.recovery.requireNoThermalThrottle = false) :
    (recoveryWalk policy input).throttleClear = true := by
  rw [throttleClear_recoveryWalk, endOfWalk_withinGate]
  simp [throttles, h]

theorem throttle_fails_eq :
    throttle.fails policy input = ! (recoveryWalk policy input).throttleClear := by
  rw [throttle_fails]
  cases h : policy.recovery.requireNoThermalThrottle with
  | true => rfl
  | false => rw [throttleClear_of_not_required h]; rfl

/-- The conjunction of the source, requirement by requirement. -/
theorem allowed_assessRecovery_eq (policy : ThermalPolicy) (input : RecoveryInput) :
    (assessRecovery policy input).allowed =
      (! temperature.fails policy input && ! headroom.fails policy input &&
        ! throttle.fails policy input && ! samples.fails policy input &&
        ! span.fails policy input && ! witnesses.fails policy input &&
        input.coupledDomainsRecovered && ! authorization.fails policy input) := by
  have hsamples := qualifying_recoveryWalk policy input
  have hspan := span_recoveryWalk policy input
  have hwitnesses := witnesses_recoveryWalk policy input
  rw [throttle_fails_eq]
  simp only [fails, enabled, met, ← hsamples, ← hspan, ← hwitnesses, Bool.true_and, Bool.not_not,
    Bool.not_and]
  rfl

/-! The reasons name the requirements that fail. -/

theorem ReasonCodeSet.mem_addIf {s : ReasonCodeSet} {condition : Bool}
    {code c : ThermalReasonCode} :
    c ∈ s.addIf condition code ↔ c ∈ s ∨ (condition = true ∧ c = code ∧ code ≠ .none) := by
  unfold ReasonCodeSet.addIf
  split
  · rename_i h
    rw [ReasonCodeSet.mem_add]
    simp [h]
  · rename_i h
    simp [h]

theorem ReasonCodeSet.mem_canonicalise {s : ReasonCodeSet} {c : ThermalReasonCode} :
    c ∈ s.canonicalise ↔ c ∈ s :=
  List.mem_insertionSort _

/-- A failing requirement of an input that is assessed is among its reasons. -/
theorem reason_mem_of_fails {r : RecoveryRequirement} (hr : r.fails policy input = true)
    (hassessed : provenance.fails policy input = false)
    (hblocked : (assessRecovery policy input).allowed = false) :
    r.reason ∈ (assessRecovery policy input).blockingReasons := by
  have hsamples := qualifying_recoveryWalk policy input
  have hspan := span_recoveryWalk policy input
  have hwitnesses := witnesses_recoveryWalk policy input
  have hreasons : (assessRecovery policy input).blockingReasons =
      (recoveryReasons policy input (recoveryWalk policy input)
        (input.headroom.distanceAboveRecoveryGate < 0)
        (! policy.recovery.requireHeadroomAboveRecoveryMargin ||
          decide (0 < input.headroom.effectiveHeadroom))).canonicalise := by
    show (if (assessRecovery policy input).allowed then _ else _) = _
    rw [hblocked]
    rfl
  rw [hreasons, ReasonCodeSet.mem_canonicalise]
  cases r with
  | temperature =>
    have hhot : ¬ input.headroom.distanceAboveRecoveryGate < 0 := by
      simpa [fails, enabled, met] using hr
    simp [recoveryReasons, ReasonCodeSet.mem_addIf, ReasonCodeSet.mem_add, reason, hhot]
  | headroom =>
    have hr : policy.recovery.requireHeadroomAboveRecoveryMargin = true ∧
        ¬ 0 < input.headroom.effectiveHeadroom := by simpa [fails, enabled, met] using hr
    simp [recoveryReasons, ReasonCodeSet.mem_addIf, reason, hr]
  | samples | span | witnesses | coupledDomains | authorization =>
    simp only [fails, enabled, met, ← hsamples, ← hspan, ← hwitnesses, Bool.true_and,
      Bool.and_eq_true, Bool.not_eq_true', decide_eq_false_iff_not, not_le] at hr
    simp [recoveryReasons, ReasonCodeSet.mem_addIf, reason, hr]
  | throttle =>
    rw [throttle_fails] at hr
    simp [recoveryReasons, ReasonCodeSet.mem_addIf, reason, hr]
  | provenance =>
    rw [hassessed] at hr
    cases hr

/-- An input with a policy is refused for its provenance or assessed. -/
theorem evaluateRecovery_of_policy (h : input.policy = some policy) :
    (provenance.fails policy input = true ∧ (evaluateRecovery input).allowed = false ∧
      (evaluateRecovery input).blockingReasons = [.recoveryForbiddenByPolicy]) ∨
    (provenance.fails policy input = false ∧
      evaluateRecovery input = assessRecovery policy input) := by
  have hfails : provenance.fails policy input =
      (policy.recovery.forbidRecoveryAfterUnsupportedEvidence &&
        decide (input.evidenceProvenance = .unsupported)) := by
    simp [fails, enabled, met]
  unfold evaluateRecovery
  rw [h, hfails]
  dsimp only
  split
  · rename_i hrefused
    rw [Bool.and_comm, hrefused]
    exact .inl ⟨rfl, rfl, rfl⟩
  · rename_i hassessed
    rw [Bool.and_comm, Bool.eq_false_iff.mpr hassessed]
    exact .inr ⟨rfl, rfl⟩

/-- **Recovery is allowed when no enabled requirement fails and the coupled domains are
recovered**, whether or not the policy asks for the latter. -/
theorem allowed_iff_no_fails (h : input.policy = some policy) :
    (evaluateRecovery input).allowed = true ↔
      input.coupledDomainsRecovered = true ∧
      ∀ r : RecoveryRequirement, r.fails policy input = false := by
  rcases evaluateRecovery_of_policy h with ⟨hfails, hblocked, -⟩ | ⟨hassessed, heq⟩
  · rw [hblocked]
    refine ⟨fun hc => (by cases hc), fun hc => ?_⟩
    rw [hc.2 provenance] at hfails
    cases hfails
  · rw [heq, allowed_assessRecovery_eq]
    simp only [Bool.and_eq_true, Bool.not_eq_true']
    constructor
    · rintro ⟨⟨⟨⟨⟨⟨⟨htemperature, hheadroom⟩, hthrottle⟩, hsamples⟩, hspan⟩, hwitnesses⟩,
        hrecovered⟩, hauthorization⟩
      refine ⟨hrecovered, fun r => ?_⟩
      cases r with
      | coupledDomains => exact fails_eq_false.mpr fun _ => hrecovered
      | temperature | headroom | throttle | samples | span | witnesses | authorization
      | provenance => assumption
    · rintro ⟨hrecovered, hmet⟩
      exact ⟨⟨⟨⟨⟨⟨⟨hmet _, hmet _⟩, hmet _⟩, hmet _⟩, hmet _⟩, hmet _⟩, hrecovered⟩, hmet _⟩

/-- A refusal with a failing requirement names one. -/
theorem exists_named_of_fails (h : input.policy = some policy)
    (hblocked : (evaluateRecovery input).allowed = false)
    (hfails : ∃ r : RecoveryRequirement, r.fails policy input = true) :
    ∃ r : RecoveryRequirement, r.fails policy input = true ∧
      r.reason ∈ (evaluateRecovery input).blockingReasons := by
  rcases evaluateRecovery_of_policy h with ⟨hprovenance, -, hreasons⟩ | ⟨hassessed, heq⟩
  · refine ⟨provenance, hprovenance, ?_⟩
    rw [hreasons]
    exact List.mem_singleton.mpr rfl
  · obtain ⟨r, hr⟩ := hfails
    rw [heq] at hblocked ⊢
    exact ⟨r, hr, reason_mem_of_fails hr hassessed hblocked⟩

end Requirements

end ThermalGovernor
