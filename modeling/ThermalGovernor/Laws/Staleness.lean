import ThermalGovernor.Governed.Rests
import ThermalGovernor.Laws.Snapshot

/-!
# Queries and the clock

`queryState` and `queryEnvelope` answer from the stored evaluation, `evaluateDomain` from
the clock.  Time enters an evaluation at one place, the freshness of the governing evidence,
so nothing but freshness can part the two while no operation runs (`inputOf_tick`).

`queriesCurrent_iff` says for every reachable state how long the queries stay current: while
the stored evaluation is still the one of what is held, and, where freshness matters to it,
the evidence is as fresh as it was.
-/

namespace ThermalGovernor

open Lib

namespace EvaluationInput

/-- Fresh and stale evidence give different reports. -/
def freshnessMatters (input : EvaluationInput) : Bool :=
  (evaluateThermal { input with freshness := .fresh }).reported ≠
    (evaluateThermal { input with freshness := .stale }).reported

/-- The policy allows derated execution on a capability that is not known, whatever the
evidence. -/
def grantsUnknown (input : EvaluationInput) : Bool :=
  input.temperatureCapability = .unknown && input.policy.unknownBehavior = .allowDerated

end EvaluationInput

/-- Evidence that is not fresh is refused in one way. -/
theorem reported_of_not_fresh (input : EvaluationInput) {freshness : FreshnessState}
    (h : freshness ≠ .fresh) :
    (evaluateThermal { input with freshness := freshness }).reported =
      (evaluateThermal { input with freshness := .stale }).reported := by
  unfold evaluateThermal
  dsimp only
  split
  · rfl
  split
  · rfl
  split
  · rfl
  · split
    · rfl
    · rw [if_pos (show FreshnessState.stale ≠ .fresh by decide)]
      rfl

/-- An evaluation without resolved evidence grants nothing, unless the policy grants on an
unknown capability. -/
theorem grantsUnknown_of_unresolved {input : EvaluationInput}
    (h : resolvedEvidence input = none)
    (hdecision : (evaluateThermal input).decision = .allow ∨
      (evaluateThermal input).decision = .allowDerated) : input.grantsUnknown = true := by
  unfold evaluateThermal at hdecision
  dsimp only at hdecision
  split at hdecision
  · exfalso
    have hrefused : ∀ b : UnsupportedBehavior, ¬ (decisionForUnsupported b = .allow ∨
        decisionForUnsupported b = .allowDerated) := by
      intro b
      cases b <;> decide
    exact hrefused _ hdecision
  rename_i hunsupported
  split at hdecision
  · rename_i hunknown
    have hgranted : ∀ b : UnknownBehavior, decisionForUnknown b = .allow ∨
        decisionForUnknown b = .allowDerated → b = .allowDerated := by
      intro b
      cases b <;> decide
    simp only [EvaluationInput.grantsUnknown, Bool.and_eq_true, decide_eq_true_eq]
    exact ⟨hunknown, hgranted _ hdecision⟩
  rename_i hunknown
  exfalso
  split at hdecision
  · rcases hdecision with h | h <;> cases h
  rename_i evidence hevidence
  split at hdecision
  · rcases hdecision with h | h <;> cases h
  rename_i hconflict
  split at hdecision
  · rcases hdecision with h | h <;> cases h
  rename_i hfresh
  have hsupported : input.temperatureCapability.isSupported = true := by
    cases hc : input.temperatureCapability <;> simp_all [CapabilityState.isSupported]
  rw [resolvedEvidence_eq_some.mpr ⟨hsupported, Bool.not_eq_true _ ▸ hconflict,
    not_not.mp hfresh, hevidence⟩] at h
  cases h

/-- Evidence that is not fresh grants nothing either. -/
theorem grantsUnknown_of_refused {input : EvaluationInput} (h : input.freshness ≠ .fresh)
    (hdecision : (evaluateThermal input).decision = .allow ∨
      (evaluateThermal input).decision = .allowDerated) : input.grantsUnknown = true := by
  refine grantsUnknown_of_unresolved ?_ hdecision
  cases hresolved : resolvedEvidence input with
  | none => rfl
  | some evidence => exact absurd (resolvedEvidence_eq_some.mp hresolved).2.2.1 h

theorem decision_of_grantsUnknown {input : EvaluationInput} (h : input.grantsUnknown = true) :
    (evaluateThermal input).decision = .allowDerated := by
  simp only [EvaluationInput.grantsUnknown, Bool.and_eq_true, decide_eq_true_eq] at h
  unfold evaluateThermal
  rw [if_neg (by rw [h.1]; decide), if_pos h.1]
  show decisionForUnknown input.policy.unknownBehavior = _
  rw [h.2]
  rfl

namespace Governor

variable {g : Governor} {id : ThermalDomainId}

/-- The governing evidence of a domain is older than its policy allows. -/
def pastAge (g : Governor) (id : ThermalDomainId) : Bool :=
  (g.inputOf id).any fun input => input.evidence.any fun e =>
    nanoseconds input.policy.freshness.maxAge < elapsed g.now e.measuredAt

/-- What the queries answer for a domain is what its evaluation returns, and evidence past
its age grants nothing. -/
structure QueriesCurrent (g : Governor) (id : ThermalDomainId) : Prop where
  agree : ∀ state envelope e, g.queryState id = .ok state → g.queryEnvelope id = .ok envelope →
    (g.evaluateDomain id).2 = .ok e →
      state = e.state ∧ (envelope.state, envelope.derating, envelope.decision) = e.reported
  aged : g.pastAge id = true → ∀ envelope, g.queryEnvelope id = .ok envelope →
    envelope.decision ≠ .allow ∧ envelope.decision ≠ .allowDerated

/-- Up to a time the stored evaluation of the domain stays the one of what is held: it is so
now, its evidence stays as fresh as it is wherever that matters, and does not pass its age
under a policy that would grant all the same. -/
def StaysCurrent (g : Governor) (id : ThermalDomainId) (last : SteadyTimePoint) : Prop :=
  ∀ input stored, g.inputOf id = some input → g.evaluations.lookup id = some stored →
    (∃ state derating,
      (evaluateThermal (input.following state derating)).reported = stored.reported) ∧
    (input.freshnessMatters = true → ∀ s, g.now ≤ s → s ≤ last → ∀ later,
      (g.apply (.tick s)).inputOf id = some later →
        (later.freshness = .fresh ↔ input.freshness = .fresh)) ∧
    (input.grantsUnknown = true → ∀ s, g.now ≤ s → s ≤ last →
      (g.apply (.tick s)).pastAge id = false)

/-! ### What the clock changes -/

/-- **The clock changes the freshness of an input and nothing else.** -/
theorem inputOf_tick (s : SteadyTimePoint) {input : EvaluationInput}
    (h : g.inputOf id = some input) :
    ∃ freshness, (g.apply (.tick s)).inputOf id = some { input with freshness := freshness } := by
  obtain ⟨definition, policy, hfind, hpolicy, rfl⟩ := inputOf_eq_some.mp h
  exact ⟨((g.apply (.tick s)).evaluation definition policy).1.freshness,
    inputOf_eq_some.mpr ⟨definition, policy, hfind, hpolicy, rfl⟩⟩

/-- Evidence past its age is not fresh. -/
theorem not_fresh_of_pastAge {input : EvaluationInput} (hinput : g.inputOf id = some input)
    (h : g.pastAge id = true) : input.freshness ≠ .fresh := by
  unfold pastAge at h
  rw [hinput, Option.any_some] at h
  obtain ⟨definition, policy, hfind, hpolicy, rfl⟩ := inputOf_eq_some.mp hinput
  unfold evaluation evaluationInput at h ⊢
  dsimp only at h ⊢
  cases hgathered : gatherDomainEvidence definition g.evidence with
  | none =>
    rw [hgathered] at h
    cases h
  | some gathered =>
    rw [hgathered, Option.map_some, Option.any_some, decide_eq_true_eq] at h
    rw [Option.map_some, Option.map_some, Option.getD_some]
    unfold classifyFreshness
    split
    · decide
    · decide

/-! ### What the queries answer -/

/-- The queries agree with an evaluation exactly when it reports what is stored. -/
theorem agree_iff {input : EvaluationInput} {stored : ThermalEvaluation}
    (hinput : g.inputOf id = some input) (hstored : g.evaluations.lookup id = some stored) :
    (∀ state envelope e, g.queryState id = .ok state → g.queryEnvelope id = .ok envelope →
      (g.evaluateDomain id).2 = .ok e →
        state = e.state ∧ (envelope.state, envelope.derating, envelope.decision) = e.reported) ↔
      (evaluateThermal input).reported = stored.reported := by
  obtain ⟨definition, policy, hfind, hpolicy, rfl⟩ := inputOf_eq_some.mp hinput
  have hstate : g.queryState id = .ok stored.state := by
    rw [queryState, hfind]
    dsimp only
    rw [hstored]
  have henvelope : g.queryEnvelope id = .ok (g.makeEnvelope definition stored) := by
    rw [queryEnvelope, hfind]
    dsimp only
    rw [hstored]
  have hevaluate := evaluateDomain_eq_ok hfind hpolicy
  constructor
  · intro h
    exact (h _ _ _ hstate henvelope hevaluate).2.symm
  · intro h state envelope e hs henv he
    obtain rfl := Except.ok.inj (hstate.symm.trans hs)
    obtain rfl := Except.ok.inj (henvelope.symm.trans henv)
    obtain rfl := Except.ok.inj (hevaluate.symm.trans he)
    exact ⟨(congrArg Prod.fst h).symm, h.symm⟩

theorem queryEnvelope_decision {input : EvaluationInput} {stored : ThermalEvaluation}
    (hinput : g.inputOf id = some input) (hstored : g.evaluations.lookup id = some stored) :
    ∃ envelope, g.queryEnvelope id = .ok envelope ∧ envelope.decision = stored.decision := by
  obtain ⟨definition, policy, hfind, -⟩ := inputOf_eq_some.mp hinput
  refine ⟨g.makeEnvelope definition stored, ?_, rfl⟩
  rw [queryEnvelope, hfind]
  dsimp only
  rw [hstored]

/-- What is stored as the report of an evaluation of what is held is what evaluating it
again reports. -/
theorem reported_again {input : EvaluationInput} {stored : ThermalEvaluation}
    (hstate : input.previousState = stored.state)
    (hderating : input.previousDerating = stored.derating) {state : ThermalState}
    {derating : DeratingLevel}
    (h : (evaluateThermal (input.following state derating)).reported = stored.reported) :
    (evaluateThermal input).reported = stored.reported := by
  have hreport : ∀ a b : ThermalEvaluation, a.standing = b.standing → a.reported = b.reported := by
    intro a b hab
    simp only [ThermalEvaluation.standing, Standing.mk.injEq] at hab
    simp only [ThermalEvaluation.reported, Prod.mk.injEq]
    exact ⟨hab.1, hab.2.1, hab.2.2.1⟩
  have hfollowing : input = (input.following state derating).following
      (evaluateThermal (input.following state derating)).state
      (evaluateThermal (input.following state derating)).derating := by
    simp only [ThermalEvaluation.reported, Prod.mk.injEq] at h
    rw [h.1, h.2.1, ← hstate, ← hderating]
    rfl
  rw [hfollowing, hreport _ _ (standing_evaluateThermal_again _), h]

/-- The stored evaluation is what the input of the next one remembers. -/
theorem inputOf_previous (hkeyed : g.KeyedDomains) {input : EvaluationInput}
    {stored : ThermalEvaluation} (hinput : g.inputOf id = some input)
    (hstored : g.evaluations.lookup id = some stored) :
    input.previousState = stored.state ∧ input.previousDerating = stored.derating := by
  obtain ⟨definition, policy, hfind, hpolicy, rfl⟩ := inputOf_eq_some.mp hinput
  have hstanding : g.standingAt id = some stored.standing := by
    rw [standingAt, hstored, Option.map_some]
  exact evaluation_following policy (hkeyed id definition hfind) hstanding

/-- The report of an input depends on whether its evidence is fresh. -/
theorem reported_iff_fresh (input : EvaluationInput) {a b : FreshnessState} :
    (evaluateThermal { input with freshness := a }).reported =
      (evaluateThermal { input with freshness := b }).reported ↔
    (input.freshnessMatters = true → (a = .fresh ↔ b = .fresh)) := by
  have hmatters : input.freshnessMatters = true ↔
      (evaluateThermal { input with freshness := .fresh }).reported ≠
        (evaluateThermal { input with freshness := .stale }).reported := decide_eq_true_iff
  rw [hmatters]
  by_cases ha : a = .fresh
  · by_cases hb : b = .fresh
    · rw [ha, hb]
      simp
    · rw [ha, reported_of_not_fresh input hb]
      simp only [hb, iff_false]
      tauto
  · by_cases hb : b = .fresh
    · rw [hb, reported_of_not_fresh input ha]
      simp only [ha, false_iff]
      tauto
    · rw [reported_of_not_fresh input ha, reported_of_not_fresh input hb]
      simp [ha, hb]

/-- **The queries stay current up to a time exactly when the stored evaluation is still the
one of what is held, and its evidence keeps its freshness until then wherever freshness
matters.** -/
theorem queriesCurrent_iff (hreachable : g.Reachable) (id : ThermalDomainId)
    (last : SteadyTimePoint) (hlast : g.now ≤ last) :
    (∀ s, g.now ≤ s → s ≤ last → (g.apply (.tick s)).QueriesCurrent id) ↔
      g.StaysCurrent id last := by
  have hkeyed := keyedDomains_of_reachable hreachable
  have hkept : ∀ s, (g.apply (.tick s)).evaluations = g.evaluations := fun _ => rfl
  constructor
  · intro hcurrent input stored hinput hstored
    have hreport : ∀ s, g.now ≤ s → s ≤ last → ∀ later,
        (g.apply (.tick s)).inputOf id = some later →
          (evaluateThermal later).reported = stored.reported := fun s hs hslast later hlater =>
      (agree_iff hlater (by rw [hkept, hstored])).mp (hcurrent s hs hslast).agree
    have hnow := hreport g.now le_rfl hlast input hinput
    refine ⟨⟨input.previousState, input.previousDerating, hnow⟩, ?_, ?_⟩
    · intro hmatters s hs hslast later hlater
      obtain ⟨freshness, hfreshness⟩ := inputOf_tick s hinput
      obtain rfl := Option.some.inj (hfreshness.symm.trans hlater)
      have hsame : (evaluateThermal { input with freshness := freshness }).reported =
          (evaluateThermal { input with freshness := input.freshness }).reported :=
        (hreport s hs hslast _ hlater).trans hnow.symm
      exact (reported_iff_fresh input).mp hsame hmatters
    · intro hgrants s hs hslast
      obtain ⟨freshness, hfreshness⟩ := inputOf_tick s hinput
      by_contra haged
      rw [Bool.not_eq_false] at haged
      obtain ⟨envelope, henvelope, hdecision⟩ :=
        queryEnvelope_decision hfreshness (by rw [hkept, hstored])
      refine ((hcurrent s hs hslast).aged haged envelope henvelope).2 ?_
      have hlater : (evaluateThermal { input with freshness := freshness }).decision =
          .allowDerated := decision_of_grantsUnknown hgrants
      have hreported := congrArg (fun r => r.2.2) (hreport s hs hslast _ hfreshness)
      exact hdecision.trans (hreported.symm.trans hlater)
  · intro hstays s hs hslast
    have hreport : ∀ input stored, g.inputOf id = some input →
        g.evaluations.lookup id = some stored → ∀ later,
        (g.apply (.tick s)).inputOf id = some later →
          (evaluateThermal later).reported = stored.reported := by
      intro input stored hinput hstored later hlater
      obtain ⟨⟨state, derating, hheld⟩, hfresh, -⟩ := hstays input stored hinput hstored
      obtain ⟨hstate, hderating⟩ := inputOf_previous hkeyed hinput hstored
      obtain ⟨freshness, hfreshness⟩ := inputOf_tick s hinput
      obtain rfl := Option.some.inj (hfreshness.symm.trans hlater)
      have hsame : (evaluateThermal { input with freshness := freshness }).reported =
          (evaluateThermal { input with freshness := input.freshness }).reported :=
        (reported_iff_fresh input).mpr fun hmatters => hfresh hmatters s hs hslast _ hlater
      exact hsame.trans (reported_again hstate hderating hheld)
    cases hinput : g.inputOf id with
    | none =>
      -- every registered domain has an input, so an evaluation refuses as well
      have hfind : g.domains.find id = none := by
        by_contra hregistered
        obtain ⟨definition, hfind⟩ := Option.ne_none_iff_exists'.mp hregistered
        obtain ⟨policy, hpolicy⟩ := exists_policyFor hreachable definition
        rw [inputOf_eq_some.mpr ⟨definition, policy, hfind, hpolicy, rfl⟩] at hinput
        cases hinput
      have hlater : (g.apply (.tick s)).domains.find id = none := hfind
      refine ⟨fun state envelope e _ _ he => ?_, fun haged => ?_⟩
      · rw [evaluateDomain, evaluateAndStore, hlater] at he
        cases he
      · rw [pastAge, inputOf, hlater] at haged
        cases haged
    | some input =>
      obtain ⟨freshness, hfreshness⟩ := inputOf_tick s hinput
      cases hstored : g.evaluations.lookup id with
      | none =>
        have hrefused : ∀ envelope, (g.apply (.tick s)).queryEnvelope id ≠ .ok envelope := by
          intro envelope henvelope
          obtain ⟨definition, policy, hfind, -⟩ := inputOf_eq_some.mp hfreshness
          rw [queryEnvelope, hfind] at henvelope
          dsimp only at henvelope
          rw [hkept, hstored] at henvelope
          cases henvelope
        exact ⟨fun _ envelope _ _ henvelope _ => absurd henvelope (hrefused envelope),
          fun _ envelope henvelope => absurd henvelope (hrefused envelope)⟩
      | some stored =>
        have hlater := hreport input stored hinput hstored _ hfreshness
        refine ⟨(agree_iff hfreshness (by rw [hkept, hstored])).mpr hlater, ?_⟩
        intro haged envelope henvelope
        obtain ⟨answered, hanswered, hdecision⟩ :=
          queryEnvelope_decision hfreshness (by rw [hkept, hstored])
        obtain rfl := Except.ok.inj (hanswered.symm.trans henvelope)
        have hreported := congrArg (fun r => r.2.2) hlater
        rw [hdecision, ← not_or]
        intro hgrant
        rw [← show _ = stored.decision from hreported] at hgrant
        have hgrants := grantsUnknown_of_refused (not_fresh_of_pastAge hfreshness haged) hgrant
        rw [(hstays input stored hinput hstored).2.2 hgrants s hs hslast] at haged
        cases haged

section Deployment

open Deployment

/-- Without evidence the queries ask for revalidation, and stay current. -/
theorem queriesCurrent_unread : (after []).StaysCurrent 1 100000000000 ∧
    ∀ s, (after []).now ≤ s → s ≤ 100000000000 → ((after []).apply (.tick s)).QueriesCurrent 1 := by
  have hcurrent :=
    queriesCurrent_iff (reachable_after []) 1 100000000000 (by decide +kernel)
  suffices hstays : (after []).StaysCurrent 1 100000000000 from ⟨hstays, hcurrent.mpr hstays⟩
  intro input stored hinput hstored
  have hunread : ((after []).inputOf 1).all fun input =>
      ((after []).evaluations.lookup 1).all fun stored =>
        ! input.freshnessMatters && ! input.grantsUnknown &&
          (evaluateThermal (input.following .unknown .unknown)).reported = stored.reported := by
    decide +kernel
  rw [hinput, Option.all_some, hstored, Option.all_some] at hunread
  simp only [Bool.and_eq_true, Bool.not_eq_true', decide_eq_true_eq] at hunread
  refine ⟨⟨.unknown, .unknown, hunread.2⟩, fun hmatters => ?_, fun hgrants => ?_⟩
  · rw [hunread.1.1] at hmatters
    cases hmatters
  · rw [hunread.1.2] at hgrants
    cases hgrants

/-- A hundred seconds after a reading they still allow what no evaluation would. -/
theorem not_queriesCurrent :
    ¬ ∀ (g : Governor) (id : ThermalDomainId) (last : SteadyTimePoint), g.Reachable →
      g.now ≤ last → (g.apply (.tick last)).QueriesCurrent id := by
  intro h
  have hcurrent := h (after [.publishTemperature (reading 50 1 0)]) 1 100000000000
    (reachable_after _) (by decide +kernel)
  have haged := hcurrent.aged (by decide +kernel)
  obtain ⟨envelope, henvelope, hallows⟩ := exists_of_ok
    (((after [.publishTemperature (reading 50 1 0)]).apply (.tick 100000000000)).queryEnvelope 1)
    (fun envelope => envelope.decision = .allow) (by decide +kernel)
  exact (haged envelope henvelope).1 hallows

end Deployment

end Governor

end ThermalGovernor
