import ThermalGovernor.Evaluation.Demands
import ThermalGovernor.Laws.Obstacles
import ThermalGovernor.Laws.Reasons
import ThermalGovernor.Topology.Aggregation
import ThermalGovernor.Wire.Summary

/-!
# Reporting evaluations

An evaluation is summarised and sent over the wire.  Its temperature and its governing limit
are readings, since the evidence held and the thresholds of an accepted policy are; but the
margins of a policy have no upper bound, and the effective headroom is what they leave.
`MarginsFit` says when they leave a difference that the reader takes, and `reported_iff` that
the summary comes back exactly then.
-/

namespace ThermalGovernor

open Lib Lib.Input Wire

/-! ### The temperatures of an evaluation -/

section Readings

variable {definition : ThermalDomainDefinition} {records : List ThermalEvidence}

/-- The rules of aggregation keep to the range of a reading. -/
theorem valid_of_ruleTemperature (h : ∀ e ∈ records, DegreesCelsius.valid e.temperature = true)
    {t : DegreesCelsius} (ht : ruleTemperature definition records = some t) :
    DegreesCelsius.valid t = true := by
  have hhottest : ∀ {t}, (records.map ThermalEvidence.temperature).max? = some t →
      DegreesCelsius.valid t = true := by
    intro t hmax
    obtain ⟨e, he, rfl⟩ := List.mem_map.mp (List.max?_mem hmax)
    exact h e he
  unfold ruleTemperature at ht
  dsimp only at ht
  split at ht
  · exact hhottest ht
  · split at ht
    · rename_i hmean
      rw [← Option.some.inj ht]
      exact hmean.2
    · cases ht
  · obtain ⟨e, he, rfl⟩ := Option.map_eq_some_iff.mp ht
    exact h e (List.mem_of_find?_eq_some he)
  · exact (Option.filter_eq_some_iff.mp ht).2

/-- The evidence gathered for a domain has the temperature of a reading if all that is held
has. -/
theorem valid_of_gathered {evidence : Table String ThermalEvidence}
    (h : ∀ key e, evidence.lookup key = some e → DegreesCelsius.valid e.temperature = true)
    {gathered : DomainEvidence} (hgathered : gatherDomainEvidence definition evidence =
      some gathered) : DegreesCelsius.valid gathered.evidence.temperature = true := by
  have hmembers : ∀ e ∈ memberEvidence definition evidence,
      DegreesCelsius.valid e.temperature = true := by
    intro e he
    obtain ⟨m, -, hm⟩ := List.mem_filterMap.mp he
    exact h _ e hm
  unfold gatherDomainEvidence at hgathered
  cases hdirect : evidence.lookup
      (SubjectRef.forDomain definition.id definition.generation).key with
  | some direct =>
    rw [hdirect] at hgathered
    rw [← Option.some.inj hgathered]
    exact h _ direct hdirect
  | none =>
    rw [hdirect] at hgathered
    dsimp only at hgathered
    split at hgathered
    · cases hgathered
    · rename_i only honly
      rw [← Option.some.inj hgathered]
      exact hmembers only (honly ▸ List.mem_singleton_self _)
    · rename_i first rest _ hrecords
      split at hgathered
      · cases hgathered
      · rename_i aggregate haggregate
        rw [← Option.some.inj hgathered]
        have hrule := temperature_computeAggregate definition (first :: rest)
        rw [haggregate] at hrule
        have hvalid := valid_of_ruleTemperature (hrecords ▸ hmembers) hrule.symm
        have htemperature : (synthesizeEvidence definition first (first :: rest)
            aggregate).temperature = aggregate.temperature := by
          unfold synthesizeEvidence
          dsimp only
          split
          · rfl
          · split <;> rfl
        rw [htemperature]
        exact hvalid

end Readings

section Bounds

variable {input : EvaluationInput} {evidence : ThermalEvidence}

/-- The critical threshold of an accepted policy is a reading. -/
theorem critical_of_valid {policy : ThermalPolicy} (h : validatePolicy policy = .ok ()) :
    DegreesCelsius.valid policy.thresholds.critical = true := by
  have hreadings := holds_of_valid h (i := 0) rfl
  simp only [orInvalid, Bool.and_eq_true] at hreadings
  exact hreadings.1.2

/-- The governing limit is the critical threshold or a vendor limit that is a reading. -/
theorem valid_governingLimit {h : HeadroomInput}
    (hcritical : DegreesCelsius.valid h.policyCritical = true) :
    DegreesCelsius.valid (governingLimit h) = true := by
  unfold governingLimit
  split
  · exact hcritical
  · split
    · rename_i hgoverns
      rw [Bool.and_eq_true, Bool.and_eq_true] at hgoverns
      exact hgoverns.1.1
    · exact hcritical

/-- The margins of the policy leave no less than the reader takes. -/
def MarginsFit (input : EvaluationInput) : Prop :=
  ∀ evidence, resolvedEvidence input = some evidence →
    input.policy.margins.policySafetyMargin +
        uncertaintyFromConfidence evidence.confidence input.policy.margins.uncertaintyMargin ≤
      2000 + (governingLimit (headroomInputFor input evidence) - evidence.temperature)

instance (input : EvaluationInput) : Decidable (MarginsFit input) :=
  decidable_of_iff (∀ evidence ∈ resolvedEvidence input,
    input.policy.margins.policySafetyMargin +
        uncertaintyFromConfidence evidence.confidence input.policy.margins.uncertaintyMargin ≤
      2000 + (governingLimit (headroomInputFor input evidence) - evidence.temperature)) Iff.rfl

/-- The uncertainty left by a confidence claim is not negative. -/
theorem uncertainty_nonneg (confidence : Option ℚ) {configured : ℚ} (h : 0 ≤ configured) :
    0 ≤ uncertaintyFromConfidence confidence configured := by
  unfold uncertaintyFromConfidence
  split
  · exact h
  · rename_i c
    have hclamped : max 0 (min c 1) ≤ 1 := max_le zero_le_one (min_le_right c 1)
    exact mul_nonneg h (sub_nonneg.mpr hclamped)

/-- Two readings differ by less than the reader of a difference takes. -/
theorem sub_le_of_valid {a b : DegreesCelsius} (ha : DegreesCelsius.valid a = true)
    (hb : DegreesCelsius.valid b = true) : a - b ≤ 2000 := by
  rw [DegreesCelsius.valid, Bool.and_eq_true, decide_eq_true_eq, decide_eq_true_eq] at ha hb
  have hhigh : a ≤ 1500 := ha.2
  have hlow : -5463 / 20 ≤ b := hb.1
  linarith only [hhigh, hlow]

/-- The headroom of readings is a difference that the reader takes exactly when the margins
leave enough. -/
theorem isDelta_effectiveHeadroom_iff (hpolicy : validatePolicy input.policy = .ok ())
    (hreading : DegreesCelsius.valid evidence.temperature = true) :
    Scalar.isDelta (computeHeadroom (headroomInputFor input evidence)).effectiveHeadroom = true ↔
      input.policy.margins.policySafetyMargin +
          uncertaintyFromConfidence evidence.confidence input.policy.margins.uncertaintyMargin ≤
        2000 + (governingLimit (headroomInputFor input evidence) - evidence.temperature) := by
  obtain ⟨hsafety, huncertainty, -⟩ := margins_of_valid hpolicy
  have hleft := uncertainty_nonneg evidence.confidence huncertainty
  have hspan : governingLimit (headroomInputFor input evidence) - evidence.temperature ≤ 2000 :=
    sub_le_of_valid (valid_governingLimit (critical_of_valid hpolicy)) hreading
  have hheadroom : (computeHeadroom (headroomInputFor input evidence)).effectiveHeadroom =
      governingLimit (headroomInputFor input evidence) - evidence.temperature -
        input.policy.margins.policySafetyMargin -
        uncertaintyFromConfidence evidence.confidence input.policy.margins.uncertaintyMargin := rfl
  have hdelta : ∀ t : ℚ, Scalar.isDelta t = true ↔ -2000 ≤ t ∧ t ≤ 2000 := by
    intro t
    show (decide (-2000 ≤ t) && decide (t ≤ 2000)) = true ↔ _
    rw [Bool.and_eq_true, decide_eq_true_eq, decide_eq_true_eq]
  rw [hdelta, hheadroom]
  constructor
  · rintro ⟨hlow, -⟩
    linarith only [hlow]
  · intro hfits
    exact ⟨by linarith only [hfits], by linarith only [hspan, hsafety, hleft]⟩

/-- There are no more intents in a list without repetitions than there are. -/
theorem MitigationIntent.length_le_of_nodup {list : List MitigationIntent} (h : list.Nodup) :
    list.length ≤ 12 := by
  have hsubset : list ⊆ (List.range 12).map MitigationIntent.ofNat := by
    intro intent _
    exact List.mem_map.mpr ⟨intent.ctorIdx, List.mem_range.mpr intent.ctorIdx_lt,
      MitigationIntent.ofNat_ctorIdx intent⟩
  have hlength := (List.subperm_of_subset h hsubset).length_le
  rwa [List.length_map, List.length_range] at hlength

theorem ReasonCodeSet.length_le_of_nodup {reasons : ReasonCodeSet} (h : reasons.Nodup) :
    reasons.length ≤ 51 := by
  have hsubset : reasons ⊆ ThermalReasonCode.all := by
    intro code _
    exact List.mem_of_find?_eq_some (ThermalReasonCode.find?_value code)
  exact (List.subperm_of_subset h hsubset).length_le

/-- An evaluation demands no intent twice. -/
theorem length_intents_le (input : EvaluationInput) :
    (evaluateThermal input).intents.length ≤ 12 := by
  have hnodup : ((evaluateThermal input).intents.map MitigationIntentRecord.intent).Nodup :=
    List.pairwise_map.mpr ((demandsWithin_evaluateThermal input).ordered.imp And.right)
  have hlength := MitigationIntent.length_le_of_nodup hnodup
  rwa [List.length_map] at hlength

/-- **When the summary of an evaluation is within the bounds of the reader.** -/
theorem summaryBounds_evaluateThermal_iff (hpolicy : validatePolicy input.policy = .ok ())
    (hreading : ∀ evidence, input.evidence = some evidence →
      DegreesCelsius.valid evidence.temperature = true) :
    SummaryBounds {} (summarise (evaluateThermal input)) ↔ MarginsFit input := by
  have hintents : (summarise (evaluateThermal input)).requiredIntents.length ≤ 4096 := by
    rw [summarise, List.length_map]
    exact (length_intents_le input).trans (by decide)
  have hreasons : (summarise (evaluateThermal input)).reasons.length ≤ 4096 := by
    rw [summarise, List.length_map]
    have hnodup := (ordered_evaluateThermal input).1.nodup
    exact (ReasonCodeSet.length_le_of_nodup hnodup).trans (by decide)
  have hbounds : SummaryBounds {} (summarise (evaluateThermal input)) ↔
      DegreesCelsius.valid (evaluateThermal input).headroom.currentTemperature = true ∧
      DegreesCelsius.valid (evaluateThermal input).headroom.governingLimit = true ∧
      Scalar.isDelta (evaluateThermal input).headroom.effectiveHeadroom = true := by
    rw [summaryBounds_iff, and_iff_left hreasons, and_iff_left hintents]
    rfl
  rw [hbounds]
  rcases evaluateThermal_cases input with ⟨evidence, hresolved, heq⟩ | ⟨hnone, -⟩
  · have hevidence := (resolvedEvidence_eq_some.mp hresolved).2.2.2
    have htemperature := hreading evidence hevidence
    rw [heq]
    have hlimit : DegreesCelsius.valid
        (evaluateResolved input evidence).headroom.governingLimit = true :=
      valid_governingLimit (critical_of_valid hpolicy)
    have hcurrent : (evaluateResolved input evidence).headroom.currentTemperature =
        evidence.temperature := rfl
    rw [hcurrent, and_iff_right htemperature, and_iff_right hlimit]
    refine (isDelta_effectiveHeadroom_iff hpolicy htemperature).trans ⟨fun hfits evidence' h => ?_,
      fun hfits => hfits evidence hresolved⟩
    obtain rfl := Option.some.inj (hresolved.symm.trans h)
    exact hfits
  · have hfits : MarginsFit input := fun evidence h => by
      rw [hnone] at h
      cases h
    refine iff_of_true ?_ hfits
    obtain ⟨-, heq⟩ | ⟨-, heq⟩ | ⟨-, reason, -, heq⟩ := refused_cases hnone
    all_goals
      rw [heq]
      show DegreesCelsius.valid 0 = true ∧ DegreesCelsius.valid 0 = true ∧
        Scalar.isDelta (0 : ℚ) = true
      decide +kernel

end Bounds

/-! ### The law -/

/-- The summary in doubles stands for one in the numbers of the model. -/
structure InDoubles (s : EvaluationSummary Double) (t : EvaluationSummary) : Prop where
  temperature : Scalar.isReading s.temperature = Scalar.isReading t.temperature
  governingLimit : Scalar.isReading s.governingLimit = Scalar.isReading t.governingLimit
  effectiveHeadroom : s.effectiveHeadroom.value =
    some ((t.effectiveHeadroom : WithTop ℚ) : WithBot (WithTop ℚ))
  intents : s.requiredIntents = t.requiredIntents
  reasons : s.reasons = t.reasons

theorem isDelta_of_value {t : Double} {q : ℚ}
    (h : t.value = some ((q : WithTop ℚ) : WithBot (WithTop ℚ))) :
    Scalar.isDelta t = Scalar.isDelta q := by
  have hlowest : (Double.ofRat (-2000)).value =
      some (((-2000 : ℚ) : WithTop ℚ) : WithBot (WithTop ℚ)) := by decide +kernel
  have hhighest : (Double.ofRat 2000).value =
      some (((2000 : ℚ) : WithTop ℚ) : WithBot (WithTop ℚ)) := by decide +kernel
  show (Double.le (Double.ofRat (-2000)) t && Double.le t (Double.ofRat 2000)) =
    (decide (-2000 ≤ q) && decide (q ≤ 2000))
  rw [Double.le, Double.le, h, hlowest, hhighest]
  simp only [WithBot.coe_le_coe, WithTop.coe_le_coe]

namespace Governor

variable {g : Governor} {definition : ThermalDomainDefinition} {policy : ThermalPolicy}

/-- What the coordinator overwrites the reader does not look at. -/
theorem summaryBounds_finishEvaluation (limits : WireLimits) (gathered : Option DomainEvidence)
    (e : ThermalEvaluation) :
    SummaryBounds limits (summarise (g.finishEvaluation policy gathered e)) ↔
      SummaryBounds limits (summarise e) := by
  rw [summaryBounds_iff, summaryBounds_iff]
  rfl

theorem summaryBounds_evaluation_iff (hg : g.Reachable) (hpolicy : validatePolicy policy = .ok ()) :
    SummaryBounds {} (summarise (g.evaluation definition policy).2) ↔
      MarginsFit (g.evaluation definition policy).1 := by
  obtain ⟨gathered, hfinish⟩ : ∃ gathered, (g.evaluation definition policy).2 =
      g.finishEvaluation policy gathered (evaluateThermal (g.evaluation definition policy).1) :=
    ⟨_, rfl⟩
  have hsame : (g.evaluation definition policy).1.policy = policy := rfl
  have hreading : ∀ evidence, (g.evaluation definition policy).1.evidence = some evidence →
      DegreesCelsius.valid evidence.temperature = true := by
    intro evidence hevidence
    obtain ⟨gathered, hgathered, rfl⟩ := Option.map_eq_some_iff.mp hevidence
    exact valid_of_gathered (holdsReadings_of_reachable hg) hgathered
  rw [hfinish, summaryBounds_finishEvaluation]
  revert hsame hreading
  generalize (g.evaluation definition policy).1 = input
  rintro rfl hreading
  exact summaryBounds_evaluateThermal_iff hpolicy hreading

/-- **When an evaluation can be reported.** -/
theorem reported_iff (hg : g.Reachable) (hpolicy : validatePolicy policy = .ok ()) :
    let summary := summarise (g.evaluation definition policy).2
    (decodeFrom (readSummary {}) malformedSummary
        (put (writeSummary summary) (Input.empty : Cursor)) = .ok summary ↔
      MarginsFit (g.evaluation definition policy).1) ∧
    ∀ s : EvaluationSummary Double, FitsAll Reader (writeSummary s) → InDoubles s summary →
      (decodeEvaluationSummary {} (encodeEvaluationSummary s) = .ok s ↔
        MarginsFit (g.evaluation definition policy).1) := by
  intro summary
  have hbounds : SummaryBounds {} summary ↔ _ := summaryBounds_evaluation_iff hg hpolicy
  rw [← hbounds]
  clear_value summary
  have hexact : Decoder.Exact (readSummary {} : RecordReader Cursor EvaluationSummary)
      (writeSummary summary) (SummaryBounds {} summary) summary :=
    exact_summary (Cursor.fitsAll _)
  refine ⟨decodeFrom_put_iff hexact, fun s hfits hs => ?_⟩
  rw [decodeEvaluationSummary_iff hfits, summaryBounds_iff, summaryBounds_iff, hs.temperature,
    hs.governingLimit, isDelta_of_value hs.effectiveHeadroom, hs.intents, hs.reasons]

/-- The default policy with a safety margin that no reading leaves headroom for. -/
def widePolicy : ThermalPolicy :=
  { PolicyOver.makeDefault with
    generation := 2
    margins := { PolicyOver.makeDefault.margins with policySafetyMargin := 5000 } }

/-- The deployment at 40 °C under the wide policy. -/
def underWide : Governor := Deployment.after
  [.setPolicy widePolicy, .publishTemperature (Deployment.reading 40 1 0)]

/-- At 40 °C the evaluation under the default policy is reported. -/
theorem reported_default : ∃ definition policy, underDefault.domains.find 1 = some definition ∧
    underDefault.policyFor definition = some policy ∧
    decodeFrom (readSummary {}) malformedSummary
      (put (writeSummary (summarise (underDefault.evaluation definition policy).2))
        (Input.empty : Cursor)) =
      .ok (summarise (underDefault.evaluation definition policy).2) := by
  obtain ⟨definition, hfind, hgoverned⟩ := exists_of_any (underDefault.domains.find 1)
    (fun definition => (underDefault.policyFor definition).any (fun policy => decide
      (validatePolicy policy = .ok () ∧
        MarginsFit (underDefault.evaluation definition policy).1)) = true) (by decide +kernel)
  obtain ⟨policy, hpolicy, hvalid, hfits⟩ := exists_of_any _ _ hgoverned
  exact ⟨definition, policy, hfind, hpolicy,
    (reported_iff (Deployment.reachable_after _) hvalid).1.mpr hfits⟩

/-- Under the wide policy the summary is refused. -/
theorem not_reported : ¬ ∀ (g : Governor) definition policy, g.Reachable →
    g.policyFor definition = some policy → validatePolicy policy = .ok () →
    decodeFrom (readSummary {}) malformedSummary
      (put (writeSummary (summarise (g.evaluation definition policy).2)) (Input.empty : Cursor)) =
      .ok (summarise (g.evaluation definition policy).2) := by
  intro hall
  obtain ⟨definition, -, hgoverned⟩ := exists_of_any (underWide.domains.find 1)
    (fun definition => (underWide.policyFor definition).any (fun policy => decide
      (validatePolicy policy = .ok () ∧
        ¬ MarginsFit (underWide.evaluation definition policy).1)) = true) (by decide +kernel)
  obtain ⟨policy, hpolicy, hvalid, hwide⟩ := exists_of_any _ _ hgoverned
  have hreachable : underWide.Reachable := Deployment.reachable_after _
  have hreported := hall underWide definition policy hreachable hpolicy hvalid
  have hexact : Decoder.Exact (readSummary {} : RecordReader Cursor EvaluationSummary)
      (writeSummary (summarise (underWide.evaluation definition policy).2))
      (SummaryBounds {} (summarise (underWide.evaluation definition policy).2))
      (summarise (underWide.evaluation definition policy).2) := exact_summary (Cursor.fitsAll _)
  exact hwide ((summaryBounds_evaluation_iff hreachable hvalid).mp
    ((decodeFrom_put_iff hexact).mp hreported))

end Governor

end ThermalGovernor
