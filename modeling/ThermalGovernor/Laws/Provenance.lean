import Mathlib.Algebra.BigOperators.Group.List.Basic
import ThermalGovernor.Laws.Aggregation

/-!
# The provenance of an aggregate

Combining takes the weaker of two classifications, so a combination is at least as weak as
each of its parts and the same in any order.  An aggregate of the hottest member has the
combined provenance of all records.  A weighted mean and a modelled aggregate are synthetic at
best, and the latter is synthetic outright for a synthetic domain; a node sensor speaks for
itself alone, the first one there is.

`neverUpgraded_computeAggregate` says what the four rules have in common, and what is
particular to each.
-/

namespace ThermalGovernor

namespace Provenance

/-- How weak a classification is. -/
def weakness : Provenance → Nat
  | real => 0
  | synthetic => 1
  | unknown => 2
  | unsupported => 3

/-- **Combining takes the weaker of the two.** -/
theorem weakness_combine (a b : Provenance) :
    (combine a b).weakness = max a.weakness b.weakness := by
  cases a <;> cases b <;> rfl

theorem combine_right_comm (a b c : Provenance) :
    combine (combine a b) c = combine (combine a c) b := by
  cases a <;> cases b <;> cases c <;> rfl

theorem real_combine (a : Provenance) : combine real a = a := by
  cases a <;> rfl

theorem eq_real_iff {a : Provenance} : a = real ↔ a.weakness = 0 := by
  cases a <;> decide

theorem concrete_iff {a : Provenance} : a = real ∨ a = synthetic ↔ a.weakness < 2 := by
  cases a <;> decide

end Provenance

/-- The combined provenance of the records. -/
def combinedProvenance (records : List ThermalEvidence) : Provenance :=
  records.foldl (fun p e => Provenance.combine p e.provenance) .real

/-- The records that contribute to the aggregate: the sensor of a node alone, or all. -/
def contributing (definition : ThermalDomainDefinition) (records : List ThermalEvidence) :
    List ThermalEvidence :=
  match definition.aggregation with
  | .nodeSensorGoverns => (records.find? fun e => e.subject.kind = .node).toList
  | .hottestMemberGoverns | .configuredWeightedRule | .syntheticAggregation => records

/-- The provenance of a rule. -/
def ruleProvenance (definition : ThermalDomainDefinition) (records : List ThermalEvidence) :
    Provenance :=
  match definition.aggregation with
  | .hottestMemberGoverns => combinedProvenance records
  | .configuredWeightedRule =>
    if definition.provenance = .real then .synthetic
    else Provenance.combine (combinedProvenance records) .synthetic
  | .nodeSensorGoverns => combinedProvenance (contributing definition records)
  | .syntheticAggregation =>
    if definition.provenance = .synthetic then .synthetic
    else Provenance.combine (combinedProvenance records) .synthetic

/-- The rule has the provenance of the definition decide, not that of the records. -/
def overrides (definition : ThermalDomainDefinition) : Bool :=
  match definition.aggregation with
  | .configuredWeightedRule => definition.provenance = .real
  | .syntheticAggregation => definition.provenance = .synthetic
  | .hottestMemberGoverns | .nodeSensorGoverns => false

variable {definition : ThermalDomainDefinition} {records records' : List ThermalEvidence}

/-! ### Combined provenance -/

theorem combinedProvenance_cons (first : ThermalEvidence) (rest : List ThermalEvidence) :
    combinedProvenance (first :: rest) =
      rest.foldl (fun p e => Provenance.combine p e.provenance) first.provenance := by
  rw [combinedProvenance, List.foldl_cons, Provenance.real_combine]

/-- The order of the records does not matter. -/
theorem combinedProvenance_perm (h : records.Perm records') :
    combinedProvenance records = combinedProvenance records' :=
  h.foldl_eq' (fun _ _ _ _ p => Provenance.combine_right_comm p _ _) .real

/-- A combination is at least as weak as each part. -/
theorem weakness_le_combinedProvenance {e : ThermalEvidence} (h : e ∈ records) :
    e.provenance.weakness ≤ (combinedProvenance records).weakness := by
  have hfold : ∀ (records : List ThermalEvidence) (p : Provenance),
      p.weakness ≤
        (records.foldl (fun p e => Provenance.combine p e.provenance) p).weakness := by
    intro records
    induction records with
    | nil => exact fun _ => le_rfl
    | cons first rest ih =>
      intro p
      refine le_trans ?_ (ih (Provenance.combine p first.provenance))
      rw [Provenance.weakness_combine]
      exact le_max_left _ _
  obtain ⟨before, after, rfl⟩ := List.append_of_mem h
  rw [combinedProvenance, List.foldl_append, List.foldl_cons]
  refine le_trans ?_ (hfold after _)
  rw [Provenance.weakness_combine]
  exact le_max_right _ _

/-! ### The provenance of a rule -/

/-- **An aggregate has the provenance of its rule.** -/
theorem provenance_computeAggregate {aggregate : AggregateResult}
    (h : computeAggregate definition records = .ok aggregate) :
    aggregate.provenance = ruleProvenance definition records := by
  cases records with
  | nil => cases h
  | cons first rest =>
    unfold computeAggregate at h
    unfold ruleProvenance contributing
    dsimp only at h ⊢
    rw [← combinedProvenance_cons] at h
    cases haggregation : definition.aggregation with
    | hottestMemberGoverns =>
      rw [haggregation] at h
      obtain rfl := Except.ok.inj h
      rfl
    | configuredWeightedRule =>
      rw [haggregation] at h
      dsimp only at h
      split at h
      · cases h
      split at h
      · cases h
      · obtain rfl := Except.ok.inj h
        rfl
    | nodeSensorGoverns =>
      rw [haggregation] at h
      dsimp only at h
      split at h
      · cases h
      · rename_i sensor hsensor
        obtain rfl := Except.ok.inj h
        rw [hsensor]
        exact (Provenance.real_combine sensor.provenance).symm
    | syntheticAggregation =>
      rw [haggregation] at h
      dsimp only at h
      split at h
      · cases h
      · obtain rfl := Except.ok.inj h
        rfl

/-- A rule that does not override the records is as weak as each record that contributes. -/
theorem weakness_le_ruleProvenance (hrecords : overrides definition = false)
    {e : ThermalEvidence} (he : e ∈ contributing definition records) :
    e.provenance.weakness ≤ (ruleProvenance definition records).weakness := by
  have hmodelled : ∀ p : Provenance, p.weakness ≤ (Provenance.combine p .synthetic).weakness := by
    intro p
    rw [Provenance.weakness_combine]
    exact le_max_left _ _
  unfold overrides at hrecords
  unfold ruleProvenance
  cases haggregation : definition.aggregation with
  | nodeSensorGoverns => exact weakness_le_combinedProvenance he
  | hottestMemberGoverns =>
    rw [contributing, haggregation] at he
    exact weakness_le_combinedProvenance he
  | configuredWeightedRule =>
    rw [contributing, haggregation] at he
    rw [haggregation] at hrecords
    dsimp only
    rw [if_neg (of_decide_eq_false hrecords)]
    exact (weakness_le_combinedProvenance he).trans (hmodelled _)
  | syntheticAggregation =>
    rw [contributing, haggregation] at he
    rw [haggregation] at hrecords
    dsimp only
    rw [if_neg (of_decide_eq_false hrecords)]
    exact (weakness_le_combinedProvenance he).trans (hmodelled _)

/-- A rule that overrides the records makes the aggregate synthetic. -/
theorem ruleProvenance_of_overrides (h : overrides definition = true) :
    ruleProvenance definition records = .synthetic := by
  unfold overrides at h
  unfold ruleProvenance
  cases haggregation : definition.aggregation with
  | hottestMemberGoverns => rw [haggregation] at h; cases h
  | nodeSensorGoverns => rw [haggregation] at h; cases h
  | configuredWeightedRule =>
    rw [haggregation] at h
    exact if_pos (of_decide_eq_true h)
  | syntheticAggregation =>
    rw [haggregation] at h
    exact if_pos (of_decide_eq_true h)

/-! ### The order of the records -/

theorem max?_perm {list list' : List DegreesCelsius} (h : list.Perm list') :
    list.max? = list'.max? := by
  cases hmax : list.max? with
  | none =>
    rw [List.max?_eq_none_iff] at hmax
    rw [hmax] at h
    rw [h.nil_eq.symm]
    rfl
  | some hottest =>
    obtain ⟨hmem, hle⟩ := List.max?_eq_some_iff.mp hmax
    exact (List.max?_eq_some_iff.mpr
      ⟨h.mem_iff.mp hmem, fun t ht => hle t (h.mem_iff.mpr ht)⟩).symm

/-- Only the node sensor depends on the order. -/
theorem ruleTemperature_perm (h : records.Perm records')
    (hrule : definition.aggregation ≠ .nodeSensorGoverns) :
    ruleTemperature definition records = ruleTemperature definition records' := by
  have hhottest := max?_perm (h.map ThermalEvidence.temperature)
  have htotal := (h.map (memberWeight definition)).sum_eq
  have hsum := (h.map fun e => e.temperature * memberWeight definition e).sum_eq
  unfold ruleTemperature
  rw [hhottest, htotal, hsum]
  cases haggregation : definition.aggregation with
  | nodeSensorGoverns => exact absurd haggregation hrule
  | hottestMemberGoverns | configuredWeightedRule | syntheticAggregation => rfl

theorem ruleProvenance_perm (h : records.Perm records')
    (hrule : definition.aggregation ≠ .nodeSensorGoverns) :
    ruleProvenance definition records = ruleProvenance definition records' := by
  unfold ruleProvenance
  rw [combinedProvenance_perm h]
  cases haggregation : definition.aggregation with
  | nodeSensorGoverns => exact absurd haggregation hrule
  | hottestMemberGoverns | configuredWeightedRule | syntheticAggregation => rfl

/-- The provenance of an aggregate is that of its rule, when the rule has a temperature. -/
theorem map_provenance_computeAggregate (definition : ThermalDomainDefinition)
    (records : List ThermalEvidence) :
    (computeAggregate definition records).toOption.map AggregateResult.provenance =
      (ruleTemperature definition records).map fun _ => ruleProvenance definition records := by
  rw [← temperature_computeAggregate]
  cases haggregate : computeAggregate definition records with
  | error e => rfl
  | ok aggregate => exact congrArg some (provenance_computeAggregate haggregate)

/-- The provenance of the node sensor that governs. -/
def sensorProvenance (records : List ThermalEvidence) : Option Provenance :=
  (records.find? fun e => e.subject.kind = .node).map ThermalEvidence.provenance

theorem map_provenance_nodeSensor (hrule : definition.aggregation = .nodeSensorGoverns) :
    (computeAggregate definition records).toOption.map AggregateResult.provenance =
      sensorProvenance records := by
  rw [map_provenance_computeAggregate, ruleTemperature, ruleProvenance, contributing, hrule,
    sensorProvenance]
  dsimp only
  cases records.find? fun e => e.subject.kind = .node with
  | none => rfl
  | some sensor => exact congrArg some (Provenance.real_combine sensor.provenance)

/-! ### The law -/

/-- Provenance is never upgraded: nothing unsupported or unknown becomes concrete, and nothing
synthetic becomes real. -/
def NeverUpgraded (members : List ThermalEvidence) (p : Provenance) : Prop :=
  ((∃ e ∈ members, e.provenance = .unsupported ∨ e.provenance = .unknown) →
    p ≠ .real ∧ p ≠ .synthetic) ∧
  ((∃ e ∈ members, e.provenance = .synthetic) → p ≠ .real)

/-- **Provenance is never upgraded by aggregation**, but where a modelled aggregate is
synthetic outright; and it depends on the order of the records by the first sensor only. -/
theorem neverUpgraded_computeAggregate (definition : ThermalDomainDefinition)
    (records : List ThermalEvidence) :
    (∀ aggregate, computeAggregate definition records = .ok aggregate →
      ((∃ e ∈ contributing definition records, e.provenance ≠ .real) →
        aggregate.provenance ≠ .real) ∧
      (overrides definition = false →
        NeverUpgraded (contributing definition records) aggregate.provenance) ∧
      (definition.aggregation = .syntheticAggregation → definition.provenance = .synthetic →
        aggregate.provenance = .synthetic)) ∧
    ∀ records', records.Perm records' →
      (definition.aggregation = .nodeSensorGoverns →
        sensorProvenance records = sensorProvenance records') →
      (computeAggregate definition records).toOption.map AggregateResult.provenance =
        (computeAggregate definition records').toOption.map AggregateResult.provenance := by
  refine ⟨fun aggregate haggregate => ?_, fun records' hperm hsensor => ?_⟩
  · rw [provenance_computeAggregate haggregate]
    refine ⟨?_, fun hrecords => ⟨?_, ?_⟩, fun hrule hsynthetic => ?_⟩
    · rintro ⟨e, he, hweak⟩ hreal
      cases hrecords : overrides definition with
      | true =>
        rw [ruleProvenance_of_overrides hrecords] at hreal
        cases hreal
      | false =>
        have hle := weakness_le_ruleProvenance hrecords he
        rw [Provenance.eq_real_iff.mp hreal] at hle
        exact hweak (Provenance.eq_real_iff.mpr (Nat.le_zero.mp hle))
    · rintro ⟨e, he, hweak⟩
      have hle := weakness_le_ruleProvenance hrecords he
      have hbound : 2 ≤ e.provenance.weakness := by
        rcases hweak with h | h <;> rw [h] <;> decide
      have habstract : ¬ (ruleProvenance definition records = .real ∨
          ruleProvenance definition records = .synthetic) := by
        rw [Provenance.concrete_iff]
        omega
      exact not_or.mp habstract
    · rintro ⟨e, he, hweak⟩ hreal
      have hle := weakness_le_ruleProvenance hrecords he
      rw [Provenance.eq_real_iff.mp hreal, hweak] at hle
      exact absurd hle (by decide)
    · refine ruleProvenance_of_overrides ?_
      rw [overrides, hrule]
      exact decide_eq_true hsynthetic
  · by_cases hrule : definition.aggregation = .nodeSensorGoverns
    · rw [map_provenance_nodeSensor hrule, map_provenance_nodeSensor hrule]
      exact hsensor hrule
    · rw [map_provenance_computeAggregate, map_provenance_computeAggregate,
        ruleTemperature_perm hperm hrule, ruleProvenance_perm hperm hrule]

/-- A device or node that reports with the given provenance. -/
def reporter (kind : SubjectKind) (p : Provenance) : ThermalEvidence :=
  { subject := { kind := kind }
    temperature := 40
    provenance := p }

/-- A modelled aggregate over an unsupported member is synthetic, and of two node sensors the
one that comes first decides. -/
theorem not_neverUpgraded :
    (¬ ∀ (definition : ThermalDomainDefinition) (records : List ThermalEvidence) (aggregate),
      computeAggregate definition records = .ok aggregate →
      NeverUpgraded records aggregate.provenance) ∧
    ¬ ∀ (definition : ThermalDomainDefinition) (records records' : List ThermalEvidence),
      records.Perm records' →
      (computeAggregate definition records).toOption.map AggregateResult.provenance =
        (computeAggregate definition records').toOption.map AggregateResult.provenance := by
  constructor
  · intro h
    obtain ⟨aggregate, haggregate, hsynthetic⟩ := exists_of_ok
      (computeAggregate { aggregation := .syntheticAggregation, provenance := .synthetic }
        [reporter .device .unsupported])
      (fun aggregate => aggregate.provenance = .synthetic) (by decide +kernel)
    have hnever := (h _ _ aggregate haggregate).1 ⟨_, List.mem_cons_self, .inl rfl⟩
    exact hnever.2 hsynthetic
  · intro h
    have hswapped := h { aggregation := .nodeSensorGoverns }
      [reporter .node .real, reporter .node .unsupported]
      [reporter .node .unsupported, reporter .node .real] (.swap _ _ _)
    cases hswapped

end ThermalGovernor
