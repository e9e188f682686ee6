import ThermalGovernor.Topology.Domain

/-!
# What the aggregation rules compute

`ruleTemperature` says what each rule is, as a maximum, a weighted mean or the reading of a
node, and `governingRecord` which record speaks for the aggregate.  `computeAggregate` goes
over the records with one accumulator for each rule; `temperature_computeAggregate` and
`computeAggregate_eq_ok` are its specification in these terms.
-/

namespace ThermalGovernor

/-- The temperature of a rule, from the records of the members; `none` when it has none. -/
def ruleTemperature (definition : ThermalDomainDefinition) (records : List ThermalEvidence) :
    Option DegreesCelsius :=
  let hottest := (records.map ThermalEvidence.temperature).max?
  match definition.aggregation with
  | .hottestMemberGoverns => hottest
  | .configuredWeightedRule =>
    let total := (records.map (memberWeight definition)).sum
    let mean : DegreesCelsius :=
      (records.map fun e => e.temperature * memberWeight definition e).sum / total
    if 0 < total ∧ mean.valid = true then some mean else none
  | .nodeSensorGoverns =>
    (records.find? fun e => e.subject.kind = .node).map ThermalEvidence.temperature
  | .syntheticAggregation =>
    (hottest.map fun t => t + definition.syntheticAggregateOffset.getD 0).filter
      DegreesCelsius.valid

/-- The record a rule lets speak for the aggregate. -/
def governingRecord (definition : ThermalDomainDefinition) :
    List ThermalEvidence → Option ThermalEvidence
  | [] => none
  | first :: rest =>
    match definition.aggregation with
    | .hottestMemberGoverns | .syntheticAggregation => some ((first :: rest).foldl hotter first)
    | .configuredWeightedRule =>
      some ((first :: rest).foldl (heavier definition) (first, -1)).1
    | .nodeSensorGoverns => (first :: rest).find? fun e => e.subject.kind = .node

/-- The aggregate is a measurement: the hottest of real records, or a real node reading. -/
def measuresReal (definition : ThermalDomainDefinition) (records : List ThermalEvidence) :
    Bool :=
  match definition.aggregation with
  | .hottestMemberGoverns => records.all fun e => e.provenance = .real
  | .nodeSensorGoverns =>
    (records.find? fun e => e.subject.kind = .node).any fun e => e.provenance = .real
  | .configuredWeightedRule | .syntheticAggregation => false

/-! ### The accumulators -/

theorem temperature_foldl_hotter : ∀ (records : List ThermalEvidence) (first : ThermalEvidence),
    (records.foldl hotter first).temperature =
      (records.map ThermalEvidence.temperature).foldl max first.temperature := by
  intro records
  induction records with
  | nil => intro first; rfl
  | cons e rest ih =>
    intro first
    have hstep : (hotter first e).temperature = max first.temperature e.temperature := by
      unfold hotter
      split
      · rename_i hlt
        exact (max_eq_right (le_of_lt hlt)).symm
      · rename_i hge
        exact (max_eq_left (not_lt.mp hge)).symm
    rw [List.foldl_cons, ih, hstep, List.map_cons, List.foldl_cons]

/-- The hottest record has the largest temperature. -/
theorem max_temperature (first : ThermalEvidence) (rest : List ThermalEvidence) :
    ((first :: rest).map ThermalEvidence.temperature).max? =
      some ((first :: rest).foldl hotter first).temperature := by
  have hfirst : hotter first first = first := by
    unfold hotter
    rw [if_neg (lt_irrefl _)]
  rw [List.map_cons, List.max?_cons', List.foldl_cons, hfirst, temperature_foldl_hotter]

theorem foldl_hotter_mem : ∀ (records : List ThermalEvidence) (first : ThermalEvidence),
    records.foldl hotter first = first ∨ records.foldl hotter first ∈ records := by
  intro records
  induction records with
  | nil => intro first; exact .inl rfl
  | cons e rest ih =>
    intro first
    rw [List.foldl_cons]
    rcases ih (hotter first e) with h | h
    · rw [h]
      unfold hotter
      split
      · exact .inr List.mem_cons_self
      · exact .inl rfl
    · exact .inr (List.mem_cons_of_mem _ h)

theorem foldl_heavier_mem (definition : ThermalDomainDefinition) :
    ∀ (records : List ThermalEvidence) (acc : ThermalEvidence × ℚ),
      (records.foldl (heavier definition) acc).1 = acc.1 ∨
      (records.foldl (heavier definition) acc).1 ∈ records := by
  intro records
  induction records with
  | nil => intro acc; exact .inl rfl
  | cons e rest ih =>
    intro acc
    rw [List.foldl_cons]
    rcases ih (heavier definition acc e) with h | h
    · rw [h]
      unfold heavier
      split
      · exact .inr List.mem_cons_self
      · exact .inl rfl
    · exact .inr (List.mem_cons_of_mem _ h)

/-- The governing record is one of the records. -/
theorem governingRecord_mem {definition : ThermalDomainDefinition}
    {records : List ThermalEvidence} {governing : ThermalEvidence}
    (h : governingRecord definition records = some governing) : governing ∈ records := by
  cases records with
  | nil => cases h
  | cons first rest =>
    simp only [governingRecord] at h
    have hfirst : first ∈ first :: rest := List.mem_cons_self
    split at h
    · rw [← Option.some.inj h]
      rcases foldl_hotter_mem (first :: rest) first with heq | hmem
      · rwa [heq]
      · exact hmem
    · rw [← Option.some.inj h]
      rcases foldl_hotter_mem (first :: rest) first with heq | hmem
      · rwa [heq]
      · exact hmem
    · rw [← Option.some.inj h]
      rcases foldl_heavier_mem definition (first :: rest) (first, -1) with heq | hmem
      · rwa [heq]
      · exact hmem
    · exact List.mem_of_find?_eq_some h

/-- Records combine to a real provenance when each of them is real. -/
theorem combined_eq_real : ∀ (records : List ThermalEvidence) (p : Provenance),
    records.foldl (fun p e => Provenance.combine p e.provenance) p = .real ↔
      p = .real ∧ ∀ e ∈ records, e.provenance = .real := by
  intro records
  induction records with
  | nil => intro p; simp
  | cons e rest ih =>
    intro p
    rw [List.foldl_cons, ih, Provenance.combine_eq_real, List.forall_mem_cons, and_assoc]

/-! ### The specification -/

/-- **The aggregate temperature is that of the rule.** -/
theorem temperature_computeAggregate (definition : ThermalDomainDefinition)
    (records : List ThermalEvidence) :
    (computeAggregate definition records).toOption.map AggregateResult.temperature =
      ruleTemperature definition records := by
  cases records with
  | nil =>
    unfold ruleTemperature
    cases definition.aggregation <;> rfl
  | cons first rest =>
    have hhottest := max_temperature first rest
    unfold computeAggregate ruleTemperature
    dsimp only
    rw [hhottest]
    cases definition.aggregation with
    | hottestMemberGoverns => rfl
    | configuredWeightedRule =>
      dsimp only
      generalize ((first :: rest).map (memberWeight definition)).sum = total
      generalize ((first :: rest).map fun e => e.temperature * memberWeight definition e).sum = sum
      by_cases htotal : 0 < total
      · by_cases hvalid : DegreesCelsius.valid (sum / total) = true
        · rw [if_neg (by simp [htotal]), if_neg (by simp [hvalid])]
          exact (if_pos ⟨htotal, hvalid⟩).symm
        · rw [if_neg (by simp [htotal]), if_pos (by simp [hvalid]), if_neg fun h => hvalid h.2]
          rfl
      · rw [if_pos (by simp [htotal]), if_neg fun h => htotal h.1]
        rfl
    | nodeSensorGoverns =>
      dsimp only
      cases (first :: rest).find? fun e => e.subject.kind = .node <;> rfl
    | syntheticAggregation =>
      dsimp only
      rw [Option.map_some]
      generalize ((first :: rest).foldl hotter first).temperature +
        definition.syntheticAggregateOffset.getD 0 = modelled
      by_cases hvalid : DegreesCelsius.valid modelled = true
      · rw [if_neg (by simp [hvalid]), Option.filter_some_pos hvalid]
        rfl
      · rw [if_pos (by simp [hvalid]), Option.filter_some_neg (Bool.eq_false_iff.mpr hvalid)]
        rfl

/-- What an aggregate says of its records. -/
structure AggregateOf (definition : ThermalDomainDefinition) (records : List ThermalEvidence)
    (governing : ThermalEvidence) (aggregate : AggregateResult) : Prop where
  governs : governingRecord definition records = some governing
  member : aggregate.governingMember = governing.subject
  real : aggregate.provenance = .real ↔ measuresReal definition records = true

/-- **The governing member of an aggregate is that of the governing record.** -/
theorem computeAggregate_eq_ok {definition : ThermalDomainDefinition}
    {records : List ThermalEvidence} {aggregate : AggregateResult}
    (h : computeAggregate definition records = .ok aggregate) :
    ∃ governing, AggregateOf definition records governing aggregate := by
  cases records with
  | nil => cases h
  | cons first rest =>
    have hmodelled : ∀ p : Provenance, ¬ Provenance.combine p .synthetic = .real := by
      intro p hreal
      cases (Provenance.combine_eq_real.mp hreal).2
    unfold computeAggregate at h
    dsimp only at h
    cases haggregation : definition.aggregation with
    | hottestMemberGoverns =>
      rw [haggregation] at h
      obtain rfl := Except.ok.inj h
      refine ⟨_, by rw [governingRecord, haggregation], rfl, ?_⟩
      rw [measuresReal, haggregation, List.all_eq_true, List.forall_mem_cons]
      simpa using combined_eq_real rest first.provenance
    | configuredWeightedRule =>
      rw [haggregation] at h
      dsimp only at h
      split at h
      · cases h
      split at h
      · cases h
      · obtain rfl := Except.ok.inj h
        refine ⟨_, by rw [governingRecord, haggregation], rfl, ?_⟩
        rw [measuresReal, haggregation]
        refine ⟨fun hreal => ?_, fun hf => (by cases hf)⟩
        dsimp only at hreal
        split at hreal
        · cases hreal
        · exact absurd hreal (hmodelled _)
    | nodeSensorGoverns =>
      rw [haggregation] at h
      dsimp only at h
      split at h
      · cases h
      · rename_i sensor hsensor
        obtain rfl := Except.ok.inj h
        refine ⟨sensor, by rw [governingRecord, haggregation]; exact hsensor, rfl, ?_⟩
        rw [measuresReal, haggregation, hsensor]
        simp
    | syntheticAggregation =>
      rw [haggregation] at h
      dsimp only at h
      split at h
      · cases h
      · obtain rfl := Except.ok.inj h
        refine ⟨_, by rw [governingRecord, haggregation], rfl, ?_⟩
        rw [measuresReal, haggregation]
        refine ⟨fun hreal => ?_, fun hf => (by cases hf)⟩
        dsimp only at hreal
        split at hreal
        · cases hreal
        · exact absurd hreal (hmodelled _)

end ThermalGovernor
