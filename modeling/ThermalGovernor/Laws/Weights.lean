import ThermalGovernor.Laws.Aggregation
import ThermalGovernor.Laws.Registry
import ThermalGovernor.Lib.Mean

/-!
# The weights of a domain

Under the rule of configured weights a domain has the mean of its members' temperatures.
Positive weights keep the mean between the coldest and the hottest member; the registry asks
for them when a definition enters, and no longer when it replaces another.

A member is found by the key of its subject and its weight by the whole subject, so a record
that fills in more of the subject than the key tells is weighed as if no weight had been
configured.  `weighsConfigured_iff` puts both together over every run of the registry.
-/

namespace ThermalGovernor

open Lib DomainRegistry

variable {d : ThermalDomainDefinition} {evidence : Table String ThermalEvidence}
  {r : DomainRegistry}

/-- The members that report, each with its record. -/
def reporting (d : ThermalDomainDefinition) (evidence : Table String ThermalEvidence) :
    List (DomainMember × ThermalEvidence) :=
  d.members.filterMap fun m => (evidence.lookup m.subject.key).map fun e => (m, e)

/-- The aggregate is a bounded mean of the configured weights. -/
structure WeighsMembers (d : ThermalDomainDefinition)
    (evidence : Table String ThermalEvidence) : Prop where
  positive : ∀ m ∈ d.members, 0 < m.weight
  configured : ∀ m ∈ d.members, ∀ e ∈ evidence.lookup m.subject.key,
    memberWeight d e = m.weight
  mean : ∀ aggregate, computeAggregate d (memberEvidence d evidence) = .ok aggregate →
    aggregate.temperature =
      weightedMean (fun p => p.2.temperature) (fun p => p.1.weight) (reporting d evidence)
  bounded : ∀ aggregate, computeAggregate d (memberEvidence d evidence) = .ok aggregate →
    ∀ coldest hottest, ((memberEvidence d evidence).map ThermalEvidence.temperature).min? =
        some coldest →
      ((memberEvidence d evidence).map ThermalEvidence.temperature).max? = some hottest →
      coldest ≤ aggregate.temperature ∧ aggregate.temperature ≤ hottest

/-- Members of one key have one weight, and a record under it has the subject of a member, or
the weight is the one that is taken without configuration. -/
structure Weighable (d : ThermalDomainDefinition)
    (evidence : Table String ThermalEvidence) : Prop where
  agree : ∀ m ∈ d.members, ∀ m' ∈ d.members, m'.subject.key = m.subject.key →
    (evidence.lookup m.subject.key).isSome = true → m'.weight = m.weight
  carried : ∀ m ∈ d.members, ∀ e ∈ evidence.lookup m.subject.key,
    m.weight = 1 ∨ ∃ m' ∈ d.members, m'.subject = e.subject

/-! ### One definition -/

/-- A record is weighed by a member of its subject, or as if it had none. -/
theorem memberWeight_cases (d : ThermalDomainDefinition) (e : ThermalEvidence) :
    (∃ m ∈ d.members, m.subject = e.subject ∧ memberWeight d e = m.weight) ∨
      ((∀ m ∈ d.members, m.subject ≠ e.subject) ∧ memberWeight d e = 1) := by
  unfold memberWeight
  cases hfind : d.members.find? fun m => m.subject = e.subject with
  | none =>
    refine .inr ⟨fun m hm hsubject => ?_, rfl⟩
    have hnot := List.find?_eq_none.mp hfind m hm
    simp [hsubject] at hnot
  | some m =>
    have hsubject : m.subject = e.subject := by simpa using List.find?_some hfind
    exact .inl ⟨m, List.mem_of_find?_eq_some hfind, hsubject, rfl⟩

/-- **When each record is weighed as configured.** -/
theorem configured_iff (hkeyed : KeyedEvidence evidence) :
    (∀ m ∈ d.members, ∀ e ∈ evidence.lookup m.subject.key, memberWeight d e = m.weight) ↔
      Weighable d evidence := by
  constructor
  · intro h
    refine ⟨fun m hm m' hm' hkey hreports => ?_, fun m hm e he => ?_⟩
    · obtain ⟨e, he⟩ := Option.isSome_iff_exists.mp hreports
      rw [← h m hm e he, ← h m' hm' e (by rw [hkey]; exact he)]
    · rcases memberWeight_cases d e with ⟨m', hm', hsubject, -⟩ | ⟨-, hdefault⟩
      · exact .inr ⟨m', hm', hsubject⟩
      · exact .inl ((h m hm e he).symm.trans hdefault)
  · intro h m hm e he
    rcases memberWeight_cases d e with ⟨m', hm', hsubject, hweight⟩ | ⟨hnone, hdefault⟩
    · have hkey : m'.subject.key = m.subject.key := by
        rw [hsubject]
        exact hkeyed _ e he
      rw [hweight]
      exact h.agree m hm m' hm' hkey (Option.isSome_of_mem he)
    · rcases h.carried m hm e he with hone | ⟨m', hm', hsubject⟩
      · rw [hdefault, hone]
      · exact absurd hsubject (hnone m' hm')

theorem memberEvidence_eq_map :
    memberEvidence d evidence = (reporting d evidence).map Prod.snd := by
  unfold memberEvidence reporting
  rw [List.map_filterMap]
  refine List.filterMap_congr fun m _ => ?_
  cases evidence.lookup m.subject.key <;> rfl

/-- A record of the aggregate belongs to a member. -/
theorem mem_reporting {p : DomainMember × ThermalEvidence} :
    p ∈ reporting d evidence ↔
      p.1 ∈ d.members ∧ evidence.lookup p.1.subject.key = some p.2 := by
  unfold reporting
  rw [List.mem_filterMap]
  constructor
  · rintro ⟨m, hm, hp⟩
    obtain ⟨e, he, rfl⟩ := Option.map_eq_some_iff.mp hp
    exact ⟨hm, he⟩
  · rintro ⟨hm, he⟩
    exact ⟨p.1, hm, by rw [he]; rfl⟩

/-- The weighted rule gives the weighted mean of the records. -/
theorem temperature_weighted (haggregation : d.aggregation = .configuredWeightedRule)
    {records : List ThermalEvidence} {aggregate : AggregateResult}
    (h : computeAggregate d records = .ok aggregate) :
    aggregate.temperature = weightedMean ThermalEvidence.temperature (memberWeight d) records := by
  have hrule := temperature_computeAggregate d records
  rw [h, ruleTemperature, haggregation] at hrule
  dsimp only at hrule
  split at hrule
  · exact Option.some.inj hrule
  · cases hrule

theorem weighsMembers_iff (hkeyed : KeyedEvidence evidence)
    (haggregation : d.aggregation = .configuredWeightedRule) :
    WeighsMembers d evidence ↔ (∀ m ∈ d.members, 0 < m.weight) ∧ Weighable d evidence := by
  constructor
  · intro h
    exact ⟨h.positive, (configured_iff hkeyed).mp h.configured⟩
  · rintro ⟨hpositive, hweighable⟩
    have hconfigured := (configured_iff hkeyed).mpr hweighable
    have hmean : ∀ aggregate, computeAggregate d (memberEvidence d evidence) = .ok aggregate →
        aggregate.temperature =
          weightedMean (fun p => p.2.temperature) (fun p => p.1.weight)
            (reporting d evidence) := by
      intro aggregate haggregate
      rw [temperature_weighted haggregation haggregate, memberEvidence_eq_map, weightedMean_map]
      refine weightedMean_congr fun p hp => ?_
      obtain ⟨hm, he⟩ := mem_reporting.mp hp
      exact hconfigured p.1 hm p.2 he
    refine ⟨hpositive, hconfigured, hmean, fun aggregate haggregate coldest hottest hmin hmax => ?_⟩
    have hweights : ∀ p ∈ reporting d evidence, 0 < p.1.weight :=
      fun p hp => hpositive p.1 (mem_reporting.mp hp).1
    have htemperature : ∀ p ∈ reporting d evidence, p.2.temperature ∈
        (memberEvidence d evidence).map ThermalEvidence.temperature := by
      intro p hp
      rw [memberEvidence_eq_map]
      exact List.mem_map_of_mem (List.mem_map_of_mem hp)
    have hreports : reporting d evidence ≠ [] := by
      intro hnone
      rw [memberEvidence_eq_map, hnone] at hmin
      cases hmin
    rw [hmean aggregate haggregate]
    constructor
    · exact le_weightedMean hweights hreports fun p hp =>
        (List.min?_eq_some_iff.mp hmin).2 _ (htemperature p hp)
    · exact weightedMean_le hweights hreports fun p hp =>
        (List.max?_eq_some_iff.mp hmax).2 _ (htemperature p hp)

namespace DomainRegistry

/-! ### Every run -/

/-- Each definition of the weighted rule weighs its members as configured. -/
def WeighsConfigured (evidence : Table String ThermalEvidence) (r : DomainRegistry) : Prop :=
  ∀ id d, r.find id = some d → d.aggregation = .configuredWeightedRule →
    WeighsMembers d evidence

/-- What a call must not bring in under the weighted rule: a replacement no weight that is not
positive, and neither it nor an addition a definition that cannot weigh the records. -/
def BringsWeighable (evidence : Table String ThermalEvidence) (r : DomainRegistry) :
    RegistryOperation → Prop
  | .add d => r.checkAdd d = .ok () → d.aggregation = .configuredWeightedRule →
      Weighable d evidence
  | .update d => r.checkUpdate d = .ok () → d.aggregation = .configuredWeightedRule →
      (∀ m ∈ d.members, 0 < m.weight) ∧ Weighable d evidence
  | .remove _ => True

/-- A property of every definition is kept by storing one exactly when that one has it. -/
theorem forall_store_iff {P : ThermalDomainDefinition → Prop}
    (hr : ∀ id d', r.find id = some d' → P d') :
    (∀ id d', (r.store d).find id = some d' → P d') ↔ P d := by
  simp only [find_store]
  constructor
  · intro h
    exact h d.id d (if_pos rfl)
  · intro hd id d' hfind
    split at hfind
    · obtain rfl := Option.some.inj hfind
      exact hd
    · exact hr id d' hfind

theorem weighsConfigured_next (hkeyed : KeyedEvidence evidence)
    (hr : r.WeighsConfigured evidence) (operation : RegistryOperation) :
    (r.next operation).WeighsConfigured evidence ↔ r.BringsWeighable evidence operation := by
  rcases r.next_cases operation with ⟨e, hrefused⟩ | ⟨d, rfl, hadmits, hstored⟩ |
    ⟨d, held, rfl, hreplaces, hstored⟩ | ⟨id, rfl, -, hdropped⟩
  · have hbrings : r.BringsWeighable evidence operation := by
      cases operation with
      | add d =>
        intro hcheck
        rw [call, add, hcheck] at hrefused
        cases (Prod.mk.inj hrefused).2
      | update d =>
        intro hcheck
        rw [call, update, hcheck] at hrefused
        cases (Prod.mk.inj hrefused).2
      | remove id => trivial
    rw [next, hrefused]
    exact iff_of_true hr hbrings
  · rw [hstored, WeighsConfigured, forall_store_iff hr]
    constructor
    · intro h _ haggregation
      exact ((weighsMembers_iff hkeyed haggregation).mp (h haggregation)).2
    · intro h haggregation
      exact (weighsMembers_iff hkeyed haggregation).mpr
        ⟨hadmits.weighted haggregation, h (checkAdd_eq_ok.mpr hadmits) haggregation⟩
  · rw [hstored, WeighsConfigured, forall_store_iff hr]
    constructor
    · intro h _ haggregation
      exact (weighsMembers_iff hkeyed haggregation).mp (h haggregation)
    · intro h haggregation
      exact (weighsMembers_iff hkeyed haggregation).mpr (h hreplaces.checked haggregation)
  · rw [hdropped]
    refine iff_of_true (fun k d hfind => ?_) trivial
    rw [find_drop] at hfind
    split at hfind
    · cases hfind
    · exact hr k d hfind

/-- **When the weighted rule is a bounded mean of the configured weights throughout a run.** -/
theorem weighsConfigured_iff (limits : DomainLimits) (operations : List RegistryOperation)
    (hkeyed : KeyedEvidence evidence) :
    (∀ earlier later, operations = earlier ++ later →
      (earlier.foldl next (empty limits)).WeighsConfigured evidence) ↔
    ∀ earlier operation later, operations = earlier ++ operation :: later →
      (earlier.foldl next (empty limits)).BringsWeighable evidence operation := by
  have hempty : (empty limits).WeighsConfigured evidence := by
    intro id d hfind
    cases hfind
  exact throughout_iff (J := fun _ => True) trivial (fun _ _ _ => trivial) hempty
    (fun r operation _ hr => weighsConfigured_next hkeyed hr operation) operations

/-- A domain whose first device has the weight `weight` and whose second has one. -/
def weighted (generation : ThermalDomainGeneration) (weight : ℚ) : ThermalDomainDefinition :=
  { id := 1
    generation := generation
    provenance := .real
    aggregation := .configuredWeightedRule
    members := [{ subject := .forDevice 1 1, weight := weight }, { subject := .forDevice 2 1 }] }

/-- A reading of a device, with the node it is part of. -/
def placedReading (device : DeviceId) (node : NodeId) (temperature : DegreesCelsius) :
    ThermalEvidence :=
  { subject := { SubjectRef.forDevice device 1 with node := node }
    temperature := temperature }

theorem weighsConfigured_weighted :
    (∀ earlier later, [RegistryOperation.add (weighted 1 3)] = earlier ++ later →
      (earlier.foldl next (empty {})).WeighsConfigured
        (Deployment.held [placedReading 1 0 40, placedReading 2 0 80])) ↔
    ∀ earlier operation later,
      [RegistryOperation.add (weighted 1 3)] = earlier ++ operation :: later →
      (earlier.foldl next (empty {})).BringsWeighable
        (Deployment.held [placedReading 1 0 40, placedReading 2 0 80]) operation :=
  weighsConfigured_iff {} _ (keyedEvidence_held _ _)

/-- A replacement can bring in a negative weight, under which the mean is below the coldest
member; and a record that names the node of its device is weighed as if its device had no
weight. -/
theorem not_weighsConfigured :
    (¬ ∀ (limits : DomainLimits) (operations : List RegistryOperation)
        (evidence : Table String ThermalEvidence) (id d aggregate), KeyedEvidence evidence →
      (operations.foldl next (empty limits)).find id = some d →
      d.aggregation = .configuredWeightedRule →
      computeAggregate d (memberEvidence d evidence) = .ok aggregate →
      (∀ m ∈ d.members, 0 < m.weight) ∨
        ∃ e ∈ memberEvidence d evidence, e.temperature ≤ aggregate.temperature) ∧
    ¬ ∀ (limits : DomainLimits) (operations : List RegistryOperation)
        (evidence : Table String ThermalEvidence) (id d), KeyedEvidence evidence →
      (operations.foldl next (empty limits)).find id = some d →
      d.aggregation = .configuredWeightedRule →
      ∀ m ∈ d.members, ∀ e ∈ evidence.lookup m.subject.key, memberWeight d e = m.weight := by
  constructor
  · intro h
    let evidence := Deployment.held [placedReading 1 0 80, placedReading 2 0 40]
    obtain ⟨d, hfind, haggregation, hweight, haggregate⟩ := exists_of_any
      (([.add (weighted 1 3), .update (weighted 2 (-1 / 2))].foldl next (empty {})).find 1)
      (fun d => d.aggregation = .configuredWeightedRule ∧ (∃ m ∈ d.members, m.weight ≤ 0) ∧
        (computeAggregate d (memberEvidence d evidence)).toOption.any fun aggregate =>
          decide (∀ e ∈ memberEvidence d evidence, aggregate.temperature < e.temperature))
      (by decide +kernel)
    obtain ⟨aggregate, haggregate, hbelow⟩ := exists_of_ok _ _ haggregate
    rcases h {} _ evidence 1 d aggregate (keyedEvidence_held _ _) hfind haggregation haggregate with
      hpositive | ⟨e, he, hle⟩
    · obtain ⟨m, hm, hweight⟩ := hweight
      exact absurd (hpositive m hm) (not_lt.mpr hweight)
    · exact absurd (hbelow e he) (not_lt.mpr hle)
  · intro h
    let evidence := Deployment.held [placedReading 1 7 80, placedReading 2 0 40]
    obtain ⟨d, hfind, haggregation, m, hm, hweight⟩ := exists_of_any
      (([.add (weighted 1 3)].foldl next (empty {})).find 1)
      (fun d => d.aggregation = .configuredWeightedRule ∧ ∃ m ∈ d.members,
        (evidence.lookup m.subject.key).any fun e => decide (memberWeight d e ≠ m.weight))
      (by decide +kernel)
    obtain ⟨e, he, hdiffers⟩ := exists_of_any _ _ hweight
    exact hdiffers (h {} _ evidence 1 d (keyedEvidence_held _ _) hfind haggregation m hm e he)

end DomainRegistry

end ThermalGovernor
