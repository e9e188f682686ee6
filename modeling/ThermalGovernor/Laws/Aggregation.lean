import ThermalGovernor.Governed.Reached
import ThermalGovernor.Topology.Aggregation

/-!
# The evidence of a domain and its members

Without evidence of its own a domain rests on the records of its members.  One record is
taken as it is, and several are aggregated by the rule of the domain into a record that
begins as a copy of the first member's.

`ruleHonoured_iff` compares the temperature with that of the rule, which a single record does
not go through.  `coherentWith_iff` compares the authority of an aggregated record with
that of the governing member, field by field: the subject is always the governing member's;
worker, boot, telemetry generation and time are the first member's; and so are the throttle
observation, the clocks and the limit when the aggregate is real.
-/

namespace ThermalGovernor

open Lib

/-! ### The temperature -/

/-- The rule gives the one record its own temperature. -/
def RuleKeeps (definition : ThermalDomainDefinition) (only : ThermalEvidence) : Prop :=
  match definition.aggregation with
  | .hottestMemberGoverns => True
  | .configuredWeightedRule =>
    0 < memberWeight definition only ∧ DegreesCelsius.valid only.temperature = true
  | .nodeSensorGoverns => only.subject.kind = .node
  | .syntheticAggregation =>
    definition.syntheticAggregateOffset.getD 0 = 0 ∧ DegreesCelsius.valid only.temperature = true

theorem ruleTemperature_singleton (definition : ThermalDomainDefinition)
    (only : ThermalEvidence) :
    ruleTemperature definition [only] = some only.temperature ↔ RuleKeeps definition only := by
  unfold ruleTemperature RuleKeeps
  cases definition.aggregation with
  | hottestMemberGoverns => simp
  | configuredWeightedRule =>
    simp only [List.map_cons, List.map_nil, List.sum_cons, List.sum_nil, add_zero]
    constructor
    · intro h
      split at h
      · rename_i hboth
        rw [Option.some.inj h] at hboth
        exact hboth
      · cases h
    · rintro ⟨hweight, hvalid⟩
      have hmean : only.temperature * memberWeight definition only /
          memberWeight definition only = only.temperature :=
        mul_div_cancel_right₀ _ (ne_of_gt hweight)
      rw [hmean, if_pos ⟨hweight, hvalid⟩]
  | nodeSensorGoverns =>
    by_cases hnode : only.subject.kind = .node
    · simp [hnode]
    · simp [hnode]
  | syntheticAggregation =>
    simp only [List.map_cons, List.map_nil, List.max?_singleton, Option.map_some,
      Option.filter_some]
    constructor
    · intro h
      split at h
      · rename_i hvalid
        have hsame := Option.some.inj h
        rw [hsame] at hvalid
        exact ⟨by linarith, hvalid⟩
      · cases h
    · rintro ⟨hoffset, hvalid⟩
      rw [hoffset, add_zero, if_pos hvalid]

section Gather

variable {definition : ThermalDomainDefinition} {evidence : Table String ThermalEvidence}

theorem gatherDomainEvidence_singleton {only : ThermalEvidence}
    (hdirect : evidence.lookup
      (SubjectRef.forDomain definition.id definition.generation).key = none)
    (hmembers : memberEvidence definition evidence = [only]) :
    gatherDomainEvidence definition evidence = some { evidence := only } := by
  unfold gatherDomainEvidence
  rw [hdirect, hmembers]

theorem gatherDomainEvidence_aggregate {first second : ThermalEvidence}
    {rest : List ThermalEvidence}
    (hdirect : evidence.lookup
      (SubjectRef.forDomain definition.id definition.generation).key = none)
    (hmembers : memberEvidence definition evidence = first :: second :: rest) :
    gatherDomainEvidence definition evidence =
      (computeAggregate definition (first :: second :: rest)).toOption.map fun aggregate =>
        { evidence :=
            synthesizeEvidence definition first (first :: second :: rest) aggregate
          synthesized := true
          rule := aggregate.rule } := by
  unfold gatherDomainEvidence
  rw [hdirect, hmembers]
  dsimp only
  cases computeAggregate definition (first :: second :: rest) <;> rfl

theorem temperature_synthesizeEvidence (first : ThermalEvidence)
    (members : List ThermalEvidence) (aggregate : AggregateResult) :
    (synthesizeEvidence definition first members aggregate).temperature =
      aggregate.temperature := by
  unfold synthesizeEvidence
  dsimp only
  split
  · rfl
  · split <;> rfl

/-- **The temperature of a domain is its rule's, unless one record alone is there that the
rule would not leave as it is**; such a record is taken as it is. -/
theorem ruleHonoured_iff (hdirect : evidence.lookup
      (SubjectRef.forDomain definition.id definition.generation).key = none) :
    (∀ only, memberEvidence definition evidence = [only] →
      gatherDomainEvidence definition evidence = some { evidence := only }) ∧
    ((gatherDomainEvidence definition evidence).map (fun d => d.evidence.temperature) =
        ruleTemperature definition (memberEvidence definition evidence) ↔
      ∀ only, memberEvidence definition evidence = [only] → RuleKeeps definition only) := by
  refine ⟨fun only => gatherDomainEvidence_singleton hdirect, ?_⟩
  cases hmembers : memberEvidence definition evidence with
  | nil =>
    refine ⟨fun _ only hone => (by cases hone), fun _ => ?_⟩
    have hnone : gatherDomainEvidence definition evidence = none := by
      unfold gatherDomainEvidence
      rw [hdirect, hmembers]
    rw [hnone, ← temperature_computeAggregate]
    rfl
  | cons first others =>
    cases others with
    | nil =>
      rw [gatherDomainEvidence_singleton hdirect hmembers]
      constructor
      · intro hrule only hone
        obtain rfl := List.head_eq_of_cons_eq hone
        exact (ruleTemperature_singleton definition first).mp hrule.symm
      · intro hkeeps
        exact ((ruleTemperature_singleton definition first).mpr (hkeeps first rfl)).symm
    | cons second rest =>
      refine ⟨fun _ only hone => (by cases hone), fun _ => ?_⟩
      rw [gatherDomainEvidence_aggregate hdirect hmembers, ← temperature_computeAggregate]
      cases computeAggregate definition (first :: second :: rest) with
      | error e => rfl
      | ok aggregate => exact congrArg some (temperature_synthesizeEvidence first _ aggregate)

end Gather

namespace Deployment

/-- A domain of the two devices. -/
def pair (rule : AggregationRule) : ThermalDomainDefinition :=
  { domain with
    members := [{ subject := .forDevice 1 1 }, { subject := .forDevice 2 1 }]
    provenance := .real
    aggregation := rule
    syntheticAggregateOffset := some 5 }

/-- The records, each under the key of its subject. -/
def held (records : List ThermalEvidence) : Table String ThermalEvidence :=
  records.foldl (fun table e => table.insert e.subject.key e) ∅

end Deployment

open Deployment

/-- The hottest of two records governs. -/
theorem ruleHonoured_pair :
    (∀ only, memberEvidence (pair .hottestMemberGoverns)
        (held [reading 40 1 0, secondReading 90 1 0]) = [only] →
      gatherDomainEvidence (pair .hottestMemberGoverns)
        (held [reading 40 1 0, secondReading 90 1 0]) = some { evidence := only }) ∧
    ((gatherDomainEvidence (pair .hottestMemberGoverns)
        (held [reading 40 1 0, secondReading 90 1 0])).map (fun d => d.evidence.temperature) =
      ruleTemperature (pair .hottestMemberGoverns) (memberEvidence (pair .hottestMemberGoverns)
        (held [reading 40 1 0, secondReading 90 1 0])) ↔
      ∀ only, memberEvidence (pair .hottestMemberGoverns)
          (held [reading 40 1 0, secondReading 90 1 0]) = [only] →
        RuleKeeps (pair .hottestMemberGoverns) only) :=
  ruleHonoured_iff (by decide +kernel)

/-- One record alone is taken without the offset of a modelled aggregate, and without a node
sensor where the rule asks for one. -/
theorem not_ruleHonoured :
    ¬ ∀ (definition : ThermalDomainDefinition) (evidence : Table String ThermalEvidence),
      evidence.lookup (SubjectRef.forDomain definition.id definition.generation).key = none →
      memberEvidence definition evidence ≠ [] →
      (gatherDomainEvidence definition evidence).map (fun d => d.evidence.temperature) =
        ruleTemperature definition (memberEvidence definition evidence) := by
  intro h
  have hmodelled := h (pair .syntheticAggregation) (held [reading 40 1 0])
    (by decide +kernel) (by decide +kernel)
  have hdiffers : (gatherDomainEvidence (pair .syntheticAggregation)
      (held [reading 40 1 0])).map (fun d => d.evidence.temperature) ≠
      ruleTemperature (pair .syntheticAggregation)
        (memberEvidence (pair .syntheticAggregation) (held [reading 40 1 0])) := by
    decide +kernel
  exact hdiffers hmodelled

/-! ### The authority -/

/-- Each record is held under the key of its own subject, as in every reachable state. -/
def KeyedEvidence (evidence : Table String ThermalEvidence) : Prop :=
  ∀ key e, evidence.lookup key = some e → e.subject.key = key

theorem keyedEvidence_insert {evidence : Table String ThermalEvidence}
    (h : KeyedEvidence evidence) (e : ThermalEvidence) :
    KeyedEvidence (evidence.insert e.subject.key e) := by
  intro key held hlookup
  rw [Table.lookup_insert_eq_ite] at hlookup
  split at hlookup
  · rename_i hkey
    obtain rfl := Option.some.inj hlookup
    exact hkey.symm
  · exact h key held hlookup

theorem keyedEvidence_of_reachable {g : Governor} (hg : g.Reachable) :
    KeyedEvidence g.evidence := Governor.keyedEvidence_of_reachable hg

/-- The record carries what the governing member's record says of itself. -/
structure CarriesGoverning (record governing : ThermalEvidence) : Prop where
  subject : record.subject = governing.subject
  worker : record.worker = governing.worker
  workerBoot : record.workerBoot = governing.workerBoot
  telemetryGeneration : record.telemetryGeneration = governing.telemetryGeneration
  measuredAt : record.measuredAt = governing.measuredAt
  throttle : record.throttle = governing.throttle
  currentClock : record.currentClock = governing.currentClock
  maxClock : record.maxClock = governing.maxClock
  temperatureLimit : record.temperatureLimit = governing.temperatureLimit

/-- The record is coherent: it carries the governing member's authority, so that it is never
fresh when that member's record is not and never drops its thermal throttle. -/
structure CoherentWith (record governing : ThermalEvidence) : Prop where
  carries : CarriesGoverning record governing
  fresh : ∀ (g : Governor) (policy : ThermalPolicy),
    g.classifyFreshness policy record = .fresh → g.classifyFreshness policy governing = .fresh
  throttled : ∀ observation, governing.throttle = some observation →
    observation.thermalActive = true → record.throttle = some observation

/-- The first member's record says the same as the governing one where it is left standing. -/
structure FirstSpeaksFor (definition : ThermalDomainDefinition) (records : List ThermalEvidence)
    (first governing : ThermalEvidence) : Prop where
  worker : first.worker = governing.worker
  workerBoot : first.workerBoot = governing.workerBoot
  telemetryGeneration : first.telemetryGeneration = governing.telemetryGeneration
  measuredAt : first.measuredAt = governing.measuredAt
  real : measuresReal definition records = true → first.throttle = governing.throttle ∧
    first.currentClock = governing.currentClock ∧ first.maxClock = governing.maxClock ∧
    first.temperatureLimit = governing.temperatureLimit

theorem coherentWith_of_carries {record governing : ThermalEvidence}
    (h : CarriesGoverning record governing) : CoherentWith record governing := by
  refine ⟨h, fun g policy hfresh => ?_, fun observation hthrottle _ => ?_⟩
  · unfold Governor.classifyFreshness at hfresh ⊢
    rwa [← h.subject, ← h.measuredAt]
  · rw [h.throttle, hthrottle]

section Authority

variable {definition : ThermalDomainDefinition} {evidence : Table String ThermalEvidence}

/-- A record of a member is the one held under the key of its subject. -/
theorem lookup_of_memberEvidence (hkeyed : KeyedEvidence evidence) {e : ThermalEvidence}
    (h : e ∈ memberEvidence definition evidence) : evidence.lookup e.subject.key = some e := by
  obtain ⟨m, -, hm⟩ := List.mem_filterMap.mp h
  rw [hkeyed _ _ hm]
  exact hm

/-- The record with the subject of the governing one is the governing one. -/
theorem find_governing (hkeyed : KeyedEvidence evidence) {governing : ThermalEvidence}
    (h : governing ∈ memberEvidence definition evidence) :
    (memberEvidence definition evidence).find? (fun e => e.subject = governing.subject) =
      some governing := by
  cases hfind : (memberEvidence definition evidence).find? fun e =>
      e.subject = governing.subject with
  | none =>
    have hnot := List.find?_eq_none.mp hfind governing h
    simp at hnot
  | some found =>
    have hsubject : found.subject = governing.subject := by
      simpa using List.find?_some hfind
    have hfound := lookup_of_memberEvidence hkeyed (List.mem_of_find?_eq_some hfind)
    have hgoverning := lookup_of_memberEvidence hkeyed h
    rw [hsubject, hgoverning] at hfound
    exact hfound.symm

/-- What the aggregated record carries: the subject of the governing member, and the rest from
the first member, unless the aggregate is not real. -/
theorem synthesizeEvidence_fields (definition : ThermalDomainDefinition)
    (first : ThermalEvidence) {governing : ThermalEvidence}
    {members : List ThermalEvidence} {aggregate : AggregateResult}
    (hfind : members.find? (fun e => e.subject = aggregate.governingMember) = some governing) :
    let record := synthesizeEvidence definition first members aggregate
    let rest := if aggregate.provenance = .real then first else governing
    record.subject = governing.subject ∧ record.worker = first.worker ∧
      record.workerBoot = first.workerBoot ∧
      record.telemetryGeneration = first.telemetryGeneration ∧
      record.measuredAt = first.measuredAt ∧ record.throttle = rest.throttle ∧
      record.currentClock = rest.currentClock ∧ record.maxClock = rest.maxClock ∧
      record.temperatureLimit = rest.temperatureLimit := by
  unfold synthesizeEvidence
  rw [hfind]
  dsimp only
  by_cases hreal : aggregate.provenance = .real
  · rw [if_pos hreal, if_pos hreal]
    exact ⟨rfl, rfl, rfl, rfl, rfl, rfl, rfl, rfl, rfl⟩
  · rw [if_neg hreal, if_neg hreal]
    exact ⟨rfl, rfl, rfl, rfl, rfl, rfl, rfl, rfl, rfl⟩

/-- **An aggregated record is coherent when the first member speaks for the governing one.** -/
theorem coherentWith_iff (hkeyed : KeyedEvidence evidence)
    (hdirect : evidence.lookup
      (SubjectRef.forDomain definition.id definition.generation).key = none)
    {first second : ThermalEvidence} {rest : List ThermalEvidence}
    (hmembers : memberEvidence definition evidence = first :: second :: rest)
    {aggregate : AggregateResult}
    (haggregate : computeAggregate definition (first :: second :: rest) = .ok aggregate) :
    ∃ gathered governing, gatherDomainEvidence definition evidence = some gathered ∧
      governingRecord definition (first :: second :: rest) = some governing ∧
      (CoherentWith gathered.evidence governing ↔
        FirstSpeaksFor definition (first :: second :: rest) first governing) := by
  obtain ⟨governing, hof⟩ := computeAggregate_eq_ok haggregate
  have hmem : governing ∈ memberEvidence definition evidence := by
    rw [hmembers]
    exact governingRecord_mem hof.governs
  have hfind : (first :: second :: rest).find?
      (fun e => e.subject = aggregate.governingMember) = some governing := by
    rw [hof.member, ← hmembers]
    exact find_governing hkeyed hmem
  have hgather := gatherDomainEvidence_aggregate hdirect hmembers
  rw [haggregate] at hgather
  refine ⟨_, governing, hgather, hof.governs, ?_⟩
  obtain ⟨hsubject, hworker, hboot, htelemetry, hmeasured, hthrottle, hcurrent, hmaximum,
    hlimit⟩ := synthesizeEvidence_fields definition first hfind
  constructor
  · intro hcoherent
    have hcarries := hcoherent.carries
    refine ⟨hworker.symm.trans hcarries.worker, hboot.symm.trans hcarries.workerBoot,
      htelemetry.symm.trans hcarries.telemetryGeneration,
      hmeasured.symm.trans hcarries.measuredAt, fun hreal => ?_⟩
    rw [if_pos (hof.real.mpr hreal)] at hthrottle hcurrent hmaximum hlimit
    exact ⟨hthrottle.symm.trans hcarries.throttle, hcurrent.symm.trans hcarries.currentClock,
      hmaximum.symm.trans hcarries.maxClock, hlimit.symm.trans hcarries.temperatureLimit⟩
  · intro hfirst
    apply coherentWith_of_carries
    by_cases hreal : aggregate.provenance = .real
    · rw [if_pos hreal] at hthrottle hcurrent hmaximum hlimit
      obtain ⟨hthrottle', hcurrent', hmaximum', hlimit'⟩ := hfirst.real (hof.real.mp hreal)
      exact ⟨hsubject, hworker.trans hfirst.worker, hboot.trans hfirst.workerBoot,
        htelemetry.trans hfirst.telemetryGeneration, hmeasured.trans hfirst.measuredAt,
        hthrottle.trans hthrottle', hcurrent.trans hcurrent', hmaximum.trans hmaximum',
        hlimit.trans hlimit'⟩
    · rw [if_neg hreal] at hthrottle hcurrent hmaximum hlimit
      exact ⟨hsubject, hworker.trans hfirst.worker, hboot.trans hfirst.workerBoot,
        htelemetry.trans hfirst.telemetryGeneration, hmeasured.trans hfirst.measuredAt,
        hthrottle, hcurrent, hmaximum, hlimit⟩

end Authority

namespace Deployment

/-- A real reading of the first device, by its worker. -/
def realReading (temperature : DegreesCelsius) (time : SteadyTimePoint) : ThermalEvidence :=
  { readingBy 1 1 temperature 1 time with source := .nvmlGpuTemperature, provenance := .real }

/-- A real reading of the second device, by its worker, under a thermal throttle. -/
def throttledReading (temperature : DegreesCelsius) (time : SteadyTimePoint) :
    ThermalEvidence :=
  { readingBy 2 1 temperature 1 time with
    subject := .forDevice 2 1
    source := .nvmlGpuTemperature
    provenance := .real
    throttle := some { classification := .thermalThrottleObserved } }

end Deployment

theorem keyedEvidence_empty : KeyedEvidence ∅ := by
  intro key e hlookup
  cases hlookup

theorem keyedEvidence_held (first second : ThermalEvidence) :
    KeyedEvidence (held [first, second]) :=
  keyedEvidence_insert (keyedEvidence_insert keyedEvidence_empty first) second

/-- The first device is the hotter one. -/
theorem coherentWith_pair :
    ∃ gathered governing,
      gatherDomainEvidence (pair .hottestMemberGoverns)
        (held [realReading 90 0, throttledReading 40 0]) = some gathered ∧
      governingRecord (pair .hottestMemberGoverns) [realReading 90 0, throttledReading 40 0] =
        some governing ∧
      (CoherentWith gathered.evidence governing ↔
        FirstSpeaksFor (pair .hottestMemberGoverns)
          [realReading 90 0, throttledReading 40 0] (realReading 90 0) governing) := by
  obtain ⟨aggregate, haggregate, -⟩ := exists_of_ok
    (computeAggregate (pair .hottestMemberGoverns) [realReading 90 0, throttledReading 40 0])
    (fun aggregate => aggregate.temperature = 90) (by decide +kernel)
  exact coherentWith_iff (keyedEvidence_held _ _) (by decide +kernel) rfl haggregate

/-- The second device is the hotter one, its reading is a minute old and it throttles: the
record of the domain is fresh and without a throttle. -/
theorem not_coherentWith_pair :
    memberEvidence (pair .hottestMemberGoverns)
        (held [realReading 40 60000000000, throttledReading 90 0]) =
      [realReading 40 60000000000, throttledReading 90 0] ∧
    ∃ gathered governing,
      gatherDomainEvidence (pair .hottestMemberGoverns)
        (held [realReading 40 60000000000, throttledReading 90 0]) = some gathered ∧
      governingRecord (pair .hottestMemberGoverns)
        [realReading 40 60000000000, throttledReading 90 0] = some governing ∧
      gathered.evidence.throttle = none ∧ governing.throttle.isSome = true ∧
      (Governor.create config 60000000000).classifyFreshness .makeDefault gathered.evidence =
        .fresh ∧
      (Governor.create config 60000000000).classifyFreshness .makeDefault governing = .stale ∧
      ¬ CoherentWith gathered.evidence governing := by
  obtain ⟨gathered, hgathered, hrecord⟩ := exists_of_any
    (gatherDomainEvidence (pair .hottestMemberGoverns)
      (held [realReading 40 60000000000, throttledReading 90 0]))
    (fun d => d.evidence.throttle = none ∧
      (Governor.create config 60000000000).classifyFreshness .makeDefault d.evidence = .fresh)
    (by decide +kernel)
  obtain ⟨governing, hgoverning, hmember⟩ := exists_of_any
    (governingRecord (pair .hottestMemberGoverns)
      [realReading 40 60000000000, throttledReading 90 0])
    (fun e => e.throttle.isSome = true ∧
      (Governor.create config 60000000000).classifyFreshness .makeDefault e = .stale)
    (by decide +kernel)
  refine ⟨rfl, gathered, governing, hgathered, hgoverning, hrecord.1, hmember.1, hrecord.2,
    hmember.2, fun hcoherent => ?_⟩
  have hstale := hcoherent.fresh _ _ hrecord.2
  rw [hmember.2] at hstale
  cases hstale

end ThermalGovernor
