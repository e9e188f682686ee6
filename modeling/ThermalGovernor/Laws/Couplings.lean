import ThermalGovernor.Ledger.Run
import ThermalGovernor.Topology.Reachability

/-!
# What the attributes of a coupling mean

An edge may be undirected, and it may be valid for a time only.  `effective` is the graph that
such edges stand for at a time: without the expired ones, and with the undirected ones in both
directions (`heats_effective_iff`).

The evaluator walks the graph as it is stored.  It looks at an edge to see which domains it
joins, and at the first edge between two domains for the kind of coupling and for synthetic
provenance (`seen`).  So its input is the one of the effective graph if between any two
domains there is the same to be seen, and a state with one evaluated neighbour shows every
difference (`honoursAttributes_iff`).
-/

namespace ThermalGovernor

open Lib

namespace CouplingRelation

/-- The edge is past its validity. -/
def expired (now : SteadyTimePoint) (edge : CouplingRelation) : Bool :=
  edge.validUntil.any fun time => decide (time < now)

/-- The edge in the other direction. -/
def reversed (edge : CouplingRelation) : CouplingRelation :=
  { edge with source := edge.destination, destination := edge.source }

/-- The edge in the directions that it carries pressure. -/
def directions (edge : CouplingRelation) : List CouplingRelation :=
  if edge.directed then [edge] else [edge, edge.reversed]

end CouplingRelation

namespace CouplingGraph

variable {c c' : CouplingGraph} {now : SteadyTimePoint} {a b : ThermalDomainId}

/-! ### The effective graph -/

/-- The graph with its undirected edges doubled and its expired edges removed. -/
def effective (now : SteadyTimePoint) (c : CouplingGraph) : CouplingGraph :=
  ((c.filter fun edge => ! edge.expired now).flatMap CouplingRelation.directions).insertionSort
    fun a b => ! b.before a

/-- **In the effective graph an edge that is valid heats its destination, and its source as well
if it is undirected.** -/
theorem heats_effective_iff : (c.effective now).Heats a b ↔
    ∃ edge ∈ c, edge.expired now = false ∧
      ((edge.source = a ∧ edge.destination = b) ∨
        (edge.directed = false ∧ edge.source = b ∧ edge.destination = a)) := by
  unfold Heats Joins effective
  simp only [List.mem_insertionSort, List.mem_flatMap, List.mem_filter, Bool.not_eq_true']
  constructor
  · rintro ⟨e, ⟨edge, ⟨hedge, hvalid⟩, he⟩, hsource, hdestination⟩
    refine ⟨edge, hedge, hvalid, ?_⟩
    unfold CouplingRelation.directions at he
    cases hdirected : edge.directed with
    | true =>
      rw [hdirected, if_pos rfl, List.mem_singleton] at he
      exact .inl (he ▸ ⟨hsource, hdestination⟩)
    | false =>
      rw [hdirected, if_neg Bool.false_ne_true, List.mem_cons, List.mem_singleton] at he
      rcases he with rfl | rfl
      · exact .inl ⟨hsource, hdestination⟩
      · exact .inr ⟨rfl, hdestination, hsource⟩
  · rintro ⟨edge, hedge, hvalid, ⟨hsource, hdestination⟩ | ⟨hundirected, hsource, hdestination⟩⟩
    · refine ⟨edge, ⟨edge, ⟨hedge, hvalid⟩, ?_⟩, hsource, hdestination⟩
      unfold CouplingRelation.directions
      split
      · exact List.mem_singleton_self _
      · exact List.mem_cons_self
    · refine ⟨edge.reversed, ⟨edge, ⟨hedge, hvalid⟩, ?_⟩, hdestination, hsource⟩
      rw [CouplingRelation.directions, hundirected, if_neg Bool.false_ne_true]
      exact List.mem_cons_of_mem _ (List.mem_singleton_self _)

/-- A graph whose edges are all directed and valid stands for itself. -/
theorem effective_of_plain (hcanonical : c.Canonical)
    (hplain : ∀ edge ∈ c, edge.directed = true ∧ edge.expired now = false) :
    c.effective now = c := by
  have hvalid : (c.filter fun edge => ! edge.expired now) = c :=
    List.filter_eq_self.mpr fun edge hedge => by rw [(hplain edge hedge).2]; rfl
  have hdirected : c.flatMap CouplingRelation.directions = c.flatMap fun edge => [edge] :=
    List.flatMap_congr fun edge hedge => by
      rw [CouplingRelation.directions, (hplain edge hedge).1, if_pos rfl]
  rw [effective, hvalid, hdirected, List.flatMap_singleton']
  exact hcanonical.sorted.insertionSort_eq

/-! ### What the evaluator sees -/

/-- The kind of the first edge from one domain to another, and whether it is synthetic. -/
def seen (c : CouplingGraph) (a b : ThermalDomainId) : Option (CouplingType × Bool) :=
  (c.find? fun edge => edge.source = a && edge.destination = b).map fun edge =>
    (edge.type, decide (edge.provenance = .synthetic))

theorem heats_iff_seen : c.Heats a b ↔ (c.seen a b).isSome = true := by
  unfold Heats Joins seen
  rw [Option.isSome_map, List.find?_isSome]
  simp only [Bool.and_eq_true, decide_eq_true_eq]

/-- Two graphs look the same between different domains. -/
def LooksLike (c c' : CouplingGraph) : Prop := ∀ a b, a ≠ b → c'.seen a b = c.seen a b

theorem LooksLike.incomingReachable (h : c.LooksLike c') :
    c'.incomingReachable = c.incomingReachable := by
  funext origin maxDepth
  refine reachable_congr_of_ne fun a b hne => ?_
  rw [joins_swap c', joins_swap c]
  show c'.Heats b a ↔ c.Heats b a
  rw [heats_iff_seen, heats_iff_seen, h b a (Ne.symm hne)]

end CouplingGraph

namespace Governor

variable {g : Governor} {definition : ThermalDomainDefinition} {policy : ThermalPolicy}
variable {c : CouplingGraph}

/-- The pressure of a neighbour takes from the graph what is seen of it. -/
theorem pressureFrom_of_seen {neighbour : ThermalDomainId × Nat}
    (h : c.seen neighbour.1 definition.id = g.couplings.seen neighbour.1 definition.id) :
    pressureFrom { g with couplings := c } definition neighbour =
      g.pressureFrom definition neighbour := by
  unfold pressureFrom
  unfold CouplingGraph.seen at h
  dsimp only
  generalize c.find? _ = edge at h ⊢
  generalize g.couplings.find? _ = edge' at h ⊢
  have hsame : edge.map CouplingRelation.type = edge'.map CouplingRelation.type ∧
      (edge.any fun edge => edge.provenance = .synthetic) =
        edge'.any fun edge => edge.provenance = .synthetic := by
    cases edge with
    | none =>
      cases edge' with
      | none => exact ⟨rfl, rfl⟩
      | some edge' => cases h
    | some edge =>
      cases edge' with
      | none => cases h
      | some edge' =>
        obtain ⟨htype, hsynthetic⟩ := Prod.mk.inj (Option.some.inj h)
        exact ⟨congrArg some htype, hsynthetic⟩
  rw [hsame.1, hsame.2]

theorem coupledPressure_of_looksLike (h : g.couplings.LooksLike c) :
    coupledPressure { g with couplings := c } definition policy =
      g.coupledPressure definition policy := by
  unfold coupledPressure
  rw [show ({ g with couplings := c } : Governor).couplings = c from rfl, h.incomingReachable]
  refine List.filterMap_congr fun neighbour hmem => pressureFrom_of_seen (h _ _ ?_)
  exact CouplingGraph.origin_not_reachable _ _ _ _ _ _ hmem

/-- The state of a neighbour that heats the domain is under the pressure. -/
theorem exists_pressure_of_heats {a : ThermalDomainId} {other : ThermalDomainDefinition}
    {e : ThermalEvaluation} (hheats : g.couplings.Heats a definition.id) (hne : a ≠ definition.id)
    (hdepth : 1 ≤ policy.coupling.maxPropagationDepth) (hfind : g.domains.find a = some other)
    (hevaluated : g.evaluations.lookup a = some e) :
    ∃ p ∈ g.coupledPressure definition policy, p.domain = a ∧ p.state = e.state := by
  have hdistance := (distance_one_iff (Ne.symm hne)).mpr hheats
  have hmem : (a, 1) ∈ g.couplings.incomingReachable definition.id
      policy.coupling.maxPropagationDepth := by
    rw [CouplingGraph.incomingReachable, CouplingGraph.mem_reachable_iff,
      CouplingGraph.joins_swap, distance_swap_iff]
    exact ⟨hne, hdistance, le_rfl, hdepth⟩
  have hpressure : ∃ p, g.pressureFrom definition (a, 1) = some p ∧ p.domain = a ∧
      p.state = e.state := by
    rw [pressureFrom, hfind, hevaluated]
    exact ⟨_, rfl, rfl, rfl⟩
  obtain ⟨p, hp, hdomain, hstate⟩ := hpressure
  exact ⟨p, List.mem_filterMap.mpr ⟨_, hmem, hp⟩, hdomain, hstate⟩

/-- On this graph at this time, every evaluation has the input that it has on the effective
graph. -/
def HonoursAttributes (c : CouplingGraph) (now : SteadyTimePoint) : Prop :=
  ∀ g : Governor, g.couplings = c → g.now = now → ∀ definition policy gathered,
    g.evaluationInput definition policy gathered =
      evaluationInput { g with couplings := c.effective now } definition policy gathered

/-- Where they are honoured, a valid undirected edge shows each of its ends the other. -/
theorem HonoursAttributes.both_ends {a : ThermalDomainId} {edge : CouplingRelation}
    {other : ThermalDomainDefinition} {e : ThermalEvaluation}
    (h : HonoursAttributes g.couplings g.now) (hedge : edge ∈ g.couplings)
    (hvalid : edge.expired g.now = false) (hundirected : edge.directed = false)
    (hends : (edge.source = a ∧ edge.destination = definition.id) ∨
      (edge.source = definition.id ∧ edge.destination = a))
    (hne : a ≠ definition.id) (hdepth : 1 ≤ policy.coupling.maxPropagationDepth)
    (hfind : g.domains.find a = some other) (hevaluated : g.evaluations.lookup a = some e) :
    ∃ p ∈ g.coupledPressure definition policy, p.domain = a ∧ p.state = e.state := by
  have hheats : (g.couplings.effective g.now).Heats a definition.id :=
    CouplingGraph.heats_effective_iff.mpr
      ⟨edge, hedge, hvalid, hends.imp_right fun hends => ⟨hundirected, hends⟩⟩
  have hpressure : g.coupledPressure definition policy =
      coupledPressure { g with couplings := g.couplings.effective g.now } definition policy :=
    congrArg EvaluationInput.coupled (h g rfl rfl definition policy none)
  rw [hpressure]
  exact exists_pressure_of_heats hheats hne hdepth hfind hevaluated

/-! ### A state that shows the difference -/

/-- A state in which one domain is registered and evaluated. -/
def observed (c : CouplingGraph) (now : SteadyTimePoint) (a : ThermalDomainId) : Governor :=
  { config := Deployment.config
    now := now
    couplings := c
    domains := { definitions := (∅ : Table ThermalDomainId ThermalDomainDefinition).insert a {} }
    evaluations := (∅ : Table ThermalDomainId ThermalEvaluation).insert a {} }

/-- The policy that looks at the nearest neighbours. -/
def nearest : ThermalPolicy :=
  { PolicyOver.makeDefault with coupling := { maxPropagationDepth := 1 } }

/-- The pressure of the one neighbour, from what is seen of it. -/
def pressureOf (a : ThermalDomainId) (seen : CouplingType × Bool) : CoupledPressure where
  domain := a
  state := ThermalState.unknown
  temperature := ({} : ThermalEvaluation).headroom.currentTemperature
  coupling := seen.1
  propagation := .coupledDomain
  provenance := if seen.2 then .synthetic else .unknown
  depth := 1
  recoveryEligible := ({} : ThermalEvaluation).recovery.allowed

theorem pressureOf_inj {a : ThermalDomainId} {s s' : CouplingType × Bool}
    (h : pressureOf a s = pressureOf a s') : s = s' := by
  obtain ⟨kind, synthetic⟩ := s
  obtain ⟨kind', synthetic'⟩ := s'
  have hkind : kind = kind' := congrArg CoupledPressure.coupling h
  have hprovenance := congrArg CoupledPressure.provenance h
  rw [hkind]
  cases synthetic <;> cases synthetic'
  · rfl
  · cases (hprovenance : Provenance.unknown = Provenance.synthetic)
  · cases (hprovenance : Provenance.synthetic = Provenance.unknown)
  · rfl

variable {now : SteadyTimePoint} {a b : ThermalDomainId} {p : CoupledPressure}

theorem pressureFrom_observed {s : CouplingType × Bool} (h : c.seen a definition.id = some s) :
    (observed c now a).pressureFrom definition (a, 1) = some (pressureOf a s) := by
  have hfind : (observed c now a).domains.find a = some {} := AList.lookup_insert _
  have hevaluated : (observed c now a).evaluations.lookup a = some {} := AList.lookup_insert _
  obtain ⟨edge, hedge, rfl⟩ := Option.map_eq_some_iff.mp h
  rw [pressureFrom, hfind, hevaluated]
  dsimp only
  rw [show (observed c now a).couplings = c from rfl, hedge]
  unfold pressureOf
  by_cases hsynthetic : edge.provenance = .synthetic
  · simp [hsynthetic, propagationAt]
  · simp [hsynthetic, propagationAt]

theorem pressureFrom_observed_ne {neighbour : ThermalDomainId × Nat} (h : neighbour.1 ≠ a) :
    (observed c now a).pressureFrom definition neighbour = none := by
  have hfind : (observed c now a).domains.find neighbour.1 = none := AList.lookup_insert_ne h
  rw [pressureFrom, hfind]

/-- The pressure in such a state is what is seen of the one neighbour. -/
theorem mem_coupledPressure_observed (hne : a ≠ b) :
    p ∈ (observed c now a).coupledPressure { id := b } nearest ↔
      ∃ s, c.seen a b = some s ∧ p = pressureOf a s := by
  have hreach : ∀ n, (a, n) ∈ c.incomingReachable b 1 ↔ n = 1 ∧ c.Heats a b := by
    intro n
    rw [CouplingGraph.incomingReachable, CouplingGraph.mem_reachable_iff,
      CouplingGraph.joins_swap, distance_swap_iff]
    constructor
    · rintro ⟨-, hdistance, hone, hbound⟩
      obtain rfl : n = 1 := Nat.le_antisymm hbound hone
      exact ⟨rfl, (distance_one_iff (Ne.symm hne)).mp hdistance⟩
    · rintro ⟨rfl, hheats⟩
      exact ⟨hne, (distance_one_iff (Ne.symm hne)).mpr hheats, le_rfl, le_rfl⟩
  unfold coupledPressure
  rw [List.mem_filterMap]
  constructor
  · rintro ⟨⟨d, n⟩, hmem, hpressure⟩
    by_cases hd : d = a
    · subst hd
      obtain ⟨rfl, hheats⟩ := (hreach n).mp hmem
      obtain ⟨s, hs⟩ := Option.isSome_iff_exists.mp (CouplingGraph.heats_iff_seen.mp hheats)
      rw [pressureFrom_observed hs] at hpressure
      exact ⟨s, hs, (Option.some.inj hpressure).symm⟩
    · rw [pressureFrom_observed_ne hd] at hpressure
      cases hpressure
  · rintro ⟨s, hs, rfl⟩
    have hheats := CouplingGraph.heats_iff_seen.mpr (Option.isSome_iff_exists.mpr ⟨s, hs⟩)
    exact ⟨(a, 1), (hreach 1).mpr ⟨rfl, hheats⟩, pressureFrom_observed hs⟩

theorem pressureOf_mem_iff {s : CouplingType × Bool} (hne : a ≠ b) (now : SteadyTimePoint) :
    pressureOf a s ∈ (observed c now a).coupledPressure { id := b } nearest ↔
      c.seen a b = some s := by
  rw [mem_coupledPressure_observed hne]
  constructor
  · rintro ⟨s', hs', heq⟩
    rw [hs', pressureOf_inj heq]
  · exact fun hs => ⟨s, hs, rfl⟩

theorem looksLike_of_honoursAttributes {c : CouplingGraph} {now : SteadyTimePoint}
    (h : HonoursAttributes c now) : c.LooksLike (c.effective now) := by
  intro a b hne
  have hpressure : (observed c now a).coupledPressure { id := b } nearest =
      (observed (c.effective now) now a).coupledPressure { id := b } nearest :=
    congrArg EvaluationInput.coupled (h (observed c now a) rfl rfl { id := b } nearest none)
  refine Option.ext fun s => ?_
  rw [← pressureOf_mem_iff hne now, ← hpressure, pressureOf_mem_iff hne now]

/-- **The attributes of the couplings are honoured exactly when between any two domains the graph
looks like the effective one.** -/
theorem honoursAttributes_iff (c : CouplingGraph) (now : SteadyTimePoint) :
    HonoursAttributes c now ↔ c.LooksLike (c.effective now) := by
  refine ⟨looksLike_of_honoursAttributes, ?_⟩
  rintro h g rfl rfl definition policy gathered
  unfold evaluationInput
  rw [coupledPressure_of_looksLike h]
  rfl

section Deployment

open Deployment

/-- The deployment with two domains and a coupling between them, the second domain too hot. -/
def coupledPair (edge : CouplingRelation) : Governor :=
  after [.registerDevice secondDevice, .registerThermalDomain secondDomain,
    .registerCoupling edge, .publishTemperature (secondReading 95 1 0)]

/-- **Neither attribute is honoured**: the source of an undirected edge does not see its
destination, and an edge that is past its validity still heats. -/
theorem not_honoursAttributes :
    (¬ ∀ g : Governor, g.Reachable → (∀ edge ∈ g.couplings, edge.validUntil = none) →
      HonoursAttributes g.couplings g.now) ∧
    ¬ ∀ g : Governor, g.Reachable → (∀ edge ∈ g.couplings, edge.directed = true) →
      HonoursAttributes g.couplings g.now := by
  constructor
  · intro h
    have hlooks := looksLike_of_honoursAttributes
      (h (coupledPair { coupling 1 1 2 with directed := false }) (reachable_after _)
        (by decide +kernel)) 2 1 (by decide)
    exact absurd hlooks (by decide +kernel)
  · intro h
    have hlooks := looksLike_of_honoursAttributes
      (h (coupledPair { coupling 1 1 2 with validUntil := some (-1) }) (reachable_after _)
        (by decide +kernel)) 1 2 (by decide)
    exact absurd hlooks (by decide +kernel)

end Deployment

end Governor

end ThermalGovernor
