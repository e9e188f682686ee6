import Mathlib.Data.List.Dedup
import Mathlib.Data.List.Sort
import ThermalGovernor.Lib.DepthFirst
import ThermalGovernor.Topology.Reachability

/-!
# Cycle detection

The search is iterative.  Its stack holds the path that it follows, each domain with the number
of its edges that it has taken, so the edges still to take are the ones from that index on.
With them in the place of the index the stack is that of a search in three colours
(`Lib.Exploring`), and each step of `explore` is one of the steps of that search.

A start is explored to the end with fuel for each edge of each domain (`explore_spec`), after
which every domain found is black.
-/

namespace ThermalGovernor

open Lib Relation

namespace CouplingGraph

/-- The destinations of the edges out of each domain. -/
def adjacency (g : CouplingGraph) : Table ThermalDomainId (List ThermalDomainId) :=
  g.foldl (fun adjacency edge => adjacency.insert edge.source
    ((adjacency.lookup edge.source).getD [] ++ [edge.destination])) ∅

/-- The domains at the ends of the edges, in order. -/
def nodes (g : CouplingGraph) : List ThermalDomainId :=
  (g.flatMap fun edge => [edge.source, edge.destination]).dedup.insertionSort (· ≤ ·)

abbrev Marks : Type := Table ThermalDomainId Mark

/-- The mark of a domain; a domain without one is given the first of the enumeration. -/
def markOf (marks : Marks) (node : ThermalDomainId) : Mark := (marks.lookup node).getD .white

/-- What became of a path. -/
inductive Exploration
  | cycle
  | explored (marks : Marks)
  | unfinished

/-- Follow a path depth-first until its stack is empty or it meets itself. -/
def explore (adjacency : Table ThermalDomainId (List ThermalDomainId)) :
    Nat → Marks → List (ThermalDomainId × Nat) → Exploration
  | 0, _, _ => .unfinished
  | _ + 1, marks, [] => .explored marks
  | fuel + 1, marks, (node, index) :: below =>
    match (adjacency.lookup node).bind fun destinations => destinations[index]? with
    | none => explore adjacency fuel (marks.insert node .black) below
    | some next =>
      match markOf marks next with
      | .grey => .cycle
      | .white =>
        explore adjacency fuel (marks.insert next .grey) ((next, 0) :: (node, index + 1) :: below)
      | .black => explore adjacency fuel marks ((node, index + 1) :: below)

/-- Explore from each start that is still white; `none` when the fuel does not do. -/
def exploreAll (adjacency : Table ThermalDomainId (List ThermalDomainId)) (fuel : Nat) :
    List ThermalDomainId → Marks → Option Bool
  | [], _ => some false
  | start :: rest, marks =>
    if markOf marks start ≠ .white then exploreAll adjacency fuel rest marks
    else
      match explore adjacency fuel (marks.insert start .grey) [(start, 0)] with
      | .cycle => some true
      | .explored marks => exploreAll adjacency fuel rest marks
      | .unfinished => none

/-- True when the graph contains a cycle. -/
def hasCycle (g : CouplingGraph) (fuel : Nat) : Option Bool :=
  exploreAll g.adjacency fuel g.nodes
    (g.nodes.foldl (fun marks node => marks.insert node .white) ∅)

variable {g : CouplingGraph}

/-! ### The edges of a domain -/

/-- The destinations of the edges out of a domain. -/
def successors (g : CouplingGraph) (node : ThermalDomainId) : List ThermalDomainId :=
  (g.adjacency.lookup node).getD []

theorem successors_eq (g : CouplingGraph) (node : ThermalDomainId) :
    g.successors node =
      (g.filter fun edge => edge.source = node).map CouplingRelation.destination := by
  have hfold : ∀ (edges : List CouplingRelation)
      (adjacency : Table ThermalDomainId (List ThermalDomainId)),
      ((edges.foldl (fun adjacency edge => adjacency.insert edge.source
        ((adjacency.lookup edge.source).getD [] ++ [edge.destination])) adjacency).lookup
          node).getD [] =
      (adjacency.lookup node).getD [] ++
        (edges.filter fun edge => edge.source = node).map CouplingRelation.destination := by
    intro edges
    induction edges with
    | nil =>
      intro adjacency
      rw [List.foldl_nil, List.filter_nil, List.map_nil, List.append_nil]
    | cons edge rest ih =>
      intro adjacency
      rw [List.foldl_cons, ih, Table.lookup_insert_eq_ite]
      by_cases hsource : edge.source = node
      · rw [if_pos hsource.symm, List.filter_cons_of_pos (by simpa using hsource), List.map_cons,
          hsource, Option.getD_some, List.append_assoc, List.singleton_append]
      · rw [if_neg (Ne.symm hsource), List.filter_cons_of_neg (by simpa using hsource)]
  exact hfold g ∅

theorem succeeds_iff {a b : ThermalDomainId} :
    Succeeds g.successors a b ↔ g.Heats a b := by
  unfold Succeeds
  rw [successors_eq, List.mem_map]
  constructor
  · rintro ⟨edge, hedge, rfl⟩
    obtain ⟨hmem, hsource⟩ := List.mem_filter.mp hedge
    exact ⟨edge, hmem, of_decide_eq_true hsource, rfl⟩
  · rintro ⟨edge, hmem, hsource, hdestination⟩
    exact ⟨edge, List.mem_filter.mpr ⟨hmem, decide_eq_true hsource⟩, hdestination⟩

theorem length_successors_le (node : ThermalDomainId) : (g.successors node).length ≤ g.length := by
  rw [successors_eq, List.length_map]
  exact List.length_filter_le _ _

theorem mem_nodes {node : ThermalDomainId} :
    node ∈ g.nodes ↔ ∃ edge ∈ g, node = edge.source ∨ node = edge.destination := by
  simp [nodes, List.mem_insertionSort, List.mem_dedup, List.mem_flatMap]

/-! ### One path -/

/-- The stack with the edges still to take in the place of the index of the next. -/
def frames (g : CouplingGraph) (stack : List (ThermalDomainId × Nat)) :
    List (ThermalDomainId × List ThermalDomainId) :=
  stack.map fun frame => (frame.1, (g.successors frame.1).drop frame.2)

theorem markOf_insert (marks : Marks) (node : ThermalDomainId) (mark : Mark) :
    markOf (marks.insert node mark) = Exploring.set (markOf marks) node mark := by
  funext v
  unfold markOf Exploring.set
  rw [Table.lookup_insert_eq_ite]
  split
  · rfl
  · rfl

theorem lookup_bind_getElem? (node : ThermalDomainId) (index : Nat) :
    ((g.adjacency.lookup node).bind fun destinations => destinations[index]?) =
      (g.successors node)[index]? := by
  unfold successors
  cases g.adjacency.lookup node with
  | none => rfl
  | some destinations => rfl

theorem frames_of_none {node : ThermalDomainId} {index : Nat}
    (h : (g.successors node)[index]? = none) (below : List (ThermalDomainId × Nat)) :
    g.frames ((node, index) :: below) = (node, []) :: g.frames below := by
  rw [frames, List.map_cons, List.drop_eq_nil_of_le (List.getElem?_eq_none_iff.mp h)]
  rfl

theorem frames_of_some {node next : ThermalDomainId} {index : Nat}
    (h : (g.successors node)[index]? = some next) (below : List (ThermalDomainId × Nat)) :
    g.frames ((node, index) :: below) =
      (node, next :: (g.successors node).drop (index + 1)) :: g.frames below := by
  obtain ⟨hlt, rfl⟩ := List.getElem?_eq_some_iff.mp h
  rw [frames, List.map_cons, List.drop_eq_getElem_cons hlt]
  rfl

/-- What the exploration of a path comes to. -/
def Explores (g : CouplingGraph) (marks : Marks) : Exploration → Prop
  | .cycle => ∃ a, TransGen g.Heats a a
  | .explored marks' => Exploring g.successors (markOf marks') [] ∧
      ∀ v, markOf marks v ≠ .white → markOf marks' v ≠ .white
  | .unfinished => False

/-- Marks are never taken back. -/
theorem Explores.mono {marks marks' : Marks} {result : Exploration}
    (h : g.Explores marks' result)
    (hmarks : ∀ v, markOf marks v ≠ .white → markOf marks' v ≠ .white) :
    g.Explores marks result := by
  cases result with
  | cycle => exact h
  | explored final => exact ⟨h.1, fun v hv => h.2 v (hmarks v hv)⟩
  | unfinished => exact h

theorem markOf_insert_ne_white {marks : Marks} {node : ThermalDomainId} {mark : Mark}
    (hmark : mark ≠ .white) (v : ThermalDomainId) (hv : markOf marks v ≠ .white) :
    markOf (marks.insert node mark) v ≠ .white := by
  rw [markOf_insert, Exploring.set]
  split
  · exact hmark
  · exact hv

theorem succeeds_eq : Succeeds g.successors = g.Heats := by
  funext a b
  exact propext succeeds_iff

/-- **With fuel for what is pending a path is followed to its end**, which is a cycle or a path
that is black all along. -/
theorem explore_spec (fuel : Nat) : ∀ (marks : Marks) (stack : List (ThermalDomainId × Nat)),
    Exploring g.successors (markOf marks) (g.frames stack) →
    Exploring.pending g.nodes.toFinset g.successors (markOf marks) (g.frames stack) < fuel →
    g.Explores marks (explore g.adjacency fuel marks stack) := by
  induction fuel with
  | zero => exact fun _ _ _ hfuel => absurd hfuel (Nat.not_lt_zero _)
  | succ fuel ih =>
    intro marks stack h hfuel
    cases stack with
    | nil => exact ⟨h, fun _ hv => hv⟩
    | cons frame below =>
      obtain ⟨node, index⟩ := frame
      rw [explore, lookup_bind_getElem?]
      cases hnext : (g.successors node)[index]? with
      | none =>
        rw [frames_of_none hnext] at h hfuel
        have hpending := Exploring.pending_finish g.nodes.toFinset h
        rw [← markOf_insert] at hpending
        exact (ih _ _ (markOf_insert marks node .black ▸ h.finish) (by omega)).mono
          (markOf_insert_ne_white (by decide))
      | some next =>
        rw [frames_of_some hnext] at h hfuel
        have hheats : g.Heats node next := by
          rw [← succeeds_iff]
          exact h.frames.1 next List.mem_cons_self
        have hskip : Exploring.pending g.nodes.toFinset g.successors (markOf marks)
            ((node, (g.successors node).drop (index + 1)) :: g.frames below) <
          Exploring.pending g.nodes.toFinset g.successors (markOf marks)
            ((node, next :: (g.successors node).drop (index + 1)) :: g.frames below) :=
          Exploring.pending_skip
        dsimp only
        cases hmark : markOf marks next with
        | grey =>
          have hcycle := h.cycle_of_grey hmark
          rw [succeeds_eq] at hcycle
          exact ⟨next, hcycle⟩
        | white =>
          have hmem : next ∈ g.nodes.toFinset := by
            obtain ⟨edge, hedge, -, hdestination⟩ := hheats
            exact List.mem_toFinset.mpr (mem_nodes.mpr ⟨edge, hedge, .inr hdestination.symm⟩)
          have hpending := Exploring.pending_grey g.successors
            (g.frames ((node, index + 1) :: below)) hmark hmem
          rw [← markOf_insert] at hpending
          refine (ih _ _ (markOf_insert marks next .grey ▸ h.descend hmark) ?_).mono
            (markOf_insert_ne_white (by decide))
          exact (lt_of_eq_of_lt hpending hskip).trans_le (Nat.le_of_lt_succ hfuel)
        | black => exact ih _ _ (h.skip hmark) (hskip.trans_le (Nat.le_of_lt_succ hfuel))

/-! ### All starts -/

/-- Fuel that does for any start. -/
def enoughFuel (g : CouplingGraph) : Nat := g.nodes.length * (g.length + 1) + 1

theorem pending_lt (mark : ThermalDomainId → Mark) :
    Exploring.pending g.nodes.toFinset g.successors mark [] < g.enoughFuel := by
  have hsum : ∑ v ∈ g.nodes.toFinset with mark v = .white, ((g.successors v).length + 1) ≤
      g.nodes.length * (g.length + 1) := by
    calc ∑ v ∈ g.nodes.toFinset with mark v = .white, ((g.successors v).length + 1)
        ≤ (g.nodes.toFinset.filter fun v => mark v = .white).card • (g.length + 1) :=
          Finset.sum_le_card_nsmul _ _ _ fun v _ => Nat.succ_le_succ (length_successors_le v)
      _ ≤ g.nodes.length * (g.length + 1) :=
          Nat.mul_le_mul_right _ ((Finset.card_filter_le _ _).trans (List.toFinset_card_le _))
  unfold Exploring.pending enoughFuel
  rw [List.map_nil, List.sum_nil]
  omega

/-- **The starts are explored to the end, and a cycle is found if there is one to find.** -/
theorem exploreAll_spec {fuel : Nat} (hfuel : g.enoughFuel ≤ fuel) :
    ∀ (starts : List ThermalDomainId) (marks : Marks), (∀ v ∈ starts, v ∈ g.nodes) →
      Exploring g.successors (markOf marks) [] →
      (∀ v ∈ g.nodes, v ∈ starts ∨ markOf marks v ≠ .white) →
      ∃ found, exploreAll g.adjacency fuel starts marks = some found ∧
        (found = true ↔ ∃ a, TransGen g.Heats a a) := by
  intro starts
  induction starts with
  | nil =>
    intro marks _ h hdone
    refine ⟨false, rfl, fun hfalse => (nomatch hfalse), ?_⟩
    rintro ⟨a, hcycle⟩
    obtain ⟨b, ⟨edge, hedge, hsource, -⟩, -⟩ := TransGen.head'_iff.mp hcycle
    have hwhite : markOf marks a ≠ .white :=
      (hdone a (mem_nodes.mpr ⟨edge, hedge, .inl hsource.symm⟩)).resolve_left List.not_mem_nil
    have hblack : markOf marks a = .black := by
      cases hmark : markOf marks a with
      | white => exact absurd hmark hwhite
      | grey => exact nomatch (h.grey a).mp hmark
      | black => rfl
    rw [← succeeds_eq] at hcycle
    exact absurd hcycle (h.acyclic a hblack)
  | cons start rest ih =>
    intro marks hstarts h hdone
    have hrest : ∀ v ∈ rest, v ∈ g.nodes := fun v hv => hstarts v (List.mem_cons_of_mem _ hv)
    rw [exploreAll]
    by_cases hwhite : markOf marks start = .white
    · rw [if_neg (not_not_intro hwhite)]
      have hstart : Exploring g.successors (markOf (marks.insert start .grey))
          (g.frames [(start, 0)]) := markOf_insert marks start .grey ▸ h.start hwhite
      have hpending := Exploring.pending_grey g.successors [] hwhite
        (List.mem_toFinset.mpr (hstarts start List.mem_cons_self))
      rw [← markOf_insert] at hpending
      have hexplores := explore_spec fuel _ _ hstart
        ((lt_of_eq_of_lt hpending (pending_lt _)).trans_le hfuel)
      cases hresult : explore g.adjacency fuel (marks.insert start .grey) [(start, 0)] with
      | cycle =>
        rw [hresult] at hexplores
        exact ⟨true, rfl, fun _ => hexplores, fun _ => rfl⟩
      | explored final =>
        rw [hresult] at hexplores
        refine ih final hrest hexplores.1 fun v hv => ?_
        rcases hdone v hv with hmem | hmarked
        · rcases List.mem_cons.mp hmem with rfl | hmem
          · refine .inr (hexplores.2 v ?_)
            rw [markOf_insert, Exploring.set, if_pos rfl]
            decide
          · exact .inl hmem
        · exact .inr (hexplores.2 v (markOf_insert_ne_white (by decide) v hmarked))
      | unfinished =>
        rw [hresult] at hexplores
        exact hexplores.elim
    · rw [if_pos hwhite]
      refine ih marks hrest h fun v hv => ?_
      rcases hdone v hv with hmem | hmarked
      · rcases List.mem_cons.mp hmem with rfl | hmem
        · exact .inr hwhite
        · exact .inl hmem
      · exact .inr hmarked

theorem markOf_initial (starts : List ThermalDomainId) (v : ThermalDomainId) :
    markOf (starts.foldl (fun marks node => marks.insert node .white) ∅) v = .white := by
  have hfold : ∀ (starts : List ThermalDomainId) (marks : Marks), markOf marks v = .white →
      markOf (starts.foldl (fun marks node => marks.insert node .white) marks) v = .white := by
    intro starts
    induction starts with
    | nil => exact fun _ h => h
    | cons start rest ih =>
      intro marks h
      refine ih _ ?_
      rw [markOf_insert, Exploring.set]
      split
      · rfl
      · exact h
  exact hfold starts ∅ rfl

/-- **The search ends, and finds a cycle if and only if there is one.** -/
theorem hasCycle_exact (g : CouplingGraph) :
    ∃ bound, ∀ fuel, bound ≤ fuel → ∃ found, g.hasCycle fuel = some found ∧
      (found = true ↔ ∃ a, TransGen g.Heats a a) := by
  refine ⟨g.enoughFuel, fun fuel hfuel => exploreAll_spec hfuel g.nodes _ (fun _ hv => hv) ?_
    fun v hv => .inl hv⟩
  have hwhite := markOf_initial g.nodes
  refine ⟨fun v => ?_, .nil, trivial, fun v w hv => ?_, fun v hv => ?_⟩
  · rw [hwhite v]
    exact ⟨fun h => (nomatch h), fun h => (nomatch h)⟩
  · rw [hwhite v] at hv
    cases hv
  · rw [hwhite v] at hv
    cases hv

/-- A domain that heats itself is a cycle, and two ways to one domain are not. -/
example : hasCycle [{ id := 1, source := 1, destination := 1 }] 9 = some true ∧
    hasCycle [{ id := 1, source := 1, destination := 2 },
      { id := 2, source := 1, destination := 3 },
      { id := 3, source := 2, destination := 3 }] 20 = some false := by decide +kernel

end CouplingGraph

end ThermalGovernor
