import Mathlib.Data.Prod.Lex
import ThermalGovernor.Core.Identity
import ThermalGovernor.Core.Vocabulary
import ThermalGovernor.Lib.Table

/-!
# The coupling graph

Directed edges between thermal domains, kept sorted by source, destination and
id.  An edge `source → destination` says that the source heats the destination,
so the domains that put pressure on a domain are found by walking edges
backwards (`incomingReachable`).

Both walks are one breadth-first search with the roles of the two ends exchanged.
A domain is queued again only at a smaller depth than before, and a breadth-first
search never finds one, so `edges.length + 1` rounds empty the queue.
-/

namespace ThermalGovernor

open Lib

/-- Relationship type between two thermal domains. -/
inductive CouplingType
  | unknownCoupling | sharesChassis | sharesAirflowPath | sharesCoolingZone | sharesHeatsink
  | thermallyCoupled | syntheticCoupling
  deriving DecidableEq

/-- A directed coupling edge between two thermal domains. -/
structure CouplingRelation (R : Type := ℚ) where
  id : CouplingId := 0
  source : ThermalDomainId := 0
  destination : ThermalDomainId := 0
  type : CouplingType := .unknownCoupling
  generation : CouplingGeneration := 0
  provenance : Provenance := .unknown
  evidenceSource : String := ""
  weight : R := by exact 1
  directed : Bool := true
  validUntil : Option SteadyTimePoint := none

namespace CouplingRelation

/-- The order of the edges: source, destination, id. -/
def before (a b : CouplingRelation) : Bool :=
  if a.source ≠ b.source then a.source < b.source
  else if a.destination ≠ b.destination then a.destination < b.destination
  else a.id < b.id

end CouplingRelation

/-- The edges, sorted. -/
abbrev CouplingGraph := List CouplingRelation

namespace CouplingGraph

/-- Overwrite the first edge with the id of `relation`, or append it. -/
def replaceOrAppend (relation : CouplingRelation) : CouplingGraph → CouplingGraph
  | [] => [relation]
  | e :: rest => if e.id = relation.id then relation :: rest
      else e :: replaceOrAppend relation rest

def add (g : CouplingGraph) (relation : CouplingRelation) : CouplingGraph :=
  (g.replaceOrAppend relation).insertionSort fun a b => ! b.before a

/-- Remove the first edge with the id; `none` when there is none. -/
def remove (g : CouplingGraph) (id : CouplingId) : Option CouplingGraph :=
  if g.any fun e => e.id = id then some (g.eraseP fun e => e.id = id) else none

/-! ### What the operations keep -/

/-- What the edges are ordered by. -/
def sortKey (edge : CouplingRelation) : Nat ×ₗ Nat ×ₗ Nat :=
  toLex (edge.source, toLex (edge.destination, edge.id))

theorem before_eq_true {a b : CouplingRelation} : a.before b = true ↔ sortKey a < sortKey b := by
  unfold CouplingRelation.before sortKey
  rw [Prod.Lex.toLex_lt_toLex, Prod.Lex.toLex_lt_toLex]
  by_cases hsource : a.source = b.source
  · by_cases hdestination : a.destination = b.destination
    · simp [hsource, hdestination]
    · simp [hsource, hdestination]
  · simp [hsource]

theorem not_before_eq_true {a b : CouplingRelation} :
    (! b.before a) = true ↔ sortKey a ≤ sortKey b := by
  rw [Bool.not_eq_true', ← Bool.not_eq_true, before_eq_true, not_lt]

instance : Std.Total fun a b : CouplingRelation => (! b.before a) = true where
  total a b := by
    rw [not_before_eq_true, not_before_eq_true]
    exact le_total _ _

instance : IsTrans CouplingRelation fun a b => (! b.before a) = true where
  trans a b c := by
    rw [not_before_eq_true, not_before_eq_true, not_before_eq_true]
    exact le_trans

/-- Sorted, with one edge an id. -/
structure Canonical (g : CouplingGraph) : Prop where
  sorted : g.Pairwise fun a b => (! b.before a) = true
  unique : (g.map CouplingRelation.id).Nodup

theorem map_id_replaceOrAppend (relation : CouplingRelation) (g : CouplingGraph) :
    (g.replaceOrAppend relation).map CouplingRelation.id =
      if relation.id ∈ g.map CouplingRelation.id then g.map CouplingRelation.id
      else g.map CouplingRelation.id ++ [relation.id] := by
  induction g with
  | nil => rfl
  | cons e rest ih =>
    rw [replaceOrAppend]
    split
    · rename_i hid
      simp [hid]
    · rename_i hid
      rw [List.map_cons, ih]
      by_cases hrest : relation.id ∈ rest.map CouplingRelation.id
      · rw [if_pos hrest, List.map_cons, if_pos (List.mem_cons_of_mem _ hrest)]
      · rw [if_neg hrest, List.map_cons, if_neg (by simpa [Ne.symm hid] using hrest),
          List.cons_append]

theorem replaceOrAppend_of_notMem {relation : CouplingRelation} {g : CouplingGraph}
    (h : relation.id ∉ g.map CouplingRelation.id) :
    g.replaceOrAppend relation = g ++ [relation] := by
  induction g with
  | nil => rfl
  | cons e rest ih =>
    rw [List.map_cons, List.mem_cons, not_or] at h
    rw [replaceOrAppend, if_neg (Ne.symm h.1), ih h.2, List.cons_append]

theorem canonical_nil : Canonical [] := ⟨.nil, .nil⟩

theorem canonical_add {g : CouplingGraph} (h : g.Canonical) (relation : CouplingRelation) :
    (g.add relation).Canonical := by
  refine ⟨List.pairwise_insertionSort _ _, ?_⟩
  have hperm : ((g.add relation).map CouplingRelation.id).Perm
      ((g.replaceOrAppend relation).map CouplingRelation.id) :=
    (List.perm_insertionSort _ _).map _
  rw [hperm.nodup_iff, map_id_replaceOrAppend]
  split
  · exact h.unique
  · rename_i hnew
    exact List.nodup_append.mpr ⟨h.unique, List.nodup_singleton _, fun a ha b hb hab =>
      hnew (List.mem_singleton.mp hb ▸ hab ▸ ha)⟩

theorem canonical_remove {g rest : CouplingGraph} {id : CouplingId} (h : g.Canonical)
    (hremove : g.remove id = some rest) : rest.Canonical := by
  unfold remove at hremove
  split at hremove
  · obtain rfl := Option.some.inj hremove
    have hsublist := List.eraseP_sublist (p := fun e : CouplingRelation => decide (e.id = id))
      (l := g)
    exact ⟨h.sorted.sublist hsublist, h.unique.sublist (hsublist.map _)⟩
  · cases hremove

/-- **Adding the edges of a canonical graph one after the other gives the graph again.** -/
theorem foldl_add {g : CouplingGraph} (h : g.Canonical) : g.foldl add [] = g := by
  have hfrom : ∀ todo done : CouplingGraph, g = done ++ todo → todo.foldl add done = g := by
    intro todo
    induction todo with
    | nil =>
      intro done hg
      rw [hg, List.append_nil]
      rfl
    | cons e rest ih =>
      intro done hg
      have hsplit : g = (done ++ [e]) ++ rest := by rw [hg, List.append_assoc]; rfl
      obtain ⟨hsorted, hunique⟩ := h
      rw [hsplit] at hsorted hunique
      have hnew : e.id ∉ done.map CouplingRelation.id := by
        intro hmem
        rw [List.map_append, List.map_append] at hunique
        have hdisjoint := (List.nodup_append.mp (List.nodup_append.mp hunique).1).2.2
        exact hdisjoint e.id hmem e.id (List.mem_singleton_self _) rfl
      have hadd : done.add e = done ++ [e] := by
        rw [add, replaceOrAppend_of_notMem hnew]
        exact (List.pairwise_append.mp hsorted).1.insertionSort_eq
      rw [List.foldl_cons, hadd]
      exact ih (done ++ [e]) hsplit
  exact hfrom g [] rfl

/-! ### Reachability -/

/-- The search: the best depth of each domain found, and the domains still to expand. -/
structure Search where
  best : Table ThermalDomainId Nat
  frontier : List (ThermalDomainId × Nat)

/-- Follow one edge from `current`, from its `tail` end to its `head` end. -/
def followEdge (tail head : CouplingRelation → ThermalDomainId) (current : ThermalDomainId)
    (depth : Nat) (s : Search) (edge : CouplingRelation) : Search :=
  if tail edge ≠ current then s
  else
    match s.best.lookup (head edge) with
    | some known =>
      if known ≤ depth + 1 then s
      else ⟨s.best.insert (head edge) (depth + 1), s.frontier ++ [(head edge, depth + 1)]⟩
    | none => ⟨s.best.insert (head edge) (depth + 1), s.frontier ++ [(head edge, depth + 1)]⟩

/-- Expand the frontier until it is empty. -/
def search (g : CouplingGraph) (tail head : CouplingRelation → ThermalDomainId) (maxDepth : Nat) :
    Nat → Search → Table ThermalDomainId Nat
  | 0, s => s.best
  | fuel + 1, s =>
    match s.frontier with
    | [] => s.best
    | (current, depth) :: rest =>
      if maxDepth ≤ depth then g.search tail head maxDepth fuel ⟨s.best, rest⟩
      else
        g.search tail head maxDepth fuel
          (g.foldl (followEdge tail head current depth) ⟨s.best, rest⟩)

/-- The domains reached along edges, by depth and then by id. -/
def reachable (g : CouplingGraph) (tail head : CouplingRelation → ThermalDomainId)
    (origin : ThermalDomainId) (maxDepth : Nat) : List (ThermalDomainId × Nat) :=
  if maxDepth = 0 then []
  else
    let best := g.search tail head maxDepth (g.length + 1)
      ⟨(∅ : Table ThermalDomainId Nat).insert origin 0, [(origin, 0)]⟩
    ((best.erase origin).entries.map fun e => (e.1, e.2)).insertionSort fun a b =>
      decide (a.2 < b.2) || (a.2 = b.2 && decide (a.1 ≤ b.1))

/-- Neighbours reachable outward from a domain. -/
def reachableFrom (g : CouplingGraph) : ThermalDomainId → Nat → List (ThermalDomainId × Nat) :=
  g.reachable CouplingRelation.source CouplingRelation.destination

/-- Neighbours whose thermal pressure reaches the origin. -/
def incomingReachable (g : CouplingGraph) :
    ThermalDomainId → Nat → List (ThermalDomainId × Nat) :=
  g.reachable CouplingRelation.destination CouplingRelation.source

/-- A domain is never among its own neighbours. -/
theorem origin_not_reachable (g : CouplingGraph)
    (tail head : CouplingRelation → ThermalDomainId) (origin : ThermalDomainId) (maxDepth : Nat) :
    ∀ d ∈ g.reachable tail head origin maxDepth, d.1 ≠ origin := by
  intro d hd
  unfold reachable at hd
  split at hd
  · cases hd
  · rw [List.mem_insertionSort, List.mem_map] at hd
    obtain ⟨e, he, rfl⟩ := hd
    rintro rfl
    have hk : e.1 ∈ (g.search tail head maxDepth (g.length + 1)
        ⟨(∅ : Table ThermalDomainId Nat).insert e.1 0, [(e.1, 0)]⟩).erase e.1 := by
      rw [AList.mem_keys]
      exact List.mem_map_of_mem he
    exact (AList.mem_erase.mp hk).1 rfl

end CouplingGraph

/-- Pressure runs against the edges, and a cycle does not reach back to the origin. -/
example : CouplingGraph.incomingReachable
    [{ id := 1, source := 1, destination := 2 }, { id := 2, source := 2, destination := 3 },
      { id := 3, source := 3, destination := 1 }] 3 2 = [(2, 1), (1, 2)] := by decide +kernel

end ThermalGovernor
