import ThermalGovernor.Lib.Keyed
import ThermalGovernor.Topology.Coupling

/-!
# The table of coupling edges

The edges are the entries of a map from ids to relations, one an id, in the one order that
(source, destination, id) gives them.  To add a relation is to write it under its id
(`perm_add_filter`), to remove an id is to forget it (`remove_eq`); so the edges that calls leave
depend on the map they leave and on nothing else (`edgesAfter_congr`).
-/

namespace ThermalGovernor.CouplingGraph

open Lib

variable {g : CouplingGraph} {relation : CouplingRelation} {id : CouplingId}

/-- A call on a coupling graph. -/
inductive Call where
  | add (relation : CouplingRelation)
  | remove (id : CouplingId)

/-- What a call makes of a graph.  There may be nothing to remove. -/
def Call.apply (g : CouplingGraph) : Call → CouplingGraph
  | .add relation => g.add relation
  | .remove id => (g.remove id).getD g

/-- The graph after calls, from the empty one. -/
def edgesAfter (calls : List Call) : CouplingGraph := calls.foldl Call.apply []

/-- What a call writes into a map from ids to relations. -/
def Call.write (m : CouplingId → Option CouplingRelation) :
    Call → CouplingId → Option CouplingRelation
  | .add relation => Function.update m relation.id (some relation)
  | .remove id => Function.update m id none

/-- The map from ids to relations that calls leave. -/
def finalMap (calls : List Call) : CouplingId → Option CouplingRelation :=
  calls.foldl Call.write fun _ => none

/-! ### One call -/

/-- The relation takes the place of the edge of its id, if there is one. -/
theorem perm_replaceOrAppend (hunique : (g.map CouplingRelation.id).Nodup) :
    (g.replaceOrAppend relation).Perm (relation :: g.filter fun e => e.id ≠ relation.id) := by
  induction g with
  | nil => exact .rfl
  | cons e rest ih =>
    rw [List.map_cons, List.nodup_cons] at hunique
    rw [replaceOrAppend]
    by_cases hid : e.id = relation.id
    · have hrest : rest.filter (fun x => x.id ≠ relation.id) = rest :=
        List.filter_eq_self.mpr fun x hx => decide_eq_true fun hsame =>
          hunique.1 (List.mem_map.mpr ⟨x, hx, hsame.trans hid.symm⟩)
      rw [if_pos hid, List.filter_cons_of_neg (by simp [hid]), hrest]
    · rw [if_neg hid, List.filter_cons_of_pos (by simp [hid])]
      exact ((ih hunique.2).cons e).trans (.swap relation e _)

theorem perm_add_filter (hunique : (g.map CouplingRelation.id).Nodup)
    (relation : CouplingRelation) :
    (g.add relation).Perm (relation :: g.filter fun e => e.id ≠ relation.id) :=
  (List.perm_insertionSort _ _).trans (perm_replaceOrAppend hunique)

theorem eraseP_eq_filter (hunique : (g.map CouplingRelation.id).Nodup) :
    g.eraseP (fun e => e.id = id) = g.filter fun e => e.id ≠ id := by
  induction g with
  | nil => rfl
  | cons e rest ih =>
    rw [List.map_cons, List.nodup_cons] at hunique
    by_cases hid : e.id = id
    · have hrest : rest.filter (fun x => x.id ≠ id) = rest :=
        List.filter_eq_self.mpr fun x hx => decide_eq_true fun hsame =>
          hunique.1 (List.mem_map.mpr ⟨x, hx, hsame.trans hid.symm⟩)
      rw [List.eraseP_cons_of_pos (by simp [hid]), List.filter_cons_of_neg (by simp [hid]), hrest]
    · rw [List.eraseP_cons_of_neg (by simp [hid]), List.filter_cons_of_pos (by simp [hid]),
        ih hunique.2]

theorem remove_eq (hunique : (g.map CouplingRelation.id).Nodup) (id : CouplingId) :
    g.remove id =
      if id ∈ g.map CouplingRelation.id then some (g.filter fun e => e.id ≠ id) else none := by
  have hany : (g.any fun e => e.id = id) = true ↔ id ∈ g.map CouplingRelation.id := by simp
  rw [remove, eraseP_eq_filter hunique, if_congr hany rfl rfl]

/-- Without repeated ids the edges are strictly sorted. -/
theorem Canonical.strict (h : g.Canonical) : g.Pairwise fun a b => a.before b = true := by
  have hne : g.Pairwise fun a b => a.id ≠ b.id := List.pairwise_map.mp h.unique
  refine (h.sorted.and hne).imp fun hboth => ?_
  rw [before_eq_true]
  refine lt_of_le_of_ne (not_before_eq_true.mp hboth.1) fun hkey => hboth.2 ?_
  exact congrArg (fun key => (ofLex (ofLex key).2).2) hkey

theorem before_asymm (a b : CouplingRelation) (h : a.before b = true) : ¬ b.before a = true := by
  rw [before_eq_true] at h ⊢
  exact lt_asymm h

/-! ### Any calls -/

/-- The edges are canonical, and they are those of the map. -/
structure Represents (g : CouplingGraph) (m : CouplingId → Option CouplingRelation) : Prop where
  canonical : g.Canonical
  holds : Holds CouplingRelation.id m g

theorem Represents.apply {m : CouplingId → Option CouplingRelation} (h : Represents g m)
    (call : Call) : Represents (call.apply g) (call.write m) := by
  cases call with
  | add relation =>
    exact ⟨canonical_add h.canonical relation,
      (h.holds.replaced relation).perm (perm_add_filter h.canonical.unique relation)⟩
  | remove id =>
    have hholds := h.holds.dropped id
    show Represents ((g.remove id).getD g) (Function.update m id none)
    cases hremove : g.remove id with
    | none =>
      -- with no edge of the id there is nothing to filter
      rw [remove_eq h.canonical.unique] at hremove
      have hid : id ∉ g.map CouplingRelation.id := fun hmem => by
        rw [if_pos hmem] at hremove
        cases hremove
      have hfilter : g.filter (fun e => e.id ≠ id) = g :=
        List.filter_eq_self.mpr fun e he => decide_eq_true fun hsame =>
          hid (List.mem_map.mpr ⟨e, he, hsame⟩)
      exact ⟨h.canonical, hfilter ▸ hholds⟩
    | some rest =>
      have hrest := hremove
      rw [remove_eq h.canonical.unique] at hrest
      split at hrest
      · obtain rfl := Option.some.inj hrest
        exact ⟨canonical_remove h.canonical hremove, hholds⟩
      · cases hrest

theorem represents_foldl (calls : List Call) : ∀ {g m}, Represents g m →
    Represents (calls.foldl Call.apply g) (calls.foldl Call.write m) := by
  induction calls with
  | nil => exact fun h => h
  | cons call calls ih => exact fun h => ih (h.apply call)

/-- **The edges that calls leave are those of the map they leave.** -/
theorem represents_edgesAfter (calls : List Call) :
    Represents (edgesAfter calls) (finalMap calls) :=
  represents_foldl calls ⟨canonical_nil, holds_nil⟩

theorem edgesAfter_congr {calls calls' : List Call} (h : finalMap calls = finalMap calls') :
    edgesAfter calls = edgesAfter calls' := by
  have hleft := represents_edgesAfter calls
  have hright := represents_edgesAfter calls'
  rw [h] at hleft
  exact hleft.holds.eq_of_sorted before_asymm hright.holds hleft.canonical.strict
    hright.canonical.strict

/-- After any calls the edges are strictly sorted with one an id; adding a relation replaces the
edge of its id and changes no other, removing an id takes its edge away and says whether there
was one; and calls that leave the same map leave the same edges. -/
theorem edges_keyed (calls : List Call) :
    ((edgesAfter calls).map CouplingRelation.id).Nodup ∧
    (edgesAfter calls).Pairwise (fun a b => a.before b = true) ∧
    (∀ relation, ((edgesAfter calls).add relation).Perm
      (relation :: (edgesAfter calls).filter fun e => e.id ≠ relation.id)) ∧
    (∀ id, (edgesAfter calls).remove id =
      if id ∈ (edgesAfter calls).map CouplingRelation.id
      then some ((edgesAfter calls).filter fun e => e.id ≠ id) else none) ∧
    (∀ relation, relation ∈ edgesAfter calls ↔ finalMap calls relation.id = some relation) ∧
    ∀ calls', finalMap calls' = finalMap calls → edgesAfter calls' = edgesAfter calls := by
  have h := represents_edgesAfter calls
  have hunique := h.canonical.unique
  exact ⟨hunique, h.canonical.strict, perm_add_filter hunique, remove_eq hunique, h.holds.mem_iff,
    fun _ hsame => edgesAfter_congr hsame⟩

/-- An edge is added, moved and given its old place again. -/
theorem edges_keyed_moved :
    let first : CouplingRelation := { id := 7, source := 1, destination := 2 }
    let moved : CouplingRelation := { id := 7, source := 4, destination := 2 }
    edgesAfter [.add moved, .add first] = edgesAfter [.add first] :=
  (edges_keyed [.add _]).2.2.2.2.2 [.add _, .add _] (Function.update_idem _ _ _)

end ThermalGovernor.CouplingGraph
