import Mathlib.Data.Finset.Card
import Mathlib.Logic.Function.Iterate
import ThermalGovernor.Lib.Search
import ThermalGovernor.Topology.Coupling

/-!
# What the traversals return

One round of the search takes one domain off the frontier (`searchRound`), and follows the
edges out of it one by one.  The invariant of a breadth-first search (`Lib.Searching`) holds
from round to round.  A round also makes `Search.work` smaller, which counts the frontier and
the heads of edges not found yet, so `edges.length + 1` rounds empty the frontier.

The list that is returned is then determined by its members: the domains within the bound
other than the origin, each with its distance (`reachable_exact`).  So it depends on the graph
as a set of edges only, and the walk against the edges is the walk on the reversed graph.
-/

namespace ThermalGovernor

open Lib

namespace CouplingGraph

variable {g : CouplingGraph} {tail head : CouplingRelation → ThermalDomainId}
variable {origin current : ThermalDomainId} {maxDepth depth d : Nat}

/-- Some edge has its `tail` end at the first domain and its `head` end at the second. -/
def Joins (g : CouplingGraph) (tail head : CouplingRelation → ThermalDomainId)
    (a b : ThermalDomainId) : Prop :=
  ∃ e ∈ g, tail e = a ∧ head e = b

/-- Some edge says that the first domain heats the second. -/
def Heats (g : CouplingGraph) : ThermalDomainId → ThermalDomainId → Prop :=
  g.Joins CouplingRelation.source CouplingRelation.destination

theorem joins_swap (g : CouplingGraph) (tail head : CouplingRelation → ThermalDomainId) :
    g.Joins head tail = Function.swap (g.Joins tail head) := by
  funext a b
  exact propext ⟨fun ⟨e, he, ha, hb⟩ => ⟨e, he, hb, ha⟩, fun ⟨e, he, hb, ha⟩ => ⟨e, he, ha, hb⟩⟩

theorem joins_congr {g' : CouplingGraph} (h : ∀ e, e ∈ g' ↔ e ∈ g) :
    g'.Joins tail head = g.Joins tail head := by
  funext a b
  simp only [Joins, h]

/-! ### One edge -/

/-- The search before its first round. -/
def Search.start (origin : ThermalDomainId) : Search :=
  ⟨(∅ : Table ThermalDomainId Nat).insert origin 0, [(origin, 0)]⟩

variable (tail head current depth) in
/-- What one edge does: nothing, or it finds its head at a smaller depth than before. -/
theorem followEdge_cases (s : Search) (edge : CouplingRelation) :
    (followEdge tail head current depth s edge = s ∧ (tail edge = current →
      ∃ known, s.best.lookup (head edge) = some known ∧ known ≤ depth + 1)) ∨
    (followEdge tail head current depth s edge =
        ⟨s.best.insert (head edge) (depth + 1), s.frontier ++ [(head edge, depth + 1)]⟩ ∧
      tail edge = current ∧
      ∀ known, s.best.lookup (head edge) = some known → depth + 1 < known) := by
  unfold followEdge
  by_cases htail : tail edge = current
  · rw [if_neg (not_not_intro htail)]
    cases hknown : s.best.lookup (head edge) with
    | none => exact .inr ⟨rfl, htail, fun known h => nomatch h⟩
    | some known =>
      by_cases hle : known ≤ depth + 1
      · exact .inl ⟨if_pos hle, fun _ => ⟨known, rfl, hle⟩⟩
      · refine .inr ⟨if_neg hle, htail, ?_⟩
        rintro known' ⟨⟩
        exact Nat.lt_of_not_le hle
  · rw [if_pos htail]
    exact .inl ⟨rfl, fun h => absurd h htail⟩

/-- The invariant of the search, `todo` being the edges of the current domain to follow. -/
def Search.Keeps (g : CouplingGraph) (tail head : CouplingRelation → ThermalDomainId)
    (origin : ThermalDomainId) (maxDepth d : Nat)
    (todo : ThermalDomainId → ThermalDomainId → Prop) (s : Search) : Prop :=
  Searching (g.Joins tail head) origin maxDepth d todo (fun v => s.best.lookup v) s.frontier

/-- The heads of edges that are not found yet. -/
def Search.unfound (g : CouplingGraph) (head : CouplingRelation → ThermalDomainId) (s : Search) :
    Finset ThermalDomainId :=
  (g.map head).toFinset.filter fun v => s.best.lookup v = none

/-- The rounds that a search still takes at most. -/
def Search.work (g : CouplingGraph) (head : CouplingRelation → ThermalDomainId) (s : Search) :
    Nat :=
  s.frontier.length + (s.unfound g head).card

theorem work_start_le : (Search.start origin).work g head ≤ g.length + 1 := by
  have hcard : ((Search.start origin).unfound g head).card ≤ g.length := by
    calc ((Search.start origin).unfound g head).card
        ≤ (g.map head).toFinset.card := Finset.card_filter_le _ _
      _ ≤ (g.map head).length := List.toFinset_card_le _
      _ = g.length := List.length_map _
  have hfrontier : (Search.start origin).frontier.length = 1 := rfl
  unfold Search.work
  omega

theorem keeps_start :
    (Search.start origin).Keeps g tail head origin maxDepth 0 nothing := by
  have hbest : (fun v => (Search.start origin).best.lookup v) =
      fun v => if v = origin then some 0 else none := by
    funext v
    exact Table.lookup_insert_eq_ite _ _ _ _
  unfold Search.Keeps
  rw [hbest]
  exact Searching.start _ _ _

/-- The edges of a list that leave the current domain. -/
def leaving (tail head : CouplingRelation → ThermalDomainId) (current : ThermalDomainId)
    (edges : List CouplingRelation) (a b : ThermalDomainId) : Prop :=
  a = current ∧ ∃ e ∈ edges, tail e = a ∧ head e = b

/-- One edge followed: the invariant holds with one edge less to follow. -/
theorem keeps_followEdge {s : Search} {edge : CouplingRelation} {rest : List CouplingRelation}
    (h : s.Keeps g tail head origin maxDepth depth (leaving tail head current (edge :: rest)))
    (hedge : edge ∈ g) (hcurrent : s.best.lookup current = some depth) (hdepth : depth < maxDepth) :
    let s' := followEdge tail head current depth s edge
    s'.Keeps g tail head origin maxDepth depth (leaving tail head current rest) ∧
      s'.best.lookup current = some depth ∧ s'.work g head ≤ s.work g head := by
  have hleaving : ∀ a b, leaving tail head current (edge :: rest) a b →
      leaving tail head current rest a b ∨ (tail edge = current ∧ a = current ∧ b = head edge) := by
    rintro a b ⟨ha, e, he, htail, hhead⟩
    rcases List.mem_cons.mp he with rfl | he
    · exact .inr ⟨htail.trans ha, ha, hhead.symm⟩
    · exact .inl ⟨ha, e, he, htail, hhead⟩
  rcases followEdge_cases tail head current depth s edge
    with ⟨hsame, hknown⟩ | ⟨hpush, htail, hbetter⟩
  · rw [hsame]
    refine ⟨?_, hcurrent, le_rfl⟩
    by_cases htail : tail edge = current
    · obtain ⟨known, hlookup, -⟩ := hknown htail
      exact h.known hcurrent hlookup fun a b hab => (hleaving a b hab).imp_right And.right
    · have hmono : ∀ a b, leaving tail head current (edge :: rest) a b →
          leaving tail head current rest a b := fun a b hab =>
        (hleaving a b hab).resolve_right fun hnew => htail hnew.1
      exact h.weaken hmono
  · have hnew : s.best.lookup (head edge) = none := by
      cases hlookup : s.best.lookup (head edge) with
      | none => rfl
      | some known => exact absurd (h.level (head edge) known hlookup) (by
          have := hbetter known hlookup
          omega)
    rw [hpush]
    refine ⟨?_, ?_, ?_⟩
    · unfold Search.Keeps
      simp only [Table.lookup_insert_eq_ite]
      exact h.discover hcurrent hdepth ⟨edge, hedge, htail, rfl⟩ hnew
        fun a b hab => (hleaving a b hab).imp_right And.right
    · rw [Table.lookup_insert_eq_ite, if_neg]
      · exact hcurrent
      · rintro rfl
        rw [hcurrent] at hnew
        cases hnew
    · have hmem : head edge ∈ s.unfound g head := Finset.mem_filter.mpr
        ⟨List.mem_toFinset.mpr (List.mem_map_of_mem hedge), hnew⟩
      have herase : Search.unfound g head
          ⟨s.best.insert (head edge) (depth + 1), s.frontier ++ [(head edge, depth + 1)]⟩ =
          (s.unfound g head).erase (head edge) := by
        ext v
        simp only [Search.unfound, Finset.mem_erase, Finset.mem_filter,
          Table.lookup_insert_eq_ite]
        by_cases hv : v = head edge
        · simp [hv]
        · simp [hv]
      have hpos := Finset.card_pos.mpr ⟨_, hmem⟩
      unfold Search.work
      rw [herase, Finset.card_erase_of_mem hmem, List.length_append, List.length_singleton]
      omega

/-- All edges followed. -/
theorem keeps_foldl {edges : List CouplingRelation} (hedges : ∀ e ∈ edges, e ∈ g)
    (hdepth : depth < maxDepth) :
    ∀ s : Search, s.Keeps g tail head origin maxDepth depth (leaving tail head current edges) →
      s.best.lookup current = some depth →
      let s' := edges.foldl (followEdge tail head current depth) s
      s'.Keeps g tail head origin maxDepth depth nothing ∧ s'.work g head ≤ s.work g head := by
  induction edges with
  | nil =>
    intro s h _
    refine ⟨h.weaken ?_, le_rfl⟩
    rintro a b ⟨-, e, he, -⟩
    cases he
  | cons edge rest ih =>
    intro s h hcurrent
    obtain ⟨hkeeps, hcurrent', hwork⟩ :=
      keeps_followEdge h (hedges edge List.mem_cons_self) hcurrent hdepth
    obtain ⟨hkeeps', hwork'⟩ := ih (fun e he => hedges e (List.mem_cons_of_mem _ he)) _
      hkeeps hcurrent'
    exact ⟨hkeeps', hwork'.trans hwork⟩

/-! ### The rounds -/

/-- One round of the search. -/
def searchRound (g : CouplingGraph) (tail head : CouplingRelation → ThermalDomainId)
    (maxDepth : Nat) (s : Search) : Search :=
  match s.frontier with
  | [] => s
  | (current, depth) :: rest =>
    if maxDepth ≤ depth then ⟨s.best, rest⟩
    else g.foldl (followEdge tail head current depth) ⟨s.best, rest⟩

theorem searchRound_of_nil {s : Search} (h : s.frontier = []) :
    g.searchRound tail head maxDepth s = s := by
  rw [searchRound, h]

theorem iterate_searchRound_of_nil {s : Search} (h : s.frontier = []) (rounds : Nat) :
    (g.searchRound tail head maxDepth)^[rounds] s = s :=
  Function.iterate_fixed (searchRound_of_nil h) rounds

/-- The search is its rounds, one for each unit of fuel. -/
theorem search_eq_iterate (fuel : Nat) : ∀ s : Search,
    g.search tail head maxDepth fuel s = ((g.searchRound tail head maxDepth)^[fuel] s).best := by
  induction fuel with
  | zero => exact fun s => rfl
  | succ fuel ih =>
    intro s
    rw [Function.iterate_succ_apply, search]
    split
    · rename_i hnil
      rw [searchRound_of_nil hnil, iterate_searchRound_of_nil hnil]
    · rename_i current depth rest hcons
      rw [searchRound, hcons]
      dsimp only
      split
      · exact ih _
      · exact ih _

/-- **A round keeps the invariant and does some of the work.** -/
theorem keeps_searchRound {s : Search} (h : s.Keeps g tail head origin maxDepth d nothing)
    (hfrontier : s.frontier ≠ []) :
    ∃ d', (g.searchRound tail head maxDepth s).Keeps g tail head origin maxDepth d' nothing ∧
      (g.searchRound tail head maxDepth s).work g head < s.work g head := by
  obtain ⟨best, frontier⟩ := s
  cases frontier with
  | nil => exact absurd rfl hfrontier
  | cons next rest =>
    obtain ⟨current, depth⟩ := next
    have hwork : Search.work g head ⟨best, rest⟩ <
        Search.work g head ⟨best, (current, depth) :: rest⟩ := by
      unfold Search.work
      rw [List.length_cons]
      exact Nat.add_lt_add_right (Nat.lt_succ_self _) _
    by_cases hdepth : maxDepth ≤ depth
    · have hround : g.searchRound tail head maxDepth ⟨best, (current, depth) :: rest⟩ =
          ⟨best, rest⟩ := if_pos hdepth
      rw [hround]
      exact ⟨d, h.skip hdepth, hwork⟩
    · have hround : g.searchRound tail head maxDepth ⟨best, (current, depth) :: rest⟩ =
          g.foldl (followEdge tail head current depth) ⟨best, rest⟩ := if_neg hdepth
      have hexpand : Search.Keeps g tail head origin maxDepth depth
          (leaving tail head current g) ⟨best, rest⟩ :=
        h.expand fun w hstep => ⟨rfl, hstep⟩
      obtain ⟨hkeeps, hless⟩ := keeps_foldl (fun e he => he) (Nat.lt_of_not_le hdepth) _ hexpand
        (h.queued current depth List.mem_cons_self)
      rw [hround]
      exact ⟨depth, hkeeps, hless.trans_lt hwork⟩

/-- As many rounds as there is work empty the frontier. -/
theorem keeps_iterate (rounds : Nat) : ∀ (s : Search) (d : Nat),
    s.Keeps g tail head origin maxDepth d nothing → s.work g head ≤ rounds →
    let s' := (g.searchRound tail head maxDepth)^[rounds] s
    (∃ d', s'.Keeps g tail head origin maxDepth d' nothing) ∧ s'.frontier = [] := by
  induction rounds with
  | zero =>
    intro s d h hwork
    have hlength : s.frontier.length = 0 := by
      unfold Search.work at hwork
      omega
    exact ⟨⟨d, h⟩, List.eq_nil_of_length_eq_zero hlength⟩
  | succ rounds ih =>
    intro s d h hwork
    by_cases hfrontier : s.frontier = []
    · rw [iterate_searchRound_of_nil hfrontier]
      exact ⟨⟨d, h⟩, hfrontier⟩
    · obtain ⟨d', hkeeps, hless⟩ := keeps_searchRound h hfrontier
      rw [Function.iterate_succ_apply]
      exact ih _ d' hkeeps (by omega)

/-! ### The result -/

/-- **The search finds each domain within the bound at its distance.** -/
theorem lookup_search_iff {v n : Nat} :
    (g.search tail head maxDepth (g.length + 1) (.start origin)).lookup v = some n ↔
      Distance (g.Joins tail head) origin n v ∧ n ≤ maxDepth := by
  have hstart : (Search.start origin).Keeps g tail head origin maxDepth 0 nothing := keeps_start
  obtain ⟨⟨d, hkeeps⟩, hempty⟩ := keeps_iterate (g.length + 1) _ 0 hstart work_start_le
  rw [search_eq_iterate]
  unfold Search.Keeps at hkeeps
  rw [hempty] at hkeeps
  exact hkeeps.found_iff

theorem mem_reachable_iff {n : Nat} :
    (d, n) ∈ g.reachable tail head origin maxDepth ↔
      d ≠ origin ∧ Distance (g.Joins tail head) origin n d ∧ 1 ≤ n ∧ n ≤ maxDepth := by
  -- only the origin is at distance zero
  have hpos : d ≠ origin → Distance (g.Joins tail head) origin n d → 1 ≤ n := by
    rintro hne hdistance
    rw [Nat.one_le_iff_ne_zero]
    rintro rfl
    exact hne (distance_zero_iff.mp hdistance)
  unfold reachable
  split
  · rename_i hzero
    constructor
    · intro hmem
      cases hmem
    · rintro ⟨-, -, hone, hn⟩
      omega
  · rw [List.mem_insertionSort, List.mem_map]
    constructor
    · rintro ⟨⟨v, m⟩, hmem, heq⟩
      obtain ⟨rfl, rfl⟩ := Prod.mk.inj heq
      have hlookup := AList.mem_lookup_iff.mpr hmem
      have hne : v ≠ origin := by
        rintro rfl
        rw [AList.lookup_erase] at hlookup
        cases hlookup
      rw [AList.lookup_erase_ne hne] at hlookup
      obtain ⟨hdistance, hm⟩ := lookup_search_iff.mp hlookup
      exact ⟨hne, hdistance, hpos hne hdistance, hm⟩
    · rintro ⟨hne, hdistance, -, hn⟩
      refine ⟨⟨d, n⟩, AList.mem_lookup_iff.mp ?_, rfl⟩
      rw [AList.lookup_erase_ne hne]
      exact lookup_search_iff.mpr ⟨hdistance, hn⟩

/-- The order of the result: by depth, then by id. -/
def nearer (a b : ThermalDomainId × Nat) : Prop := a.2 < b.2 ∨ (a.2 = b.2 ∧ a.1 < b.1)

theorem nearer_iff {a b : ThermalDomainId × Nat} :
    nearer a b ↔ toLex (a.2, a.1) < toLex (b.2, b.1) := by
  rw [Prod.Lex.toLex_lt_toLex]
  rfl

instance : Std.Irrefl nearer where
  irrefl _ h := lt_irrefl _ (nearer_iff.mp h)

instance : Std.Antisymm nearer where
  antisymm _ _ h h' := absurd (nearer_iff.mp h) (lt_asymm (nearer_iff.mp h'))

theorem sorts_eq_true {a b : ThermalDomainId × Nat} :
    (decide (a.2 < b.2) || (a.2 = b.2 && decide (a.1 ≤ b.1))) = true ↔
      toLex (a.2, a.1) ≤ toLex (b.2, b.1) := by
  rw [Prod.Lex.toLex_le_toLex]
  simp

instance : Std.Total fun a b : ThermalDomainId × Nat =>
    (decide (a.2 < b.2) || (a.2 = b.2 && decide (a.1 ≤ b.1))) = true where
  total a b := by
    rw [sorts_eq_true, sorts_eq_true]
    exact le_total _ _

instance : IsTrans (ThermalDomainId × Nat) fun a b =>
    (decide (a.2 < b.2) || (a.2 = b.2 && decide (a.1 ≤ b.1))) = true where
  trans a b c := by
    rw [sorts_eq_true, sorts_eq_true, sorts_eq_true]
    exact le_trans

theorem nodup_reachable (g : CouplingGraph) (tail head : CouplingRelation → ThermalDomainId)
    (origin : ThermalDomainId) (maxDepth : Nat) :
    ((g.reachable tail head origin maxDepth).map Prod.fst).Nodup := by
  unfold reachable
  split
  · exact List.nodup_nil
  · dsimp only
    rw [((List.perm_insertionSort _ _).map Prod.fst).nodup_iff, List.map_map]
    exact AList.keys_nodup _

theorem pairwise_reachable (g : CouplingGraph) (tail head : CouplingRelation → ThermalDomainId)
    (origin : ThermalDomainId) (maxDepth : Nat) :
    (g.reachable tail head origin maxDepth).Pairwise nearer := by
  have hne : (g.reachable tail head origin maxDepth).Pairwise fun a b => a.1 ≠ b.1 :=
    List.pairwise_map.mp (nodup_reachable g tail head origin maxDepth)
  have hsorted : (g.reachable tail head origin maxDepth).Pairwise fun a b =>
      (decide (a.2 < b.2) || (a.2 = b.2 && decide (a.1 ≤ b.1))) = true := by
    unfold reachable
    split
    · exact .nil
    · exact List.pairwise_insertionSort _ _
  refine (hsorted.and hne).imp fun {a b} h => ?_
  refine nearer_iff.mpr (lt_of_le_of_ne (sorts_eq_true.mp h.1) fun heq => h.2 ?_)
  exact congrArg Prod.snd (toLex.injective heq)

/-- **A traversal depends on which different domains the edges join only.** -/
theorem reachable_congr_of_ne {g' : CouplingGraph}
    {tail' head' : CouplingRelation → ThermalDomainId}
    (h : ∀ a b, a ≠ b → (g'.Joins tail' head' a b ↔ g.Joins tail head a b)) :
    g'.reachable tail' head' origin maxDepth = g.reachable tail head origin maxDepth := by
  refine (pairwise_reachable _ _ _ _ _).eq_of_mem_iff (pairwise_reachable _ _ _ _ _) ?_
  rintro ⟨d, n⟩
  rw [mem_reachable_iff, mem_reachable_iff, distance_congr h]

theorem reachable_congr {g' : CouplingGraph} {tail' head' : CouplingRelation → ThermalDomainId}
    (h : g'.Joins tail' head' = g.Joins tail head) :
    g'.reachable tail' head' origin maxDepth = g.reachable tail head origin maxDepth :=
  reachable_congr_of_ne fun _ _ _ => by rw [h]

/-! ### Adding edges in another order -/

theorem perm_add {relation : CouplingRelation} (h : relation.id ∉ g.map CouplingRelation.id) :
    (g.add relation).Perm (g ++ [relation]) := by
  rw [add, replaceOrAppend_of_notMem h]
  exact List.perm_insertionSort _ _

/-- Edges of different ids are all there after they are added. -/
theorem perm_foldl_add {relations : List CouplingRelation} :
    ∀ g : CouplingGraph, ((g ++ relations).map CouplingRelation.id).Nodup →
      (relations.foldl add g).Perm (g ++ relations) := by
  induction relations with
  | nil =>
    intro g _
    rw [List.append_nil]
    exact .refl _
  | cons relation rest ih =>
    intro g hnodup
    have hsplit : g ++ relation :: rest = g ++ [relation] ++ rest := by
      rw [List.append_assoc, List.singleton_append]
    have hnew : relation.id ∉ g.map CouplingRelation.id := by
      intro hmem
      rw [List.map_append] at hnodup
      exact (List.nodup_append.mp hnodup).2.2 _ hmem _
        (List.mem_map_of_mem List.mem_cons_self) rfl
    have hperm : (g.add relation ++ rest).Perm (g ++ relation :: rest) := by
      rw [hsplit]
      exact (perm_add hnew).append_right rest
    exact (ih (g.add relation) ((hperm.map _).nodup_iff.mpr hnodup)).trans hperm

theorem mem_foldl_add_iff {relations : List CouplingRelation}
    (hnodup : (relations.map CouplingRelation.id).Nodup) (e : CouplingRelation) :
    e ∈ relations.foldl add [] ↔ e ∈ relations :=
  (perm_foldl_add [] hnodup).mem_iff

/-- What a traversal along a relation returns: each domain within the bound once, with its
distance, by distance and then by id. -/
structure Reaches (r : ThermalDomainId → ThermalDomainId → Prop) (origin : ThermalDomainId)
    (maxDepth : Nat) (result : List (ThermalDomainId × Nat)) : Prop where
  mem_iff : ∀ d n, (d, n) ∈ result ↔ d ≠ origin ∧ Distance r origin n d ∧ 1 ≤ n ∧ n ≤ maxDepth
  once : (result.map Prod.fst).Nodup
  sorted : result.Pairwise nearer

theorem reaches_reachable (g : CouplingGraph) (tail head : CouplingRelation → ThermalDomainId)
    (origin : ThermalDomainId) (maxDepth : Nat) :
    Reaches (g.Joins tail head) origin maxDepth (g.reachable tail head origin maxDepth) :=
  ⟨fun _ _ => mem_reachable_iff, nodup_reachable _ _ _ _ _, pairwise_reachable _ _ _ _ _⟩

/-- The frontier is empty after the rounds that the traversal makes, or any more. -/
def Finishes (g : CouplingGraph) (tail head : CouplingRelation → ThermalDomainId)
    (origin : ThermalDomainId) (maxDepth : Nat) : Prop :=
  ∀ rounds, g.length + 1 ≤ rounds →
    ((g.searchRound tail head maxDepth)^[rounds] (.start origin)).frontier = [] ∧
    ((g.searchRound tail head maxDepth)^[rounds] (.start origin)).best =
      g.search tail head maxDepth (g.length + 1) (.start origin)

theorem finishes (g : CouplingGraph) (tail head : CouplingRelation → ThermalDomainId)
    (origin : ThermalDomainId) (maxDepth : Nat) : g.Finishes tail head origin maxDepth := by
  have hkeeps : (Search.start origin).Keeps g tail head origin maxDepth 0 nothing := keeps_start
  intro rounds hrounds
  refine ⟨(keeps_iterate rounds _ 0 hkeeps (work_start_le.trans hrounds)).2, ?_⟩
  obtain ⟨more, rfl⟩ := Nat.exists_eq_add_of_le' hrounds
  rw [search_eq_iterate, Function.iterate_add_apply,
    iterate_searchRound_of_nil (keeps_iterate _ _ 0 hkeeps work_start_le).2]

/-- **The traversals are breadth-first reachability.**  They end; what they return is the
domains within the bound at their distances, along the edges and against them; neither depends
on the order of the edges, or of adding them; and each is the other seen from the far end. -/
theorem traversals_exact (g : CouplingGraph) :
    (∀ origin maxDepth,
      g.Finishes CouplingRelation.source CouplingRelation.destination origin maxDepth ∧
      g.Finishes CouplingRelation.destination CouplingRelation.source origin maxDepth) ∧
    (∀ origin maxDepth, Reaches g.Heats origin maxDepth (g.reachableFrom origin maxDepth)) ∧
    (∀ origin maxDepth,
      Reaches (Function.swap g.Heats) origin maxDepth (g.incomingReachable origin maxDepth)) ∧
    (∀ origin d n maxDepth, (d, n) ∈ g.reachableFrom origin maxDepth ↔
      (origin, n) ∈ g.incomingReachable d maxDepth) ∧
    (∀ g' : CouplingGraph, (∀ e, e ∈ g' ↔ e ∈ g) →
      g'.reachableFrom = g.reachableFrom ∧ g'.incomingReachable = g.incomingReachable) ∧
    (∀ added added' : List CouplingRelation, (added.map CouplingRelation.id).Nodup →
      added.Perm added' →
      (added'.foldl add []).reachableFrom = (added.foldl add []).reachableFrom ∧
      (added'.foldl add []).incomingReachable = (added.foldl add []).incomingReachable) := by
  have hincoming : ∀ origin maxDepth, Reaches (Function.swap g.Heats) origin maxDepth
      (g.incomingReachable origin maxDepth) := by
    intro origin maxDepth
    rw [Heats, ← joins_swap]
    exact reaches_reachable _ _ _ _ _
  have hsame : ∀ g g' : CouplingGraph, (∀ e, e ∈ g' ↔ e ∈ g) →
      g'.reachableFrom = g.reachableFrom ∧ g'.incomingReachable = g.incomingReachable := by
    intro g g' h
    constructor
    · funext origin maxDepth
      exact reachable_congr (joins_congr h)
    · funext origin maxDepth
      exact reachable_congr (joins_congr h)
  refine ⟨fun origin maxDepth => ⟨finishes _ _ _ _ _, finishes _ _ _ _ _⟩,
    fun origin maxDepth => reaches_reachable _ _ _ _ _, hincoming, ?_, hsame g, ?_⟩
  · intro origin d n maxDepth
    rw [(hincoming d maxDepth).mem_iff, distance_swap_iff, reachableFrom, mem_reachable_iff]
    exact and_congr_left' ne_comm
  · intro added added' hnodup hperm
    refine hsame _ _ fun e => ?_
    rw [mem_foldl_add_iff hnodup, mem_foldl_add_iff ((hperm.map _).nodup_iff.mp hnodup)]
    exact hperm.symm.mem_iff

end CouplingGraph

end ThermalGovernor
