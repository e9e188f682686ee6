import Mathlib.Data.List.Basic
import Mathlib.Order.Nat

/-!
# Breadth-first search

`Walk r a n b` is a walk of `n` edges from `a` to `b`, `Distance r a n b` says that none is
shorter.  A search from `o` within `k` steps keeps how far away it has found each vertex to be
(`best`) and a queue of the vertices it still has to expand.

`Searching` is what holds all along.  While one vertex is expanded, `todo` has the edges out of
it that are still to follow.  The queue is ordered by depth, and nothing is found more than one
level below its head, so a vertex is found at its distance the first time and never again.
When the queue is empty, what was found is exactly what is within `k` steps, each at its
distance (`Searching.found_iff`).
-/

namespace ThermalGovernor.Lib

variable {α : Type*} {r : α → α → Prop} {a b c o : α}

/-- A walk along the edges, with the number of them. -/
inductive Walk (r : α → α → Prop) (a : α) : ℕ → α → Prop
  | nil : Walk r a 0 a
  | snoc {n : ℕ} {b c : α} (h : Walk r a n b) (hstep : r b c) : Walk r a (n + 1) c

/-- The length of the shortest walks. -/
def Distance (r : α → α → Prop) (a : α) (n : ℕ) (b : α) : Prop :=
  Walk r a n b ∧ ∀ m, Walk r a m b → n ≤ m

namespace Walk

theorem cons {n : ℕ} (hstep : r a b) (h : Walk r b n c) : Walk r a (n + 1) c := by
  induction h with
  | nil => exact .snoc .nil hstep
  | snoc _ hlast ih => exact .snoc ih hlast

theorem swap {n : ℕ} (h : Walk r a n b) : Walk (Function.swap r) b n a := by
  induction h with
  | nil => exact .nil
  | snoc _ hstep ih => exact .cons hstep ih

theorem swap_iff {n : ℕ} : Walk (Function.swap r) b n a ↔ Walk r a n b :=
  ⟨fun h => h.swap, fun h => h.swap⟩

end Walk

/-- The distance is the same on the reversed graph. -/
theorem distance_swap_iff {n : ℕ} : Distance (Function.swap r) b n a ↔ Distance r a n b := by
  unfold Distance
  simp only [Walk.swap_iff]

/-- Steps that stay where they are can be left out of a walk. -/
theorem Walk.exists_le_of_ne {r' : α → α → Prop} (h : ∀ v w, v ≠ w → r v w → r' v w) {n : ℕ}
    (hwalk : Walk r a n b) : ∃ m, m ≤ n ∧ Walk r' a m b := by
  induction hwalk with
  | nil => exact ⟨0, le_rfl, .nil⟩
  | @snoc n v w _ hstep ih =>
    obtain ⟨m, hm, hwalk⟩ := ih
    by_cases hsame : v = w
    · exact ⟨m, Nat.le_succ_of_le hm, hsame ▸ hwalk⟩
    · exact ⟨m + 1, Nat.succ_le_succ hm, .snoc hwalk (h v w hsame hstep)⟩

theorem Distance.of_ne {r' : α → α → Prop} (h : ∀ v w, v ≠ w → (r v w ↔ r' v w)) {n : ℕ}
    (hdistance : Distance r a n b) : Distance r' a n b := by
  have hshort : ∀ m, Walk r' a m b → n ≤ m := by
    intro m hwalk
    obtain ⟨k, hk, hback⟩ := hwalk.exists_le_of_ne fun v w hne => (h v w hne).mpr
    exact (hdistance.2 k hback).trans hk
  obtain ⟨m, hm, hwalk⟩ := hdistance.1.exists_le_of_ne fun v w hne => (h v w hne).mp
  exact ⟨Nat.le_antisymm hm (hshort m hwalk) ▸ hwalk, hshort⟩

/-- **Distances depend on the edges between different vertices only.** -/
theorem distance_congr {r' : α → α → Prop} (h : ∀ v w, v ≠ w → (r v w ↔ r' v w)) {n : ℕ} :
    Distance r a n b ↔ Distance r' a n b :=
  ⟨fun hdistance => hdistance.of_ne h,
    fun hdistance => hdistance.of_ne fun v w hne => (h v w hne).symm⟩

theorem Distance.unique {m n : ℕ} (h : Distance r a m b) (h' : Distance r a n b) : m = n :=
  Nat.le_antisymm (h.2 n h'.1) (h'.2 m h.1)

/-- A different vertex is at distance one exactly at the other end of an edge. -/
theorem distance_one_iff (hne : b ≠ a) : Distance r a 1 b ↔ r a b := by
  constructor
  · rintro ⟨hwalk, -⟩
    cases hwalk with
    | snoc hnil hstep =>
      cases hnil
      exact hstep
  · refine fun hstep => ⟨.snoc .nil hstep, fun m hwalk => ?_⟩
    cases hwalk with
    | nil => exact absurd rfl hne
    | snoc _ _ => exact Nat.le_add_left 1 _

theorem distance_zero_iff : Distance r a 0 b ↔ b = a := by
  constructor
  · rintro ⟨hwalk, -⟩
    cases hwalk
    rfl
  · rintro rfl
    exact ⟨.nil, fun m _ => Nat.zero_le m⟩

/-- What a search from `o` within `k` steps keeps, `d` being the depth it is at. -/
structure Searching (r : α → α → Prop) (o : α) (k d : ℕ) (todo : α → α → Prop)
    (best : α → Option ℕ) (queue : List (α × ℕ)) : Prop where
  origin : best o = some 0
  sound : ∀ v n, best v = some n → Walk r o n v
  within : ∀ v n, best v = some n → n ≤ k
  queued : ∀ v n, (v, n) ∈ queue → best v = some n
  ordered : queue.Pairwise fun e e' => e.2 ≤ e'.2
  above : ∀ e ∈ queue, d ≤ e.2
  level : ∀ v n, best v = some n → n ≤ d + 1
  closed : ∀ v n w, best v = some n → n < k → r v w →
    (v, n) ∈ queue ∨ todo v w ∨ ∃ m, best w = some m ∧ m ≤ n + 1

/-- No edge is still to follow. -/
def nothing : α → α → Prop := fun _ _ => False

namespace Searching

variable {k d n : ℕ} {todo todo' : α → α → Prop} {best : α → Option ℕ} {queue : List (α × ℕ)}

theorem start [DecidableEq α] (r : α → α → Prop) (o : α) (k : ℕ) :
    Searching r o k 0 nothing (fun v => if v = o then some 0 else none) [(o, 0)] where
  origin := if_pos rfl
  sound v n hv := by
    split at hv
    · rename_i heq
      obtain rfl := Option.some.inj hv
      exact heq ▸ .nil
    · cases hv
  within v n hv := by
    split at hv
    · exact Option.some.inj hv ▸ Nat.zero_le k
    · cases hv
  queued v n hmem := by
    obtain ⟨rfl, rfl⟩ := Prod.mk.inj (List.mem_singleton.mp hmem)
    exact if_pos rfl
  ordered := List.pairwise_singleton _ _
  above e _ := Nat.zero_le _
  level v n hv := by
    split at hv
    · exact Option.some.inj hv ▸ Nat.zero_le _
    · cases hv
  closed v n w hv _ _ := by
    split at hv
    · rename_i heq
      obtain rfl := Option.some.inj hv
      exact .inl (heq ▸ List.mem_singleton_self _)
    · cases hv

/-- It still holds with more edges to follow. -/
theorem weaken (h : Searching r o k d todo best queue) (hsub : ∀ v w, todo v w → todo' v w) :
    Searching r o k d todo' best queue :=
  { h with closed := fun v n w hv hn hstep =>
      (h.closed v n w hv hn hstep).imp_right (Or.imp_left (hsub v w)) }

/-- A vertex at the bound is taken off the queue and not expanded. -/
theorem skip (h : Searching r o k d nothing best ((c, n) :: queue)) (hn : k ≤ n) :
    Searching r o k d nothing best queue where
  origin := h.origin
  sound := h.sound
  within := h.within
  queued v m hmem := h.queued v m (List.mem_cons_of_mem _ hmem)
  ordered := (List.pairwise_cons.mp h.ordered).2
  above e he := h.above e (List.mem_cons_of_mem _ he)
  level := h.level
  closed v m w hv hm hstep := by
    rcases h.closed v m w hv hm hstep with hmem | hrest
    · rcases List.mem_cons.mp hmem with heq | hmem
      · obtain ⟨rfl, rfl⟩ := Prod.mk.inj heq
        exact absurd hm (Nat.not_lt.mpr hn)
      · exact .inl hmem
    · exact .inr hrest

/-- A vertex is taken off the queue, and all edges out of it are to follow. -/
theorem expand (h : Searching r o k d nothing best ((c, n) :: queue))
    (htodo : ∀ w, r c w → todo c w) : Searching r o k n todo best queue where
  origin := h.origin
  sound := h.sound
  within := h.within
  queued v m hmem := h.queued v m (List.mem_cons_of_mem _ hmem)
  ordered := (List.pairwise_cons.mp h.ordered).2
  above := (List.pairwise_cons.mp h.ordered).1
  level v m hv := by
    have hle := h.level v m hv
    have hd := h.above (c, n) List.mem_cons_self
    omega
  closed v m w hv hm hstep := by
    rcases h.closed v m w hv hm hstep with hmem | hnone | hfound
    · rcases List.mem_cons.mp hmem with heq | hmem
      · obtain ⟨rfl, rfl⟩ := Prod.mk.inj heq
        exact .inr (.inl (htodo w hstep))
      · exact .inl hmem
    · exact hnone.elim
    · exact .inr (.inr hfound)

/-- The edge leads to a vertex found before, so at most one level below. -/
theorem known {m : ℕ} (h : Searching r o k d todo best queue) (hc : best c = some d)
    (hb : best b = some m) (htodo : ∀ v w, todo v w → todo' v w ∨ (v = c ∧ w = b)) :
    Searching r o k d todo' best queue where
  origin := h.origin
  sound := h.sound
  within := h.within
  queued := h.queued
  ordered := h.ordered
  above := h.above
  level := h.level
  closed v n w hv hn hstep := by
    rcases h.closed v n w hv hn hstep with hmem | hpending | hfound
    · exact .inl hmem
    · rcases htodo v w hpending with hpending | ⟨rfl, rfl⟩
      · exact .inr (.inl hpending)
      · obtain rfl := Option.some.inj (hc.symm.trans hv)
        exact .inr (.inr ⟨m, hb, h.level w m hb⟩)
    · exact .inr (.inr hfound)

/-- The edge leads to a vertex not found before, which is queued one level below. -/
theorem discover [DecidableEq α] (h : Searching r o k d todo best queue) (hc : best c = some d)
    (hd : d < k) (hstep : r c b) (hb : best b = none)
    (htodo : ∀ v w, todo v w → todo' v w ∨ (v = c ∧ w = b)) :
    Searching r o k d todo' (fun v => if v = b then some (d + 1) else best v)
      (queue ++ [(b, d + 1)]) where
  origin := by
    split
    · rename_i heq
      rw [← heq, h.origin] at hb
      cases hb
    · exact h.origin
  sound v n hv := by
    split at hv
    · rename_i heq
      obtain rfl := Option.some.inj hv
      exact heq ▸ .snoc (h.sound c d hc) hstep
    · exact h.sound v n hv
  within v n hv := by
    split at hv
    · exact Option.some.inj hv ▸ hd
    · exact h.within v n hv
  queued v n hmem := by
    rcases List.mem_append.mp hmem with hmem | hnew
    · have hv := h.queued v n hmem
      rw [if_neg]
      · exact hv
      · rintro rfl
        rw [hb] at hv
        cases hv
    · obtain ⟨rfl, rfl⟩ := Prod.mk.inj (List.mem_singleton.mp hnew)
      exact if_pos rfl
  ordered := by
    refine List.pairwise_append.mpr ⟨h.ordered, List.pairwise_singleton _ _, ?_⟩
    intro e he e' he'
    rw [List.mem_singleton.mp he']
    exact h.level e.1 e.2 (h.queued e.1 e.2 he)
  above e he := by
    rcases List.mem_append.mp he with he | hnew
    · exact h.above e he
    · rw [List.mem_singleton.mp hnew]
      exact Nat.le_succ d
  level v n hv := by
    split at hv
    · exact le_of_eq (Option.some.inj hv).symm
    · exact h.level v n hv
  closed v n w hv hn hstep := by
    -- the new vertex is in the queue; the others have what they had
    by_cases hvb : v = b
    · rw [if_pos hvb] at hv
      obtain rfl := Option.some.inj hv
      exact .inl (List.mem_append_right _ (hvb ▸ List.mem_singleton_self _))
    · rw [if_neg hvb] at hv
      by_cases hwb : w = b
      · rcases h.closed v n w hv hn hstep with hmem | hpending | ⟨m, hm, -⟩
        · exact .inl (List.mem_append_left _ hmem)
        · rcases htodo v w hpending with hpending | ⟨rfl, -⟩
          · exact .inr (.inl hpending)
          · obtain rfl := Option.some.inj (hc.symm.trans hv)
            exact .inr (.inr ⟨d + 1, if_pos hwb, le_rfl⟩)
        · rw [hwb, hb] at hm
          cases hm
      · rcases h.closed v n w hv hn hstep with hmem | hpending | ⟨m, hm, hle⟩
        · exact .inl (List.mem_append_left _ hmem)
        · rcases htodo v w hpending with hpending | ⟨-, rfl⟩
          · exact .inr (.inl hpending)
          · exact absurd rfl hwb
        · exact .inr (.inr ⟨m, (if_neg hwb).trans hm, hle⟩)

/-- With an empty queue every walk within the bound is followed. -/
theorem found_of_walk (h : Searching r o k d nothing best []) (hwalk : Walk r o n b) :
    n ≤ k → ∃ m, best b = some m ∧ m ≤ n := by
  induction hwalk with
  | nil => exact fun _ => ⟨0, h.origin, le_rfl⟩
  | @snoc n v w _ hstep ih =>
    intro hn
    obtain ⟨m, hv, hm⟩ := ih (Nat.le_of_succ_le hn)
    rcases h.closed v m w hv (by omega) hstep with hmem | hnone | ⟨m', hw, hm'⟩
    · cases hmem
    · exact hnone.elim
    · exact ⟨m', hw, by omega⟩

/-- **With an empty queue the search has found exactly the vertices within the bound, each at
its distance.** -/
theorem found_iff (h : Searching r o k d nothing best []) :
    best b = some n ↔ Distance r o n b ∧ n ≤ k := by
  constructor
  · intro hb
    refine ⟨⟨h.sound b n hb, fun m hwalk => ?_⟩, h.within b n hb⟩
    rcases Nat.le_total m k with hm | hm
    · obtain ⟨n', hb', hn'⟩ := h.found_of_walk hwalk hm
      obtain rfl := Option.some.inj (hb.symm.trans hb')
      exact hn'
    · exact (h.within b n hb).trans hm
  · rintro ⟨⟨hwalk, hleast⟩, hn⟩
    obtain ⟨m, hb, hm⟩ := h.found_of_walk hwalk hn
    rw [hb, Nat.le_antisymm hm (hleast m (h.sound b m hb))]

end Searching

end ThermalGovernor.Lib
