import Mathlib.Data.Finset.Lattice.Fold
import Mathlib.Data.Fintype.Order
import Mathlib.Logic.Relation
import Mathlib.Order.WellFounded

/-!
# Sweeps over a finite graph

A sweep visits the nodes of a finite graph in increasing order and decides anew for each of
them whether it is marked, looking at the nodes it reads: those before it as this sweep has
left them, those after it as the last one has.  An eager node is marked by any marked node
it reads.  A node that is not eager only stays marked, and then because it reads a marked
node, or because it has no way out.

`exists_clear` says when the marks die out: when no cycle can be reached from a mark that
is handed down the order, and every node a mark can come to has a way out.
-/

namespace ThermalGovernor.Lib

open Relation

variable {α : Type*} [LinearOrder α]

/-- A graph before the first sweep. -/
structure Marking (α : Type*) where
  /-- The second node reads the first. -/
  reads : α → α → Prop
  /-- The node is marked by any marked node it reads. -/
  eager : α → Prop
  marked : α → Prop

namespace Marking

variable (m : Marking α)

/-- A mark passes from the first node to the second. -/
def Passes (n a : α) : Prop := m.reads n a ∧ (m.eager a ∨ m.marked a)

/-- A mark is handed down the order and comes to the node from there. -/
def Reaches (a : α) : Prop :=
  ∃ x y, m.marked x ∧ m.Passes x y ∧ y < x ∧ ReflTransGen m.Passes y a

/-- Where a mark can be after some sweep. -/
def Exposed (a : α) : Prop := m.marked a ∨ m.Reaches a

end Marking

/-- Which node is marked after which sweep. -/
structure Sweeps (m : Marking α) (wayOut : α → Prop) (marked : ℕ → α → Prop) : Prop where
  start : ∀ a, marked 0 a → m.marked a
  step : ∀ k a, marked (k + 1) a →
    (m.eager a ∧ ∃ n, m.reads n a ∧ (n < a ∧ marked (k + 1) n ∨ a < n ∧ marked k n)) ∨
    (marked k a ∧ ¬ wayOut a) ∨
    (marked k a ∧ ∃ n, m.reads n a ∧ (n < a ∧ marked (k + 1) n ∨ a < n ∧ marked k n))

variable {m : Marking α} {wayOut : α → Prop} {marked : ℕ → α → Prop}

theorem Marking.Reaches.passes {n a : α} (h : m.Reaches n) (hpass : m.Passes n a) :
    m.Reaches a := by
  obtain ⟨x, y, hx, hxy, hlt, hreach⟩ := h
  exact ⟨x, y, hx, hxy, hlt, hreach.tail hpass⟩

namespace Sweeps

/-- **Every mark after a sweep was passed on by another.** -/
theorem passed_of_marked [WellFoundedLT α] (h : Sweeps m wayOut marked)
    (hout : ∀ a, m.Exposed a → wayOut a) :
    ∀ k a, marked (k + 1) a → m.Reaches a ∧ (m.eager a ∨ m.marked a) ∧
      ∃ n, m.Passes n a ∧ (n < a ∧ marked (k + 1) n ∨ a < n ∧ marked k n) := by
  intro k
  induction k with
  | zero =>
    intro a
    induction a using WellFoundedLT.induction with
    | ind a ih =>
      intro ha
      -- whichever way it is marked, the mark came along an edge
      have hedge : ∀ n, m.Passes n a → (n < a ∧ marked 1 n ∨ a < n ∧ marked 0 n) →
          m.Reaches a := by
        rintro n hpass (⟨hlt, hn⟩ | ⟨hlt, hn⟩)
        · exact (ih n hlt hn).1.passes hpass
        · exact ⟨n, a, h.start n hn, hpass, hlt, .refl⟩
      rcases h.step 0 a ha with ⟨heager, n, hreads, hn⟩ | ⟨hheld, hno⟩ | ⟨hheld, n, hreads, hn⟩
      · exact ⟨hedge n ⟨hreads, .inl heager⟩ hn, .inl heager, n, ⟨hreads, .inl heager⟩, hn⟩
      · exact absurd (hout a (.inl (h.start a hheld))) hno
      · have hopen : m.eager a ∨ m.marked a := .inr (h.start a hheld)
        exact ⟨hedge n ⟨hreads, hopen⟩ hn, hopen, n, ⟨hreads, hopen⟩, hn⟩
  | succ k ihk =>
    intro a
    induction a using WellFoundedLT.induction with
    | ind a ih =>
      intro ha
      have hedge : ∀ n, m.Passes n a →
          (n < a ∧ marked (k + 1 + 1) n ∨ a < n ∧ marked (k + 1) n) → m.Reaches a := by
        rintro n hpass (⟨hlt, hn⟩ | ⟨hlt, hn⟩)
        · exact (ih n hlt hn).1.passes hpass
        · exact (ihk n hn).1.passes hpass
      rcases h.step (k + 1) a ha with
        ⟨heager, n, hreads, hn⟩ | ⟨hheld, hno⟩ | ⟨hheld, n, hreads, hn⟩
      · exact ⟨hedge n ⟨hreads, .inl heager⟩ hn, .inl heager, n, ⟨hreads, .inl heager⟩, hn⟩
      · exact absurd (hout a (.inr (ihk a hheld).1)) hno
      · have hopen := (ihk a hheld).2.1
        exact ⟨hedge n ⟨hreads, hopen⟩ hn, hopen, n, ⟨hreads, hopen⟩, hn⟩

/-- **The marks die out when none that is handed down the order comes to a cycle, and every
node they can come to has a way out.** -/
theorem exists_clear [WellFoundedLT α] (h : Sweeps m wayOut marked) (nodes : Finset α)
    (hnodes : ∀ k a, marked k a → a ∈ nodes) (hout : ∀ a, m.Exposed a → wayOut a)
    (hacyclic : ∀ a, m.Reaches a → ¬ TransGen m.Passes a a) :
    ∃ bound, ∀ k, bound ≤ k → ∀ a, ¬ marked k a := by
  have hpassed := h.passed_of_marked hout
  -- what is passed on between reached nodes has no cycle, so it is well founded
  let before : nodes → nodes → Prop := fun n a => m.Reaches n ∧ TransGen m.Passes (n : α) (a : α)
  have hwf : WellFounded before := by
    have : IsTrans nodes before := ⟨fun _ _ _ h h' => ⟨h.1, h.2.trans h'.2⟩⟩
    have : Std.Irrefl before := ⟨fun a h => hacyclic a h.1 h.2⟩
    exact Finite.wellFounded_of_trans_of_irrefl before
  have hnode : ∀ a : nodes, ∃ bound, ∀ k, bound ≤ k → ¬ marked k a := by
    intro a
    induction a using hwf.induction with
    | _ a ih =>
      have hbounds : ∀ n : nodes, ∃ bound, before n a → ∀ k, bound ≤ k → ¬ marked k n := by
        intro n
        by_cases hn : before n a
        · obtain ⟨bound, hbound⟩ := ih n hn
          exact ⟨bound, fun _ => hbound⟩
        · exact ⟨0, fun h => absurd h hn⟩
      choose bound hbound using hbounds
      refine ⟨(Finset.univ.sup bound) + 2, fun k hk ha => ?_⟩
      obtain ⟨j, rfl⟩ : ∃ j, k = j + 1 + 1 := ⟨k - 2, by omega⟩
      obtain ⟨n, hpass, hn⟩ := (hpassed (j + 1) a ha).2.2
      have hmem : n ∈ nodes := by
        rcases hn with ⟨-, hn⟩ | ⟨-, hn⟩
        · exact hnodes _ n hn
        · exact hnodes _ n hn
      have hle : bound ⟨n, hmem⟩ ≤ Finset.univ.sup bound := Finset.le_sup (Finset.mem_univ _)
      have hreaches : m.Reaches n := by
        rcases hn with ⟨-, hn⟩ | ⟨-, hn⟩
        · exact (hpassed (j + 1) n hn).1
        · exact (hpassed j n hn).1
      have hclear := hbound ⟨n, hmem⟩ ⟨hreaches, .single hpass⟩
      rcases hn with ⟨-, hn⟩ | ⟨-, hn⟩
      · exact hclear (j + 1 + 1) (by omega) hn
      · exact hclear (j + 1) (by omega) hn
  choose bound hbound using hnode
  refine ⟨Finset.univ.sup bound, fun k hk a ha => ?_⟩
  have hmem := hnodes k a ha
  have hle : bound ⟨a, hmem⟩ ≤ Finset.univ.sup bound := Finset.le_sup (Finset.mem_univ _)
  exact hbound ⟨a, hmem⟩ k (hle.trans hk) ha

end Sweeps

end ThermalGovernor.Lib
