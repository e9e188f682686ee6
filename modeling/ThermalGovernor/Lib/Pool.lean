import Mathlib.Logic.Hydra
import Mathlib.Data.List.Perm.Basic

/-!
# Pools of threads

The threads of a pool move one at a time: `OneMoves r` relates a list to one in which a single
item has gone down along `r`.  Where `r` is well founded such moves come to an end
(`wellFounded_oneMoves`), whatever the order they are made in.

A sequence that from some time on goes down or stays comes to rest (`exists_rest`).
-/

namespace ThermalGovernor.Lib

variable {α : Type*} {r : α → α → Prop}

/-- One item has moved down, and the others are as they were. -/
def OneMoves (r : α → α → Prop) (after before : List α) : Prop :=
  ∃ i a b, before[i]? = some a ∧ r b a ∧ after = before.set i b

/-- As bags of items, the one is the other with an item cut out and a smaller one put in. -/
theorem cutExpand_of_oneMoves {after before : List α} (h : OneMoves r after before) :
    Relation.CutExpand r (after : Multiset α) before := by
  obtain ⟨i, a, b, ha, hb, rfl⟩ := h
  obtain ⟨hi, rfl⟩ := List.getElem?_eq_some_iff.mp ha
  refine ⟨{b}, before[i], fun c hc => Multiset.mem_singleton.mp hc ▸ hb, ?_⟩
  have hset : (before.set i b : Multiset α) = b ::ₘ (before.eraseIdx i : Multiset α) :=
    Multiset.coe_eq_coe.mpr (List.set_perm_cons_eraseIdx hi b)
  have hbefore : (before : Multiset α) = before[i] ::ₘ (before.eraseIdx i : Multiset α) :=
    (Multiset.coe_eq_coe.mpr (List.getElem_cons_eraseIdx_perm hi)).symm
  rw [hset, Multiset.cons_add, Multiset.add_comm, Multiset.singleton_add, hbefore,
    Multiset.cons_add, Multiset.add_comm, Multiset.singleton_add, Multiset.cons_swap]

/-- **The moves of a pool come to an end.** -/
theorem wellFounded_oneMoves (hr : WellFounded r) : WellFounded (OneMoves r) :=
  Subrelation.wf cutExpand_of_oneMoves (InvImage.wf _ hr.cutExpand)

/-- **What goes down or stays comes to rest.** -/
theorem exists_rest (hr : WellFounded r) {f : Nat → α} {n : Nat}
    (h : ∀ m, n ≤ m → f (m + 1) = f m ∨ r (f (m + 1)) (f m)) :
    ∃ N, n ≤ N ∧ ∀ m, N ≤ m → f m = f N := by
  obtain ⟨_, ⟨N, hN, rfl⟩, hmin⟩ := hr.has_min (f '' { m | n ≤ m }) ⟨f n, n, le_refl n, rfl⟩
  refine ⟨N, hN, fun m hm => ?_⟩
  induction m, hm using Nat.le_induction with
  | base => rfl
  | succ m hm ih =>
    have hlater : n ≤ m := hN.trans hm
    rcases h m hlater with hsame | hdown
    · exact hsame.trans ih
    · exact absurd (ih ▸ hdown) (hmin _ ⟨m + 1, Nat.le_succ_of_le hlater, rfl⟩)

end ThermalGovernor.Lib
