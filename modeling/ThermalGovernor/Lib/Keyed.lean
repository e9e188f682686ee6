import Mathlib.Data.List.Sort
import Mathlib.Logic.Function.Basic

/-!
# Keyed lists

A list with at most one entry a key holds the entries of a map from keys to entries
(`Holds`).  To replace the entry of a key, or to drop it, is to update the map
(`Holds.replaced`, `Holds.dropped`).  If the list is strictly sorted as well, the map
determines it (`Holds.eq_of_sorted`).
-/

namespace ThermalGovernor.Lib

variable {ε κ : Type} {key : ε → κ} {m : κ → Option ε} {l l' : List ε}

/-- The list has the entries of the map, one a key. -/
structure Holds (key : ε → κ) (m : κ → Option ε) (l : List ε) : Prop where
  unique : (l.map key).Nodup
  mem_iff : ∀ e, e ∈ l ↔ m (key e) = some e

theorem holds_nil : Holds key (fun _ => none) [] where
  unique := .nil
  mem_iff _ := iff_of_false List.not_mem_nil (nomatch ·)

namespace Holds

/-- The order of the list does not matter. -/
theorem perm (h : Holds key m l) (hperm : l'.Perm l) : Holds key m l' where
  unique := (hperm.map key).nodup_iff.mpr h.unique
  mem_iff e := hperm.mem_iff.trans (h.mem_iff e)

theorem dropped [DecidableEq κ] (h : Holds key m l) (k : κ) :
    Holds key (Function.update m k none) (l.filter fun e => key e ≠ k) where
  unique := h.unique.sublist (List.filter_sublist.map key)
  mem_iff e := by
    rw [List.mem_filter, decide_eq_true_eq, h.mem_iff]
    by_cases hkey : key e = k
    · rw [hkey, Function.update_self]
      exact iff_of_false (fun hmem => hmem.2 rfl) (nomatch ·)
    · rw [Function.update_of_ne hkey]
      exact and_iff_left hkey

theorem replaced [DecidableEq κ] (h : Holds key m l) (e : ε) :
    Holds key (Function.update m (key e) (some e))
      (e :: l.filter fun x => key x ≠ key e) where
  unique := by
    refine List.nodup_cons.mpr ⟨fun hmem => ?_, (h.dropped (key e)).unique⟩
    obtain ⟨x, hx, hkey⟩ := List.mem_map.mp hmem
    exact of_decide_eq_true (List.mem_filter.mp hx).2 hkey
  mem_iff x := by
    rw [List.mem_cons, (h.dropped (key e)).mem_iff]
    by_cases hkey : key x = key e
    · rw [hkey, Function.update_self, Function.update_self, Option.some_inj]
      exact (or_iff_left (nomatch ·)).trans eq_comm
    · rw [Function.update_of_ne hkey, Function.update_of_ne hkey]
      exact or_iff_right fun hx => hkey (congrArg key hx)

/-- **A strictly sorted list is determined by the map it holds.** -/
theorem eq_of_sorted {lt : ε → ε → Prop} (hasymm : ∀ a b, lt a b → ¬ lt b a)
    (h : Holds key m l) (h' : Holds key m l') (hsorted : l.Pairwise lt)
    (hsorted' : l'.Pairwise lt) : l = l' := by
  have hsame : ∀ e, e ∈ l ↔ e ∈ l' := fun e => (h.mem_iff e).trans (h'.mem_iff e).symm
  have hperm := (List.perm_ext_iff_of_nodup (h.unique.of_map key) (h'.unique.of_map key)).mpr hsame
  exact hperm.eq_of_pairwise (fun a b _ _ hab hba => absurd hba (hasymm a b hab)) hsorted hsorted'

end Holds

end ThermalGovernor.Lib
