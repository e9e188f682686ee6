import Mathlib.Data.List.Basic

/-!
# The first entry of a key

A list of entries that are looked up by key from the front, and changed where they are found.
An entry behind another one of its key is never found, so it stays as it was put there.
`Covered` says so, with `Bare` for what an entry is when it is put there; then every entry that
is no longer bare is the one that is found (`firstWith_of_mem`).
-/

namespace ThermalGovernor.Lib

variable {α κ : Type} [DecidableEq κ] (key : α → κ)

/-- The first entry of a key. -/
def firstWith (k : κ) (list : List α) : Option α := list.find? fun a => key a = k

/-- The list with the first entry of a key changed. -/
def changeFirst (k : κ) (change : α → α) : List α → List α
  | [] => []
  | a :: rest => if key a = k then change a :: rest else a :: changeFirst k change rest

/-- An entry behind another one of its key is bare. -/
def Covered (Bare : α → Prop) (list : List α) : Prop :=
  list.Pairwise fun a b => key a = key b → Bare b

variable {key} {k : κ} {change : α → α} {list : List α} {Bare : α → Prop} {a b : α}

theorem mem_of_firstWith (h : firstWith key k list = some a) : a ∈ list :=
  List.mem_of_find?_eq_some h

/-- What is in the list after a change was there before, or is what was changed. -/
theorem mem_changeFirst (h : b ∈ changeFirst key k change list) :
    b ∈ list ∨ ∃ a ∈ list, key a = k ∧ b = change a := by
  induction list with
  | nil => exact .inl h
  | cons a rest ih =>
    unfold changeFirst at h
    by_cases hkey : key a = k
    · rw [if_pos hkey] at h
      rcases List.mem_cons.mp h with rfl | hrest
      · exact .inr ⟨a, List.mem_cons_self, hkey, rfl⟩
      · exact .inl (List.mem_cons_of_mem a hrest)
    · rw [if_neg hkey] at h
      rcases List.mem_cons.mp h with rfl | hrest
      · exact .inl List.mem_cons_self
      · rcases ih hrest with hmem | ⟨c, hc, hck, rfl⟩
        · exact .inl (List.mem_cons_of_mem a hmem)
        · exact .inr ⟨c, List.mem_cons_of_mem a hc, hck, rfl⟩

/-- **An entry that is not bare is the one that is found.** -/
theorem firstWith_of_mem (h : Covered key Bare list) (hmem : a ∈ list) (hbare : ¬ Bare a) :
    firstWith key (key a) list = some a := by
  induction list with
  | nil => cases hmem
  | cons b rest ih =>
    obtain ⟨hfront, hrest⟩ := List.pairwise_cons.mp h
    rcases List.mem_cons.mp hmem with rfl | hbehind
    · exact List.find?_cons_of_pos (by simp)
    · have hkey : key b ≠ key a := fun heq => hbare (hfront a hbehind heq)
      rw [firstWith, List.find?_cons_of_neg (by simpa using hkey)]
      exact ih hrest hbehind

omit [DecidableEq κ] in
/-- A bare entry is put at the end. -/
theorem Covered.append (h : Covered key Bare list) (hbare : Bare a) :
    Covered key Bare (list ++ [a]) := by
  refine List.pairwise_append.mpr ⟨h, List.pairwise_singleton _ a, ?_⟩
  intro b _ c hc _
  rw [List.mem_singleton.mp hc]
  exact hbare

/-- The first entry of a key is changed, and keeps its key. -/
theorem Covered.changeFirst (h : Covered key Bare list) (hkeeps : ∀ a, key (change a) = key a) :
    Covered key Bare (changeFirst key k change list) := by
  induction list with
  | nil => exact h
  | cons a rest ih =>
    obtain ⟨hfront, hrest⟩ := List.pairwise_cons.mp h
    unfold Lib.changeFirst
    by_cases hkey : key a = k
    · rw [if_pos hkey]
      refine List.pairwise_cons.mpr ⟨fun b hb heq => hfront b hb ?_, hrest⟩
      rw [← heq, hkeeps]
    · rw [if_neg hkey]
      refine List.pairwise_cons.mpr ⟨fun b hb heq => ?_, ih hrest⟩
      rcases mem_changeFirst hb with hmem | ⟨c, -, hck, rfl⟩
      · exact hfront b hmem heq
      · exact absurd (heq.trans ((hkeeps c).trans hck)) hkey

end ThermalGovernor.Lib
