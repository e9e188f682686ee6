import Mathlib.Algebra.Order.Group.Multiset

/-!
# Slots

A list of slots, each of which is empty or holds one thing.  `contents` is what they hold
together.  A thing is put in a new slot (`contents_append`), taken out of its slot
(`contents_take`) or put in an empty one (`contents_put`).
-/

namespace ThermalGovernor.Lib

variable {α : Type}

/-- What the slots hold. -/
def contents (slots : List (Option α)) : Multiset α := ↑(slots.filterMap id)

variable {slots : List (Option α)} {i : Nat} {a : α}

theorem contents_cons (slot : Option α) (slots : List (Option α)) :
    contents (slot :: slots) = slot.toList + contents slots := by
  cases slot <;> rfl

theorem contents_append (slots : List (Option α)) (slot : Option α) :
    contents (slots ++ [slot]) = contents slots + slot.toList := by
  unfold contents
  rw [List.filterMap_append, ← Multiset.coe_add]
  cases slot <;> rfl

/-- A full slot is emptied. -/
theorem contents_take (h : slots[i]? = some (some a)) :
    contents slots = a ::ₘ contents (slots.set i none) := by
  induction slots generalizing i with
  | nil => cases h
  | cons slot rest ih =>
    cases i with
    | zero =>
      obtain rfl := Option.some.inj h
      rfl
    | succ i =>
      rw [List.set_cons_succ, contents_cons, contents_cons, ih h, Multiset.add_cons]

/-- An empty slot is filled. -/
theorem contents_put (h : slots[i]? = some none) :
    contents (slots.set i (some a)) = a ::ₘ contents slots := by
  induction slots generalizing i with
  | nil => cases h
  | cons slot rest ih =>
    cases i with
    | zero =>
      obtain rfl := Option.some.inj h
      rfl
    | succ i =>
      rw [List.set_cons_succ, contents_cons, contents_cons, ih h, Multiset.add_cons]

/-- A slot is set to what it holds. -/
theorem set_of_getElem? {slot : Option α} (h : slots[i]? = some slot) :
    slots.set i slot = slots := by
  obtain ⟨hi, rfl⟩ := List.getElem?_eq_some_iff.mp h
  exact List.set_getElem_self hi

end ThermalGovernor.Lib
