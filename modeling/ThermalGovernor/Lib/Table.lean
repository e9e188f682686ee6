import Mathlib.Data.Finset.Card
import Mathlib.Data.List.AList
import Mathlib.Data.List.Sort

/-!
# Finite tables

A `Table κ α` is Mathlib's association list without dependent values: a finite
map from keys to values, with one entry a key.  Mathlib has lookup, insertion
and erasure.  What is added here is what a store kept in such tables needs on
top of that: the number of entries, the keys in order, and `mapValues`, which
rewrites every value in place and changes no key.
-/

namespace ThermalGovernor.Lib

/-- A finite map with one entry a key. -/
abbrev Table (κ α : Type) : Type := AList (fun _ : κ => α)

namespace Table

variable {κ α β : Type}

/-- The number of entries. -/
def size (t : Table κ α) : Nat := t.entries.length

theorem size_eq_length_keys (t : Table κ α) : size t = t.keys.length := by
  simp [size, AList.keys, List.keys]

/-- The values, in the order of the entries. -/
def values (t : Table κ α) : List α := t.entries.map Sigma.snd

/-- Rewrite every value, keeping the keys. -/
def mapValues (f : κ → α → β) (t : Table κ α) : Table κ β :=
  ⟨t.entries.map fun e => ⟨e.1, f e.1 e.2⟩, by
    have h := t.nodupKeys
    simpa [List.NodupKeys, List.keys, Function.comp_def] using h⟩

variable [DecidableEq κ]

theorem mem_values {t : Table κ α} {a : α} : a ∈ values t ↔ ∃ k, t.lookup k = some a := by
  rw [values, List.mem_map]
  constructor
  · rintro ⟨⟨k, a⟩, hmem, rfl⟩
    exact ⟨k, AList.mem_lookup_iff.mpr hmem⟩
  · rintro ⟨k, hk⟩
    exact ⟨⟨k, a⟩, AList.mem_lookup_iff.mp hk, rfl⟩

@[simp] theorem lookup_mapValues (f : κ → α → β) (t : Table κ α) (k : κ) :
    (mapValues f t).lookup k = (t.lookup k).map (f k) := by
  obtain ⟨l, hl⟩ := t
  simp only [mapValues, AList.lookup]
  clear hl
  induction l with
  | nil => simp
  | cons e l ih =>
    obtain ⟨k', v⟩ := e
    by_cases hk : k' = k
    · subst hk; simp
    · rw [List.map_cons, List.dlookup_cons_ne _ _ (Ne.symm hk), ih,
        List.dlookup_cons_ne _ _ (Ne.symm hk)]

/-- Two lookups after an insertion: the new value at the new key, the old ones elsewhere. -/
theorem lookup_insert_eq_ite (t : Table κ α) (k k' : κ) (v : α) :
    (t.insert k v).lookup k' = if k' = k then some v else t.lookup k' := by
  by_cases h : k' = k
  · subst h; simp
  · simp [h, AList.lookup_insert_ne h]

theorem mem_iff_exists_lookup {t : Table κ α} {k : κ} : k ∈ t ↔ ∃ v, t.lookup k = some v := by
  rw [← AList.lookup_isSome, Option.isSome_iff_exists]

theorem mem_of_lookup {t : Table κ α} {k : κ} {v : α} (h : t.lookup k = some v) : k ∈ t :=
  mem_iff_exists_lookup.mpr ⟨v, h⟩

/-- A table has an entry for each key of any set of its keys. -/
theorem card_le_size {s : Finset κ} {t : Table κ α} (h : ∀ k ∈ s, k ∈ t) : s.card ≤ size t := by
  have hkeys : s ⊆ t.keys.toFinset := fun k hk => List.mem_toFinset.mpr (AList.mem_keys.mp (h k hk))
  calc s.card ≤ t.keys.toFinset.card := Finset.card_le_card hkeys
    _ ≤ t.keys.length := List.toFinset_card_le t.keys
    _ = size t := (size_eq_length_keys t).symm

/-- The keys of an ordered type, smallest first. -/
def sortedKeys (t : Table Nat α) : List Nat := t.keys.insertionSort (· ≤ ·)

/-- The values in the order of their keys. -/
def sortedValues (t : Table Nat α) : List α := (sortedKeys t).filterMap t.lookup

theorem mem_sortedKeys {t : Table Nat α} {k : Nat} :
    k ∈ sortedKeys t ↔ (t.lookup k).isSome = true := by
  rw [sortedKeys, List.mem_insertionSort, ← AList.mem_keys, ← AList.lookup_isSome]

/-- The keys, each once, in order. -/
theorem pairwise_sortedKeys (t : Table Nat α) : (sortedKeys t).Pairwise (· < ·) := by
  have hle : (sortedKeys t).Pairwise (· ≤ ·) := List.pairwise_insertionSort _ _
  have hnodup : (sortedKeys t).Nodup :=
    (List.perm_insertionSort _ _).nodup_iff.mpr (AList.keys_nodup t)
  exact (hle.and hnodup).imp fun h => lt_of_le_of_ne h.1 h.2

/-- Tables with the same keys have them in the same order. -/
theorem sortedKeys_congr {t t' : Table Nat α} (h : ∀ k, t.lookup k = t'.lookup k) :
    sortedKeys t = sortedKeys t' := by
  refine (pairwise_sortedKeys t).eq_of_mem_iff (pairwise_sortedKeys t') fun k => ?_
  rw [mem_sortedKeys, mem_sortedKeys, h]

theorem size_eq_length_sortedKeys (t : Table Nat α) : size t = (sortedKeys t).length := by
  rw [size_eq_length_keys, sortedKeys, List.length_insertionSort]

theorem size_insert_of_mem {t : Table κ α} {k : κ} {v : α} (h : k ∈ t) :
    size (t.insert k v) = size t := by
  have hmem : k ∈ t.keys := AList.mem_keys.mp h
  have hpos : 0 < t.keys.length := List.length_pos_of_mem hmem
  rw [size_eq_length_keys, AList.keys_insert, List.length_cons, List.length_erase_of_mem hmem,
    size_eq_length_keys]
  omega

theorem size_insert_of_notMem {t : Table κ α} {k : κ} {v : α} (h : k ∉ t) :
    size (t.insert k v) = size t + 1 := by
  rw [size, AList.entries_insert_of_notMem h, List.length_cons, size]

/-! ### Tables of values that carry their key -/

section Keyed

variable {t : Table Nat α} {key : α → Nat} (hkeyed : ∀ k a, t.lookup k = some a → key a = k)

include hkeyed

theorem lookup_key_of_mem {a : α} (h : a ∈ sortedValues t) : t.lookup (key a) = some a := by
  obtain ⟨k, -, hk⟩ := List.mem_filterMap.mp h
  rw [hkeyed k a hk]
  exact hk

theorem map_sortedValues : (sortedValues t).map key = sortedKeys t := by
  have hall : ∀ keys : List Nat, (∀ k ∈ keys, (t.lookup k).isSome = true) →
      (keys.filterMap t.lookup).map key = keys := by
    intro keys hkeys
    induction keys with
    | nil => rfl
    | cons k rest ih =>
      obtain ⟨a, ha⟩ := Option.isSome_iff_exists.mp (hkeys k List.mem_cons_self)
      simp only [List.filterMap_cons, ha, List.map_cons]
      rw [hkeyed k a ha, ih fun k' hk' => hkeys k' (List.mem_cons_of_mem k hk')]
  exact hall _ fun k hk => mem_sortedKeys.mp hk

theorem nodup_map_sortedValues : ((sortedValues t).map key).Nodup := by
  rw [map_sortedValues hkeyed]
  exact (pairwise_sortedKeys t).imp fun h => h.ne

end Keyed

/-- Entering values of one table into another writes over the entries under their keys. -/
theorem lookup_foldl_insert {t : Table κ α} {key : α → κ} {list : List α}
    (h : ∀ a ∈ list, t.lookup (key a) = some a) (start : Table κ α) (k : κ) :
    (list.foldl (fun t a => t.insert (key a) a) start).lookup k =
      if k ∈ list.map key then t.lookup k else start.lookup k := by
  induction list generalizing start with
  | nil => rfl
  | cons a rest ih =>
    rw [List.foldl_cons, ih (fun a' ha' => h a' (List.mem_cons_of_mem a ha')),
      lookup_insert_eq_ite, List.map_cons]
    by_cases hrest : k ∈ rest.map key
    · rw [if_pos hrest, if_pos (List.mem_cons_of_mem _ hrest)]
    · rw [if_neg hrest]
      by_cases hk : k = key a
      · rw [if_pos hk, if_pos (hk ▸ List.mem_cons_self), hk]
        exact (h a List.mem_cons_self).symm
      · rw [if_neg hk, if_neg (by simp [hk, hrest])]

/-- **Entering all values of a table gives the table back, over what was there.** -/
theorem lookup_foldl_sortedValues {t : Table Nat α} {key : α → Nat}
    (hkeyed : ∀ k a, t.lookup k = some a → key a = k) (start : Table Nat α) (k : Nat) :
    ((sortedValues t).foldl (fun t a => t.insert (key a) a) start).lookup k =
      (t.lookup k).or (start.lookup k) := by
  rw [lookup_foldl_insert (fun a ha => lookup_key_of_mem hkeyed ha), map_sortedValues hkeyed]
  cases hk : t.lookup k with
  | none => rw [if_neg (by rw [mem_sortedKeys, hk]; simp), Option.none_or]
  | some a => rw [if_pos (by rw [mem_sortedKeys, hk]; rfl), Option.some_or]

/-! ### Tables that only grow -/

section Grows

variable {ρ : Type} [Preorder ρ] {rank : α → ρ} {t t' t'' : Table κ α}

/-- Every entry of the first table is still in the second, and its rank is no smaller. -/
def Grows (rank : α → ρ) (t t' : Table κ α) : Prop :=
  ∀ k v, t.lookup k = some v → ∃ v', t'.lookup k = some v' ∧ rank v ≤ rank v'

theorem Grows.refl (t : Table κ α) : Grows rank t t := fun _ v hk => ⟨v, hk, le_rfl⟩

theorem Grows.trans (h : Grows rank t t') (h' : Grows rank t' t'') : Grows rank t t'' := by
  intro k v hk
  obtain ⟨v', hk', hv⟩ := h k v hk
  obtain ⟨v'', hk'', hv'⟩ := h' k v' hk'
  exact ⟨v'', hk'', hv.trans hv'⟩

/-- An entry may be written over by one of no smaller rank. -/
theorem Grows.insert {k : κ} {v : α} (h : ∀ held, t.lookup k = some held → rank held ≤ rank v) :
    Grows rank t (t.insert k v) := by
  intro k' held hk'
  rw [lookup_insert_eq_ite]
  by_cases hk : k' = k
  · rw [if_pos hk]
    exact ⟨v, rfl, h held (hk ▸ hk')⟩
  · rw [if_neg hk]
    exact ⟨held, hk', le_rfl⟩

theorem Grows.mapValues {f : κ → α → α} (h : ∀ k v, rank v ≤ rank (f k v)) (t : Table κ α) :
    Grows rank t (mapValues f t) := by
  intro k v hk
  rw [lookup_mapValues, hk]
  exact ⟨f k v, rfl, h k v⟩

end Grows

end Table

end ThermalGovernor.Lib
