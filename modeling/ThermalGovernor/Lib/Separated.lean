import Mathlib.Data.List.Basic

/-!
# Texts made of parts

A text of parts with a separator between them gives its parts back, if none of them has the
separator (`intercalate_injective`).  A part that may be missing is written with a tag in front
of it (`tagged`).  Where each tag is used once, such a text says which of the parts are there
and what they are (`taggedParts_inj`).
-/

namespace ThermalGovernor.Lib

variable {α : Type*} {sep tag : α} {parts parts' rest rest' : List (List α)}

/-- **A separated text determines its parts.** -/
theorem intercalate_injective [DecidableEq α] (h : ∀ part ∈ parts, sep ∉ part)
    (h' : ∀ part ∈ parts', sep ∉ part) (hne : parts ≠ []) (hne' : parts' ≠ [])
    (heq : [sep].intercalate parts = [sep].intercalate parts') : parts = parts' := by
  rw [← List.splitOn_intercalate sep h hne, ← List.splitOn_intercalate sep h' hne', heq]

/-- After the first part each is written with a separator before it. -/
theorem intercalate_cons (part : List α) (more : List (List α)) :
    [sep].intercalate (part :: more) = part ++ more.flatMap fun part => sep :: part := by
  induction more generalizing part with
  | nil => simp
  | cons next more ih =>
    rw [List.intercalate_cons_cons, ih, List.flatMap_cons, List.append_assoc,
      List.singleton_append, List.cons_append]

theorem intercalate_append (hne : parts ≠ []) (more : List (List α)) :
    [sep].intercalate (parts ++ more) =
      [sep].intercalate parts ++ more.flatMap fun part => sep :: part := by
  cases parts with
  | nil => exact absurd rfl hne
  | cons part parts =>
    rw [List.cons_append, intercalate_cons, intercalate_cons, List.flatMap_append,
      List.append_assoc]

/-- A part that may be missing, behind its tag. -/
def tagged (tag : α) (body : Option (List α)) : List (List α) :=
  body.toList.map fun body => tag :: body

theorem head?_of_mem_tagged {body : Option (List α)} {part : List α}
    (h : part ∈ tagged tag body) : part.head? = some tag := by
  obtain ⟨body, -, rfl⟩ := List.mem_map.mp h
  rfl

/-- Parts that may be missing, each behind its tag. -/
def taggedParts (sections : List (α × Option (List α))) : List (List α) :=
  sections.flatMap fun field => tagged field.1 field.2

theorem exists_of_mem_taggedParts {sections : List (α × Option (List α))} {part : List α}
    (h : part ∈ taggedParts sections) : ∃ tag ∈ sections.map Prod.fst, part.head? = some tag := by
  obtain ⟨field, hfield, hpart⟩ := List.mem_flatMap.mp h
  exact ⟨field.1, List.mem_map_of_mem hfield, head?_of_mem_tagged hpart⟩

/-- The part under the first tag is told from what follows under other tags. -/
theorem tagged_append_inj {body body' : Option (List α)}
    (hrest : ∀ part ∈ rest, part.head? ≠ some tag) (hrest' : ∀ part ∈ rest', part.head? ≠ some tag)
    (heq : tagged tag body ++ rest = tagged tag body' ++ rest') : body = body' ∧ rest = rest' := by
  cases body with
  | none =>
    cases body' with
    | none => exact ⟨rfl, heq⟩
    | some body' =>
      have hmem : (tag :: body') ∈ rest := by
        have hleft : rest = (tag :: body') :: rest' := heq
        rw [hleft]
        exact List.mem_cons_self
      exact absurd rfl (hrest _ hmem)
  | some body =>
    cases body' with
    | none =>
      have hmem : (tag :: body) ∈ rest' := by
        have hright : (tag :: body) :: rest = rest' := heq
        rw [← hright]
        exact List.mem_cons_self
      exact absurd rfl (hrest' _ hmem)
    | some body' =>
      obtain ⟨hpart, htail⟩ := List.cons.inj (heq : (tag :: body) :: rest = (tag :: body') :: rest')
      exact ⟨congrArg some (List.cons.inj hpart).2, htail⟩

/-- **Tagged parts with the same tags, each used once, are the same parts.** -/
theorem taggedParts_inj {sections sections' : List (α × Option (List α))}
    (htags : sections.map Prod.fst = sections'.map Prod.fst)
    (hnodup : (sections.map Prod.fst).Nodup)
    (heq : taggedParts sections = taggedParts sections') : sections = sections' := by
  induction sections generalizing sections' with
  | nil => exact (List.map_eq_nil_iff.mp htags.symm).symm
  | cons field sections ih =>
    cases sections' with
    | nil => cases htags
    | cons field' sections' =>
      obtain ⟨htag, htags⟩ := List.cons.inj htags
      obtain ⟨hfresh, hnodup⟩ := List.nodup_cons.mp hnodup
      have hother : ∀ part ∈ taggedParts sections, part.head? ≠ some field.1 := by
        intro part hpart heq
        obtain ⟨tag, hmem, htag⟩ := exists_of_mem_taggedParts hpart
        exact hfresh (Option.some.inj (htag.symm.trans heq) ▸ hmem)
      have hother' : ∀ part ∈ taggedParts sections', part.head? ≠ some field.1 := by
        intro part hpart heq
        obtain ⟨tag, hmem, htag⟩ := exists_of_mem_taggedParts hpart
        exact hfresh (htags ▸ Option.some.inj (htag.symm.trans heq) ▸ hmem)
      have hsplit : tagged field.1 field.2 ++ taggedParts sections =
          tagged field.1 field'.2 ++ taggedParts sections' := by
        refine Eq.trans (b := tagged field'.1 field'.2 ++ taggedParts sections') heq ?_
        rw [htag]
      obtain ⟨hbody, hrest⟩ := tagged_append_inj hother hother' hsplit
      rw [ih htags hnodup hrest, Prod.ext htag hbody]

/-- Two parts around a separator that neither of the first ones has. -/
theorem pair_inj {a a' b b' : List α} (h : sep ∉ a) (h' : sep ∉ a')
    (heq : a ++ sep :: b = a' ++ sep :: b') : a = a' ∧ b = b' := by
  induction a generalizing a' with
  | nil =>
    cases a' with
    | nil => exact ⟨rfl, (List.cons.inj heq).2⟩
    | cons c a' => exact absurd ((List.cons.inj heq).1 ▸ List.mem_cons_self) h'
  | cons c a ih =>
    cases a' with
    | nil => exact absurd ((List.cons.inj heq).1 ▸ List.mem_cons_self) h
    | cons c' a' =>
      obtain ⟨rfl, htail⟩ := List.cons.inj heq
      obtain ⟨rfl, rfl⟩ := ih (fun hmem => h (List.mem_cons_of_mem _ hmem))
        (fun hmem => h' (List.mem_cons_of_mem _ hmem)) htail
      exact ⟨rfl, rfl⟩

end ThermalGovernor.Lib
