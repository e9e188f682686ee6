import Mathlib.Algebra.BigOperators.Group.Finset.Basic
import Mathlib.Algebra.GroupWithZero.Nat
import Mathlib.Algebra.Order.BigOperators.Group.Finset
import ThermalGovernor.Lib.Acyclic

/-!
# Depth-first search in three colours

A graph is given by the list of successors of each vertex.  The search follows one path: a
vertex is white until the path comes to it, grey while it is on the path, and black once all
its successors are.  A frame of the stack is a vertex of the path with the successors that are
still to look at.

`Exploring` is the invariant.  A successor that is grey closes a cycle (`cycle_of_grey`),
since the path leads from it to the vertex looked at.  Black vertices have black successors
only, and a vertex turns black while its successors are black and it is not, so it is on no
cycle (`Exploring.finish`).  `pending` counts what is left to do, and each step makes it
smaller.
-/

namespace ThermalGovernor.Lib

open Relation

variable {α : Type}

/-- The colour of a vertex. -/
inductive Mark
  | white | grey | black
  deriving DecidableEq

/-- There is an edge to each successor. -/
def Succeeds (successors : α → List α) (a b : α) : Prop := b ∈ successors a

/-- The frames of a path that ends in `top` if there is a vertex above: a successor is still to
look at, or black, or the next vertex of the path. -/
def Frames (successors : α → List α) (mark : α → Mark) : Option α → List (α × List α) → Prop
  | _, [] => True
  | top, (v, rest) :: below =>
    (∀ w ∈ rest, w ∈ successors v) ∧ (∀ w, top = some w → w ∈ successors v) ∧
    (∀ w ∈ successors v, w ∈ rest ∨ mark w = .black ∨ top = some w) ∧
    Frames successors mark (some v) below

/-- What a search keeps. -/
structure Exploring (successors : α → List α) (mark : α → Mark) (stack : List (α × List α)) :
    Prop where
  grey : ∀ v, mark v = .grey ↔ v ∈ stack.map Prod.fst
  nodup : (stack.map Prod.fst).Nodup
  frames : Frames successors mark none stack
  closed : ∀ v w, mark v = .black → w ∈ successors v → mark w = .black
  acyclic : ∀ v, mark v = .black → ¬ TransGen (Succeeds successors) v v

variable {successors : α → List α} {mark mark' : α → Mark} {stack below : List (α × List α)}
variable {v w : α} {rest : List α}

/-- Frames stand as long as black vertices stay black. -/
theorem Frames.mono (hmark : ∀ v, mark v = .black → mark' v = .black) :
    ∀ {top : Option α} {stack : List (α × List α)},
      Frames successors mark top stack → Frames successors mark' top stack := by
  intro top stack
  induction stack generalizing top with
  | nil => exact fun _ => trivial
  | cons frame below ih =>
    rintro ⟨hrest, htop, htaken, hbelow⟩
    exact ⟨hrest, htop,
      fun w hw => (htaken w hw).imp_right (Or.imp_left (hmark w)), ih hbelow⟩

/-- Every vertex of the path reaches its end. -/
theorem Frames.reaches {top : Option α} (h : Frames successors mark top ((v, rest) :: below)) :
    ∀ w ∈ ((v, rest) :: below).map Prod.fst, ReflTransGen (Succeeds successors) w v := by
  induction below generalizing top v rest with
  | nil =>
    intro w hw
    rw [List.mem_singleton.mp hw]
  | cons frame deeper ih =>
    obtain ⟨u, rest'⟩ := frame
    intro w hw
    rcases List.mem_cons.mp hw with rfl | hw
    · exact .refl
    · exact (ih h.2.2.2 w hw).tail (h.2.2.2.2.1 v rfl)

namespace Exploring

/-- **A grey successor closes a cycle.** -/
theorem cycle_of_grey (h : Exploring successors mark ((v, w :: rest) :: below))
    (hw : mark w = .grey) : TransGen (Succeeds successors) w w :=
  TransGen.tail' (h.frames.reaches w ((h.grey w).mp hw)) (h.frames.1 w List.mem_cons_self)

/-- What a black vertex reaches is black. -/
theorem black_of_reaches (h : Exploring successors mark stack) (hv : mark v = .black)
    (hreach : ReflTransGen (Succeeds successors) v w) : mark w = .black := by
  induction hreach with
  | refl => exact hv
  | tail _ hstep ih => exact h.closed _ _ ih hstep

/-- A black successor is passed over. -/
theorem skip (h : Exploring successors mark ((v, w :: rest) :: below)) (hw : mark w = .black) :
    Exploring successors mark ((v, rest) :: below) where
  grey := h.grey
  nodup := h.nodup
  frames := by
    obtain ⟨hrest, htop, htaken, hbelow⟩ := h.frames
    refine ⟨fun u hu => hrest u (List.mem_cons_of_mem _ hu), htop, fun u hu => ?_, hbelow⟩
    rcases htaken u hu with hmem | hdone
    · rcases List.mem_cons.mp hmem with rfl | hmem
      · exact .inr (.inl hw)
      · exact .inl hmem
    · exact .inr hdone
  closed := h.closed
  acyclic := h.acyclic

variable [DecidableEq α]

/-- The mark of one vertex is set. -/
def set (mark : α → Mark) (w : α) (m : Mark) : α → Mark := fun v => if v = w then m else mark v

/-- The marks at the start of a search from a white vertex. -/
theorem start (h : Exploring successors mark []) (hv : mark v = .white) :
    Exploring successors (set mark v .grey) [(v, successors v)] where
  grey u := by
    have hnone : mark u ≠ .grey := fun hu => nomatch (h.grey u).mp hu
    by_cases hu : u = v
    · simp [set, hu]
    · simp [set, hu, hnone]
  nodup := List.nodup_singleton _
  frames := ⟨fun _ hw => hw, fun _ hw => (nomatch hw), fun _ hw => .inl hw, trivial⟩
  closed u w hu hw := by
    unfold set at hu ⊢
    split at hu
    · cases hu
    · have hblack := h.closed u w hu hw
      rw [if_neg]
      · exact hblack
      · rintro rfl
        rw [hv] at hblack
        cases hblack
  acyclic u hu := by
    unfold set at hu
    split at hu
    · cases hu
    · exact h.acyclic u hu

/-- A white successor is put on the path. -/
theorem descend (h : Exploring successors mark ((v, w :: rest) :: below))
    (hw : mark w = .white) :
    Exploring successors (set mark w .grey) ((w, successors w) :: (v, rest) :: below) where
  grey u := by
    rw [List.map_cons, List.mem_cons]
    by_cases hu : u = w
    · simp [set, hu]
    · rw [set, if_neg hu, h.grey u]
      simp [hu]
  nodup := by
    rw [List.map_cons, List.nodup_cons]
    refine ⟨fun hmem => ?_, h.nodup⟩
    rw [(h.grey w).mpr hmem] at hw
    cases hw
  frames := by
    obtain ⟨hrest, htop, htaken, hbelow⟩ := h.frames
    have hblack : ∀ u, mark u = .black → set mark w .grey u = .black := by
      intro u hu
      rw [set, if_neg]
      · exact hu
      · rintro rfl
        rw [hw] at hu
        cases hu
    refine ⟨fun _ hu => hu, fun _ hu => (nomatch hu), fun _ hu => .inl hu,
      fun u hu => hrest u (List.mem_cons_of_mem _ hu), ?_, fun u hu => ?_, hbelow.mono hblack⟩
    · rintro u hu
      rw [← Option.some.inj hu]
      exact hrest w List.mem_cons_self
    · rcases htaken u hu with hmem | hdone | habove
      · rcases List.mem_cons.mp hmem with rfl | hmem
        · exact .inr (.inr rfl)
        · exact .inl hmem
      · exact .inr (.inl (hblack u hdone))
      · cases habove
  closed u x hu hx := by
    unfold set at hu ⊢
    split at hu
    · cases hu
    · have hblack := h.closed u x hu hx
      rw [if_neg]
      · exact hblack
      · rintro rfl
        rw [hw] at hblack
        cases hblack
  acyclic u hu := by
    unfold set at hu
    split at hu
    · cases hu
    · exact h.acyclic u hu

/-- **A vertex whose successors are all looked at turns black, and is on no cycle.** -/
theorem finish (h : Exploring successors mark ((v, []) :: below)) :
    Exploring successors (set mark v .black) below := by
  obtain ⟨-, -, htaken, hbelow⟩ := h.frames
  have hgrey : mark v = .grey := (h.grey v).mpr List.mem_cons_self
  have hsuccessors : ∀ w ∈ successors v, mark w = .black := by
    intro w hw
    rcases htaken w hw with hmem | hblack | habove
    · cases hmem
    · exact hblack
    · cases habove
  have hblack : ∀ u, mark u = .black → set mark v .black u = .black := by
    intro u hu
    unfold set
    split
    · rfl
    · exact hu
  have hnotMem : v ∉ below.map Prod.fst := (List.nodup_cons.mp h.nodup).1
  refine ⟨fun u => ?_, (List.nodup_cons.mp h.nodup).2, ?_, fun u w hu hw => ?_, fun u hu => ?_⟩
  · by_cases hu : u = v
    · rw [set, if_pos hu, hu]
      exact ⟨fun hm => (nomatch hm), fun hmem => absurd hmem hnotMem⟩
    · rw [set, if_neg hu, h.grey u, List.map_cons, List.mem_cons]
      exact or_iff_right hu
  · -- the frame below is the end of the path now, and has `v` among its black successors
    cases below with
    | nil => trivial
    | cons frame deeper =>
      obtain ⟨hrest, -, htaken', hdeeper⟩ := hbelow
      refine ⟨hrest, fun _ hw => (nomatch hw), fun w hw => ?_, hdeeper.mono hblack⟩
      rcases htaken' w hw with hmem | hdone | habove
      · exact .inl hmem
      · exact .inr (.inl (hblack w hdone))
      · exact .inr (.inl (if_pos (Option.some.inj habove).symm))
  · by_cases hv : u = v
    · rw [hv] at hw
      exact hblack w (hsuccessors w hw)
    · rw [set, if_neg hv] at hu
      exact hblack w (h.closed u w hu hw)
  · by_cases hv : u = v
    · rw [hv]
      intro hcycle
      obtain ⟨w, hstep, hreach⟩ := TransGen.head'_iff.mp hcycle
      have := h.black_of_reaches (hsuccessors w hstep) hreach
      rw [hgrey] at this
      cases this
    · rw [set, if_neg hv] at hu
      exact h.acyclic u hu

/-! ### What is left to do -/

/-- The successors to look at, on the stack and in the white vertices, and one step for each
vertex. -/
def pending (nodes : Finset α) (successors : α → List α) (mark : α → Mark)
    (stack : List (α × List α)) : ℕ :=
  (stack.map fun frame => frame.2.length + 1).sum +
    ∑ v ∈ nodes with mark v = .white, ((successors v).length + 1)

variable {nodes : Finset α}

omit [DecidableEq α] in
theorem pending_skip :
    pending nodes successors mark ((v, rest) :: below) <
      pending nodes successors mark ((v, w :: rest) :: below) := by
  simp only [pending, List.map_cons, List.sum_cons, List.length_cons]
  omega

variable (successors stack) in
theorem pending_grey (hw : mark w = .white) (hmem : w ∈ nodes) :
    pending nodes successors (set mark w .grey) ((w, successors w) :: stack) =
      pending nodes successors mark stack := by
  have hset : (nodes.filter fun v => set mark w .grey v = .white) =
      (nodes.filter fun v => mark v = .white).erase w := by
    ext u
    rw [Finset.mem_erase, Finset.mem_filter, Finset.mem_filter]
    by_cases hu : u = w
    · simp [set, hu]
    · simp [set, hu]
  have hsum := Finset.add_sum_erase (nodes.filter fun v => mark v = .white)
    (fun v => (successors v).length + 1) (Finset.mem_filter.mpr ⟨hmem, hw⟩)
  simp only [pending, List.map_cons, List.sum_cons, hset]
  omega

variable (nodes) in
theorem pending_finish (h : Exploring successors mark ((v, []) :: below)) :
    pending nodes successors (set mark v .black) below <
      pending nodes successors mark ((v, []) :: below) := by
  have hgrey : mark v = .grey := (h.grey v).mpr List.mem_cons_self
  have hset : (nodes.filter fun u => set mark v .black u = .white) =
      nodes.filter fun u => mark u = .white := by
    ext u
    rw [Finset.mem_filter, Finset.mem_filter]
    by_cases hu : u = v
    · simp [set, hu, hgrey]
    · simp [set, hu]
  simp only [pending, List.map_cons, List.sum_cons, hset, List.length_nil]
  omega

end Exploring

end ThermalGovernor.Lib
