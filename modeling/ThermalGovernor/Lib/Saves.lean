import ThermalGovernor.Lib.Trace

/-!
# Saves in two steps

A saver takes a copy of the live state, and later replaces the one slot by that copy.
Between the two steps the state may change and other savers may take either of theirs,
so the slot is not written in the order of the copies.

A copy carries the number of the state it was taken of.  The slot holds the copy that was
written last (`Coherent.slot`), and it holds nothing older than a given copy as long as
no older copy is written after it (`reflectsSince_of_runUnder`).
-/

namespace ThermalGovernor.Lib

/-- A copy, and the number of the state it was taken of. -/
structure Save (κ : Type) where
  version : Nat
  content : κ

/-- A state that savers copy, with the states before it, oldest first. -/
structure Saving (σ κ : Type) where
  live : σ
  past : List σ := []
  /-- Copies not yet written. -/
  inFlight : List (Save κ) := []
  /-- Copies written, the last one first. -/
  completed : List (Save κ) := []
  slot : Option κ := none

/-- A step of the state, or one of the two steps of a saver. -/
inductive SaveEvent (α : Type)
  | mutate (a : α)
  | capture
  | replace (saver : Nat)

variable {σ α κ : Type}

namespace Saving

/-- The states that were live, oldest first, with the one that is. -/
def states (s : Saving σ κ) : List σ := s.past ++ [s.live]

/-- One step.  A copy that cannot be taken starts no saver. -/
def step (apply : σ → α → σ) (capture : σ → Option κ) (s : Saving σ κ) :
    SaveEvent α → Saving σ κ
  | .mutate a => { s with past := s.states, live := apply s.live a }
  | .capture =>
    match capture s.live with
    | none => s
    | some content => { s with inFlight := s.inFlight ++ [⟨s.past.length, content⟩] }
  | .replace saver =>
    match s.inFlight[saver]? with
    | none => s
    | some save =>
      { s with
        inFlight := s.inFlight.eraseIdx saver
        completed := save :: s.completed
        slot := some save.content }

/-- The copy was taken of the state it names. -/
def CapturedFrom (capture : σ → Option κ) (s : Saving σ κ) (save : Save κ) : Prop :=
  ∃ x, s.states[save.version]? = some x ∧ capture x = some save.content

/-- The slot holds a copy of the state of this number or of a later one. -/
def ReflectsSince (capture : σ → Option κ) (s : Saving σ κ) (version : Nat) : Prop :=
  ∃ save : Save κ, version ≤ save.version ∧ s.CapturedFrom capture save ∧
    s.slot = some save.content

/-- The event writes no copy of a state before this number. -/
def NotOlder (version : Nat) (s : Saving σ κ) : SaveEvent α → Prop
  | .replace saver => ∀ save ∈ s.inFlight[saver]?, version ≤ save.version
  | _ => True

/-- Every copy is one of the state it names, and the slot is the copy written last. -/
structure Coherent (capture : σ → Option κ) (s : Saving σ κ) : Prop where
  inFlight : ∀ save ∈ s.inFlight, s.CapturedFrom capture save
  completed : ∀ save ∈ s.completed, s.CapturedFrom capture save
  slot : ∀ save ∈ s.completed.head?, s.slot = some save.content

variable {apply : σ → α → σ} {capture : σ → Option κ} {s s' : Saving σ κ}

/-- No saver is at work and none was. -/
theorem coherent_start (live : σ) (slot : Option κ) :
    Coherent capture { live := live, slot := slot } := by
  constructor
  · intro save hsave
    cases hsave
  · intro save hsave
    cases hsave
  · intro save hsave
    cases hsave

/-- A later state does not change which state a number names. -/
theorem CapturedFrom.mutate {save : Save κ} (h : s.CapturedFrom capture save) (a : α) :
    (s.step apply capture (.mutate a)).CapturedFrom capture save := by
  obtain ⟨x, hx, hcapture⟩ := h
  refine ⟨x, ?_, hcapture⟩
  show (s.states ++ [apply s.live a])[save.version]? = some x
  obtain ⟨hlt, -⟩ := List.getElem?_eq_some_iff.mp hx
  rw [List.getElem?_append_left hlt]
  exact hx

/-- A copy taken now names the live state. -/
theorem capturedFrom_live {content : κ} (h : capture s.live = some content) :
    s.CapturedFrom capture ⟨s.past.length, content⟩ := by
  refine ⟨s.live, ?_, h⟩
  show (s.past ++ [s.live])[s.past.length]? = some s.live
  rw [List.getElem?_append_right (Nat.le_refl _), Nat.sub_self]
  rfl

/-- **Every step keeps the copies in order with the states.** -/
theorem Coherent.step (h : s.Coherent capture) (event : SaveEvent α) :
    (s.step apply capture event).Coherent capture := by
  cases event with
  | mutate a =>
    constructor
    · intro save hsave
      exact (h.inFlight save hsave).mutate a
    · intro save hsave
      exact (h.completed save hsave).mutate a
    · exact h.slot
  | capture =>
    rw [Saving.step]
    cases hcapture : capture s.live with
    | none => exact h
    | some content =>
      refine ⟨fun save hsave => ?_, h.completed, h.slot⟩
      rcases List.mem_append.mp hsave with hold | hnew
      · exact h.inFlight save hold
      · obtain rfl := List.mem_singleton.mp hnew
        exact capturedFrom_live hcapture
  | replace saver =>
    rw [Saving.step]
    cases hsaver : s.inFlight[saver]? with
    | none => exact h
    | some written =>
      have hwritten : s.CapturedFrom capture written :=
        h.inFlight written (List.mem_of_getElem? hsaver)
      refine ⟨fun save hsave => ?_, fun save hsave => ?_, fun save hsave => ?_⟩
      · exact h.inFlight save (List.mem_of_mem_eraseIdx hsave)
      · rcases List.mem_cons.mp hsave with rfl | hold
        · exact hwritten
        · exact h.completed save hold
      · obtain rfl := Option.some.inj hsave
        rfl

/-- Copies are in order with the states after any run. -/
theorem Coherent.runUnder {ok : Saving σ κ → SaveEvent α → Prop} (h : s.Coherent capture)
    (hrun : RunUnder (Saving.step apply capture) ok s s') : s'.Coherent capture :=
  hrun.invariant h fun _ event hs _ => hs.step event

/-- The slot is as recent as the copy that was written last. -/
theorem Coherent.reflectsSince {save : Save κ} {version : Nat} (h : s.Coherent capture)
    (hlast : save ∈ s.completed.head?) (hversion : version ≤ save.version) :
    s.ReflectsSince capture version :=
  ⟨save, hversion, h.completed save (List.mem_of_mem_head? hlast), h.slot save hlast⟩

/-- A step that writes no older copy leaves a recent one written last. -/
theorem exists_last_step {version : Nat} {event : SaveEvent α}
    (h : ∃ save ∈ s.completed.head?, version ≤ save.version) (hevent : NotOlder version s event) :
    ∃ save ∈ (s.step apply capture event).completed.head?, version ≤ save.version := by
  cases event with
  | mutate a => exact h
  | capture =>
    rw [step]
    cases capture s.live with
    | none => exact h
    | some content => exact h
  | replace saver =>
    rw [step]
    cases hsaver : s.inFlight[saver]? with
    | none => exact h
    | some written => exact ⟨written, rfl, hevent written hsaver⟩

/-- **While no older copy is written, the slot stays as recent as the copy.** -/
theorem reflectsSince_of_runUnder {save : Save κ} (h : s.Coherent capture)
    (hlast : save ∈ s.completed.head?)
    (hrun : RunUnder (step apply capture) (NotOlder save.version) s s') :
    s'.ReflectsSince capture save.version := by
  have hrecent : ∃ last ∈ s'.completed.head?, save.version ≤ last.version :=
    hrun.invariant ⟨save, hlast, Nat.le_refl _⟩ fun _ _ hs hevent => exists_last_step hs hevent
  obtain ⟨last, hmem, hversion⟩ := hrecent
  exact (h.runUnder hrun).reflectsSince hmem hversion

end Saving

end ThermalGovernor.Lib
