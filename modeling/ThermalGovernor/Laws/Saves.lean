import ThermalGovernor.Ledger.Run
import ThermalGovernor.Lib.Saves

/-!
# Concurrent saves

A call of `persist` captures under the state lock and replaces the file under the gate of
its path, and between the two other calls run.  The gate takes the replacements one after
another and does not look at what they captured: the last completed save wins.

`reflectsSince_of_lastReplaced` says what an acknowledged save keeps: until a call that
captured an earlier state replaces the file.
-/

namespace ThermalGovernor

open Lib

/-- The coordinator, its calls of `persist` and its durable file. -/
abbrev Saves : Type := Saving Governor DurableState

namespace Saves

/-- The bytes a call of `persist` is to write. -/
def persisted (g : Governor) : Option DurableState := g.persist.toOption

/-- The coordinator before any call of `persist`, and the file it finds. -/
def start (g : Governor) (file : Option DurableState) : Saves := { live := g, slot := file }

/-- One operation, or one of the two steps of a call of `persist`. -/
abbrev step : Saves → SaveEvent Operation → Saves := Saving.step Governor.apply persisted

/-- The states reached by steps that satisfy a condition where they are taken. -/
abbrev RunsUnder (allowed : Saves → SaveEvent Operation → Prop) : Saves → Saves → Prop :=
  RunUnder step allowed

/-- The states reached by any interleaving. -/
abbrev Runs : Saves → Saves → Prop := RunsUnder fun _ _ => True

variable {s s' : Saves}

/-- **An acknowledged save stands until an older capture replaces it.** -/
theorem reflectsSince_of_lastReplaced {g : Governor} {file : Option DurableState}
    {save : Save DurableState} (hrun : Runs (start g file) s)
    (hreturns : save ∈ s.completed.head?)
    (hafter : RunsUnder (Saving.NotOlder save.version) s s') :
    s'.ReflectsSince persisted save.version ∧
      ∀ last ∈ s'.completed.head?, s'.CapturedFrom persisted last ∧
        s'.slot = some last.content := by
  have hcoherent : s.Coherent persisted := (Saving.coherent_start g file).runUnder hrun
  refine ⟨Saving.reflectsSince_of_runUnder hcoherent hreturns hafter, fun last hlast => ?_⟩
  have hcoherent' : s'.Coherent persisted := hcoherent.runUnder hafter
  exact ⟨hcoherent'.completed last (List.mem_of_mem_head? hlast), hcoherent'.slot last hlast⟩

/-- What a call captures is the capture of the state. -/
theorem persisted_eq_some {g : Governor} {file : DurableState} (h : persisted g = some file) :
    file = g.capture := by
  rw [persisted, Governor.persist] at h
  split at h
  · cases h
  · exact (Option.some.inj h).symm

/-! ### Two calls with a mutation between their captures -/

/-- The state after some steps on the deployment, whose file is absent. -/
def after (events : List (SaveEvent Operation)) : Saves :=
  events.foldl step (start (Deployment.after []) none)

theorem runs_after (events : List (SaveEvent Operation)) :
    Runs (start (Deployment.after []) none) (after events) := by
  induction events using List.reverseRecOn with
  | nil => exact .refl
  | append_singleton events event ih =>
    rw [after, List.foldl_append]
    exact .tail event ih trivial

/-- The default policy of the next generation is set. -/
def newPolicy : SaveEvent Operation :=
  .mutate (.setPolicy { PolicyOver.makeDefault with generation := 2 })

/-- Two calls replace the file in the order of their captures, and a third one follows. -/
theorem reflectsSince_of_lastReplaced_inOrder :
    (after [.capture, newPolicy, .capture, .replace 0, .replace 0, .capture,
      .replace 0]).ReflectsSince persisted 1 := by
  have hlast : (after [.capture, newPolicy, .capture, .replace 0, .replace 0]).completed.head?.map
      Save.version = some 1 := by decide +kernel
  obtain ⟨save, hsave, hversion⟩ := Option.map_eq_some_iff.mp hlast
  have hthird : ∀ third ∈ (after [.capture, newPolicy, .capture, .replace 0, .replace 0,
      .capture]).inFlight[0]?, 1 ≤ third.version := by decide +kernel
  have hafter : RunsUnder (Saving.NotOlder 1)
      (after [.capture, newPolicy, .capture, .replace 0, .replace 0])
      (after [.capture, newPolicy, .capture, .replace 0, .replace 0, .capture, .replace 0]) :=
    .tail (SaveEvent.replace 0) (.tail SaveEvent.capture .refl trivial) hthird
  rw [← hversion] at hafter ⊢
  exact (reflectsSince_of_lastReplaced (runs_after _) hsave hafter).1

/-- The call that captured first is the last to replace the file: the acknowledged policy
is lost. -/
theorem not_reflectsSince : ¬ ∀ (g : Governor) (file : Option DurableState) (s : Saves),
    g.Reachable → Runs (start g file) s → ∀ save ∈ s.completed,
      s.ReflectsSince persisted save.version := by
  intro hclaim
  let lost := after [.capture, newPolicy, .capture, .replace 1, .replace 0]
  have hacknowledged : (lost.completed.map Save.version)[1]? = some 1 := by decide +kernel
  rw [List.getElem?_map] at hacknowledged
  obtain ⟨save, hsave, hversion⟩ := Option.map_eq_some_iff.mp hacknowledged
  have hreflects : lost.ReflectsSince persisted 1 := by
    rw [← hversion]
    exact hclaim (Deployment.after []) none lost (Deployment.reachable_after []) (runs_after _)
      save (List.mem_of_getElem? hsave)
  obtain ⟨content, hlater, ⟨x, hx, hcapture⟩, hslot⟩ := hreflects
  -- the only state from there on is the one with the new policy
  have hstates : lost.states.length = 2 := by decide +kernel
  obtain ⟨hlt, -⟩ := List.getElem?_eq_some_iff.mp hx
  have hone : content.version = 1 := by omega
  have hnew : lost.states[1]?.map Governor.policyGeneration = some 2 := by decide +kernel
  rw [hone] at hx
  rw [hx] at hnew
  have hfile : lost.slot.map DurableState.policyGeneration = some 1 := by decide +kernel
  rw [hslot] at hfile
  have hcaptured : content.content.policyGeneration = x.policyGeneration := by
    rw [persisted_eq_some hcapture]
    rfl
  rw [Option.map_some, Option.some.injEq] at hnew hfile
  rw [hcaptured, hnew] at hfile
  cases hfile

end Saves

end ThermalGovernor
