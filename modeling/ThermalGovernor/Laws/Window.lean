import ThermalGovernor.Laws.Probe

/-!
# The window of a recovery history

A history is pushed samples and given capacities, in any order.  What it retains is an end of
what was pushed, no longer than its capacity, and the newest sample is never dropped
(`Window`): a capacity is at least one, however it was asked for.

Under one capacity the window is exactly as long as it can be (`samples_after_of_kept`).
-/

namespace ThermalGovernor.RecoveryHistory

open Lib

variable {h : RecoveryHistory} {samples : List RecoverySample} {capacity : Nat}

/-- A call that pushes a sample or sets the capacity. -/
inductive Call where
  | push (sample : RecoverySample)
  | setCapacity (capacity : Nat)

/-- What a call makes of a history. -/
def Call.apply (h : RecoveryHistory) : Call → RecoveryHistory
  | .push sample => h.push sample
  | .setCapacity capacity => h.setCapacity capacity

/-- The sample that a call pushes. -/
def Call.sample? : Call → Option RecoverySample
  | .push sample => some sample
  | .setCapacity _ => none

/-- The capacity asked for after a call, when another was asked for before. -/
def Call.asked (capacity : Nat) : Call → Nat
  | .push _ => capacity
  | .setCapacity capacity => capacity

/-- The history made with a capacity, after calls. -/
def after (capacity : Nat) (calls : List Call) : RecoveryHistory :=
  calls.foldl Call.apply (ofCapacity capacity)

/-- All samples pushed by calls, oldest first. -/
def pushed (calls : List Call) : List RecoverySample := calls.filterMap Call.sample?

/-- The history is a window on the samples pushed, with its newest end at theirs. -/
structure Window (samples : List RecoverySample) (capacity : Nat) (h : RecoveryHistory) :
    Prop where
  capacity_eq : h.capacity = max 1 capacity
  suffix : h.samples <:+ samples
  length_le : h.samples.length ≤ h.capacity
  newest : h.samples.getLast? = samples.getLast?

/-! ### One call -/

theorem atLeastOne (capacity : Nat) : (if capacity = 0 then 1 else capacity) = max 1 capacity := by
  by_cases hzero : capacity = 0
  · rw [if_pos hzero, hzero]
    rfl
  · rw [if_neg hzero]
    omega

theorem window_ofCapacity (capacity : Nat) : Window [] capacity (ofCapacity capacity) where
  capacity_eq := atLeastOne capacity
  suffix := List.suffix_rfl
  length_le := Nat.zero_le _
  newest := rfl

/-- Trimming loses the newest sample to no capacity. -/
theorem window_trimmed (hcapacity : h.capacity = max 1 capacity) (hsuffix : h.samples <:+ samples)
    (hnewest : h.samples.getLast? = samples.getLast?) : Window samples capacity h.trimmed where
  capacity_eq := hcapacity
  suffix := (List.drop_suffix _ _).trans hsuffix
  length_le := h.length_trimmed_le
  newest := by
    show (h.samples.drop (h.samples.length - h.capacity)).getLast? = samples.getLast?
    rw [List.getLast?_drop, ← hnewest]
    by_cases hempty : h.samples.length ≤ h.samples.length - h.capacity
    · have hnil : h.samples = [] := List.eq_nil_of_length_eq_zero (by omega)
      rw [if_pos hempty, hnil]
      rfl
    · rw [if_neg hempty]

theorem Window.push (hwindow : Window samples capacity h) (sample : RecoverySample) :
    Window (samples ++ [sample]) capacity (h.push sample) := by
  obtain ⟨lost, hlost⟩ := hwindow.suffix
  refine window_trimmed hwindow.capacity_eq ⟨lost, ?_⟩ ?_
  · rw [← hlost, List.append_assoc]
  · rw [List.getLast?_concat, List.getLast?_concat]

theorem Window.setCapacity (hwindow : Window samples capacity h) (asked : Nat) :
    Window samples asked (h.setCapacity asked) :=
  window_trimmed (atLeastOne asked) hwindow.suffix hwindow.newest

theorem Window.apply (hwindow : Window samples capacity h) (call : Call) :
    Window (samples ++ call.sample?.toList) (call.asked capacity) (call.apply h) := by
  cases call with
  | push sample => exact hwindow.push sample
  | setCapacity asked =>
    show Window (samples ++ []) asked (h.setCapacity asked)
    rw [List.append_nil]
    exact hwindow.setCapacity asked

/-! ### Any calls -/

/-- **Every history is a window on what was pushed to it.** -/
theorem window_foldl (calls : List Call) : ∀ {samples capacity h}, Window samples capacity h →
    Window (samples ++ pushed calls) (calls.foldl Call.asked capacity)
      (calls.foldl Call.apply h) := by
  induction calls with
  | nil =>
    intro samples capacity h hwindow
    show Window (samples ++ []) capacity h
    rw [List.append_nil]
    exact hwindow
  | cons call calls ih =>
    intro samples capacity h hwindow
    have hpushed : samples ++ pushed (call :: calls) =
        samples ++ call.sample?.toList ++ pushed calls := by
      cases call with
      | push sample => exact List.append_cons samples sample (pushed calls)
      | setCapacity asked => exact congrArg (· ++ pushed calls) (List.append_nil samples).symm
    rw [hpushed]
    exact ih (hwindow.apply call)

theorem window_after (capacity : Nat) (calls : List Call) :
    Window (pushed calls) (calls.foldl Call.asked capacity) (after capacity calls) :=
  window_foldl calls (window_ofCapacity capacity)

/-- Calls that set no capacity push one sample each. -/
theorem eq_map_push {calls : List Call} (hkept : ∀ asked, .setCapacity asked ∉ calls) :
    calls = (pushed calls).map .push := by
  induction calls with
  | nil => rfl
  | cons call calls ih =>
    have hrest := ih fun asked hmem => hkept asked (List.mem_cons_of_mem _ hmem)
    cases call with
    | push sample => exact congrArg (Call.push sample :: ·) hrest
    | setCapacity asked => exact absurd List.mem_cons_self (hkept asked)

/-- **Under one capacity the latest samples are retained, as many as fit.** -/
theorem samples_after_of_kept (capacity : Nat) {calls : List Call}
    (hkept : ∀ asked, .setCapacity asked ∉ calls) :
    (after capacity calls).samples = latest (max 1 capacity) (pushed calls) := by
  have hpush : after capacity calls = (pushed calls).foldl push (ofCapacity capacity) := by
    rw [after, eq_map_push hkept, List.foldl_map, ← eq_map_push hkept]
    rfl
  rw [hpush, samples_foldl_push _ _ (Nat.zero_le _)]
  exact congrArg (latest · (pushed calls)) (atLeastOne capacity)

/-- The history is a suffix of the samples pushed, in their order, is no longer than the capacity
last set (at least one) and ends with the newest; if the capacity is never set anew, it is
exactly the last samples, as many as fit. -/
theorem retains_suffix (capacity : Nat) (calls : List Call) :
    (after capacity calls).samples <:+ pushed calls ∧
    (after capacity calls).capacity = max 1 (calls.foldl Call.asked capacity) ∧
    (after capacity calls).samples.length ≤ (after capacity calls).capacity ∧
    (after capacity calls).samples.getLast? = (pushed calls).getLast? ∧
    ((∀ asked, .setCapacity asked ∉ calls) →
      (after capacity calls).samples =
        latest (min (pushed calls).length (max 1 capacity)) (pushed calls)) := by
  have hwindow := window_after capacity calls
  refine ⟨hwindow.suffix, hwindow.capacity_eq, hwindow.length_le, hwindow.newest, fun hkept => ?_⟩
  rw [samples_after_of_kept capacity hkept, latest, latest, ← Nat.sub_eq_sub_min]

/-- A history made for no samples retains the newest one. -/
theorem retains_suffix_zero :
    (after 0 [.push { evidenceId := 1 }, .push { evidenceId := 2 }]).samples =
      [{ evidenceId := 2 }] :=
  (retains_suffix 0 [.push { evidenceId := 1 }, .push { evidenceId := 2 }]).2.2.2.2
    fun asked h => by
      rw [List.mem_cons, List.mem_singleton] at h
      rcases h with h | h <;> cases h

end ThermalGovernor.RecoveryHistory
