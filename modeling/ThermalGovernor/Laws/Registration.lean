import ThermalGovernor.Ledger.Run

/-!
# A refused registration of a worker

`registerWorker` asks for room last, and a later boot of a registered worker has its earlier
boot retired before that.  So a refusal leaves the state as it was unless it comes from a full
table while the worker is being replaced (`registerWorker_refused`), and in that case it is
not called for either, since the record is written over the one held
(`size_insert_of_held`).
-/

namespace ThermalGovernor

open Lib

namespace Governor

variable {g g' : Governor} {worker : WorkerId} {boot : WorkerBootId} {label : String}

/-- The tables that a registration may write, and the snapshot, are as they were. -/
structure TablesKept (g g' : Governor) : Prop where
  workers : g'.workers = g.workers
  invalidated : g'.invalidatedEvidence = g.invalidatedEvidence
  histories : g'.recoveryHistories = g.recoveryHistories
  actions : g'.actions = g.actions
  baselines : g'.actionBaselines = g.actionBaselines
  evaluations : g'.evaluations = g.evaluations
  published : g'.published = g.published

theorem TablesKept.refl (g : Governor) : TablesKept g g := ⟨rfl, rfl, rfl, rfl, rfl, rfl, rfl⟩

/-- A later boot of a registered worker comes to a full table. -/
def ReplacedWhenFull (g : Governor) (worker : WorkerId) (boot : WorkerBootId) : Prop :=
  worker ≠ 0 ∧ (∃ held, g.workers.lookup worker = some held ∧ held.boot < boot) ∧
    g.config.maxWorkers ≤ Table.size g.workers

/-- A retirement makes no room. -/
theorem full_retireBootLocked (g : Governor) (worker : WorkerId) (boot : WorkerBootId) :
    (g.retireBootLocked worker boot).config.maxWorkers ≤
        Table.size (g.retireBootLocked worker boot).workers ↔
      g.config.maxWorkers ≤ Table.size g.workers := by
  have hsize : Table.size (g.retireBootLocked worker boot).workers = Table.size g.workers :=
    List.length_map _
  rw [hsize]
  rfl

/-! ### The two ends of a registration -/

theorem enrol_of_full (h : g.config.maxWorkers ≤ Table.size g.workers) :
    g.enrol worker boot label = (g, failure .resourceExhausted "worker limit reached") := by
  rw [enrol, if_pos h]

theorem enrol_of_room (h : ¬ g.config.maxWorkers ≤ Table.size g.workers) :
    (g.enrol worker boot label).2 = .ok () := by
  rw [enrol, if_neg h]

theorem enrol_refused {e : ThermalError} (h : (g.enrol worker boot label).2 = .error e) :
    (g.enrol worker boot label).1 = g := by
  by_cases hfull : g.config.maxWorkers ≤ Table.size g.workers
  · rw [enrol_of_full hfull]
  · rw [enrol_of_room hfull] at h
    cases h

/-- A later boot is enrolled over the retired one. -/
theorem registerWorker_of_later {held : WorkerRecord} (hworker : worker ≠ 0)
    (hheld : g.workers.lookup worker = some held) (hlater : held.boot < boot) :
    g.registerWorker worker boot label =
      (g.retireBootLocked worker held.boot).enrol worker boot label := by
  have hboot : boot ≠ 0 := Nat.ne_of_gt (Nat.zero_lt_of_lt hlater)
  have hvalid : (! isValid worker || ! isValid boot) = false := by
    simp [isValid, hworker, hboot]
  rw [registerWorker, hvalid, if_neg Bool.false_ne_true, hheld]
  dsimp only
  rw [if_neg (not_lt_of_gt hlater), if_neg (ne_of_lt hlater)]

/-- **A refusal leaves the state as it was, or a later boot came to a full table.** -/
theorem registerWorker_refused {e : ThermalError}
    (h : (g.registerWorker worker boot label).2 = .error e) :
    (g.registerWorker worker boot label).1 = g ∨ g.ReplacedWhenFull worker boot := by
  by_cases hworker : worker = 0
  · subst hworker
    exact .inl rfl
  by_cases hboot : boot = 0
  · subst hboot
    have hvalid : (! isValid worker || ! isValid (0 : WorkerBootId)) = true := by simp [isValid]
    rw [registerWorker, hvalid, if_pos rfl]
    exact .inl rfl
  have hvalid : (! isValid worker || ! isValid boot) = false := by
    simp [isValid, hworker, hboot]
  cases hheld : g.workers.lookup worker with
  | none =>
    have hnew : g.registerWorker worker boot label = g.enrol worker boot label := by
      rw [registerWorker, hvalid, if_neg Bool.false_ne_true, hheld]
    rw [hnew] at h ⊢
    exact .inl (enrol_refused h)
  | some held =>
    rcases lt_trichotomy held.boot boot with hlater | hsame | hearlier
    · rw [registerWorker_of_later hworker hheld hlater] at h
      refine .inr ⟨hworker, ⟨held, hheld, hlater⟩, ?_⟩
      by_contra hroom
      rw [enrol_of_room ((full_retireBootLocked _ _ _).not.mpr hroom)] at h
      cases h
    · rw [registerWorker, hvalid, if_neg Bool.false_ne_true, hheld] at h
      dsimp only at h
      rw [if_neg (not_lt_of_ge (le_of_eq hsame)), if_pos hsame] at h
      cases h
    · rw [registerWorker, hvalid, if_neg Bool.false_ne_true, hheld]
      dsimp only
      rw [if_pos hearlier]
      exact .inl rfl

/-- A refused registration changes nothing, and a later boot of a registered worker is not
refused for want of room. -/
structure RefusedCleanly (g : Governor) (worker : WorkerId) (boot : WorkerBootId)
    (label : String) : Prop where
  kept : ∀ e, (g.registerWorker worker boot label).2 = .error e →
    TablesKept g (g.registerWorker worker boot label).1
  room : ∀ held, g.workers.lookup worker = some held → held.boot < boot →
    ∀ e, (g.registerWorker worker boot label).2 = .error e → e.code ≠ .resourceExhausted

section Deployment

open Deployment

/-- A coordinator with room for one worker, and that worker. -/
def oneWorker : Governor :=
  (create { Deployment.config with maxWorkers := 1 } 0).apply (.registerWorker 1 1 "worker")

end Deployment

end Governor

end ThermalGovernor
