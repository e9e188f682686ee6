import ThermalGovernor.Ledger.Lifecycle

/-!
# The samples of a retired incarnation

A retirement goes through the recovery history of every domain.  What it keeps there are
the samples of the boot that is retired, of any worker, and what it drops are all others.
So it removes the witness it is to remove, and no other, exactly in the states in which
every sample is of the retired boot and of another worker (`retiresWitness_iff`).
-/

namespace ThermalGovernor

open Lib

/-- The sample was taken by the incarnation. -/
def RecoverySample.isFrom (s : RecoverySample) (worker : WorkerId) (boot : WorkerBootId) : Bool :=
  s.worker = worker && s.workerBoot = boot

theorem RecoverySample.isFrom_eq_true {s : RecoverySample} {worker : WorkerId}
    {boot : WorkerBootId} :
    s.isFrom worker boot = true ↔ s.worker = worker ∧ s.workerBoot = boot := by
  simp [isFrom]

theorem mem_invalidateForBoot {h : RecoveryHistory} {boot : WorkerBootId} {s : RecoverySample} :
    s ∈ (h.invalidateForBoot boot).samples ↔ s ∈ h.samples ∧ s.workerBoot = boot := by
  simp [RecoveryHistory.invalidateForBoot]

/-- A history of one boot only is kept as it is. -/
theorem invalidateForBoot_eq_self {h : RecoveryHistory} {boot : WorkerBootId}
    (hboot : ∀ s ∈ h.samples, s.workerBoot = boot) :
    (h.invalidateForBoot boot).samples = h.samples := by
  rw [RecoveryHistory.invalidateForBoot, List.filter_eq_self]
  intro s hs
  exact decide_eq_true (hboot s hs)

namespace Governor

variable {g : Governor} {op : Operation} {worker : WorkerId} {boot : WorkerBootId}

/-- Between the two states every history lost the samples of the incarnation and no others. -/
structure RetiresWitness (g g' : Governor) (worker : WorkerId) (boot : WorkerBootId) : Prop where
  removed : ∀ domain, ∀ s ∈ (g'.recoveryHistories domain).samples, s.isFrom worker boot = false
  kept : ∀ domain,
    ((g.recoveryHistories domain).samples.filter fun s => ! s.isFrom worker boot).Sublist
      (g'.recoveryHistories domain).samples

theorem recoveryHistories_enrol (g : Governor) (worker : WorkerId) (boot : WorkerBootId)
    (label : String) :
    (g.enrol worker boot label).1.recoveryHistories = g.recoveryHistories := by
  unfold enrol
  split
  · rfl
  · exact (recomputeAllDomains_same _).recoveryHistories

/-- What a retirement does to the histories. -/
theorem recoveryHistories_of_retires (h : g.retires op = some (worker, boot)) :
    (g.apply op).recoveryHistories =
      fun domain => (g.recoveryHistories domain).invalidateForBoot boot := by
  obtain ⟨held, -, -, ⟨-, happly⟩ | ⟨later, label, -, -, happly⟩⟩ := apply_of_retires h
  · rw [happly]
    exact (recomputeAllDomains_same _).recoveryHistories
  · rw [happly, recoveryHistories_enrol]
    rfl

/-- **A retirement removes exactly the retired witness, when every sample that is held is of
the retired boot and of another worker, and in no other state.** -/
theorem retiresWitness_iff (g : Governor) (op : Operation) (worker : WorkerId)
    (boot : WorkerBootId) (hretires : g.retires op = some (worker, boot)) :
    RetiresWitness g (g.apply op) worker boot ↔
      ∀ domain, ∀ s ∈ (g.recoveryHistories domain).samples,
        s.workerBoot = boot ∧ s.worker ≠ worker := by
  have hafter := recoveryHistories_of_retires hretires
  constructor
  · intro h domain s hs
    have hremoved := h.removed domain s
    have hkept := h.kept domain
    rw [hafter] at hremoved hkept
    by_cases hfrom : s.isFrom worker boot = true
    · -- a sample of the incarnation would have been kept
      have hboot : s.workerBoot = boot := (RecoverySample.isFrom_eq_true.mp hfrom).2
      rw [hremoved (mem_invalidateForBoot.mpr ⟨hs, hboot⟩)] at hfrom
      cases hfrom
    · have hother : s ∈ (g.recoveryHistories domain).samples.filter
          fun s => ! s.isFrom worker boot := by
        rw [List.mem_filter]
        exact ⟨hs, by simpa using hfrom⟩
      have hboot : s.workerBoot = boot := (mem_invalidateForBoot.mp (hkept.subset hother)).2
      exact ⟨hboot, fun hworker => hfrom (RecoverySample.isFrom_eq_true.mpr ⟨hworker, hboot⟩)⟩
  · intro h
    refine ⟨fun domain s hs => ?_, fun domain => ?_⟩
    · rw [hafter] at hs
      have hsample := h domain s (mem_invalidateForBoot.mp hs).1
      rw [← Bool.not_eq_true, RecoverySample.isFrom_eq_true]
      exact fun hfrom => hsample.2 hfrom.1
    · rw [hafter, invalidateForBoot_eq_self fun s hs => (h domain s hs).1]
      exact List.filter_sublist

section Deployment

open Deployment

/-- A worker that dies before anything was published leaves nothing behind. -/
theorem retiresWitness_unpublished :
    RetiresWitness ((create Deployment.config 0).apply (.registerWorker 1 1 "worker"))
      (((create Deployment.config 0).apply (.registerWorker 1 1 "worker")).apply
        (.noteWorkerDeath 1 1)) 1 1 := by
  refine (retiresWitness_iff _ (.noteWorkerDeath 1 1) 1 1 (by decide +kernel)).mpr ?_
  intro domain s hs
  cases hs

/-- Two workers publish into one domain, and the first of them dies. -/
def twoWitnesses : Governor :=
  after [.registerWorker 1 1 "first", .registerWorker 2 2 "second",
    .publishTemperature (readingBy 1 1 50 1 0), .publishTemperature (readingBy 2 2 50 1 10)]

/-- Its sample stays, and the sample of the second worker is lost. -/
theorem not_retiresWitness :
    ¬ ∀ (g : Governor) (op : Operation) (worker : WorkerId) (boot : WorkerBootId),
      g.Reachable → g.retires op = some (worker, boot) →
        RetiresWitness g (g.apply op) worker boot := by
  intro h
  have hretired := h twoWitnesses (.noteWorkerDeath 1 1) 1 1 (reachable_after _)
    (by decide +kernel)
  have hsamples : ((twoWitnesses.apply (.noteWorkerDeath 1 1)).recoveryHistories 1).samples.all
      (fun s => ! s.isFrom 1 1) = false := by decide +kernel
  have hall : ((twoWitnesses.apply (.noteWorkerDeath 1 1)).recoveryHistories 1).samples.all
      (fun s => ! s.isFrom 1 1) = true := by
    rw [List.all_eq_true]
    intro s hs
    rw [hretired.removed 1 s hs]
    rfl
  rw [hsamples] at hall
  cases hall

end Deployment

end Governor

end ThermalGovernor
