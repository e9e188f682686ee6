import ThermalGovernor.Governor.Topology

/-!
# Worker incarnations

A worker publishes under a boot identity, and a record of it says whether that
incarnation is alive.  `retireBootLocked` takes every claim of an incarnation
back: its record is no longer alive, its evidence no longer current, its actions
end with an unknown outcome.

What the retirement does not touch is the boot of the record, and both
`registerWorker` with that boot and `workerHeartbeat` make the record alive
again.  The trace keeps the two kinds of event apart: `retired` and `revived`.
-/

namespace ThermalGovernor

open Lib

/-- The record belongs to the incarnation. -/
def WorkerRecord.is (r : WorkerRecord) (worker : WorkerId) (boot : WorkerBootId) : Bool :=
  r.worker = worker && r.boot = boot

/-- The record of the incarnation is no longer alive; other records are kept. -/
def WorkerRecord.retire (r : WorkerRecord) (worker : WorkerId) (boot : WorkerBootId) :
    WorkerRecord :=
  if r.is worker boot then { r with alive := false } else r

@[simp] theorem WorkerRecord.retire_worker (r : WorkerRecord) (worker : WorkerId)
    (boot : WorkerBootId) : (r.retire worker boot).worker = r.worker := by
  unfold WorkerRecord.retire
  split <;> rfl

@[simp] theorem WorkerRecord.retire_boot (r : WorkerRecord) (worker : WorkerId)
    (boot : WorkerBootId) : (r.retire worker boot).boot = r.boot := by
  unfold WorkerRecord.retire
  split <;> rfl

/-- A retirement brings no record to life. -/
theorem WorkerRecord.alive_retire {r : WorkerRecord} (h : r.alive = false) (worker : WorkerId)
    (boot : WorkerBootId) : (r.retire worker boot).alive = false := by
  unfold WorkerRecord.retire
  split
  · rfl
  · exact h

/-- The evidence was taken by the incarnation. -/
def ThermalEvidence.isFrom (e : ThermalEvidence) (worker : WorkerId) (boot : WorkerBootId) :
    Bool :=
  e.worker = worker && e.workerBoot = boot

/-- An action whose incarnation was retired; only an unfinished one changes. -/
def ThermalAction.retire (a : ThermalAction) (worker : WorkerId) (boot : WorkerBootId)
    (now : SteadyTimePoint) : ThermalAction :=
  if a.authority.worker ≠ worker || a.authority.workerBoot ≠ boot then a
  else if a.lifecycle.isTerminal then a
  else
    { a with
      lifecycle := .outcomeUnknown
      terminalAt := now
      detail := "worker incarnation retired before the outcome was proven"
      reasons := a.reasons.add .evidenceGenerationInvalidated }

namespace Governor

/-- The keys of the records an incarnation took. -/
def keysFrom (g : Governor) (worker : WorkerId) (boot : WorkerBootId) : Finset String :=
  g.evidence.keys.toFinset.filter fun key =>
    (g.evidence.lookup key).any fun record => record.isFrom worker boot

/-- Retire every claim held by a worker incarnation. -/
def retireBootLocked (g : Governor) (worker : WorkerId) (boot : WorkerBootId) : Governor :=
  note
    { g with
      workers := Table.mapValues (fun _ r => r.retire worker boot) g.workers
      invalidatedEvidence := g.invalidatedEvidence ∪ g.keysFrom worker boot
      recoveryHistories := fun domain => (g.recoveryHistories domain).invalidateForBoot boot
      actions := Table.mapValues (fun _ a => a.retire worker boot g.now) g.actions
      actionBaselines := ∅ }
    (.retired worker boot)

/-- Write a live record over the one held; an incarnation that was not alive is revived. -/
def keepAlive (g : Governor) (worker : WorkerId) (held : WorkerRecord)
    (record : WorkerRecord) : Governor :=
  let stored := { g with workers := g.workers.insert worker { record with alive := true } }
  if held.alive then stored else stored.note (.revived worker held.boot)

/-- Enter a new incarnation in the worker table. -/
def enrol (g : Governor) (worker : WorkerId) (boot : WorkerBootId) (label : String) :
    Governor × Status :=
  if g.config.maxWorkers ≤ Table.size g.workers then
    (g, failure .resourceExhausted "worker limit reached")
  else
    let record : WorkerRecord :=
      { worker := worker
        boot := boot
        label := label
        alive := true
        registeredAt := g.now
        lastSeenAt := g.now }
    (publishLocked <| recomputeAllDomains { g with workers := g.workers.insert worker record },
      .ok ())

/-- Register a worker, or a later boot of one.  The earlier boot is retired before the
table is asked for room. -/
def registerWorker (g : Governor) (worker : WorkerId) (boot : WorkerBootId) (label : String) :
    Governor × Status :=
  if ! isValid worker || ! isValid boot then
    (g, failure .invalidArgument "worker identity and boot identity must be non-zero")
  else
    match g.workers.lookup worker with
    | none => g.enrol worker boot label
    | some held =>
      if boot < held.boot then
        (g, failure .staleWorker "worker boot identity would move backwards")
      else if held.boot = boot then
        (publishLocked (g.keepAlive worker held { held with label := label }), .ok ())
      else (g.retireBootLocked worker held.boot).enrol worker boot label

/-- A heartbeat makes the incarnation alive, whatever it was before. -/
def workerHeartbeat (g : Governor) (worker : WorkerId) (boot : WorkerBootId) :
    Governor × Status :=
  match g.workers.lookup worker with
  | none => (g, failure .unknownDevice "worker is not registered")
  | some held =>
    if held.boot ≠ boot then
      (g, failure .staleWorker "heartbeat carries a stale worker boot")
    else (g.keepAlive worker held { held with lastSeenAt := g.now }, .ok ())

def noteWorkerDeath (g : Governor) (worker : WorkerId) (boot : WorkerBootId) :
    Governor × Status :=
  match g.workers.lookup worker with
  | none => (g, failure .unknownDevice "worker is not registered")
  | some held =>
    if held.boot ≠ boot then
      (g, failure .staleWorker "worker death notice carries a stale worker boot")
    else
      (publishLocked <| recomputeAllDomains <| retireBootLocked
        { g with workers := g.workers.insert worker { held with alive := false } }
        worker boot, .ok ())

/-! ### What a registration does -/

/-- A registration is refused, enrols a worker, keeps the boot of one alive, or retires it for a
later one. -/
theorem registerWorker_rule {P : Governor → Prop} {g : Governor} {worker : WorkerId}
    {boot : WorkerBootId} {label : String} (hrefused : P g)
    (henrolled : worker ≠ 0 → g.workers.lookup worker = none → P (g.enrol worker boot label).1)
    (hkept : ∀ held, g.workers.lookup worker = some held → held.boot = boot →
      P (publishLocked (g.keepAlive worker held { held with label := label })))
    (hreplaced : ∀ held, worker ≠ 0 → g.workers.lookup worker = some held → held.boot < boot →
      P ((g.retireBootLocked worker held.boot).enrol worker boot label).1) :
    P (g.registerWorker worker boot label).1 := by
  unfold registerWorker
  split
  · exact hrefused
  rename_i hvalid
  have hworker : worker ≠ 0 := by
    rintro rfl
    exact hvalid rfl
  split
  · rename_i hnone
    exact henrolled hworker hnone
  rename_i held hheld
  split
  · exact hrefused
  rename_i hback
  split
  · rename_i hsame
    exact hkept held hheld hsame
  · rename_i hother
    exact hreplaced held hworker hheld (lt_of_le_of_ne (not_lt.mp hback) hother)

/-- A retirement leaves every worker with its boot. -/
theorem boot_retireBootLocked {g : Governor} {worker : WorkerId} {held retired : WorkerRecord}
    (hheld : g.workers.lookup worker = some held)
    (hretired : (g.retireBootLocked worker held.boot).workers.lookup worker = some retired) :
    retired.boot = held.boot := by
  have hlookup : (Table.mapValues (fun _ (r : WorkerRecord) => r.retire worker held.boot)
      g.workers).lookup worker = some retired := hretired
  rw [Table.lookup_mapValues, hheld, Option.map_some, Option.some.injEq] at hlookup
  rw [← hlookup, WorkerRecord.retire_boot]

end Governor

end ThermalGovernor
