import ThermalGovernor.Ledger.Refines

/-!
# Runs of the coordinator

An `Operation` is one critical section of the coordinator, or one of its calls that
has two; the halves of such a call are operations too, so a run of operations is
any interleaving of calls.  `tick` is the clock: it sets the reading the next
operations see.

`apply_moves` puts the lemmas of `Ledger.Refines` together, and names in `Notes`
which events an operation can leave and from which ledger.  A law of runs is then
proved by `invariant_of_runsUnder`: from the condition on the operations comes the
condition on the moves, and the moves carry the invariant.
-/

namespace ThermalGovernor

open Lib Ledger

/-- The operations of the coordinator. -/
inductive Operation
  | tick (now : SteadyTimePoint)
  | setClock (clock : Option SteadyTimePoint)
  | registerDevice (registration : DeviceRegistration)
  | publishCapabilities (device : DeviceId) (generation : DeviceGeneration)
      (capabilities : CapabilitySet)
  | registerThermalDomain (definition : ThermalDomainDefinition)
  | updateThermalDomain (definition : ThermalDomainDefinition)
  | registerCoupling (relation : CouplingRelation)
  | removeCoupling (id : CouplingId)
  | setPolicy (policy : ThermalPolicy)
  | registerWorker (worker : WorkerId) (boot : WorkerBootId) (label : String)
  | workerHeartbeat (worker : WorkerId) (boot : WorkerBootId)
  | noteWorkerDeath (worker : WorkerId) (boot : WorkerBootId)
  | publishTemperature (e : ThermalEvidence)
  | publishThrottleEvidence (e : ThermalEvidence)
  | publishCoolingEvidence (e : ThermalEvidence)
  | publishNodeTemperature (e : ThermalEvidence)
  | publishRackTemperature (e : ThermalEvidence)
  | evaluateDomain (domain : ThermalDomainId)
  | evaluateDevice (device : DeviceId)
  | evaluateAdmission (request : ThermalAdmissionRequest)
  | authorizeRecovery (domain : ThermalDomainId)
  | revokeRecovery (domain : ThermalDomainId)
  | authorizeMitigation (domain : ThermalDomainId) (record : MitigationIntentRecord)
      (rationale : String)
  | authorizeDerating (domain : ThermalDomainId) (record : MitigationIntentRecord)
      (rationale : String)
  | recordActionDispatch (id : ActionId)
  | recordActionAck (ack : ActionAck)
  | recordActionResult (result : ActionResult)
  | verifyAction (id : ActionId) (fresh : ThermalEvidence)
  | verifyCommit (id : ActionId) (fresh : ThermalEvidence)
  | cancelAction (id : ActionId) (reason : String)
  | loadDurable (file : Option (Result DurableState))
  | shutdown

namespace Operation

/-- The record an operation publishes. -/
def publication : Operation → Option ThermalEvidence
  | publishTemperature e | publishThrottleEvidence e | publishCoolingEvidence e
  | publishNodeTemperature e | publishRackTemperature e | verifyAction _ e => some e
  | _ => none

/-- The operation is a sign of life of the incarnation. -/
def signOfLife (worker : WorkerId) (boot : WorkerBootId) : Operation → Prop
  | registerWorker w b _ | workerHeartbeat w b => w = worker ∧ b = boot
  | _ => False

/-- The file an operation loads. -/
def durableFile : Operation → Option DurableState
  | loadDurable (some (.ok file)) => some file
  | _ => none

end Operation

namespace Governor

/-- One operation, its answer dropped. -/
def apply (g : Governor) : Operation → Governor
  | .tick now => { g with now := now }
  | .setClock clock => (g.setClock clock).1
  | .registerDevice registration => (g.registerDevice registration).1
  | .publishCapabilities device generation capabilities =>
    (g.publishCapabilities device generation capabilities).1
  | .registerThermalDomain definition => (g.registerThermalDomain definition).1
  | .updateThermalDomain definition => (g.updateThermalDomain definition).1
  | .registerCoupling relation => (g.registerCoupling relation).1
  | .removeCoupling id => (g.removeCoupling id).1
  | .setPolicy policy => (g.setPolicy policy).1
  | .registerWorker worker boot label => (g.registerWorker worker boot label).1
  | .workerHeartbeat worker boot => (g.workerHeartbeat worker boot).1
  | .noteWorkerDeath worker boot => (g.noteWorkerDeath worker boot).1
  | .publishTemperature e => (g.publishTemperature e).1
  | .publishThrottleEvidence e => (g.publishThrottleEvidence e).1
  | .publishCoolingEvidence e => (g.publishCoolingEvidence e).1
  | .publishNodeTemperature e => (g.publishNodeTemperature e).1
  | .publishRackTemperature e => (g.publishRackTemperature e).1
  | .evaluateDomain domain => (g.evaluateDomain domain).1
  | .evaluateDevice device => (g.evaluateDevice device).1
  | .evaluateAdmission request => (g.evaluateAdmission request).1
  | .authorizeRecovery domain => (g.authorizeRecovery domain).1
  | .revokeRecovery domain => (g.revokeRecovery domain).1
  | .authorizeMitigation domain record rationale =>
    (g.authorizeMitigation domain record rationale).1
  | .authorizeDerating domain record rationale => (g.authorizeDerating domain record rationale).1
  | .recordActionDispatch id => (g.recordActionDispatch id).1
  | .recordActionAck ack => (g.recordActionAck ack).1
  | .recordActionResult result => (g.recordActionResult result).1
  | .verifyAction id fresh => (g.verifyAction id fresh).1
  | .verifyCommit id fresh => (g.verifyCommit id fresh).1
  | .cancelAction id reason => (g.cancelAction id reason).1
  | .loadDurable file => (g.loadDurable file).1
  | .shutdown => g.shutdown.1

/-- The events an operation may leave, and the ledger it may leave them in. -/
def Notes (g : Governor) (op : Operation) (l : Ledger) : Event → Prop
  | .accepted e => op.publication = some e ∧ l = g.ledger
  | .revived worker boot => op.signOfLife worker boot ∧ l = g.ledger ∧
      ∃ held, g.workers.lookup worker = some held ∧ held.boot = boot ∧ held.alive = false
  | .restored id => l.actionGeneration = g.actionGeneration ∧
      ∃ file a, op.durableFile = some file ∧ a ∈ file.actions ∧ a.id = id
  | .restarted epoch => op.durableFile.isSome = true ∧ l.epoch = g.epoch ∧
      epoch = advance g.epoch
  | _ => True

/-- **Every operation is a sequence of moves of the ledger.** -/
theorem apply_moves (g : Governor) (op : Operation) :
    Moves (g.Notes op) g.ledger (g.apply op).ledger := by
  cases op with
  | tick now => exact .refl
  | setClock clock => exact g.setClock_moves clock
  | registerDevice registration => exact g.registerDevice_moves registration
  | publishCapabilities device generation capabilities =>
    exact g.publishCapabilities_moves device generation capabilities
  | registerThermalDomain definition => exact g.registerThermalDomain_moves definition
  | updateThermalDomain definition => exact g.updateThermalDomain_moves definition
  | registerCoupling relation => exact g.registerCoupling_moves relation
  | removeCoupling id => exact g.removeCoupling_moves id
  | setPolicy policy => exact g.setPolicy_moves policy
  | registerWorker worker boot label =>
    exact g.registerWorker_moves worker boot label fun held hheld hboot hdead =>
      ⟨⟨rfl, rfl⟩, rfl, held, hheld, hboot, hdead⟩
  | workerHeartbeat worker boot =>
    exact g.workerHeartbeat_moves worker boot fun held hheld hboot hdead =>
      ⟨⟨rfl, rfl⟩, rfl, held, hheld, hboot, hdead⟩
  | noteWorkerDeath worker boot => exact g.noteWorkerDeath_moves worker boot
  | publishTemperature e => exact g.publishImpl_moves e ⟨rfl, rfl⟩
  | publishThrottleEvidence e => exact g.publishIf_moves _ e ⟨rfl, rfl⟩
  | publishCoolingEvidence e => exact g.publishIf_moves _ e ⟨rfl, rfl⟩
  | publishNodeTemperature e => exact g.publishIf_moves _ e ⟨rfl, rfl⟩
  | publishRackTemperature e => exact g.publishIf_moves _ e ⟨rfl, rfl⟩
  | evaluateDomain domain => exact g.evaluateAndStore_moves domain
  | evaluateDevice device => exact g.evaluateDevice_moves device
  | evaluateAdmission request => exact g.evaluateAdmission_moves request
  | authorizeRecovery domain => exact g.authorizeRecovery_moves domain
  | revokeRecovery domain => exact g.revokeRecovery_moves domain
  | authorizeMitigation domain record rationale =>
    exact g.authorizeMitigation_moves domain record rationale
  | authorizeDerating domain record rationale =>
    exact g.authorizeDerating_moves domain record rationale
  | recordActionDispatch id => exact g.recordActionDispatch_moves id
  | recordActionAck ack => exact g.recordActionAck_moves ack
  | recordActionResult result => exact g.recordActionResult_moves result
  | verifyAction id fresh => exact g.verifyAction_moves id fresh ⟨rfl, rfl⟩
  | verifyCommit id fresh => exact g.verifyCommit_moves id fresh
  | cancelAction id reason => exact g.cancelAction_moves id reason
  | loadDurable file =>
    refine g.loadDurable_moves file (fun l state a hfile ha hl => ?_)
      fun l state hfile hl => ?_
    · exact ⟨hl, state, a, by rw [hfile]; rfl, ha, rfl⟩
    · exact ⟨by rw [hfile]; rfl, hl, by rw [hl]⟩
  | shutdown => exact g.shutdown_moves

/-! ### Runs -/

/-- The states reached by operations that satisfy a condition where they are applied. -/
abbrev RunsUnder (allowed : Governor → Operation → Prop) : Governor → Governor → Prop :=
  RunUnder apply allowed

/-- The states reached by any operations. -/
abbrev Runs : Governor → Governor → Prop := RunsUnder fun _ _ => True

/-- The states of a coordinator. -/
def Reachable (g : Governor) : Prop := ∃ config now, Runs (create config now) g

variable {allowed : Governor → Operation → Prop} {ok : Ledger → Event → Prop} {g₀ g : Governor}

/-- **What the moves preserve, every run preserves.** -/
theorem invariant_of_runsUnder {I : Ledger → Prop} (hrun : RunsUnder allowed g₀ g)
    (hallowed : ∀ g op l e, allowed g op → g.Notes op l e → ok l e)
    (hstep : ∀ l l', Move ok l l' → I l → I l') (h₀ : I g₀.ledger) : I g.ledger := by
  refine RunUnder.invariant (I := fun g => I g.ledger) hrun h₀ fun g op hg hop => ?_
  exact ((g.apply_moves op).mono fun l e => hallowed g op l e hop).invariant hstep hg

/-- A law of all runs needs no condition on the moves. -/
theorem invariant_of_runs {I : Ledger → Prop} (hrun : Runs g₀ g)
    (hstep : ∀ l l', Move (fun _ _ => True) l l' → I l → I l') (h₀ : I g₀.ledger) :
    I g.ledger :=
  invariant_of_runsUnder hrun (fun _ _ _ _ _ _ => trivial) hstep h₀

theorem RunsUnder.runs (h : RunsUnder allowed g₀ g) : Runs g₀ g :=
  h.mono fun _ _ _ => trivial

theorem Reachable.runs (hg : g₀.Reachable) (h : Runs g₀ g) : g.Reachable := by
  obtain ⟨config, now, hrun⟩ := hg
  exact ⟨config, now, hrun.trans h⟩

theorem Reachable.apply (hg : g.Reachable) (op : Operation) : (g.apply op).Reachable :=
  hg.runs (.tail op .refl trivial)

/-- A list of operations is a run, under any condition they all meet. -/
theorem runsUnder_foldl (operations : List Operation)
    (h : ∀ op ∈ operations, ∀ g, allowed g op) (g : Governor) :
    RunsUnder allowed g (operations.foldl apply g) := RunUnder.of_foldl operations h g

theorem runs_foldl (g : Governor) (operations : List Operation) :
    Runs g (operations.foldl apply g) :=
  runsUnder_foldl operations (fun _ _ _ => trivial) g

end Governor

/-! ### A small deployment

One synthetic device in one domain under the default policy, and a second pair of the
same kind for the runs that need a neighbour.  The runs that show where a law of the
coordinator ends are runs of this deployment. -/

namespace Deployment

def config : GovernorConfig := { durablePath := "governor.state" }

def device : DeviceRegistration where
  device := 1
  generation := 1
  provenance := .synthetic
  capabilities :=
    { states := fun c =>
        match c with
        | .temperature => .supportedSynthetic
        | _ => .unsupported }

def domain : ThermalDomainDefinition where
  id := 1
  generation := 1
  members := [{ subject := .forDevice 1 1 }]
  policy := 1
  provenance := .synthetic

/-- A second device, in a domain of its own. -/
def secondDevice : DeviceRegistration := { device with device := 2 }

def secondDomain : ThermalDomainDefinition :=
  { domain with id := 2, members := [{ subject := .forDevice 2 1 }] }

/-- The one domain heats the other. -/
def coupling (id : CouplingId) (source destination : ThermalDomainId) : CouplingRelation :=
  { id := id, source := source, destination := destination, provenance := .synthetic }

/-- The operations that set the deployment up. -/
def setUp : List Operation := [.registerDevice device, .registerThermalDomain domain]

/-- A reading of the device, taken by no worker. -/
def reading (temperature : DegreesCelsius) (sequence : Nat) (time : SteadyTimePoint) :
    ThermalEvidence where
  evidenceId := sequence
  subject := .forDevice 1 1
  temperature := temperature
  source := .syntheticModel
  provenance := .synthetic
  measurementSequence := sequence
  telemetryGeneration := 1
  coordinatorEpoch := 1
  measuredAt := time

/-- The same reading, taken by a worker. -/
def readingBy (worker : WorkerId) (boot : WorkerBootId) (temperature : DegreesCelsius)
    (sequence : Nat) (time : SteadyTimePoint) : ThermalEvidence :=
  { reading temperature sequence time with worker := worker, workerBoot := boot }

/-- A reading of the second device. -/
def secondReading (temperature : DegreesCelsius) (sequence : Nat) (time : SteadyTimePoint) :
    ThermalEvidence :=
  { reading temperature sequence time with subject := .forDevice 2 1 }

/-- The state after some operations of the deployment. -/
def after (operations : List Operation) : Governor :=
  (setUp ++ operations).foldl Governor.apply (Governor.create config 0)

theorem reachable_after (operations : List Operation) : (after operations).Reachable :=
  ⟨config, 0, Governor.runs_foldl _ _⟩

end Deployment

end ThermalGovernor
