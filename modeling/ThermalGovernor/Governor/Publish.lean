import ThermalGovernor.Governor.Workers

/-!
# Accepting evidence

`publishImpl` is the one way evidence enters.  After the structure of the record
the fences compare its authority with the current one (`publishChecks`): epoch,
worker incarnation, device generation, domain generation.  Only then is it placed
against the record held for the same subject, and only when that record is of the
same incarnation (`sequenceVerdict`).

An accepted record becomes the current evidence of its subject, leaves a recovery
sample in every domain it belongs to, and has these domains and their coupled
neighbours recomputed.
-/

namespace ThermalGovernor

open Lib

/-- The answer to a publication that was not refused. -/
structure EvidenceReceipt where
  comparison : EvidenceComparison := .independent
  telemetryGeneration : TelemetryGeneration := 0
  accepted : Bool := false
  affectedDomains : List ThermalDomainId := []

/-- Depth to which coupled neighbours are recomputed. -/
def couplingRecomputeDepth : Nat := 3

/-- Two records were taken by the same incarnation. -/
def ThermalEvidence.sameIncarnation (a b : ThermalEvidence) : Bool :=
  a.worker = b.worker && a.workerBoot = b.workerBoot

/-- The sample an accepted record leaves in the history of a domain. -/
def recoverySample (e : ThermalEvidence) (definition : ThermalDomainDefinition) :
    RecoverySample where
  evidenceId := e.evidenceId
  temperature := e.temperature
  atTime := e.measuredAt
  worker := e.worker
  workerBoot := e.workerBoot
  coordinatorEpoch := e.coordinatorEpoch
  deviceGeneration := e.subject.deviceGeneration
  domainGeneration := definition.generation
  telemetryGeneration := e.telemetryGeneration
  provenance := e.provenance
  admissible := e.integrity = .ok
  throttleClass := (e.throttle.map ThrottleObservation.classification).getD .throttleUnknown

/-- How the sequence places a record that passed the fences. -/
inductive SequenceVerdict
  | commit
  | duplicate (held : ThermalEvidence)
  | refused (error : ThermalError)

/-- Sequencing is scoped to a worker incarnation: a record of another one is not compared. -/
def sequenceVerdict (held : Option ThermalEvidence) (incoming : ThermalEvidence) :
    SequenceVerdict :=
  match held with
  | none => .commit
  | some held =>
    if ! held.sameIncarnation incoming then .commit
    else
      match compareEvidence held incoming with
      | .identicalDuplicate => .duplicate held
      | .conflictingDuplicate =>
        .refused ⟨.duplicateConflict,
          "evidence conflicts with the observation already held for this subject"⟩
      | .superseded =>
        .refused ⟨.staleTelemetry,
          "evidence sequence predates the observation already held"⟩
      | .independent =>
        if incoming.telemetryGeneration < held.telemetryGeneration then
          .refused ⟨.staleTelemetry, "telemetry generation moved backwards"⟩
        else .commit

namespace Governor

/-! ### Fences -/

def workerChecks (g : Governor) (e : ThermalEvidence) : List Check :=
  if ! isValid e.worker then []
  else
    match g.workers.lookup e.worker with
    | none => [⟨false, .staleWorker, "evidence names an unregistered worker"⟩]
    | some held =>
      [ ⟨held.boot == e.workerBoot, .staleWorker,
          "evidence carries a stale worker boot identity"⟩,
        ⟨held.alive, .staleWorker, "evidence was produced by a retired worker"⟩ ]

def deviceGenerationChecks (g : Governor) (e : ThermalEvidence) : List Check :=
  if e.subject.kind ≠ .device then []
  else
    match g.devices.lookup e.subject.device with
    | none => [⟨false, .unknownDevice, "evidence names an unregistered device"⟩]
    | some held =>
      [⟨held.generation == e.subject.deviceGeneration, .staleDeviceGeneration,
        "evidence carries a stale device generation"⟩]

def domainGenerationChecks (g : Governor) (e : ThermalEvidence) : List Check :=
  if ! isValid e.domain then []
  else
    match g.domains.find e.domain with
    | none => [⟨false, .unknownDomain, "evidence names an unregistered thermal domain"⟩]
    | some held =>
      [⟨held.generation == e.domainGeneration, .staleDomainGeneration,
        "evidence carries a stale thermal domain generation"⟩]

/-- The fences of a publication, in the order of the source. -/
def publishChecks (g : Governor) (e : ThermalEvidence) : List Check :=
  [ ⟨! g.stopping, .revalidationRequired, "runtime is shutting down"⟩,
    ⟨e.coordinatorEpoch == g.epoch, .staleEpoch, "evidence carries a stale coordinator epoch"⟩ ]
  ++ g.workerChecks e ++ g.deviceGenerationChecks e ++ g.domainGenerationChecks e

/-! ### Commit -/

/-- Make a record the current evidence of its subject. -/
def acceptEvidence (g : Governor) (e : ThermalEvidence) : Governor :=
  note
    { g with
      conflictedSubjects := g.conflictedSubjects.erase e.subject.device
      invalidatedEvidence := g.invalidatedEvidence.erase e.subject.key
      telemetryGeneration := observe g.telemetryGeneration e.telemetryGeneration
      evidence := g.evidence.insert e.subject.key e }
    (.accepted e)

/-- Count a publication of a registered worker. -/
def countPublication (g : Governor) (e : ThermalEvidence) : Governor :=
  if ! isValid e.worker then g
  else
    match g.workers.lookup e.worker with
    | none => g
    | some held =>
      { g with
        workers := g.workers.insert e.worker
          { held with evidencePublished := held.evidencePublished + 1, lastSeenAt := g.now } }

/-- The domains a record belongs to, smallest id first. -/
def affectedDomains (g : Governor) (e : ThermalEvidence) : List ThermalDomainId :=
  let named := if isValid e.domain then [e.domain] else []
  ((g.domains.domainsForSubject e.subject ++ named).insertionSort (· ≤ ·)).dedup

/-- Record the sample of a record in one domain and recompute it. -/
def refreshDomain (e : ThermalEvidence) (g : Governor) (domain : ThermalDomainId) : Governor :=
  match g.domains.find domain with
  | none => g
  | some definition =>
    (g.setHistory domain
      ((g.recoveryHistories domain).push (recoverySample e definition))).recomputeDomain domain

/-- The coupled neighbours of a list of domains, in either direction. -/
def coupledNeighbours (g : Governor) (domains : List ThermalDomainId) : List ThermalDomainId :=
  let reached := domains.flatMap fun domain =>
    (g.couplings.reachableFrom domain couplingRecomputeDepth).map Prod.fst ++
      (g.couplings.incomingReachable domain couplingRecomputeDepth).map Prod.fst
  (reached.insertionSort (· ≤ ·)).dedup

/-- Accept a record and bring every domain it concerns up to date. -/
def commitEvidence (g : Governor) (e : ThermalEvidence) : Governor × Result EvidenceReceipt :=
  let accepted := (g.acceptEvidence e).countPublication e
  let affected := accepted.affectedDomains e
  let refreshed := affected.foldl (refreshDomain e) accepted
  (publishLocked (refreshed.recomputeDomains (refreshed.coupledNeighbours affected)),
    .ok
      { telemetryGeneration := e.telemetryGeneration
        accepted := true
        affectedDomains := affected })

def publishImpl (g : Governor) (e : ThermalEvidence) : Governor × Result EvidenceReceipt :=
  match validateEvidenceStructure e with
  | .error err => (g, .error err)
  | .ok () =>
    match runChecks (g.publishChecks e) with
    | .error err => (g, .error err)
    | .ok () =>
      match sequenceVerdict (g.evidence.lookup e.subject.key) e with
      | .refused err => (g, .error err)
      | .duplicate held =>
        (g, .ok
          { comparison := .identicalDuplicate
            telemetryGeneration := held.telemetryGeneration })
      | .commit => g.commitEvidence e

/-- The publication of a record makes it the current evidence of its subject. -/
def accepts (g : Governor) (e : ThermalEvidence) : Bool :=
  match (g.publishImpl e).2 with
  | .ok receipt => receipt.accepted
  | .error _ => false

/-- **A record is accepted exactly when its structure, the fences and the sequence allow it.** -/
theorem accepts_eq_true {g : Governor} {e : ThermalEvidence} :
    g.accepts e = true ↔
      validateEvidenceStructure e = .ok () ∧ runChecks (g.publishChecks e) = .ok () ∧
        sequenceVerdict (g.evidence.lookup e.subject.key) e = .commit := by
  unfold accepts publishImpl
  cases validateEvidenceStructure e with
  | error err => simp
  | ok _ =>
    cases runChecks (g.publishChecks e) with
    | error err => simp
    | ok _ =>
      cases sequenceVerdict (g.evidence.lookup e.subject.key) e with
      | refused err => simp
      | duplicate held => simp
      | commit => simp [commitEvidence]

/-- A record that is accepted is committed. -/
theorem publishImpl_of_accepts {g : Governor} {e : ThermalEvidence} (h : g.accepts e = true) :
    g.publishImpl e = g.commitEvidence e := by
  obtain ⟨hstructure, hchecks, hcommit⟩ := accepts_eq_true.mp h
  unfold publishImpl
  rw [hstructure, hchecks, hcommit]

/-! ### The operations -/

def publishTemperature (g : Governor) (e : ThermalEvidence) :
    Governor × Result EvidenceReceipt := g.publishImpl e

/-- A publication with a check of its own in front. -/
def publishIf (g : Governor) (check : Check) (e : ThermalEvidence) :
    Governor × Result EvidenceReceipt :=
  if check.holds then g.publishImpl e else (g, failure check.code check.detail)

def publishThrottleEvidence (g : Governor) (e : ThermalEvidence) :
    Governor × Result EvidenceReceipt :=
  g.publishIf ⟨e.throttle.isSome, .invalidArgument,
    "throttle evidence requires a throttle observation"⟩ e

def publishCoolingEvidence (g : Governor) (e : ThermalEvidence) :
    Governor × Result EvidenceReceipt :=
  g.publishIf ⟨e.cooling.any CoolingEvidence.hasAny, .capabilityUnsupported,
    "cooling evidence requires at least one cooling observation"⟩ e

def publishNodeTemperature (g : Governor) (e : ThermalEvidence) :
    Governor × Result EvidenceReceipt :=
  g.publishIf ⟨e.subject.kind = .node, .invalidArgument,
    "node temperature requires a NODE subject"⟩ e

def publishRackTemperature (g : Governor) (e : ThermalEvidence) :
    Governor × Result EvidenceReceipt :=
  g.publishIf ⟨e.subject.kind = .rack, .invalidArgument,
    "rack temperature requires a RACK subject"⟩ e

end Governor

/-! ### Refusals -/

namespace Governor

/-- The operations that publish evidence. -/
def publishers : List (Governor → ThermalEvidence → Governor × Result EvidenceReceipt) :=
  [publishTemperature, publishThrottleEvidence, publishCoolingEvidence, publishNodeTemperature,
    publishRackTemperature]

/-- The answer accepts the record; neither an error does nor a receipt that says so. -/
def isAccepted : Result EvidenceReceipt → Bool
  | .ok receipt => receipt.accepted
  | .error _ => false

theorem publishImpl_of_refused {g : Governor} {e : ThermalEvidence}
    (h : isAccepted (g.publishImpl e).2 = false) : (g.publishImpl e).1 = g := by
  unfold publishImpl at h ⊢
  cases hstructure : validateEvidenceStructure e with
  | error err => rfl
  | ok _ =>
    rw [hstructure] at h
    dsimp only at h ⊢
    cases hchecks : runChecks (g.publishChecks e) with
    | error err => rfl
    | ok _ =>
      rw [hchecks] at h
      dsimp only at h ⊢
      cases hsequence : sequenceVerdict (g.evidence.lookup e.subject.key) e with
      | refused err => rfl
      | duplicate held => rfl
      | commit =>
        rw [hsequence] at h
        cases h

/-- A publication leaves the coordinator as it was or commits the record it accepted. -/
theorem publishImpl_rule {P : Governor → Prop} {g : Governor} {e : ThermalEvidence} (hrefused : P g)
    (hcommitted : g.accepts e = true → P (g.commitEvidence e).1) : P (g.publishImpl e).1 := by
  cases haccepts : g.accepts e with
  | false =>
    rw [publishImpl_of_refused haccepts]
    exact hrefused
  | true =>
    rw [publishImpl_of_accepts haccepts]
    exact hcommitted haccepts

/-- A check in front of a publication only adds a way to leave the coordinator as it was. -/
theorem publishIf_rule {P : Governor → Prop} {g : Governor} {check : Check} {e : ThermalEvidence}
    (hrefused : P g) (hpublished : P (g.publishImpl e).1) : P (g.publishIf check e).1 := by
  unfold publishIf
  split
  · exact hpublished
  · exact hrefused

theorem publishIf_of_refused {g : Governor} {check : Check} {e : ThermalEvidence}
    (h : isAccepted (g.publishIf check e).2 = false) : (g.publishIf check e).1 = g := by
  unfold publishIf at h ⊢
  split at h
  · rename_i hcheck
    rw [if_pos hcheck]
    exact publishImpl_of_refused h
  · rename_i hcheck
    rw [if_neg hcheck]

/-- Each of them publishes behind one check of its own. -/
theorem exists_check {publish : Governor → ThermalEvidence → Governor × Result EvidenceReceipt}
    (h : publish ∈ publishers) :
    ∃ check : ThermalEvidence → Check, ∀ g e, publish g e = publishIf g (check e) e := by
  simp only [publishers, List.mem_cons, List.not_mem_nil, or_false] at h
  rcases h with rfl | rfl | rfl | rfl | rfl
  · exact ⟨fun _ => ⟨true, .none, ""⟩, fun _ _ => rfl⟩
  · exact ⟨_, fun _ _ => rfl⟩
  · exact ⟨_, fun _ _ => rfl⟩
  · exact ⟨_, fun _ _ => rfl⟩
  · exact ⟨_, fun _ _ => rfl⟩

/-- **A publication that is not accepted leaves the whole state as it was**, whichever
operation published the record and whatever refused it. -/
theorem publish_unchanged {publish : Governor → ThermalEvidence → Governor × Result EvidenceReceipt}
    (hpublish : publish ∈ publishers) {g : Governor} {e : ThermalEvidence}
    (h : isAccepted (publish g e).2 = false) : (publish g e).1 = g := by
  obtain ⟨check, hcheck⟩ := exists_check hpublish
  rw [hcheck] at h ⊢
  exact publishIf_of_refused h

/-- A reading of the first epoch is refused by a coordinator that does not know its device. -/
theorem publish_unchanged_unregistered :
    (publishTemperature (create {} 0)
      { evidenceId := 1, subject := .forDevice 1 1, temperature := 40,
        coordinatorEpoch := 1 }).1 = create {} 0 :=
  publish_unchanged (List.mem_of_getElem? (i := 0) rfl) (by decide +kernel)

end Governor

/-- **A record that is committed over one of its own incarnation is later in the sequence.** -/
theorem lt_of_sequenceVerdict_commit {held incoming : ThermalEvidence}
    (h : sequenceVerdict (some held) incoming = .commit)
    (hsame : held.sameIncarnation incoming = true) :
    held.measurementSequence < incoming.measurementSequence := by
  simp only [sequenceVerdict, hsame, Bool.not_true, Bool.false_eq_true, if_false] at h
  split at h
  · cases h
  · cases h
  · cases h
  · rename_i hind
    exact lt_of_compareEvidence_independent hind

/-- A record whose worker passed the fence names a live incarnation. -/
theorem Governor.of_workerChecks {g : Governor} {e : ThermalEvidence}
    (h : ∀ check ∈ g.workerChecks e, check.holds = true) (hw : e.worker ≠ 0) :
    ∃ held, g.workers.lookup e.worker = some held ∧ held.boot = e.workerBoot ∧
      held.alive = true := by
  have hvalid : isValid e.worker = true := isValid_eq_true.mpr hw
  simp only [workerChecks, hvalid, Bool.not_true, Bool.false_eq_true, if_false] at h
  split at h
  · have := h _ (List.mem_singleton_self _)
    cases this
  · rename_i held hheld
    simp only [List.forall_mem_cons] at h
    exact ⟨held, hheld, by simpa using h.1, h.2.1⟩

end ThermalGovernor
