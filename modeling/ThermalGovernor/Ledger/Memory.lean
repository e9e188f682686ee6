import ThermalGovernor.Ledger.Lifecycle

/-!
# What is remembered of the evidence

Beside the current records the coordinator remembers which of them are invalidated, and the
samples that accepted records left in the recovery histories of the domains.  `MemoryStep`
lists every change an operation can make to this memory and to the domains it is about, and
`memoryStep_apply` says that every operation makes one of them.

A record leaves a sample in the domains whose members its subject is among, and in the domain
that it names itself (`sampleIn`).
-/

namespace ThermalGovernor

open Lib

/-- What is remembered of the evidence, and the domains it is about. -/
structure Memory where
  domains : DomainRegistry
  evidence : Table String ThermalEvidence
  invalidated : Finset String
  histories : ThermalDomainId → RecoveryHistory

/-- The sample a record leaves in a domain once it is accepted. -/
def DomainRegistry.sampleIn (r : DomainRegistry) (e : ThermalEvidence)
    (domain : ThermalDomainId) : Option RecoverySample :=
  if domain ∈ r.domainsForSubject e.subject ∨ (isValid e.domain = true ∧ domain = e.domain) then
    (r.find domain).map (recoverySample e)
  else none

/-- The history with a sample pushed, if there is one. -/
def RecoveryHistory.pushAll (h : RecoveryHistory) : Option RecoverySample → RecoveryHistory
  | none => h
  | some s => h.push s

namespace Memory

/-- Enter a new domain, whose history gets the configured capacity. -/
def enter (m : Memory) (capacity : Nat) (definition : ThermalDomainDefinition) : Memory :=
  { m with
    domains := m.domains.store definition
    histories := Function.update m.histories definition.id
      ((m.histories definition.id).setCapacity capacity) }

/-- New domains are entered one after the other. -/
def Enters (capacity : Nat) : Memory → Memory → Prop :=
  Relation.ReflTransGen fun m m' => ∃ definition,
    m.domains.checkAdd definition = .ok () ∧ m' = m.enter capacity definition

/-- Accept a record. -/
def accept (m : Memory) (e : ThermalEvidence) : Memory :=
  { m with
    evidence := m.evidence.insert e.subject.key e
    invalidated := m.invalidated.erase e.subject.key
    histories := fun domain => (m.histories domain).pushAll (m.domains.sampleIn e domain) }

/-- Keep the domains and forget everything about the evidence but what was invalidated. -/
def forget (m : Memory) : Memory :=
  { m with
    evidence := ∅
    invalidated := m.invalidated ∪ m.evidence.keys.toFinset
    histories := fun domain => { m.histories domain with samples := [] } }

end Memory

/-- The operation may change the memory. -/
def Operation.writesMemory : Operation → Bool
  | .registerThermalDomain _ | .updateThermalDomain _ | .registerWorker .. | .noteWorkerDeath ..
  | .publishTemperature _ | .publishThrottleEvidence _ | .publishCoolingEvidence _
  | .publishNodeTemperature _ | .publishRackTemperature _ | .verifyAction .. | .loadDurable _ =>
    true
  | _ => false

namespace Governor

variable {g g' : Governor} {op : Operation}

def memory (g : Governor) : Memory where
  domains := g.domains
  evidence := g.evidence
  invalidated := g.invalidatedEvidence
  histories := g.recoveryHistories

/-- The answer to the publication an operation makes. -/
def publicationAnswer (g : Governor) : Operation → Option (Result EvidenceReceipt)
  | .publishTemperature e | .verifyAction _ e => some (g.publishTemperature e).2
  | .publishThrottleEvidence e => some (g.publishThrottleEvidence e).2
  | .publishCoolingEvidence e => some (g.publishCoolingEvidence e).2
  | .publishNodeTemperature e => some (g.publishNodeTemperature e).2
  | .publishRackTemperature e => some (g.publishRackTemperature e).2
  | _ => none

/-- The record an operation gets accepted. -/
def acceptedBy (g : Governor) (op : Operation) : Option ThermalEvidence :=
  op.publication.filter fun _ => (g.publicationAnswer op).any isAccepted

theorem acceptedBy_of_publication {e : ThermalEvidence} (hop : op.publication = some e)
    {answer : Result EvidenceReceipt} (hanswer : g.publicationAnswer op = some answer) :
    g.acceptedBy op = if isAccepted answer = true then some e else none := by
  rw [acceptedBy, hop, hanswer, Option.any_some]
  cases isAccepted answer <;> rfl

theorem publication_of_acceptedBy {e : ThermalEvidence} (h : g.acceptedBy op = some e) :
    op.publication = some e := by
  rw [acceptedBy, Option.filter_eq_some_iff] at h
  exact h.1

/-- A record that an operation gets accepted is one that the coordinator accepts. -/
theorem accepts_of_acceptedBy {e : ThermalEvidence} (h : g.acceptedBy op = some e) :
    g.accepts e = true := by
  rw [acceptedBy, Option.filter_eq_some_iff] at h
  obtain ⟨hpublished, hanswer⟩ := h
  have hbehind : ∀ check, isAccepted (g.publishIf check e).2 = true → g.accepts e = true := by
    intro check hcheck
    unfold publishIf at hcheck
    split at hcheck
    · exact hcheck
    · cases hcheck
  cases op with
  | publishTemperature fresh | verifyAction _ fresh =>
    obtain rfl : fresh = e := Option.some.inj hpublished
    exact hanswer
  | publishThrottleEvidence fresh | publishCoolingEvidence fresh | publishNodeTemperature fresh
  | publishRackTemperature fresh =>
    obtain rfl : fresh = e := Option.some.inj hpublished
    exact hbehind _ hanswer
  | _ => cases hpublished

/-- Every change an operation can make to the memory. -/
inductive MemoryStep (g : Governor) : Operation → Memory → Prop
  | kept (op : Operation) (h : g.acceptedBy op = none) : MemoryStep g op g.memory
  | entered (definition : ThermalDomainDefinition) (h : g.domains.checkAdd definition = .ok ()) :
      MemoryStep g (.registerThermalDomain definition)
        (g.memory.enter g.config.maxRecoverySamples definition)
  | updated (definition : ThermalDomainDefinition)
      (h : g.domains.checkUpdate definition = .ok ()) :
      MemoryStep g (.updateThermalDomain definition)
        { g.memory with
          domains := g.domains.store definition
          invalidated := g.invalidatedEvidence ∪ g.supersededKeys definition }
  | accepted (op : Operation) (e : ThermalEvidence) (h : g.acceptedBy op = some e) :
      MemoryStep g op (g.memory.accept e)
  | retired (op : Operation) (worker : WorkerId) (boot : WorkerBootId)
      (h : g.retires op = some (worker, boot)) :
      MemoryStep g op
        { g.memory with
          invalidated := g.invalidatedEvidence ∪ g.keysFrom worker boot
          histories := fun domain => (g.recoveryHistories domain).invalidateForBoot boot }
  | loaded (file : Option (Result DurableState)) (m : Memory)
      (h : Memory.Enters g.config.maxRecoverySamples g.memory m) :
      MemoryStep g (.loadDurable file) m
  | restarted (file : Option (Result DurableState)) (m : Memory)
      (h : Memory.Enters g.config.maxRecoverySamples g.memory m) :
      MemoryStep g (.loadDurable file) m.forget

/-! ### The building blocks -/

theorem memory_of_same (h : SameExceptEvaluations g g') : g'.memory = g.memory := by
  obtain ⟨_, _, _, _, rfl⟩ := h
  rfl

@[simp] theorem memory_publishLocked (g : Governor) : g.publishLocked.memory = g.memory := rfl

@[simp] theorem memory_advanceTopology (g : Governor) : g.advanceTopology.memory = g.memory := rfl

@[simp] theorem memory_putAction (g : Governor) (id : ActionId) (action : ThermalAction) :
    (g.putAction id action).memory = g.memory := rfl

@[simp] theorem memory_recomputeDomain (g : Governor) (domain : ThermalDomainId) :
    (g.recomputeDomain domain).memory = g.memory := memory_of_same (g.recomputeDomain_same domain)

@[simp] theorem memory_recomputeDomains (g : Governor) (domains : List ThermalDomainId) :
    (g.recomputeDomains domains).memory = g.memory :=
  memory_of_same (g.recomputeDomains_same domains)

@[simp] theorem memory_recomputeAllDomains (g : Governor) :
    g.recomputeAllDomains.memory = g.memory := memory_of_same g.recomputeAllDomains_same

@[simp] theorem memory_recordTransition (g : Governor) (domain : ThermalDomainId)
    (generation : ThermalDomainGeneration) (e : ThermalEvaluation) :
    (g.recordTransition domain generation e).memory = g.memory :=
  memory_of_same (g.recordTransition_same domain generation e)

@[simp] theorem memory_evaluateDomain (g : Governor) (domain : ThermalDomainId) :
    (g.evaluateDomain domain).1.memory = g.memory := memory_of_same (g.evaluateDomain_same domain)

@[simp] theorem memory_keepAlive (g : Governor) (worker : WorkerId)
    (held record : WorkerRecord) : (g.keepAlive worker held record).memory = g.memory := by
  unfold keepAlive
  dsimp only
  split <;> rfl

@[simp] theorem memory_enrol (g : Governor) (worker : WorkerId) (boot : WorkerBootId)
    (label : String) : (g.enrol worker boot label).1.memory = g.memory := by
  unfold enrol
  split
  · rfl
  · rw [memory_publishLocked, memory_recomputeAllDomains]
    rfl

@[simp] theorem memory_countPublication (g : Governor) (e : ThermalEvidence) :
    (g.countPublication e).memory = g.memory := by
  unfold countPublication
  split
  · rfl
  · split <;> rfl

@[simp] theorem memory_createAction (g : Governor) (domain : ThermalDomainId)
    (definition : ThermalDomainDefinition) (policy : ThermalPolicy) (e : ThermalEvaluation)
    (record : MitigationIntentRecord) (rationale : String) :
    (g.createAction domain definition policy e record rationale).1.memory = g.memory := rfl

@[simp] theorem memory_commitVerification (g : Governor) (id : ActionId)
    (action : ThermalAction) (verified : ActionVerification) :
    (g.commitVerification id action verified).1.memory = g.memory := rfl

theorem memory_of_evaluateLocked {definition : ThermalDomainDefinition}
    {r : Result ThermalEvaluation} (h : g.evaluateLocked definition = (g', r)) :
    g'.memory = g.memory := memory_of_same (same_of_evaluateLocked h)

theorem memory_authorizeMitigation (g : Governor) (domain : ThermalDomainId)
    (record : MitigationIntentRecord) (rationale : String) :
    (g.authorizeMitigation domain record rationale).1.memory = g.memory :=
  authorizeMitigation_rule (P := fun g' => g'.memory = g.memory) rfl
    (fun _ _ _ _ heval => memory_of_evaluateLocked heval)
    fun _ _ _ _ _ _ heval =>
      (memory_createAction _ _ _ _ _ _ _).trans (memory_of_evaluateLocked heval)

theorem memory_verifyCommit (g : Governor) (id : ActionId) (fresh : ThermalEvidence) :
    (g.verifyCommit id fresh).1.memory = g.memory := by
  refine verifyCommit_rule (P := fun g' => g'.memory = g.memory) rfl
    (fun _ _ _ _ _ heval => memory_of_evaluateLocked heval) ?_
  intro action definition before evaluated after verified _ _ heval _
  rw [memory_publishLocked, memory_recordTransition, memory_commitVerification]
  exact memory_of_evaluateLocked heval

/-- **Every other operation leaves the memory as it is.** -/
theorem memory_apply (g : Governor) {op : Operation} (h : op.writesMemory = false) :
    (g.apply op).memory = g.memory := by
  cases op with
  | tick now => rfl
  | setClock clock =>
    rw [apply]
    cases clock with
    | none => rfl
    | some now =>
      rw [setClock]
      split <;> rfl
  | registerDevice registration =>
    rw [apply, registerDevice]
    split
    · rfl
    · rw [memory_publishLocked, memory_recomputeAllDomains]
      rfl
  | publishCapabilities device generation capabilities =>
    rw [apply, publishCapabilities]
    split
    · rfl
    · split
      · rfl
      · rw [memory_publishLocked, memory_recomputeAllDomains]
        rfl
  | registerCoupling relation =>
    rw [apply, registerCoupling]
    split
    · rfl
    · rw [memory_publishLocked, memory_advanceTopology, memory_recomputeAllDomains]
      rfl
  | removeCoupling other =>
    rw [apply, removeCoupling]
    split
    · rfl
    · rw [memory_publishLocked, memory_advanceTopology, memory_recomputeAllDomains]
      rfl
  | setPolicy policy =>
    rw [apply, setPolicy]
    split
    · rfl
    · split
      · rfl
      · rw [memory_publishLocked, memory_recomputeAllDomains]
        rfl
  | workerHeartbeat worker boot =>
    rw [apply, workerHeartbeat]
    split
    · rfl
    · split
      · rfl
      · exact g.memory_keepAlive worker _ _
  | evaluateDomain domain => exact g.memory_evaluateDomain domain
  | evaluateDevice device =>
    rw [apply, evaluateDevice]
    split
    · rfl
    · split
      · rfl
      · exact g.memory_evaluateDomain _
  | evaluateAdmission request =>
    rw [apply, evaluateAdmission]
    split
    · rfl
    · split
      · rfl
      · split
        · rfl
        · split
          · rfl
          · split
            · rename_i heval
              exact memory_of_evaluateLocked heval
            · rename_i heval
              exact memory_of_evaluateLocked heval
  | authorizeRecovery domain =>
    rw [apply, authorizeRecovery]
    split
    · rfl
    · rw [memory_publishLocked, memory_recomputeDomain]
      rfl
  | revokeRecovery domain =>
    rw [apply, revokeRecovery]
    split
    · rfl
    · rw [memory_publishLocked, memory_recomputeDomain]
      rfl
  | authorizeMitigation domain record rationale =>
    exact g.memory_authorizeMitigation domain record rationale
  | authorizeDerating domain record rationale =>
    have hevaluated : (g.evaluateDomain domain).1.memory = g.memory :=
      g.memory_evaluateDomain domain
    exact authorizeDerating_rule (P := fun g' => g'.memory = g.memory) hevaluated fun demanded =>
      (memory_authorizeMitigation _ domain demanded rationale).trans hevaluated
  | recordActionDispatch id =>
    exact recordActionDispatch_rule (P := fun g' => g'.memory = g.memory) rfl (fun _ => rfl)
      fun _ => rfl
  | recordActionAck ack =>
    exact recordActionAck_rule (P := fun g' => g'.memory = g.memory) rfl fun _ => rfl
  | recordActionResult result =>
    exact recordActionResult_rule (P := fun g' => g'.memory = g.memory) rfl fun _ => rfl
  | verifyCommit id fresh => exact g.memory_verifyCommit id fresh
  | cancelAction id reason =>
    exact cancelAction_rule (P := fun g' => g'.memory = g.memory) rfl (fun _ => rfl) fun _ => rfl
  | shutdown =>
    rw [apply, shutdown]
    split <;> rfl
  | registerThermalDomain | updateThermalDomain | registerWorker | noteWorkerDeath
  | publishTemperature | publishThrottleEvidence | publishCoolingEvidence
  | publishNodeTemperature | publishRackTemperature | verifyAction | loadDurable => cases h

/-! ### Publications -/

/-- A domain that is brought up to date gets its sample, if it is registered. -/
theorem memory_refreshDomain (e : ThermalEvidence) (g : Governor) (domain : ThermalDomainId) :
    (refreshDomain e g domain).memory =
      { g.memory with
        histories := Function.update g.recoveryHistories domain
          ((g.recoveryHistories domain).pushAll
            ((g.domains.find domain).map (recoverySample e))) } := by
  unfold refreshDomain
  cases g.domains.find domain with
  | none =>
    rw [Option.map_none, RecoveryHistory.pushAll, Function.update_eq_self]
    rfl
  | some definition => exact memory_recomputeDomain _ domain

/-- So do the domains of a list, each once. -/
theorem memory_foldl_refreshDomain (e : ThermalEvidence) (domains : List ThermalDomainId) :
    ∀ g : Governor, domains.Nodup → (domains.foldl (refreshDomain e) g).memory =
      { g.memory with
        histories := fun domain => (g.recoveryHistories domain).pushAll
          (if domain ∈ domains then (g.domains.find domain).map (recoverySample e)
          else none) } := by
  induction domains with
  | nil => intro g _; rfl
  | cons first rest ih =>
    intro g hnodup
    have hfirst := memory_refreshDomain e g first
    have hdomains : (refreshDomain e g first).domains = g.domains :=
      congrArg Memory.domains hfirst
    have hhistories := congrArg Memory.histories hfirst
    dsimp only [memory] at hhistories
    rw [List.foldl_cons, ih _ hnodup.of_cons, hfirst, hdomains, hhistories]
    refine congrArg (fun histories => { g.memory with histories := histories }) ?_
    funext domain
    by_cases hsame : domain = first
    · subst hsame
      rw [Function.update_self, if_neg (List.nodup_cons.mp hnodup).1,
        if_pos List.mem_cons_self]
      rfl
    · rw [Function.update_of_ne hsame]
      simp only [List.mem_cons, hsame, false_or]

theorem mem_affectedDomains {e : ThermalEvidence} {domain : ThermalDomainId} :
    domain ∈ g.affectedDomains e ↔
      domain ∈ g.domains.domainsForSubject e.subject ∨
        (isValid e.domain = true ∧ domain = e.domain) := by
  unfold affectedDomains
  rw [List.mem_dedup, List.mem_insertionSort, List.mem_append]
  cases isValid e.domain <;> simp

/-- **A record that is committed is accepted into the memory.** -/
theorem memory_commitEvidence (g : Governor) (e : ThermalEvidence) :
    (g.commitEvidence e).1.memory = g.memory.accept e := by
  have haccepted : ((g.acceptEvidence e).countPublication e).memory =
      (g.acceptEvidence e).memory := memory_countPublication _ e
  have hdomains : ((g.acceptEvidence e).countPublication e).domains = g.domains :=
    congrArg Memory.domains haccepted
  have hhistories : ((g.acceptEvidence e).countPublication e).recoveryHistories =
      g.recoveryHistories := congrArg Memory.histories haccepted
  have haffected : (((g.acceptEvidence e).countPublication e).affectedDomains e).Nodup :=
    List.nodup_dedup _
  unfold commitEvidence
  dsimp only
  rw [memory_publishLocked, memory_recomputeDomains,
    memory_foldl_refreshDomain e _ _ haffected, haccepted, hdomains, hhistories]
  refine congrArg (fun histories => { (g.acceptEvidence e).memory with histories := histories }) ?_
  funext domain
  simp only [mem_affectedDomains, hdomains]
  rfl

theorem memory_publishImpl (g : Governor) (e : ThermalEvidence) :
    (g.publishImpl e).1.memory =
      if isAccepted (g.publishImpl e).2 = true then g.memory.accept e else g.memory := by
  cases haccepted : isAccepted (g.publishImpl e).2 with
  | false => rw [publishImpl_of_refused haccepted, if_neg Bool.false_ne_true]
  | true =>
    have hcommits : g.accepts e = true := haccepted
    rw [publishImpl_of_accepts hcommits, if_pos rfl]
    exact g.memory_commitEvidence e

theorem memory_publishIf (g : Governor) (check : Check) (e : ThermalEvidence) :
    (g.publishIf check e).1.memory =
      if isAccepted (g.publishIf check e).2 = true then g.memory.accept e else g.memory := by
  unfold publishIf
  split
  · exact g.memory_publishImpl e
  · rfl

/-- The step of an operation that publishes a record and gets the answer. -/
theorem memoryStep_of_publication {e : ThermalEvidence} (hop : op.publication = some e)
    {answer : Result EvidenceReceipt} (hanswer : g.publicationAnswer op = some answer)
    (h : (g.apply op).memory =
      if isAccepted answer = true then g.memory.accept e else g.memory) :
    MemoryStep g op (g.apply op).memory := by
  have haccepted := acceptedBy_of_publication hop hanswer
  rw [h]
  cases hanswered : isAccepted answer with
  | false =>
    rw [hanswered, if_neg Bool.false_ne_true] at haccepted
    exact .kept op haccepted
  | true =>
    rw [hanswered, if_pos rfl] at haccepted
    exact .accepted op e haccepted

/-! ### Domains, workers and loads -/

theorem memoryStep_registerThermalDomain (g : Governor) (definition : ThermalDomainDefinition) :
    MemoryStep g (.registerThermalDomain definition)
      (g.registerThermalDomain definition).1.memory := by
  unfold registerThermalDomain DomainRegistry.add
  split
  · exact .kept _ rfl
  · cases hcheck : g.domains.checkAdd definition with
    | error e => exact .kept _ rfl
    | ok _ =>
      dsimp only
      rw [memory_publishLocked, memory_advanceTopology, memory_recomputeDomain]
      exact .entered definition hcheck

theorem memoryStep_updateThermalDomain (g : Governor) (definition : ThermalDomainDefinition) :
    MemoryStep g (.updateThermalDomain definition) (g.updateThermalDomain definition).1.memory := by
  unfold updateThermalDomain DomainRegistry.update
  cases hcheck : g.domains.checkUpdate definition with
  | error e => exact .kept _ rfl
  | ok _ =>
    dsimp only
    rw [memory_publishLocked, memory_advanceTopology, memory_recomputeDomain]
    exact .updated definition hcheck

theorem memoryStep_of_retires {worker : WorkerId} {boot : WorkerBootId}
    (h : g.retires op = some (worker, boot)) : MemoryStep g op (g.apply op).memory := by
  have hstep := MemoryStep.retired op worker boot h
  obtain ⟨held, -, -, ⟨-, happly⟩ | ⟨later, label, -, -, happly⟩⟩ := apply_of_retires h
  · rw [happly, memory_publishLocked, memory_recomputeAllDomains]
    exact hstep
  · rw [happly, memory_enrol]
    exact hstep

theorem memory_registerWorker_of_not_retires {worker : WorkerId} {boot : WorkerBootId}
    {label : String} (h : g.retires (.registerWorker worker boot label) = none) :
    (g.registerWorker worker boot label).1.memory = g.memory := by
  unfold registerWorker
  rw [retires] at h
  split
  · rfl
  · rename_i hvalid
    cases hheld : g.workers.lookup worker with
    | none => exact g.memory_enrol worker boot label
    | some held =>
      rw [hheld] at h
      dsimp only at h ⊢
      split
      · rfl
      · rename_i hback
        split
        · exact g.memory_keepAlive worker held _
        · rename_i hother
          -- a later boot retires the earlier one
          rw [if_pos] at h
          · cases h
          · have hlater : held.boot < boot := lt_of_le_of_ne (Nat.not_lt.mp hback) hother
            simp only [Bool.or_eq_true, Bool.not_eq_true', not_or, Bool.not_eq_false] at hvalid
            rw [hvalid.1, hvalid.2, decide_eq_true hlater]
            rfl

theorem memory_noteWorkerDeath_of_not_retires {worker : WorkerId} {boot : WorkerBootId}
    (h : g.retires (.noteWorkerDeath worker boot) = none) :
    (g.noteWorkerDeath worker boot).1.memory = g.memory := by
  unfold noteWorkerDeath
  rw [retires] at h
  cases hheld : g.workers.lookup worker with
  | none => rfl
  | some held =>
    rw [hheld] at h
    dsimp only at h ⊢
    split
    · rfl
    · rename_i hsame
      rw [if_pos (not_not.mp hsame)] at h
      cases h

theorem memory_restoreRecords (g : Governor) (file : DurableState) :
    (g.restoreRecords file).memory = g.memory :=
  foldl_unchanged (p := memory) (f := restoreAction) (fun _ _ => rfl) file.actions
    { g with history := file.transitions }

/-- A load enters new domains, and forgets the evidence when it is restored to the end. -/
theorem memoryStep_loadDurable (g : Governor) (content : Option (Result DurableState)) :
    MemoryStep g (.loadDurable content) (g.loadDurable content).1.memory := by
  rcases g.fst_loadDurable content with hkept | ⟨file, -, -, hrestored⟩
  · rw [hkept]
    exact .kept _ rfl
  · rw [hrestored]
    refine restore_rule (I := fun g' => g'.config = g.config ∧
        Memory.Enters g.config.maxRecoverySamples g.memory g'.memory)
      (J := fun r => MemoryStep g (.loadDurable content) r.1.memory) ⟨rfl, .refl⟩
      (fun g' definition hcheck hg' => ⟨hg'.1, hg'.2.tail ⟨definition, hcheck, ?_⟩⟩)
      (fun g' relation _ _ hg' => hg') (fun g' e hg' => .loaded content _ hg'.2)
      fun g' hg' => ?_
    · rw [← hg'.1]
      rfl
    · have hforgets : ∀ g : Governor, g.discardDynamicState.memory = g.memory.forget :=
        fun _ => rfl
      dsimp only
      rw [memory_publishLocked, memory_recomputeAllDomains, memory_advanceTopology, hforgets,
        memory_restoreRecords]
      exact .restarted content _ hg'.2

/-! ### Every operation -/

theorem memoryStep_verifyAction (g : Governor) (id : ActionId) (fresh : ThermalEvidence) :
    MemoryStep g (.verifyAction id fresh) (g.apply (.verifyAction id fresh)).memory := by
  refine memoryStep_of_publication rfl rfl ?_
  have hpublished := g.memory_publishImpl fresh
  rw [apply, verifyAction]
  split
  · rename_i hanswer
    rw [publishTemperature] at hanswer ⊢
    rwa [hanswer] at hpublished ⊢
  · rename_i published receipt hanswer
    rw [publishTemperature] at hanswer ⊢
    rw [hanswer] at hpublished ⊢
    exact (published.memory_verifyCommit id fresh).trans hpublished

/-- **Every operation changes the memory in one of the listed ways.** -/
theorem memoryStep_apply (g : Governor) (op : Operation) :
    MemoryStep g op (g.apply op).memory := by
  cases op with
  | registerThermalDomain definition => exact g.memoryStep_registerThermalDomain definition
  | updateThermalDomain definition => exact g.memoryStep_updateThermalDomain definition
  | registerWorker worker boot label =>
    cases hretires : g.retires (.registerWorker worker boot label) with
    | some incarnation => exact memoryStep_of_retires hretires
    | none =>
      rw [apply, memory_registerWorker_of_not_retires hretires]
      exact .kept _ rfl
  | noteWorkerDeath worker boot =>
    cases hretires : g.retires (.noteWorkerDeath worker boot) with
    | some incarnation => exact memoryStep_of_retires hretires
    | none =>
      rw [apply, memory_noteWorkerDeath_of_not_retires hretires]
      exact .kept _ rfl
  | publishTemperature e => exact memoryStep_of_publication rfl rfl (g.memory_publishImpl e)
  | publishThrottleEvidence e =>
    exact memoryStep_of_publication rfl rfl (g.memory_publishIf _ e)
  | publishCoolingEvidence e =>
    exact memoryStep_of_publication rfl rfl (g.memory_publishIf _ e)
  | publishNodeTemperature e =>
    exact memoryStep_of_publication rfl rfl (g.memory_publishIf _ e)
  | publishRackTemperature e =>
    exact memoryStep_of_publication rfl rfl (g.memory_publishIf _ e)
  | verifyAction id fresh => exact g.memoryStep_verifyAction id fresh
  | loadDurable content => exact g.memoryStep_loadDurable content
  | _ =>
    rw [g.memory_apply rfl]
    exact .kept _ rfl

end Governor

end ThermalGovernor
