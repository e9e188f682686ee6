import ThermalGovernor.Laws.Outcomes
import ThermalGovernor.Laws.Verification
import ThermalGovernor.Laws.Witnesses
import ThermalGovernor.Laws.WorkerFence

/-!
# What a retirement leaves of the other actions

A retirement of one incarnation ends the open actions of that incarnation and keeps all
others, but it clears the planning baselines of every action.  What a publication reads is
the same afterwards, for records of other incarnations (`LostBaselines`), so the run in which
the incarnation was retired and the run in which it was not go on side by side, up to a
verification that asks for a baseline.  An unrelated action is as verifiable as before exactly
when its verification does not come so far (`asVerifiable_iff`).
-/

namespace ThermalGovernor

open Lib

/-- The record is of the incarnation that is retired, or of the one that replaces it. -/
def Operation.concerns (op : Operation) (worker : WorkerId) (boot : WorkerBootId)
    (e : ThermalEvidence) : Bool :=
  e.isFrom worker boot ||
    match op with
    | .registerWorker _ later _ => e.isFrom worker later
    | _ => false

/-- The sequence does not refuse the record. -/
def SequenceVerdict.allows : SequenceVerdict → Bool
  | .refused _ => false
  | .commit | .duplicate _ => true

theorem runChecks_append (first second : List Check) :
    runChecks (first ++ second) = (runChecks first).bind fun _ => runChecks second := by
  induction first with
  | nil => rfl
  | cons check rest ih =>
    rw [List.cons_append, runChecks, runChecks]
    split
    · exact ih
    · rfl

namespace Governor

variable {g g' : Governor} {op : Operation} {worker : WorkerId} {boot : WorkerBootId}
  {id : ActionId} {e fresh : ThermalEvidence} {concerned : ThermalEvidence → Bool}

/-! ### What a publication and a verification read -/

/-- What a publication reads besides the workers, and what a verification reads before it
evaluates. -/
structure Grounds where
  config : GovernorConfig
  stopping : Bool
  epoch : CoordinatorEpoch
  devices : Table DeviceId DeviceRegistration
  domains : DomainRegistry
  evidence : Table String ThermalEvidence
  actions : Table ActionId ThermalAction
  verifications : List ActionVerification
  actionBaselines : Table ActionId ThermalEvaluation

def grounds (g : Governor) : Grounds where
  config := g.config
  stopping := g.stopping
  epoch := g.epoch
  devices := g.devices
  domains := g.domains
  evidence := g.evidence
  actions := g.actions
  verifications := g.verifications
  actionBaselines := g.actionBaselines

theorem SameExceptEvaluations.grounds (h : SameExceptEvaluations g g') :
    g'.grounds = g.grounds := by
  obtain ⟨_, _, _, _, rfl⟩ := h
  rfl

@[simp] theorem grounds_publishLocked (g : Governor) : g.publishLocked.grounds = g.grounds := rfl

theorem grounds_enrol (g : Governor) (worker : WorkerId) (boot : WorkerBootId) (label : String) :
    (g.enrol worker boot label).1.grounds = g.grounds := by
  unfold enrol
  split
  · rfl
  · exact (recomputeAllDomains_same _).grounds

theorem grounds_countPublication (g : Governor) (e : ThermalEvidence) :
    (g.countPublication e).grounds = g.grounds := by
  unfold countPublication
  split
  · rfl
  · split <;> rfl

theorem grounds_refreshDomain (e : ThermalEvidence) (g : Governor) (domain : ThermalDomainId) :
    (refreshDomain e g domain).grounds = g.grounds := by
  unfold refreshDomain
  split
  · rfl
  · exact (recomputeDomain_same _ domain).grounds

/-- A commit changes the evidence and nothing else that is read. -/
theorem grounds_commitEvidence (g : Governor) (e : ThermalEvidence) :
    (g.commitEvidence e).1.grounds =
      { g.grounds with evidence := g.evidence.insert e.subject.key e } := by
  have haccepted : ((g.acceptEvidence e).countPublication e).grounds =
      { g.grounds with evidence := g.evidence.insert e.subject.key e } :=
    grounds_countPublication _ e
  unfold commitEvidence
  dsimp only
  rw [grounds_publishLocked, (recomputeDomains_same _ _).grounds,
    foldl_unchanged (p := Governor.grounds) (grounds_refreshDomain e), haccepted]

theorem grounds_publishImpl (g : Governor) (e : ThermalEvidence) :
    ∃ evidence, (g.publishImpl e).1.grounds = { g.grounds with evidence := evidence } :=
  publishImpl_rule (P := fun g' => ∃ evidence, g'.grounds = { g.grounds with evidence := evidence })
    ⟨_, rfl⟩ fun _ => ⟨_, grounds_commitEvidence g e⟩

/-! ### The fence of the workers -/

theorem workerChecks_congr (h : g'.workers.lookup e.worker = g.workers.lookup e.worker) :
    g'.workerChecks e = g.workerChecks e := by
  unfold workerChecks
  rw [h]

/-- A record of another boot than the one held is refused as stale. -/
theorem runChecks_workerChecks {held : WorkerRecord} (hvalid : isValid e.worker = true)
    (hheld : g.workers.lookup e.worker = some held) (hboot : held.boot ≠ e.workerBoot) :
    runChecks (g.workerChecks e) =
      failure .staleWorker "evidence carries a stale worker boot identity" := by
  have hstale : (held.boot == e.workerBoot) = false := beq_eq_false_iff_ne.mpr hboot
  unfold workerChecks
  rw [hvalid, Bool.not_true, if_neg Bool.false_ne_true, hheld]
  dsimp only
  rw [runChecks, hstale, if_neg Bool.false_ne_true]

theorem workers_commitEvidence (g : Governor) (e : ThermalEvidence) :
    (g.commitEvidence e).1.workers = ((g.acceptEvidence e).countPublication e).workers := by
  have hrefresh : ∀ (t : Governor) (domain : ThermalDomainId),
      (refreshDomain e t domain).workers = t.workers := by
    intro t domain
    unfold refreshDomain
    split
    · rfl
    · exact (recomputeDomain_same _ domain).workers
  unfold commitEvidence
  dsimp only
  have hpublished : ∀ t : Governor, t.publishLocked.workers = t.workers := fun _ => rfl
  rw [hpublished, (recomputeDomains_same _ _).workers,
    foldl_unchanged (p := Governor.workers) hrefresh]

/-- Counting a publication changes neither the boot of a worker nor whether it is alive. -/
theorem workerChecks_commitEvidence (g : Governor) (e incoming : ThermalEvidence) :
    (g.commitEvidence e).1.workerChecks incoming = g.workerChecks incoming := by
  have hcounted : ((g.acceptEvidence e).countPublication e).workerChecks incoming =
      g.workerChecks incoming := by
    rw [countPublication]
    split
    · rfl
    cases hheld : (g.acceptEvidence e).workers.lookup e.worker with
    | none => rfl
    | some held =>
      have hheld' : g.workers.lookup e.worker = some held := hheld
      by_cases hsame : incoming.worker = e.worker
      · unfold workerChecks
        dsimp only
        rw [hsame, AList.lookup_insert, hheld']
      · exact workerChecks_congr (AList.lookup_insert_ne hsame)
  rw [← hcounted]
  exact workerChecks_congr (by rw [workers_commitEvidence])

/-! ### Two runs side by side -/

/-- The second state lost all baselines, and publishes what concerns nobody as the first. -/
structure LostBaselines (concerned : ThermalEvidence → Bool) (g g' : Governor) : Prop where
  grounds : g'.grounds = { g.grounds with actions := g'.actions, actionBaselines := ∅ }
  fence : ∀ e, concerned e = false →
    runChecks (g'.workerChecks e) = runChecks (g.workerChecks e)

namespace LostBaselines

theorem config (h : LostBaselines concerned g g') : g'.config = g.config :=
  congrArg Grounds.config h.grounds

theorem stopping (h : LostBaselines concerned g g') : g'.stopping = g.stopping :=
  congrArg Grounds.stopping h.grounds

theorem epoch (h : LostBaselines concerned g g') : g'.epoch = g.epoch :=
  congrArg Grounds.epoch h.grounds

theorem devices (h : LostBaselines concerned g g') : g'.devices = g.devices :=
  congrArg Grounds.devices h.grounds

theorem domains (h : LostBaselines concerned g g') : g'.domains = g.domains :=
  congrArg Grounds.domains h.grounds

theorem evidence (h : LostBaselines concerned g g') : g'.evidence = g.evidence :=
  congrArg Grounds.evidence h.grounds

theorem verifications (h : LostBaselines concerned g g') : g'.verifications = g.verifications :=
  congrArg Grounds.verifications h.grounds

theorem actionBaselines (h : LostBaselines concerned g g') : g'.actionBaselines = ∅ :=
  congrArg Grounds.actionBaselines h.grounds

theorem publishChecks (h : LostBaselines concerned g g') (he : concerned e = false) :
    runChecks (g'.publishChecks e) = runChecks (g.publishChecks e) := by
  have hdevice : g'.deviceGenerationChecks e = g.deviceGenerationChecks e := by
    unfold deviceGenerationChecks
    rw [h.devices]
  have hdomain : g'.domainGenerationChecks e = g.domainGenerationChecks e := by
    unfold domainGenerationChecks
    rw [h.domains]
  unfold Governor.publishChecks
  rw [h.stopping, h.epoch, hdevice, hdomain, runChecks_append, runChecks_append, runChecks_append,
    runChecks_append, runChecks_append, runChecks_append, h.fence e he]

theorem commitEvidence (h : LostBaselines concerned g g') (e : ThermalEvidence) :
    LostBaselines concerned (g.commitEvidence e).1 (g'.commitEvidence e).1 := by
  have hactions : (g'.commitEvidence e).1.actions = g'.actions := actions_commitEvidence g' e
  constructor
  · rw [grounds_commitEvidence, grounds_commitEvidence, hactions, h.grounds, h.evidence]
  · intro incoming hincoming
    rw [workerChecks_commitEvidence, workerChecks_commitEvidence, h.fence incoming hincoming]

/-- The domains a record belongs to are found in the registry. -/
theorem commitEvidence_result (h : LostBaselines concerned g g') (e : ThermalEvidence) :
    (g'.commitEvidence e).2 = (g.commitEvidence e).2 := by
  have hdomains : ∀ t : Governor,
      ((t.acceptEvidence e).countPublication e).domains = t.domains := fun t =>
    congrArg Grounds.domains (grounds_countPublication (t.acceptEvidence e) e)
  have haffected : ((g'.acceptEvidence e).countPublication e).affectedDomains e =
      ((g.acceptEvidence e).countPublication e).affectedDomains e := by
    unfold affectedDomains
    rw [hdomains, hdomains, h.domains]
  unfold Governor.commitEvidence
  dsimp only
  rw [haffected]

/-- **A publication that concerns nobody comes out the same in both runs.** -/
theorem publishImpl (h : LostBaselines concerned g g') (he : concerned e = false) :
    LostBaselines concerned (g.publishImpl e).1 (g'.publishImpl e).1 ∧
      (g'.publishImpl e).2 = (g.publishImpl e).2 := by
  unfold Governor.publishImpl
  rw [h.publishChecks he, h.evidence]
  cases validateEvidenceStructure e with
  | error err => exact ⟨h, rfl⟩
  | ok _ =>
    cases runChecks (g.publishChecks e) with
    | error err => exact ⟨h, rfl⟩
    | ok _ =>
      cases sequenceVerdict (g.evidence.lookup e.subject.key) e with
      | refused err => exact ⟨h, rfl⟩
      | duplicate held => exact ⟨h, rfl⟩
      | commit => exact ⟨h.commitEvidence e, h.commitEvidence_result e⟩

end LostBaselines

/-! ### The retirement -/

/-- A record that is not of the incarnation is left as it is. -/
theorem retire_eq_self {r : WorkerRecord} {w : WorkerId} (hkeyed : r.worker = w)
    (hother : w ≠ worker) : r.retire worker boot = r := by
  have his : r.is worker boot = false := by
    rw [WorkerRecord.is, hkeyed, decide_eq_false hother, Bool.false_and]
  rw [WorkerRecord.retire, his, if_neg Bool.false_ne_true]

theorem boot_ne_of_isFrom_eq_false (h : e.isFrom worker boot = false)
    (hworker : e.worker = worker) : boot ≠ e.workerBoot := by
  rintro rfl
  rw [ThermalEvidence.isFrom, hworker, decide_eq_true rfl, decide_eq_true rfl] at h
  cases h

/-- A record of the worker that concerns nobody is of another boot than the retired one. -/
theorem ne_of_concerns (h : op.concerns worker boot e = false) (hworker : e.worker = worker) :
    boot ≠ e.workerBoot :=
  boot_ne_of_isFrom_eq_false (Bool.or_eq_false_iff.mp h).1 hworker

theorem ne_of_concerns_registerWorker {later : WorkerBootId} {label : String}
    (h : (Operation.registerWorker worker later label).concerns worker boot e = false)
    (hworker : e.worker = worker) : later ≠ e.workerBoot :=
  boot_ne_of_isFrom_eq_false (Bool.or_eq_false_iff.mp h).2 hworker

/-- What a retirement does to the workers: the others are as they were, and the record of
the worker is of a boot that no unconcerned record carries. -/
structure RetiresRecord (g g' : Governor) (worker : WorkerId)
    (concerned : ThermalEvidence → Bool) : Prop where
  others : ∀ w, w ≠ worker → g'.workers.lookup w = g.workers.lookup w
  before : ∃ r, g.workers.lookup worker = some r ∧
    ∀ e, concerned e = false → e.worker = worker → r.boot ≠ e.workerBoot
  after : ∃ r, g'.workers.lookup worker = some r ∧
    ∀ e, concerned e = false → e.worker = worker → r.boot ≠ e.workerBoot

theorem lookup_retireBootLocked (hkeyed : g.ledger.KeyedWorkers) {w : WorkerId}
    (hother : w ≠ worker) :
    (g.retireBootLocked worker boot).workers.lookup w = g.workers.lookup w := by
  show (Table.mapValues (fun _ r => r.retire worker boot) g.workers).lookup w = _
  rw [Table.lookup_mapValues]
  cases hr : g.workers.lookup w with
  | none => rfl
  | some r => rw [Option.map_some, retire_eq_self (hkeyed w r hr).1 hother]

/-- An enrolment writes the record of one worker, when there is room for it. -/
theorem workers_enrol (g : Governor) (worker : WorkerId) (boot : WorkerBootId) (label : String) :
    (g.enrol worker boot label).1.workers = g.workers ∨
      ∃ r, r.boot = boot ∧ (g.enrol worker boot label).1.workers = g.workers.insert worker r := by
  unfold enrol
  split
  · exact .inl rfl
  · exact .inr ⟨_, rfl, (recomputeAllDomains_same _).workers⟩

theorem retiresRecord_of_retires (hg : g.Reachable) (h : g.retires op = some (worker, boot)) :
    RetiresRecord g (g.apply op) worker (op.concerns worker boot) := by
  have hkeyed := keyedWorkers_of_reachable hg
  obtain ⟨held, hheld, rfl, ⟨rfl, happly⟩ | ⟨later, label, rfl, hlater, happly⟩⟩ :=
    apply_of_retires h
  · have hworkers : (g.apply (.noteWorkerDeath worker held.boot)).workers =
        Table.mapValues (fun _ r => r.retire worker held.boot)
          (g.workers.insert worker { held with alive := false }) := by
      rw [happly]
      exact (recomputeAllDomains_same _).workers
    refine ⟨fun w hw => ?_, ⟨held, hheld, fun e he => ne_of_concerns he⟩, ?_⟩
    · rw [hworkers, Table.lookup_mapValues, AList.lookup_insert_ne hw]
      cases hr : g.workers.lookup w with
      | none => rfl
      | some r => rw [Option.map_some, retire_eq_self (hkeyed w r hr).1 hw]
    · refine ⟨_, by rw [hworkers, Table.lookup_mapValues, AList.lookup_insert, Option.map_some],
        fun e he hworker => ?_⟩
      rw [WorkerRecord.retire_boot]
      exact ne_of_concerns he hworker
  · have hretired : ∃ r, (g.retireBootLocked worker held.boot).workers.lookup worker = some r ∧
        r.boot = held.boot := by
      refine ⟨held.retire worker held.boot, ?_, held.retire_boot _ _⟩
      show (Table.mapValues (fun _ r => r.retire worker held.boot) g.workers).lookup worker = _
      rw [Table.lookup_mapValues, hheld, Option.map_some]
    have hothers : ∀ w, w ≠ worker →
        (g.retireBootLocked worker held.boot).workers.lookup w = g.workers.lookup w :=
      fun w => lookup_retireBootLocked hkeyed
    have hworkers := (g.retireBootLocked worker held.boot).workers_enrol worker later label
    refine ⟨fun w hw => ?_, ⟨held, hheld, fun e he => ne_of_concerns he⟩, ?_⟩
    · rw [happly, ← hothers w hw]
      rcases hworkers with h' | ⟨r, -, h'⟩
      · rw [h']
      · rw [h', AList.lookup_insert_ne hw]
    · rw [happly]
      rcases hworkers with h' | ⟨r, rfl, h'⟩
      · obtain ⟨r, hr, hboot⟩ := hretired
        rw [h']
        refine ⟨r, hr, fun e he hworker => ?_⟩
        rw [hboot]
        exact ne_of_concerns he hworker
      · rw [h']
        exact ⟨r, AList.lookup_insert _, fun e he => ne_of_concerns_registerWorker he⟩

/-- **A retirement takes the baselines, and is not felt by the records of others.** -/
theorem lostBaselines_of_retires (hg : g.Reachable) (h : g.retires op = some (worker, boot)) :
    LostBaselines (op.concerns worker boot) g (g.apply op) := by
  have hrecord := retiresRecord_of_retires hg h
  refine ⟨?_, fun e he => ?_⟩
  · obtain ⟨held, -, -, ⟨-, happly⟩ | ⟨later, label, -, -, happly⟩⟩ := apply_of_retires h
    · rw [happly, grounds_publishLocked, (recomputeAllDomains_same _).grounds,
        actions_publishLocked, actions_recomputeAllDomains]
      rfl
    · rw [happly, grounds_enrol, actions_enrol]
      rfl
  · by_cases hvalid : isValid e.worker = true
    · by_cases hworker : e.worker = worker
      · subst hworker
        obtain ⟨r, hr, hboot⟩ := hrecord.before
        obtain ⟨r', hr', hboot'⟩ := hrecord.after
        rw [runChecks_workerChecks hvalid hr (hboot e he rfl),
          runChecks_workerChecks hvalid hr' (hboot' e he rfl)]
      · rw [workerChecks_congr (hrecord.others e.worker hworker)]
    · unfold workerChecks
      rw [Bool.not_eq_true] at hvalid
      rw [hvalid]
      rfl

/-! ### A verification after it -/

/-- Publish one record after the other, whatever is answered. -/
def publishAll (g : Governor) (records : List ThermalEvidence) : Governor :=
  records.foldl (fun g e => (g.publishTemperature e).1) g

theorem LostBaselines.publishAll {records : List ThermalEvidence}
    (h : LostBaselines concerned g g') (hrecords : ∀ e ∈ records, concerned e = false) :
    LostBaselines concerned (g.publishAll records) (g'.publishAll records) := by
  induction records generalizing g g' with
  | nil => exact h
  | cons e rest ih =>
    rw [List.forall_mem_cons] at hrecords
    exact ih (h.publishImpl hrecords.1).1 hrecords.2

theorem actions_publishAll (g : Governor) (records : List ThermalEvidence) :
    (g.publishAll records).actions = g.actions :=
  foldl_unchanged (p := Governor.actions) (fun g e => actions_publishImpl g e) records g

/-- The actions of other incarnations stay what they are. -/
theorem lookup_actions_of_retires (h : g.retires op = some (worker, boot)) {action : ThermalAction}
    (haction : g.actions.lookup id = some action)
    (hother : ¬ (action.authority.worker = worker ∧ action.authority.workerBoot = boot)) :
    (g.apply op).actions.lookup id = some action := by
  have hkept : action.retire worker boot g.now = action := by
    have hothers : (decide (action.authority.worker ≠ worker) ||
        decide (action.authority.workerBoot ≠ boot)) = true := by
      rw [Bool.or_eq_true, decide_eq_true_eq, decide_eq_true_eq]
      exact not_and_or.mp hother
    rw [ThermalAction.retire, if_pos hothers]
  rw [actions_of_retires h, retiredActions, Table.lookup_mapValues, haction, Option.map_some,
    hkept]

/-- The action is as before, and its verification after some records comes out the same. -/
structure AsVerifiable (g g' : Governor) (id : ActionId) (records : List ThermalEvidence)
    (fresh : ThermalEvidence) : Prop where
  action : g'.actions.lookup id = g.actions.lookup id
  result : ((g'.publishAll records).verifyAction id fresh).2 =
    ((g.publishAll records).verifyAction id fresh).2

/-- A verification comes as far as the planning baseline of the action, and there is one. -/
structure FindsBaseline (g : Governor) (id : ActionId) (action : ThermalAction)
    (fresh : ThermalEvidence) : Prop where
  structured : validateEvidenceStructure fresh = .ok ()
  fenced : runChecks (g.publishChecks fresh) = .ok ()
  sequenced : (sequenceVerdict (g.evidence.lookup fresh.subject.key) fresh).allows = true
  awaited : runChecks (g.verifyChecks action) = .ok ()
  registered : (g.domains.find action.authority.domain).isSome = true
  retained : (g.actionBaselines.lookup id).isSome = true

/-- A publication is answered by a receipt when nothing refuses the record. -/
theorem exists_receipt_iff {e : ThermalEvidence} :
    (∃ receipt, (g.publishTemperature e).2 = .ok receipt) ↔
      validateEvidenceStructure e = .ok () ∧ runChecks (g.publishChecks e) = .ok () ∧
        (sequenceVerdict (g.evidence.lookup e.subject.key) e).allows = true := by
  unfold publishTemperature publishImpl
  cases validateEvidenceStructure e with
  | error err => simp
  | ok _ =>
    cases runChecks (g.publishChecks e) with
    | error err => simp
    | ok _ =>
      cases sequenceVerdict (g.evidence.lookup e.subject.key) e with
      | refused err => simp [SequenceVerdict.allows]
      | duplicate held => simp [SequenceVerdict.allows]
      | commit => simp [SequenceVerdict.allows, commitEvidence]

/-- The answer of a verification that finds no baseline. -/
def noBaseline : Result ActionVerification :=
  failure .actionInfeasible "no planning baseline is retained for this action"

theorem code_ne_of_evaluateLocked {definition : ThermalDomainDefinition} {err : ThermalError}
    (h : g.evaluateLocked definition = (g', .error err)) : err.code ≠ .actionInfeasible := by
  unfold evaluateLocked at h
  split at h
  · obtain rfl := Except.error.inj (Prod.mk.inj h).2
    decide
  · cases h

theorem code_ne_of_verifyAction {input : VerificationInput} {err : ThermalError}
    (h : ThermalGovernor.verifyAction input = .error err) : err.code ≠ .actionInfeasible := by
  unfold ThermalGovernor.verifyAction at h
  split at h
  · obtain rfl := Except.error.inj h
    decide
  split at h
  · rename_i hfence
    obtain rfl := Except.error.inj h
    obtain ⟨check, hmem, -, rfl⟩ := runChecks_eq_error hfence
    simp only [verificationChecks, List.mem_cons, List.not_mem_nil, or_false] at hmem
    rcases hmem with rfl | rfl | rfl | rfl | rfl | rfl | rfl | rfl <;>
      exact ThermalErrorCode.noConfusion
  · cases h

/-- Past its baseline a verification never answers that there is none. -/
theorem verifyCommit_ne_noBaseline {action : ThermalAction}
    (haction : g.actions.lookup id = some action)
    (hawaited : runChecks (g.verifyChecks action) = .ok ())
    (hregistered : (g.domains.find action.authority.domain).isSome = true)
    (hretained : (g.actionBaselines.lookup id).isSome = true) :
    (g.verifyCommit id fresh).2 ≠ noBaseline := by
  obtain ⟨definition, hdefinition⟩ := Option.isSome_iff_exists.mp hregistered
  obtain ⟨before, hbefore⟩ := Option.isSome_iff_exists.mp hretained
  unfold verifyCommit
  rw [haction]
  dsimp only
  rw [hawaited, hdefinition, hbefore]
  dsimp only
  intro h
  split at h
  · rename_i heval
    exact code_ne_of_evaluateLocked heval (by rw [Except.error.inj h])
  split at h
  · rename_i hverify
    exact code_ne_of_verifyAction hverify (by rw [Except.error.inj h])
  · cases h

/-- Without baselines a verification answers what it answers before it asks for one, or that
there is none. -/
theorem LostBaselines.verifyCommit (h : LostBaselines concerned g g') {action : ThermalAction}
    (haction : g.actions.lookup id = some action)
    (haction' : g'.actions.lookup id = some action) :
    (g'.verifyCommit id fresh).2 = (g.verifyCommit id fresh).2 ↔
      ¬ (runChecks (g.verifyChecks action) = .ok () ∧
        (g.domains.find action.authority.domain).isSome = true ∧
        (g.actionBaselines.lookup id).isSome = true) := by
  have hchecks : g'.verifyChecks action = g.verifyChecks action := by
    unfold verifyChecks
    rw [h.verifications, h.config]
  have hnone : g'.actionBaselines.lookup id = none := by
    rw [h.actionBaselines]
    rfl
  constructor
  · rintro hsame ⟨hawaited, hregistered, hretained⟩
    suffices hfound : (g.verifyCommit id fresh).2 = noBaseline from
      verifyCommit_ne_noBaseline haction hawaited hregistered hretained hfound
    obtain ⟨definition, hdefinition⟩ := Option.isSome_iff_exists.mp hregistered
    rw [← hsame]
    unfold Governor.verifyCommit
    rw [haction']
    dsimp only
    rw [hchecks, hawaited, h.domains, hdefinition, hnone]
    rfl
  · intro hnot
    unfold Governor.verifyCommit
    rw [haction, haction']
    dsimp only
    rw [hchecks, h.domains, hnone]
    cases hawaited : runChecks (g.verifyChecks action) with
    | error err => rfl
    | ok _ =>
      cases hdefinition : g.domains.find action.authority.domain with
      | none => rfl
      | some definition =>
        cases hbefore : g.actionBaselines.lookup id with
        | none => rfl
        | some before =>
          exact absurd ⟨hawaited, by rw [hdefinition]; rfl, by rw [hbefore]; rfl⟩ hnot

/-- The two runs answer a verification alike, when it does not come to a baseline. -/
theorem LostBaselines.verifyAction (h : LostBaselines concerned g g')
    (hfresh : concerned fresh = false) {action : ThermalAction}
    (haction : g.actions.lookup id = some action)
    (haction' : g'.actions.lookup id = some action) :
    (g'.verifyAction id fresh).2 = (g.verifyAction id fresh).2 ↔
      ¬ g.FindsBaseline id action fresh := by
  obtain ⟨hlost, hanswer⟩ := h.publishImpl hfresh
  have hreceipt := exists_receipt_iff (g := g) (e := fresh)
  unfold Governor.verifyAction
  unfold publishTemperature at hreceipt ⊢
  cases hpublish : g.publishImpl fresh with
  | mk t answer =>
  cases hpublish' : g'.publishImpl fresh with
  | mk t' answer' =>
  rw [hpublish, hpublish'] at hlost hanswer
  rw [hpublish] at hreceipt
  dsimp only at hlost hanswer hreceipt
  subst hanswer
  cases answer' with
  | error err =>
    refine ⟨fun _ hfinds => ?_, fun _ => rfl⟩
    obtain ⟨receipt, hcases⟩ :=
      hreceipt.mpr ⟨hfinds.structured, hfinds.fenced, hfinds.sequenced⟩
    cases hcases
  | ok receipt =>
    obtain ⟨hstructured, hfenced, hsequenced⟩ := hreceipt.mp ⟨receipt, rfl⟩
    obtain ⟨evidence, hgrounds⟩ := grounds_publishImpl g fresh
    rw [hpublish] at hgrounds
    have hconfig : t.config = g.config := congrArg Grounds.config hgrounds
    have hdomains : t.domains = g.domains := congrArg Grounds.domains hgrounds
    have hverifications : t.verifications = g.verifications :=
      congrArg Grounds.verifications hgrounds
    have hbaselines : t.actionBaselines = g.actionBaselines :=
      congrArg Grounds.actionBaselines hgrounds
    have hactions : t.actions.lookup id = some action := by
      rw [← haction, ← actions_publishImpl g fresh, hpublish]
    have hactions' : t'.actions.lookup id = some action := by
      rw [← haction', ← actions_publishImpl g' fresh, hpublish']
    have hchecks : t.verifyChecks action = g.verifyChecks action := by
      unfold verifyChecks
      rw [hverifications, hconfig]
    refine (hlost.verifyCommit hactions hactions').trans ?_
    rw [hchecks, hdomains, hbaselines, not_iff_not]
    exact ⟨fun ⟨hawaited, hregistered, hretained⟩ =>
        ⟨hstructured, hfenced, hsequenced, hawaited, hregistered, hretained⟩,
      fun hfinds => ⟨hfinds.awaited, hfinds.registered, hfinds.retained⟩⟩

/-- **A retirement leaves an action of another incarnation as verifiable as before, exactly
when its verification does not come as far as a planning baseline that was retained.** -/
theorem asVerifiable_iff (hg : g.Reachable) (hretires : g.retires op = some (worker, boot))
    {action : ThermalAction} (haction : g.actions.lookup id = some action)
    (hother : ¬ (action.authority.worker = worker ∧ action.authority.workerBoot = boot))
    {records : List ThermalEvidence}
    (hrecords : ∀ e ∈ fresh :: records, op.concerns worker boot e = false) :
    AsVerifiable g (g.apply op) id records fresh ↔
      ¬ (g.publishAll records).FindsBaseline id action fresh := by
  rw [List.forall_mem_cons] at hrecords
  have haction' := lookup_actions_of_retires hretires haction hother
  have hlost := (lostBaselines_of_retires hg hretires).publishAll hrecords.2
  have hheld : (g.publishAll records).actions.lookup id = some action := by
    rw [actions_publishAll, haction]
  have hheld' : ((g.apply op).publishAll records).actions.lookup id = some action := by
    rw [actions_publishAll, haction']
  have hsame : AsVerifiable g (g.apply op) id records fresh ↔
      (((g.apply op).publishAll records).verifyAction id fresh).2 =
        ((g.publishAll records).verifyAction id fresh).2 :=
    ⟨AsVerifiable.result, fun h => ⟨haction'.trans haction.symm, h⟩⟩
  rw [hsame, hlost.verifyAction hrecords.1 hheld hheld']

section Deployment

open Deployment

/-- A second worker registers that never publishes anything. -/
def bystander : Governor := dispatched.apply (.registerWorker 9 1 "bystander")

/-- The same two workers with an action that was not dispatched yet. -/
def undispatched : Governor :=
  after
    [ .registerWorker 1 1 "worker", .registerWorker 9 1 "bystander", .tick 1000,
      .publishTemperature (readingBy 1 1 82 1 500),
      .authorizeMitigation 1 { intent := .requestClockReduction } "" ]

/-- An action that awaits no verification is verified neither way. -/
theorem asVerifiable_undispatched :
    AsVerifiable undispatched (undispatched.apply (.noteWorkerDeath 9 1)) 2 [] laterReading := by
  obtain ⟨action, haction, hother, hdone⟩ := exists_of_any (undispatched.actions.lookup 2)
    (fun a => ¬ (a.authority.worker = 9 ∧ a.authority.workerBoot = 1) ∧
      awaitsVerification a.lifecycle = false) (by decide +kernel)
  refine (asVerifiable_iff (reachable_after _) (by decide +kernel) haction hother
    (by decide +kernel)).mpr fun hfinds => ?_
  have hchecks := runChecks_eq_ok.mp hfinds.awaited
  simp only [verifyChecks, List.forall_mem_cons] at hchecks
  rw [hdone] at hchecks
  cases hchecks.2.1

/-- The second worker dies, and the dispatched action of the first can no longer be verified. -/
theorem not_asVerifiable :
    ¬ ∀ (g : Governor) (op : Operation) (worker : WorkerId) (boot : WorkerBootId) (id : ActionId)
      (action : ThermalAction) (records : List ThermalEvidence) (fresh : ThermalEvidence),
      g.Reachable → g.retires op = some (worker, boot) → g.actions.lookup id = some action →
        ¬ (action.authority.worker = worker ∧ action.authority.workerBoot = boot) →
        (∀ e ∈ fresh :: records, op.concerns worker boot e = false) →
        g.keysFrom worker boot = ∅ →
        (∀ domain ∈ g.domains.allDomainIds,
          ∀ s ∈ (g.recoveryHistories domain).samples, s.isFrom worker boot = false) →
        AsVerifiable g (g.apply op) id records fresh := by
  intro h
  obtain ⟨action, haction, hother, -⟩ := exists_of_any (bystander.actions.lookup 2)
    (fun a => ¬ (a.authority.worker = 9 ∧ a.authority.workerBoot = 1) ∧ True) (by decide +kernel)
  have hkept := h bystander (.noteWorkerDeath 9 1) 9 1 2 action [] laterReading
    ((reachable_after _).apply _) (by decide +kernel) haction hother (by decide +kernel)
    (by decide +kernel) (by decide +kernel)
  obtain ⟨record, hrecord, -⟩ := exists_of_ok (bystander.verifyAction 2 laterReading).2
    (fun _ => True) (by decide +kernel)
  have hresult := hkept.result
  rw [publishAll, publishAll, List.foldl_nil, List.foldl_nil, hrecord] at hresult
  have hlost : ((bystander.apply (.noteWorkerDeath 9 1)).verifyAction 2 laterReading).2.toOption =
      none := by decide +kernel
  rw [hresult] at hlost
  cases hlost

end Deployment

end Governor

end ThermalGovernor
