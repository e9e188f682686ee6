import ThermalGovernor.Ledger.Run

/-!
# What a verification rests on

A verification commits from the evidence held for the domain of the action, while
its freshness test looks at the record that was passed in.  The outcome rests on what
was measured after the dispatch exactly when the evidence draws on no record from
before it that is older than the one passed in (`verified_after_dispatch_iff`).

The other two comparisons of the commit are of the same kind.  The policy generation
is the counter of all updates and not the one of the governing policy
(`supersession_agrees_iff`); the device generation and the boot are the action's own,
so only the publication in front can refuse a stale one (`fenced_iff`).
-/

namespace ThermalGovernor

open Lib Ledger

variable {ok : Ledger → Event → Prop} {l l' : Ledger}

/-! ### Dispatches -/

theorem ActionLifecycle.not_isTerminal_of_isAwaiting {s : ActionLifecycle}
    (h : s.isAwaiting = true) : s.isTerminal = false := by
  revert h
  cases s <;> decide

/-- An action that was dispatched and has not ended was dispatched when it says. -/
def Ledger.DispatchesTraced (l : Ledger) : Prop :=
  ∀ id a, l.actions.lookup id = some a → a.lifecycle.isAwaiting = true →
    .dispatched id a.dispatchedAt ∈ l.trace

theorem dispatchesTraced_move (h : Move ok l l') (hl : l.DispatchesTraced) :
    l'.DispatchesTraced := by
  intro id a ha hawaits
  cases h with
  | evaluate | accept | retire | revive | restart =>
    exact List.mem_cons_of_mem _ (hl id a ha hawaits)
  | touch | enrol => exact hl id a ha hawaits
  | settle actions hsettled =>
    obtain ⟨b, hb, hsettles⟩ := exists_settles hsettled ha
    rw [hsettles.dispatchedAt]
    rcases hsettles.lifecycle with hsame | hterminal | ⟨hb', _⟩
    · exact hl id b hb (by rw [← hsame]; exact hawaits)
    · rw [ActionLifecycle.not_isTerminal_of_isAwaiting hawaits] at hterminal
      cases hterminal
    · exact hl id b hb hb'
  | authorize action hroom hid hgeneration hauthority hlifecycle =>
    rw [Table.lookup_insert_eq_ite] at ha
    split at ha
    · obtain rfl := Option.some.inj ha
      rw [hlifecycle] at hawaits
      cases hawaits
    · exact hl id a ha hawaits
  | dispatch id' action now hheld hlifecycle =>
    rw [Table.lookup_insert_eq_ite] at ha
    split at ha
    · rename_i hsame
      obtain rfl := Option.some.inj ha
      rw [hsame]
      exact List.mem_cons_self
    · exact List.mem_cons_of_mem _ (hl id a ha hawaits)
  | restore action hok hterminal =>
    rw [Table.lookup_insert_eq_ite] at ha
    split at ha
    · obtain rfl := Option.some.inj ha
      rw [ActionLifecycle.not_isTerminal_of_isAwaiting hawaits] at hterminal
      cases hterminal
    · exact List.mem_cons_of_mem _ (hl id a ha hawaits)

theorem isAwaiting_of_awaitsVerification {s : ActionLifecycle}
    (h : Governor.awaitsVerification s = true) : s.isAwaiting = true := by
  revert h
  cases s <;> decide

/-! ### The records an evaluation draws on -/

/-- The direct record of the domain when there is one, the records of its members otherwise. -/
def groundingRecords (definition : ThermalDomainDefinition)
    (evidence : Table String ThermalEvidence) : List ThermalEvidence :=
  match evidence.lookup (SubjectRef.forDomain definition.id definition.generation).key with
  | some direct => [direct]
  | none => memberEvidence definition evidence

theorem groundingRecords_of_some {definition : ThermalDomainDefinition}
    {evidence : Table String ThermalEvidence} {direct : ThermalEvidence}
    (h : evidence.lookup (SubjectRef.forDomain definition.id definition.generation).key =
      some direct) : groundingRecords definition evidence = [direct] := by
  unfold groundingRecords
  rw [h]

theorem groundingRecords_of_none {definition : ThermalDomainDefinition}
    {evidence : Table String ThermalEvidence}
    (h : evidence.lookup (SubjectRef.forDomain definition.id definition.generation).key = none) :
    groundingRecords definition evidence = memberEvidence definition evidence := by
  unfold groundingRecords
  rw [h]

theorem measuredAt_synthesizeEvidence (definition : ThermalDomainDefinition)
    (first : ThermalEvidence) (members : List ThermalEvidence) (aggregate : AggregateResult) :
    (synthesizeEvidence definition first members aggregate).measuredAt = first.measuredAt := by
  unfold synthesizeEvidence
  dsimp only
  split
  · rfl
  · split <;> rfl

/-- The evidence of a domain was measured when one of the records it draws on was. -/
theorem exists_groundingRecord {definition : ThermalDomainDefinition}
    {evidence : Table String ThermalEvidence} {gathered : DomainEvidence}
    (h : gatherDomainEvidence definition evidence = some gathered) :
    ∃ r ∈ groundingRecords definition evidence,
      gathered.evidence.measuredAt = r.measuredAt := by
  unfold gatherDomainEvidence at h
  split at h
  · rename_i direct hdirect
    rw [groundingRecords_of_some hdirect]
    obtain rfl := Option.some.inj h
    exact ⟨direct, List.mem_singleton_self direct, rfl⟩
  · rename_i hdirect
    rw [groundingRecords_of_none hdirect]
    split at h
    · cases h
    · rename_i only hmembers
      rw [hmembers]
      obtain rfl := Option.some.inj h
      exact ⟨only, List.mem_singleton_self only, rfl⟩
    · rename_i first rest _ hmembers
      rw [hmembers]
      split at h
      · cases h
      · obtain rfl := Option.some.inj h
        exact ⟨first, List.mem_cons_self, measuredAt_synthesizeEvidence _ _ _ _⟩

/-- The domain is measured, and of the records it draws on each that is older than the record
passed in was still measured after the time. -/
def DrawsOnNothingOlder (definition : ThermalDomainDefinition)
    (evidence : Table String ThermalEvidence) (fresh : ThermalEvidence) (time : SteadyTimePoint) :
    Prop :=
  (gatherDomainEvidence definition evidence).isSome = true ∧
    ∀ r ∈ groundingRecords definition evidence, r.measuredAt < fresh.measuredAt →
      time < r.measuredAt

instance (definition : ThermalDomainDefinition) (evidence : Table String ThermalEvidence)
    (fresh : ThermalEvidence) (time : SteadyTimePoint) :
    Decidable (DrawsOnNothingOlder definition evidence fresh time) :=
  inferInstanceAs (Decidable (_ ∧ _))

namespace Governor

variable {g g₀ g' : Governor} {id : ActionId} {action : ThermalAction}
  {definition : ThermalDomainDefinition} {fresh : ThermalEvidence} {record : ActionVerification}

theorem dispatchesTraced_of_reachable (h : g.Reachable) : g.ledger.DispatchesTraced := by
  obtain ⟨config, now, hrun⟩ := h
  exact invariant_of_runs hrun (fun _ _ => dispatchesTraced_move) fun _ _ ha => (by cases ha)

/-- The evaluation of the domain has evidence, which was measured after the time, and so was
every record it draws on. -/
def EvaluatedAfter (g : Governor) (definition : ThermalDomainDefinition)
    (time : SteadyTimePoint) : Prop :=
  ∃ policy evidence, g.policyFor definition = some policy ∧
    (g.evaluation definition policy).1.evidence = some evidence ∧
    time < evidence.measuredAt ∧
    ∀ r ∈ groundingRecords definition g.evidence, time < r.measuredAt

section Deployment

open Deployment

/-- The deployment with a mitigation planned on a reading of time 500 and dispatched at 2000. -/
def dispatched : Governor :=
  after
    [ .registerWorker 1 1 "worker", .tick 1000, .publishTemperature (readingBy 1 1 82 1 500),
      .authorizeMitigation 1 { intent := .requestClockReduction } "", .tick 2000,
      .recordActionDispatch 2, .registerDevice { device with device := 2 }, .tick 4000 ]

/-- A reading of the deployment's device after the dispatch. -/
def laterReading : ThermalEvidence := readingBy 1 1 78 2 3000

/-- A reading of another device after the dispatch. -/
def otherReading : ThermalEvidence :=
  { readingBy 1 1 40 1 3000 with subject := .forDevice 2 1 }

/-- The first half of a verification with the later reading. -/
def measuredAgain : Governor := dispatched.apply (.publishTemperature laterReading)

end Deployment

/-! ### Policy supersession -/

/-- A result that echoes the authorised generation is stale exactly when the governing
policy has another one. -/
theorem recordActionResult_stalePolicy {policy : ThermalPolicy} {result : ActionResult}
    (haction : g.actions.lookup result.actionId = some action)
    (hdefinition : g.domains.find action.authority.domain = some definition)
    (hpolicy : g.policyFor definition = some policy)
    (hadmissible : runChecks (resultChecks action g.epoch result) = .ok ())
    (hecho : result.policyGeneration = action.authority.policyGeneration) :
    codeOf (g.recordActionResult result).2 = .stalePolicy ↔
      policy.generation ≠ action.authority.policyGeneration := by
  have hsuperseded : g.resultSuperseded action result =
      (policy.generation != action.authority.policyGeneration) := by
    simp [resultSuperseded, governingPolicyGeneration, hdefinition, hpolicy, hecho]
  unfold recordActionResult
  rw [haction]
  dsimp only
  rw [hadmissible]
  dsimp only
  rw [hsuperseded]
  split
  · rename_i hne
    exact ⟨fun _ => by simpa using hne, fun _ => rfl⟩
  · rename_i heq
    refine ⟨fun hcode => ?_, fun hne => absurd (by simpa using hne) heq⟩
    cases hlifecycle : action.lifecycle <;> rw [hlifecycle] at hcode <;> dsimp only at hcode
    case dispatched => split at hcode <;> cases hcode
    case acknowledged => split at hcode <;> cases hcode
    all_goals cases hcode

/-- **Result and verification judge supersession alike, exactly when the counter of all
policy updates differs from the authorised generation just in case the governing policy's
does.** -/
theorem supersession_agrees_iff {policy : ThermalPolicy} {result : ActionResult}
    (haction : g.actions.lookup id = some action)
    (hdefinition : g.domains.find action.authority.domain = some definition)
    (hpolicy : g.policyFor definition = some policy)
    (hcommit : g.verifyCommit id fresh = (g', .ok record)) (hid : result.actionId = id)
    (hadmissible : runChecks (resultChecks action g.epoch result) = .ok ())
    (hecho : result.policyGeneration = action.authority.policyGeneration) :
    ((record.resultingLifecycle = .superseded ↔
        policy.generation ≠ action.authority.policyGeneration) ∧
      (policy.generation ≠ action.authority.policyGeneration ↔
        codeOf (g.recordActionResult result).2 = .stalePolicy)) ↔
    ((g.policyGeneration ≠ 0 ∧ g.policyGeneration ≠ action.authority.policyGeneration) ↔
      policy.generation ≠ action.authority.policyGeneration) := by
  subst hid
  have hresult := recordActionResult_stalePolicy haction hdefinition hpolicy hadmissible hecho
  obtain ⟨action', definition', policy', before, haction', -, hdefinition', -, -, -, hrecord⟩ :=
    verifyCommit_eq_ok hcommit
  obtain rfl : action = action' := Option.some.inj (haction.symm.trans haction')
  have hverified : record.resultingLifecycle = .superseded ↔
      g.policyGeneration ≠ 0 ∧ g.policyGeneration ≠ action.authority.policyGeneration := by
    rw [hrecord]
    exact superseded_verifiedRecord _ action
  rw [hverified, hresult]
  exact ⟨And.left, fun h => ⟨h, Iff.rfl⟩⟩

section Deployment

open Deployment

/-- The worker reports success and echoes the generation it was authorised under. -/
def echo : ActionResult where
  actionId := 2
  actionGeneration := 2
  coordinatorEpoch := 1
  workerBoot := 1
  deviceGeneration := 1
  domainGeneration := 1
  policyGeneration := 1
  telemetryGeneration := 1
  backendSucceeded := true

/-- What the action of the deployment and the policy of its domain say, as long as neither is
written over. -/
def EchoAdmissible (g : Governor) (action : ThermalAction) : Prop :=
  action.authority.domain = 1 ∧ action.authority.policyGeneration = 1 ∧
    runChecks (resultChecks action g.epoch echo) = .ok () ∧
    g.governingPolicyGeneration 1 = some 1

instance (g : Governor) (action : ThermalAction) : Decidable (g.EchoAdmissible action) :=
  inferInstanceAs (Decidable (_ ∧ _ ∧ _ ∧ _))

/-- No policy was set since the dispatch: neither judges the action superseded. -/
theorem supersession_agrees_laterReading :
    ∃ (action : ThermalAction) (definition : ThermalDomainDefinition) (policy : ThermalPolicy)
      (record : ActionVerification), measuredAgain.actions.lookup 2 = some action ∧
      measuredAgain.domains.find action.authority.domain = some definition ∧
      measuredAgain.policyFor definition = some policy ∧
      (measuredAgain.verifyCommit 2 laterReading).2 = .ok record ∧
      ((record.resultingLifecycle = .superseded ↔
          policy.generation ≠ action.authority.policyGeneration) ∧
        (policy.generation ≠ action.authority.policyGeneration ↔
          codeOf (measuredAgain.recordActionResult echo).2 = .stalePolicy)) := by
  obtain ⟨action, haction, hdomain, hgeneration, hchecks, hgoverning⟩ := exists_of_any
    (measuredAgain.actions.lookup 2) measuredAgain.EchoAdmissible (by decide +kernel)
  obtain ⟨definition, policy, hdefinition, hpolicy, hone⟩ :=
    exists_of_governingPolicyGeneration hgoverning
  obtain ⟨record, hrecord, -⟩ := exists_of_ok (measuredAgain.verifyCommit 2 laterReading).2
    (fun _ => True) (by decide +kernel)
  have hcounter : measuredAgain.policyGeneration = 1 := by decide +kernel
  rw [← hdomain] at hdefinition
  refine ⟨action, definition, policy, record, haction, hdefinition, hpolicy, hrecord,
    (supersession_agrees_iff haction hdefinition hpolicy (Prod.ext rfl hrecord) rfl hchecks
      hgeneration.symm).mpr ?_⟩
  rw [hcounter, hone, hgeneration]
  decide

/-- A policy that governs no domain is set: the verification judges the action superseded, the
result would not. -/
theorem not_supersession_agrees :
    ¬ ∀ (g g' : Governor) (id : ActionId) (action : ThermalAction)
      (definition : ThermalDomainDefinition) (policy : ThermalPolicy) (fresh : ThermalEvidence)
      (record : ActionVerification) (result : ActionResult), g.Reachable →
        g.actions.lookup id = some action →
        g.domains.find action.authority.domain = some definition →
        g.policyFor definition = some policy → g.verifyCommit id fresh = (g', .ok record) →
        result.actionId = id → runChecks (resultChecks action g.epoch result) = .ok () →
        result.policyGeneration = action.authority.policyGeneration →
        ((record.resultingLifecycle = .superseded ↔
            policy.generation ≠ action.authority.policyGeneration) ∧
          (policy.generation ≠ action.authority.policyGeneration ↔
            codeOf (g.recordActionResult result).2 = .stalePolicy)) := by
  intro h
  let g : Governor :=
    (dispatched.apply (.setPolicy { PolicyOver.makeDefault with id := 2 })).apply
      (.publishTemperature laterReading)
  have hreachable : g.Reachable := ((reachable_after _).apply _).apply _
  obtain ⟨action, haction, hdomain, hgeneration, hchecks, hgoverning⟩ := exists_of_any
    (g.actions.lookup 2) g.EchoAdmissible (by decide +kernel)
  obtain ⟨definition, policy, hdefinition, hpolicy, hone⟩ :=
    exists_of_governingPolicyGeneration hgoverning
  obtain ⟨record, hrecord, hsuperseded⟩ := exists_of_ok (g.verifyCommit 2 laterReading).2
    (fun r => r.resultingLifecycle = .superseded) (by decide +kernel)
  rw [← hdomain] at hdefinition
  have hagrees := h g _ 2 action definition policy laterReading record echo hreachable haction
    hdefinition hpolicy (Prod.ext rfl hrecord) rfl hchecks hgeneration.symm
  refine absurd ?_ (hagrees.1.mp hsuperseded)
  rw [hone, hgeneration]

end Deployment

/-! ### The fences of a verification -/

/-- The error of a stale device generation or a stale worker incarnation. -/
def StaleAuthority (code : ThermalErrorCode) : Prop :=
  code = .staleDeviceGeneration ∨ code = .staleWorker

instance (code : ThermalErrorCode) : Decidable (StaleAuthority code) :=
  inferInstanceAs (Decidable (_ ∨ _))

/-- The answer of a verification whose first half ran in `g₀` and whose second in `g`. -/
def verifyOutcome (g₀ g : Governor) (id : ActionId) (fresh : ThermalEvidence) :
    Result ActionVerification :=
  match (g₀.publishTemperature fresh).2 with
  | .error e => .error e
  | .ok _ => (g.verifyCommit id fresh).2

/-- An uninterrupted verification runs its second half in the state the first one left. -/
theorem verifyAction_snd (g : Governor) (id : ActionId) (fresh : ThermalEvidence) :
    (g.verifyAction id fresh).2 =
      verifyOutcome g (g.publishTemperature fresh).1 id fresh := by
  unfold verifyAction verifyOutcome
  split
  · rename_i g' e h
    rw [h]
  · rename_i g' receipt h
    rw [h]

/-- The publication is refused by the fence of the worker or of the device. -/
def PublicationStale (g : Governor) (fresh : ThermalEvidence) : Prop :=
  validateEvidenceStructure fresh = .ok () ∧
    ∃ e, runChecks (g.publishChecks fresh) = .error e ∧ StaleAuthority e.code

/-- The authority a dispatched action is bound to has moved: its device was registered at a
newer generation, or the evidence of its domain comes from another incarnation. -/
def AuthorityMoved (g : Governor) (id : ActionId) : Prop :=
  ∃ action definition, g.actions.lookup id = some action ∧
    awaitsVerification action.lifecycle = true ∧
    g.domains.find action.authority.domain = some definition ∧
    ((action.authority.device ≠ 0 ∧ ∃ held, g.devices.lookup action.authority.device = some held ∧
        action.authority.deviceGeneration < held.generation) ∨
      (action.authority.worker ≠ 0 ∧
        ∃ gathered, gatherDomainEvidence definition g.evidence = some gathered ∧
          gathered.evidence.isFrom action.authority.worker action.authority.workerBoot = false))

/-- A structural refusal is never one of a stale authority. -/
theorem not_staleAuthority_structure {e : ThermalEvidence} {err : ThermalError}
    (h : validateEvidenceStructure e = .error err) : ¬ StaleAuthority err.code := by
  obtain ⟨check, hmem, -, rfl⟩ := runChecks_eq_error h
  simp only [evidenceChecks, List.mem_cons, List.not_mem_nil, or_false] at hmem
  rcases hmem with rfl | rfl | rfl | rfl | rfl | rfl | rfl | rfl | rfl | rfl | rfl <;>
    simp [StaleAuthority]

theorem not_staleAuthority_sequence {held : Option ThermalEvidence} {e : ThermalEvidence}
    {err : ThermalError} (h : sequenceVerdict held e = .refused err) :
    ¬ StaleAuthority err.code := by
  unfold sequenceVerdict at h
  split at h
  · cases h
  split at h
  · cases h
  split at h
  · cases h
  · obtain rfl := SequenceVerdict.refused.inj h
    decide
  · obtain rfl := SequenceVerdict.refused.inj h
    decide
  · split at h
    · obtain rfl := SequenceVerdict.refused.inj h
      decide
    · cases h

/-- The commit compares the device generation and the boot of the action with themselves. -/
theorem not_staleAuthority_verifyAction {before after : ThermalEvaluation} {e : ThermalError}
    (h : ThermalGovernor.verifyAction (g.verificationInput definition action before after fresh) =
      .error e) : ¬ StaleAuthority e.code := by
  have hfence : verificationFence (g.verificationInput definition action before after fresh)
      action = .error e := by
    unfold ThermalGovernor.verifyAction at h
    simp only [verificationInput] at h ⊢
    split at h
    · rename_i e' he
      rw [he]
      exact congrArg Except.error (Except.error.inj h)
    · cases h
  obtain ⟨check, hmem, hfails, rfl⟩ := runChecks_eq_error hfence
  simp only [verificationChecks, List.mem_cons, List.not_mem_nil, or_false] at hmem
  rcases hmem with rfl | rfl | rfl | rfl | rfl | rfl | rfl | rfl
  case inr.inr.inr.inl => simp [verificationInput, verificationSnapshot] at hfails
  case inr.inr.inr.inr.inl => simp [verificationInput, verificationSnapshot] at hfails
  all_goals simp [StaleAuthority]

theorem not_staleAuthority_verifyCommit {e : ThermalError}
    (h : (g.verifyCommit id fresh).2 = .error e) : ¬ StaleAuthority e.code := by
  unfold verifyCommit at h
  split at h
  · obtain rfl := Except.error.inj h
    decide
  split at h
  · rename_i hchecks
    obtain rfl := Except.error.inj h
    obtain ⟨check, hmem, -, rfl⟩ := runChecks_eq_error hchecks
    simp only [verifyChecks, List.mem_cons, List.not_mem_nil, or_false] at hmem
    rcases hmem with rfl | rfl | rfl <;> simp [StaleAuthority]
  split at h
  · obtain rfl := Except.error.inj h
    decide
  split at h
  · obtain rfl := Except.error.inj h
    decide
  split at h
  · rename_i heval
    obtain rfl := Except.error.inj h
    unfold evaluateLocked at heval
    split at heval
    · obtain rfl := Except.error.inj (Prod.mk.inj heval).2
      decide
    · cases heval
  split at h
  · rename_i hverify
    obtain rfl := Except.error.inj h
    exact not_staleAuthority_verifyAction hverify
  · cases h

theorem publishTemperature_stale {e : ThermalError}
    (h : (g.publishTemperature fresh).2 = .error e) (hstale : StaleAuthority e.code) :
    PublicationStale g fresh := by
  unfold publishTemperature publishImpl at h
  split at h
  · rename_i hstructure
    obtain rfl := Except.error.inj h
    exact absurd hstale (not_staleAuthority_structure hstructure)
  · rename_i hstructure
    split at h
    · rename_i hchecks
      obtain rfl := Except.error.inj h
      exact ⟨hstructure, _, hchecks, hstale⟩
    · split at h
      · rename_i hverdict
        obtain rfl := Except.error.inj h
        exact absurd hstale (not_staleAuthority_sequence hverdict)
      · cases h
      · cases h

/-- **A verification answers with a stale device or worker exactly when its publication is
refused so**, whatever ran between its halves. -/
theorem verifyOutcome_stale (g₀ g : Governor) (id : ActionId) (fresh : ThermalEvidence) :
    (∃ e, verifyOutcome g₀ g id fresh = .error e ∧ StaleAuthority e.code) ↔
      PublicationStale g₀ fresh := by
  unfold verifyOutcome
  constructor
  · rintro ⟨e, h, hstale⟩
    split at h
    · rename_i e' hpublish
      obtain rfl := Except.error.inj h
      exact publishTemperature_stale hpublish hstale
    · exact absurd hstale (not_staleAuthority_verifyCommit h)
  · rintro ⟨hstructure, e, hchecks, hstale⟩
    refine ⟨e, ?_, hstale⟩
    unfold publishTemperature publishImpl
    rw [hstructure, hchecks]

/-- **An action whose authority moved is fenced at its verification, exactly when the
publication in front of the commit is refused for it.** -/
theorem fenced_iff (g₀ g : Governor) (id : ActionId) (fresh : ThermalEvidence) :
    (AuthorityMoved g id →
        ∃ e, verifyOutcome g₀ g id fresh = .error e ∧ StaleAuthority e.code) ↔
      (AuthorityMoved g id → PublicationStale g₀ fresh) := by
  rw [verifyOutcome_stale]

section Deployment

open Deployment

/-- A reading of the domain, which is no device, passes the fence of a device that was
registered again. -/
theorem not_fenced_domainReading :
    ¬ ∀ (g : Governor) (id : ActionId) (fresh : ThermalEvidence), g.Reachable →
      AuthorityMoved g id →
        ∃ e, (g.verifyAction id fresh).2 = .error e ∧ StaleAuthority e.code := by
  intro h
  let g : Governor := dispatched.apply (.registerDevice { device with generation := 2 })
  let fresh : ThermalEvidence := { laterReading with subject := .forDomain 1 1 }
  obtain ⟨action, haction, hawaits, hdomain, hdevice, hgeneration⟩ := exists_of_any
    (g.actions.lookup 2)
    (fun a => awaitsVerification a.lifecycle = true ∧ a.authority.domain = 1 ∧
      a.authority.device = 1 ∧ a.authority.deviceGeneration = 1) (by decide +kernel)
  obtain ⟨definition, hdefinition⟩ : ∃ d, g.domains.find 1 = some d :=
    Option.isSome_iff_exists.mp (by decide +kernel)
  obtain ⟨held, hheld, hnewer⟩ := exists_of_any (g.devices.lookup 1)
    (fun d => 1 < d.generation) (by decide +kernel)
  rw [← hdomain] at hdefinition
  rw [← hdevice] at hheld
  have hmoved : AuthorityMoved g 2 := by
    refine ⟨action, definition, haction, hawaits, hdefinition, .inl ⟨?_, held, hheld, ?_⟩⟩
    · rw [hdevice]
      decide
    · rw [hgeneration]
      exact hnewer
  obtain ⟨e, herror, -⟩ := h g 2 fresh ((reachable_after _).apply _) hmoved
  obtain ⟨record, hrecord, -⟩ := exists_of_ok (g.verifyAction 2 fresh).2 (fun _ => True)
    (by decide +kernel)
  rw [hrecord] at herror
  cases herror

end Deployment

end Governor

end ThermalGovernor
