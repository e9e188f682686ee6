import ThermalGovernor.Ledger.Lifecycle
import ThermalGovernor.Governed.Reached

/-!
# The published snapshot and the queries

A snapshot is built where an operation publishes one; the queries read the evaluations
that are stored.  The two part where an evaluation is stored and no snapshot follows:
`evaluateDomain`, `evaluateDevice`, and an `authorizeDerating` that is refused after the
evaluation it begins with (`storesUnpublished`).

Such an operation breaks the agreement exactly when its evaluation differs from what the
snapshot shows, and no other operation breaks it (`agrees_of_runsUnder`).
-/

namespace ThermalGovernor

open Lib

/-- State, derating and decision of an evaluation. -/
def ThermalEvaluation.reported (e : ThermalEvaluation) :
    ThermalState × DeratingLevel × ThermalDecision := (e.state, e.derating, e.decision)

/-- State, derating and decision of the view of a domain. -/
def ThermalDomainSnapshot.reported (view : ThermalDomainSnapshot) :
    ThermalState × DeratingLevel × ThermalDecision := (view.state, view.derating, view.decision)

namespace Governor

variable {g g' : Governor} {op : Operation}

/-- What the snapshot reports of a domain. -/
def snapshotReport (g : Governor) (id : ThermalDomainId) :
    Option (ThermalState × DeratingLevel × ThermalDecision) :=
  (g.published.domains.lookup id).map ThermalDomainSnapshot.reported

/-- Where the queries answer for a domain, the snapshot reports the same. -/
def Agrees (g : Governor) : Prop :=
  ∀ id state envelope, g.queryState id = .ok state → g.queryEnvelope id = .ok envelope →
    state = envelope.state ∧
      g.snapshotReport id = some (envelope.state, envelope.derating, envelope.decision)

/-- The queries answer from the stored evaluation. -/
theorem agrees_iff : g.Agrees ↔ ∀ id definition e, g.domains.find id = some definition →
    g.evaluations.lookup id = some e → g.snapshotReport id = some e.reported := by
  constructor
  · intro h id definition e hfind hlookup
    have hstate : g.queryState id = .ok e.state := by
      rw [queryState, hfind]
      dsimp only
      rw [hlookup]
    have henvelope : g.queryEnvelope id = .ok (g.makeEnvelope definition e) := by
      rw [queryEnvelope, hfind]
      dsimp only
      rw [hlookup]
    exact (h id _ _ hstate henvelope).2
  · intro h id state envelope hstate henvelope
    rw [queryState] at hstate
    rw [queryEnvelope] at henvelope
    cases hfind : g.domains.find id with
    | none =>
      rw [hfind] at hstate
      cases hstate
    | some definition =>
      rw [hfind] at hstate henvelope
      dsimp only at hstate henvelope
      cases hlookup : g.evaluations.lookup id with
      | none =>
        rw [hlookup] at hstate
        cases hstate
      | some e =>
        rw [hlookup] at hstate henvelope
        obtain rfl := Except.ok.inj hstate
        obtain rfl := Except.ok.inj henvelope
        exact ⟨rfl, h id definition e hfind hlookup⟩

/-- **A state that publishes its snapshot agrees with it.** -/
theorem agrees_publishLocked (hkeyed : g.KeyedDomains) : g.publishLocked.Agrees := by
  rw [agrees_iff]
  intro id definition e hfind hlookup
  replace hfind : g.domains.find id = some definition := hfind
  replace hlookup : g.evaluations.lookup id = some e := hlookup
  have hview : g.publishLocked.published.domains.lookup id =
      some (g.domainSnapshot definition) := by
    show (Table.mapValues (fun _ d => g.domainSnapshot d) g.domains.definitions).lookup id = _
    rw [Table.lookup_mapValues]
    show (g.domains.find id).map _ = _
    rw [hfind, Option.map_some]
  rw [snapshotReport, hview, Option.map_some, domainSnapshot, hkeyed id definition hfind]
  dsimp only
  rw [hlookup]
  rfl

/-- Neither snapshot nor evaluations nor evidence change, and no definition is replaced. -/
structure Kept (g g' : Governor) : Prop where
  published : g'.published = g.published
  evaluations : g'.evaluations = g.evaluations
  evidence : g'.evidence = g.evidence
  find : ∀ id definition, g.domains.find id = some definition →
    g'.domains.find id = some definition

theorem Kept.refl (g : Governor) : Kept g g := ⟨rfl, rfl, rfl, fun _ _ h => h⟩

theorem Kept.trans {g'' : Governor} (h : Kept g g') (h' : Kept g' g'') : Kept g g'' :=
  ⟨h'.published.trans h.published, h'.evaluations.trans h.evaluations,
    h'.evidence.trans h.evidence, fun id definition hfind => h'.find id definition
      (h.find id definition hfind)⟩

/-- What is kept keeps the agreement. -/
theorem agrees_of_kept (hevaluated : g.EvaluatedDomains) (hg : g.Agrees) (h : Kept g g') :
    g'.Agrees := by
  rw [agrees_iff] at hg ⊢
  intro id definition e hfind hlookup
  rw [h.evaluations] at hlookup
  obtain ⟨held, hheld⟩ := Option.isSome_iff_exists.mp (hevaluated id e hlookup)
  rw [snapshotReport, h.published]
  exact hg id held e hheld hlookup

/-! ### Evaluations stored without a snapshot -/

/-- The evaluation that would be stored for a domain now. -/
def storedInPlace (g : Governor) (domain : ThermalDomainId) :
    Option (ThermalDomainId × ThermalEvaluation) :=
  match g.domains.find domain with
  | none => none
  | some definition =>
    (g.policyFor definition).map fun policy => (domain, (g.evaluation definition policy).2)

/-- The evaluation an operation stores without publishing a snapshot. -/
def storesUnpublished (g : Governor) : Operation → Option (ThermalDomainId × ThermalEvaluation)
  | .evaluateDomain domain => g.storedInPlace domain
  | .evaluateDevice device =>
    match g.devices.lookup device with
    | none => none
    | some _ => (g.domains.domainsForDevice device).head?.bind g.storedInPlace
  | .authorizeDerating domain record rationale =>
    match g.authorizes (.authorizeDerating domain record rationale) with
    | none => g.storedInPlace domain
    | some _ => none
  | _ => none

/-- The operation stores an evaluation that the snapshot does not show. -/
def Unpublished (g : Governor) (op : Operation) : Prop :=
  ∃ id e, g.storesUnpublished op = some (id, e) ∧ g.snapshotReport id ≠ some e.reported

/-- How an operation leaves snapshot and evaluations. -/
inductive Reports (g : Governor) (op : Operation) : Governor → Prop
  | published (published : Governor) (hnone : g.storesUnpublished op = none) :
      Reports g op published.publishLocked
  | kept (g' : Governor) (hkept : Kept g g') (hnone : g.storesUnpublished op = none) :
      Reports g op g'
  | stored (g' : Governor) (id : ThermalDomainId) (e : ThermalEvaluation)
      (hpublished : g'.published = g.published) (hdomains : g'.domains = g.domains)
      (hevidence : g'.evidence = g.evidence)
      (hevaluations : g'.evaluations = g.evaluations.insert id e)
      (hfind : (g.domains.find id).isSome = true)
      (hstores : g.storesUnpublished op = some (id, e)) : Reports g op g'

/-- **The agreement survives an operation exactly when the operation stores nothing the
snapshot does not show.** -/
theorem agrees_of_reports (hevaluated : g.EvaluatedDomains) (hkeyed : g'.KeyedDomains)
    (hg : g.Agrees) (h : Reports g op g') : g'.Agrees ↔ ¬ g.Unpublished op := by
  cases h with
  | published published hnone =>
    refine iff_of_true (agrees_publishLocked hkeyed) ?_
    rintro ⟨id, e, hstores, -⟩
    rw [hnone] at hstores
    cases hstores
  | kept _ hkept hnone =>
    refine iff_of_true (agrees_of_kept hevaluated hg hkept) ?_
    rintro ⟨id, e, hstores, -⟩
    rw [hnone] at hstores
    cases hstores
  | stored _ id e hpublished hdomains _ hevaluations hfind hstores =>
    have hreport : ∀ id', g'.snapshotReport id' = g.snapshotReport id' := by
      intro id'
      rw [snapshotReport, hpublished, snapshotReport]
    obtain ⟨definition, hdefinition⟩ := Option.isSome_iff_exists.mp hfind
    constructor
    · rintro hagrees ⟨id', e', hstores', hdiffers⟩
      obtain ⟨rfl, rfl⟩ := Prod.mk.inj (Option.some.inj (hstores.symm.trans hstores'))
      rw [agrees_iff] at hagrees
      refine hdiffers ?_
      rw [← hreport]
      refine hagrees id definition e ?_ ?_
      · rw [hdomains]
        exact hdefinition
      · rw [hevaluations, AList.lookup_insert]
    · intro hshown
      rw [agrees_iff] at hg ⊢
      intro id' definition' e' hfind' hlookup
      rw [hdomains] at hfind'
      rw [hevaluations, Table.lookup_insert_eq_ite] at hlookup
      rw [hreport]
      split at hlookup
      · rename_i hsame
        obtain rfl := Option.some.inj hlookup
        rw [hsame]
        by_contra hdiffers
        exact hshown ⟨id, e, hstores, hdiffers⟩
      · exact hg id' definition' e' hfind' hlookup

/-! ### Every operation -/

theorem reports_same (hnone : g.storesUnpublished op = none) : Reports g op g :=
  .kept g (.refl g) hnone

/-- An evaluation that is not stored changes neither. -/
theorem reports_evaluateLocked {definition : ThermalDomainDefinition} {r : Result ThermalEvaluation}
    (h : g.evaluateLocked definition = (g', r)) (hnone : g.storesUnpublished op = none) :
    Reports g op g' := by
  unfold evaluateLocked at h
  split at h
  · obtain ⟨rfl, -⟩ := Prod.mk.inj h
    exact reports_same hnone
  · obtain ⟨rfl, -⟩ := Prod.mk.inj h
    exact .kept _ ⟨rfl, rfl, rfl, fun _ _ h => h⟩ hnone

/-- An evaluation in place stores what it computes. -/
theorem reports_evaluateAndStore {domain : ThermalDomainId}
    (hstores : g.storesUnpublished op = g.storedInPlace domain) :
    Reports g op (g.evaluateAndStore domain).1 := by
  unfold storedInPlace at hstores
  unfold evaluateAndStore
  cases hfind : g.domains.find domain with
  | none =>
    rw [hfind] at hstores
    exact reports_same hstores
  | some definition =>
    rw [hfind] at hstores
    dsimp only at hstores ⊢
    cases hpolicy : g.policyFor definition with
    | none =>
      rw [hpolicy] at hstores
      have heval : g.evaluateLocked definition =
          (g, failure .unknownPolicy "no policy is registered for this domain") := by
        rw [evaluateLocked, hpolicy]
      rw [heval]
      exact reports_same hstores
    | some policy =>
      rw [hpolicy, Option.map_some] at hstores
      have heval : g.evaluateLocked definition =
          (g.note (.evaluated (g.evaluation definition policy).1
            (g.evaluation definition policy).2), .ok (g.evaluation definition policy).2) := by
        rw [evaluateLocked, hpolicy]
      rw [heval]
      refine .stored _ domain _ ?_ ?_ ?_ ?_ ?_ hstores
      · exact (recordTransition_same _ _ _ _).published
      · exact (recordTransition_same _ _ _ _).domains
      · exact (recordTransition_same _ _ _ _).evidence
      · exact evaluations_recordTransition _ _ _ _
      · rw [hfind]
        rfl

theorem reports_keepAlive (hnone : g.storesUnpublished op = none) (worker : WorkerId)
    (held record : WorkerRecord) : Reports g op (g.keepAlive worker held record) := by
  unfold keepAlive
  dsimp only
  split <;> exact .kept _ ⟨rfl, rfl, rfl, fun _ _ h => h⟩ hnone

/-- An enrolment that finds no room writes nothing. -/
theorem reports_enrol {retired : Governor} (hnone : g.storesUnpublished op = none)
    (hretired : Kept g retired) (worker : WorkerId) (boot : WorkerBootId) (label : String) :
    Reports g op (retired.enrol worker boot label).1 := by
  unfold enrol
  split
  · exact .kept _ hretired hnone
  · exact .published _ hnone

theorem reports_registerWorker (hnone : g.storesUnpublished op = none) (worker : WorkerId)
    (boot : WorkerBootId) (label : String) :
    Reports g op (g.registerWorker worker boot label).1 := by
  refine registerWorker_rule (P := Reports g op) (reports_same hnone)
    (fun _ _ => reports_enrol hnone (.refl g) worker boot label)
    (fun held _ _ => .published _ hnone) fun held _ _ _ => ?_
  refine reports_enrol hnone ?_ worker boot label
  exact ⟨rfl, rfl, rfl, fun _ _ h => h⟩

theorem reports_publishImpl (hnone : g.storesUnpublished op = none) (e : ThermalEvidence) :
    Reports g op (g.publishImpl e).1 :=
  publishImpl_rule (P := Reports g op) (reports_same hnone) fun _ => .published _ hnone

theorem reports_publishIf (hnone : g.storesUnpublished op = none) (check : Check)
    (e : ThermalEvidence) : Reports g op (g.publishIf check e).1 :=
  publishIf_rule (P := Reports g op) (reports_same hnone) (reports_publishImpl hnone e)

theorem reports_recordActionDispatch (hnone : g.storesUnpublished op = none) (id : ActionId) :
    Reports g op (g.recordActionDispatch id).1 :=
  recordActionDispatch_rule (P := Reports g op) (reports_same hnone)
    (fun _ => .published _ hnone) fun _ => .published _ hnone

theorem reports_recordActionAck (hnone : g.storesUnpublished op = none) (ack : ActionAck) :
    Reports g op (g.recordActionAck ack).1 :=
  recordActionAck_rule (P := Reports g op) (reports_same hnone) fun _ => .published _ hnone

theorem reports_recordActionResult (hnone : g.storesUnpublished op = none)
    (result : ActionResult) : Reports g op (g.recordActionResult result).1 :=
  recordActionResult_rule (P := Reports g op) (reports_same hnone) fun _ => .published _ hnone

theorem reports_cancelAction (hnone : g.storesUnpublished op = none) (id : ActionId)
    (reason : String) : Reports g op (g.cancelAction id reason).1 :=
  cancelAction_rule (P := Reports g op) (reports_same hnone)
    (fun _ => .kept _ ⟨rfl, rfl, rfl, fun _ _ h => h⟩ hnone) fun _ => .published _ hnone

theorem reports_verifyCommit (hnone : g.storesUnpublished op = none) (id : ActionId)
    (fresh : ThermalEvidence) : Reports g op (g.verifyCommit id fresh).1 :=
  verifyCommit_rule (P := Reports g op) (reports_same hnone)
    (fun _ _ _ _ _ heval => reports_evaluateLocked heval hnone)
    fun _ _ _ _ _ _ _ _ _ _ => .published _ hnone

theorem reports_authorizeMitigation (hnone : g.storesUnpublished op = none)
    (domain : ThermalDomainId) (record : MitigationIntentRecord) (rationale : String) :
    Reports g op (g.authorizeMitigation domain record rationale).1 := by
  rcases g.authorizeMitigation_cases domain record rationale with
    ⟨-, stored, action, hstored, -⟩ | ⟨-, trace, hstored⟩
  · rw [hstored]
    exact .published _ hnone
  · rw [hstored]
    exact .kept _ ⟨rfl, rfl, rfl, fun _ _ h => h⟩ hnone

/-- An authorisation of derating publishes when it goes through; when it is refused, the
evaluation it began with stays. -/
theorem reports_authorizeDerating (g : Governor) (domain : ThermalDomainId)
    (record : MitigationIntentRecord) (rationale : String) :
    Reports g (.authorizeDerating domain record rationale)
      (g.authorizeDerating domain record rationale).1 := by
  have hstored : ∀ trace, g.authorizes (.authorizeDerating domain record rationale) = none →
      Reports g (.authorizeDerating domain record rationale)
        { (g.evaluateDomain domain).1 with trace := trace } := by
    intro trace hgives
    have hstores : g.storesUnpublished (.authorizeDerating domain record rationale) =
        g.storedInPlace domain := by rw [storesUnpublished, hgives]
    have hreports : Reports g (.authorizeDerating domain record rationale)
        (g.evaluateDomain domain).1 := reports_evaluateAndStore hstores
    generalize (g.evaluateDomain domain).1 = evaluated at hreports ⊢
    cases hreports with
    | published published hnone => exact .published { published with trace := trace } hnone
    | kept _ hkept hnone =>
      exact .kept _ ⟨hkept.published, hkept.evaluations, hkept.evidence, hkept.find⟩ hnone
    | stored _ id e hpublished hdomains hevidence hevaluations hfind hstores =>
      exact .stored _ id e hpublished hdomains hevidence hevaluations hfind hstores
  have hgives : g.authorizes (.authorizeDerating domain record rationale) =
      g.authorizes (.authorizeDerating domain record rationale) := rfl
  conv_rhs at hgives => rw [authorizes]
  rw [authorizeDerating]
  cases heval : g.evaluateDomain domain with
  | mk evaluated r =>
    rw [heval] at hgives hstored
    cases r with
    | error e => exact hstored evaluated.trace hgives
    | ok e =>
      have hauthorized : ∀ demanded : MitigationIntentRecord,
          g.authorizes (.authorizeDerating domain record rationale) =
            (if (some demanded).any (evaluated.mayAuthorize domain) then
              some (advance g.actionGeneration) else none) →
          Reports g (.authorizeDerating domain record rationale)
            (evaluated.authorizeMitigation domain demanded rationale).1 := by
        intro demanded hgives
        rw [Option.any_some] at hgives
        rcases evaluated.authorizeMitigation_cases domain demanded rationale with
          ⟨hmay, stored, action, hresult, -⟩ | ⟨hmay, trace, hresult⟩
        · rw [hmay, if_pos rfl] at hgives
          rw [hresult]
          refine .published _ ?_
          rw [storesUnpublished, hgives]
        · rw [hmay] at hgives
          rw [hresult]
          exact hstored trace hgives
      dsimp only at hgives ⊢
      by_cases hintent : record.intent ≠ .noAction
      · rw [if_pos hintent] at hgives ⊢
        exact hauthorized record hgives
      · rw [if_neg hintent] at hgives ⊢
        cases hdemanded : demandedIntent e with
        | none =>
          rw [hdemanded] at hgives
          exact hstored evaluated.trace hgives
        | some demanded =>
          rw [hdemanded] at hgives
          exact hauthorized demanded hgives

/-- A domain that is admitted is new, and replaces nothing. -/
theorem kept_openHistory_store {definition : ThermalDomainDefinition}
    (hcheck : g.domains.checkAdd definition = .ok ()) :
    Kept g (openHistory { g with domains := g.domains.store definition } definition.id) := by
  refine ⟨rfl, rfl, rfl, fun id held hfind => ?_⟩
  have hnew := (DomainRegistry.checkAdd_eq_ok.mp hcheck).new
  refine (DomainRegistry.find_store g.domains definition id).trans ?_
  rw [if_neg, hfind]
  rintro rfl
  rw [hnew] at hfind
  cases hfind

theorem kept_restoreDomains (g : Governor) (domains : List ThermalDomainDefinition) :
    Kept g (g.restoreDomains domains).1 :=
  restoreDomains_invariant (I := Kept g)
    (fun _ _ hcheck h => h.trans (kept_openHistory_store hcheck)) domains (.refl g)

/-- A load that fails on the way has replaced nothing. -/
theorem kept_restore_error (g : Governor) (file : DurableState) {e : ThermalError}
    (h : (g.restore file).2 = .error e) : Kept g (g.restore file).1 := by
  have hrestored : (g.restore file).2 = .error e → Kept g (g.restore file).1 := by
    refine restore_rule (I := Kept g) (J := fun r => r.2 = .error e → Kept g r.1)
      ⟨rfl, rfl, rfl, fun _ _ h => h⟩ (fun _ _ hcheck h => h.trans (kept_openHistory_store hcheck))
      (fun _ _ _ _ h => h.trans ⟨rfl, rfl, rfl, fun _ _ h => h⟩) (fun _ _ h _ => h) fun _ _ h => ?_
    cases h
  exact hrestored h

/-- **What a load that succeeds has gone through.** -/
theorem restore_eq_ok {file : DurableState} (h : (g.restore file).2 = .ok ()) :
    ∃ g₁ g₂, (g.restoreConfiguration file).restoreDomains file.domains = (g₁, .ok ()) ∧
      g₁.restoreCouplings file.couplings = (g₂, .ok ()) ∧
      (g.restore file).1 = publishLocked (recomputeAllDomains
        (advanceTopology (discardDynamicState (g₂.restoreRecords file)))) := by
  unfold restore at h ⊢
  cases h₁ : (g.restoreConfiguration file).restoreDomains file.domains with
  | mk g₁ r₁ =>
    rw [h₁] at h
    cases r₁ with
    | error e => cases h
    | ok _ =>
      dsimp only at h ⊢
      cases h₂ : g₁.restoreCouplings file.couplings with
      | mk g₂ r₂ =>
        rw [h₂] at h
        cases r₂ with
        | error e => cases h
        | ok _ => exact ⟨g₁, g₂, rfl, h₂, rfl⟩

theorem reports_restore (hnone : g.storesUnpublished op = none) (file : DurableState) :
    Reports g op (g.restore file).1 := by
  cases hrestored : (g.restore file).2 with
  | error e => exact .kept _ (g.kept_restore_error file hrestored) hnone
  | ok _ =>
    obtain ⟨_, _, -, -, hpublished⟩ := restore_eq_ok hrestored
    rw [hpublished]
    exact .published _ hnone

theorem reports_evaluateDevice (g : Governor) (device : DeviceId) :
    Reports g (.evaluateDevice device) (g.evaluateDevice device).1 := by
  have hstores : g.storesUnpublished (.evaluateDevice device) =
      match g.devices.lookup device with
      | none => none
      | some _ => (g.domains.domainsForDevice device).head?.bind g.storedInPlace := rfl
  unfold evaluateDevice
  cases hdevice : g.devices.lookup device with
  | none =>
    rw [hdevice] at hstores
    exact reports_same hstores
  | some registration =>
    rw [hdevice] at hstores
    dsimp only at hstores ⊢
    cases hdomains : g.domains.domainsForDevice device with
    | nil =>
      rw [hdomains] at hstores
      exact reports_same hstores
    | cons domain rest =>
      rw [hdomains] at hstores
      exact reports_evaluateAndStore hstores

theorem reports_evaluateAdmission (hnone : g.storesUnpublished op = none)
    (request : ThermalAdmissionRequest) : Reports g op (g.evaluateAdmission request).1 := by
  unfold evaluateAdmission
  split
  · exact reports_same hnone
  · split
    · exact reports_same hnone
    · split
      · exact reports_same hnone
      · split
        · exact reports_same hnone
        · split
          · rename_i heval
            exact reports_evaluateLocked heval hnone
          · rename_i heval
            exact reports_evaluateLocked heval hnone

/-- The operations of configuration publish when they succeed. -/
theorem reports_configuration (g : Governor) :
    (∀ clock, Reports g (.setClock clock) (g.setClock clock).1) ∧
    (∀ registration, Reports g (.registerDevice registration)
      (g.registerDevice registration).1) ∧
    (∀ device generation capabilities,
      Reports g (.publishCapabilities device generation capabilities)
        (g.publishCapabilities device generation capabilities).1) ∧
    (∀ definition, Reports g (.registerThermalDomain definition)
      (g.registerThermalDomain definition).1) ∧
    (∀ definition, Reports g (.updateThermalDomain definition)
      (g.updateThermalDomain definition).1) ∧
    (∀ relation, Reports g (.registerCoupling relation) (g.registerCoupling relation).1) ∧
    (∀ id, Reports g (.removeCoupling id) (g.removeCoupling id).1) ∧
    (∀ policy, Reports g (.setPolicy policy) (g.setPolicy policy).1) := by
  refine ⟨fun clock => ?_, fun registration => ?_, fun device generation capabilities => ?_,
    fun definition => ?_, fun definition => ?_, fun relation => ?_, fun id => ?_,
    fun policy => ?_⟩
  · unfold setClock
    split
    · exact reports_same rfl
    · split
      · exact reports_same rfl
      · exact .published _ rfl
  · unfold registerDevice
    split
    · exact reports_same rfl
    · exact .published _ rfl
  · unfold publishCapabilities
    split
    · exact reports_same rfl
    · split
      · exact reports_same rfl
      · exact .published _ rfl
  · unfold registerThermalDomain
    split
    · exact reports_same rfl
    · split
      · exact reports_same rfl
      · exact .published _ rfl
  · unfold updateThermalDomain
    split
    · exact reports_same rfl
    · exact .published _ rfl
  · unfold registerCoupling
    split
    · exact reports_same rfl
    · exact .published _ rfl
  · unfold removeCoupling
    split
    · exact reports_same rfl
    · exact .published _ rfl
  · unfold setPolicy
    split
    · exact reports_same rfl
    · split
      · exact reports_same rfl
      · exact .published _ rfl

/-- **Every operation of one critical section publishes, keeps, or stores unpublished.** -/
theorem reports_apply (g : Governor) (op : Operation)
    (hverify : ∀ id fresh, op ≠ .verifyAction id fresh) : Reports g op (g.apply op) := by
  obtain ⟨hclock, hdevice, hcapabilities, hregister, hupdate, hcouple, hremove, hpolicy⟩ :=
    g.reports_configuration
  cases op with
  | tick now => exact .kept _ ⟨rfl, rfl, rfl, fun _ _ h => h⟩ rfl
  | setClock clock => exact hclock clock
  | registerDevice registration => exact hdevice registration
  | publishCapabilities device generation capabilities =>
    exact hcapabilities device generation capabilities
  | registerThermalDomain definition => exact hregister definition
  | updateThermalDomain definition => exact hupdate definition
  | registerCoupling relation => exact hcouple relation
  | removeCoupling id => exact hremove id
  | setPolicy policy => exact hpolicy policy
  | registerWorker worker boot label => exact reports_registerWorker rfl worker boot label
  | workerHeartbeat worker boot =>
    rw [apply, workerHeartbeat]
    split
    · exact reports_same rfl
    · split
      · exact reports_same rfl
      · exact reports_keepAlive rfl _ _ _
  | noteWorkerDeath worker boot =>
    rw [apply, noteWorkerDeath]
    split
    · exact reports_same rfl
    · split
      · exact reports_same rfl
      · exact .published _ rfl
  | publishTemperature e => exact reports_publishImpl rfl e
  | publishThrottleEvidence e => exact reports_publishIf rfl _ e
  | publishCoolingEvidence e => exact reports_publishIf rfl _ e
  | publishNodeTemperature e => exact reports_publishIf rfl _ e
  | publishRackTemperature e => exact reports_publishIf rfl _ e
  | evaluateDomain domain => exact reports_evaluateAndStore rfl
  | evaluateDevice device => exact g.reports_evaluateDevice device
  | evaluateAdmission request => exact reports_evaluateAdmission rfl request
  | authorizeRecovery domain =>
    rw [apply, authorizeRecovery]
    split
    · exact reports_same rfl
    · exact .published _ rfl
  | revokeRecovery domain =>
    rw [apply, revokeRecovery]
    split
    · exact reports_same rfl
    · exact .published _ rfl
  | authorizeMitigation domain record rationale =>
    exact reports_authorizeMitigation rfl domain record rationale
  | authorizeDerating domain record rationale =>
    exact g.reports_authorizeDerating domain record rationale
  | recordActionDispatch id => exact reports_recordActionDispatch rfl id
  | recordActionAck ack => exact reports_recordActionAck rfl ack
  | recordActionResult result => exact reports_recordActionResult rfl result
  | verifyAction id fresh => exact absurd rfl (hverify id fresh)
  | verifyCommit id fresh => exact reports_verifyCommit rfl id fresh
  | cancelAction id reason => exact reports_cancelAction rfl id reason
  | loadDurable file =>
    rw [apply]
    unfold loadDurable
    split
    · exact reports_same rfl
    · split
      · exact reports_same rfl
      · exact reports_same rfl
      · exact reports_restore rfl _
  | shutdown =>
    rw [apply, shutdown]
    split
    · exact reports_same rfl
    · exact .published _ rfl

/-! ### Every run -/

/-- In a reachable state that agrees, an operation keeps the agreement exactly when it
stores nothing the snapshot does not show. -/
theorem agrees_apply_iff (hreachable : g.Reachable) (hg : g.Agrees) (op : Operation) :
    (g.apply op).Agrees ↔ ¬ g.Unpublished op := by
  have hsection : ∀ (g : Governor) (op : Operation), g.Reachable → g.Agrees →
      (∀ id fresh, op ≠ .verifyAction id fresh) →
      ((g.apply op).Agrees ↔ ¬ g.Unpublished op) := by
    intro g op hreachable hg hverify
    exact agrees_of_reports (evaluatedDomains_of_reachable hreachable)
      (keyedDomains_of_reachable (hreachable.apply op)) hg (g.reports_apply op hverify)
  have hnever : ∀ (g : Governor) (op : Operation), g.storesUnpublished op = none →
      ¬ g.Unpublished op := by
    rintro g op hnone ⟨id, e, hstores, -⟩
    rw [hnone] at hstores
    cases hstores
  by_cases hverify : ∃ id fresh, op = .verifyAction id fresh
  · obtain ⟨id, fresh, rfl⟩ := hverify
    refine iff_of_true ?_ (hnever g _ rfl)
    -- the record is published first, and the verification commits afterwards
    have hpublished : (g.apply (.publishTemperature fresh)).Agrees :=
      (hsection g _ hreachable hg fun _ _ h => by cases h).mpr (hnever g _ rfl)
    have hcommitted :
        ((g.apply (.publishTemperature fresh)).apply (.verifyCommit id fresh)).Agrees :=
      (hsection _ _ (hreachable.apply _) hpublished fun _ _ h => by cases h).mpr
        (hnever _ _ rfl)
    rw [apply] at hpublished hcommitted
    rw [apply] at hcommitted
    rw [apply, verifyAction]
    cases hresult : g.publishTemperature fresh with
    | mk published r =>
      rw [hresult] at hpublished hcommitted
      cases r with
      | error e => exact hpublished
      | ok receipt => exact hcommitted
  · push Not at hverify
    exact hsection g op hreachable hg hverify

/-- **While no operation stores what the snapshot does not show, snapshot and queries agree;
and the first operation that does so ends the agreement.** -/
theorem agrees_of_runsUnder (config : GovernorConfig) (now : SteadyTimePoint) (g : Governor)
    (hrun : RunsUnder (fun g op => ¬ g.Unpublished op) (create config now) g) :
    g.Agrees ∧ ∀ op, (g.apply op).Agrees ↔ ¬ g.Unpublished op := by
  have hreachable : ∀ g, RunsUnder (fun g op => ¬ g.Unpublished op) (create config now) g →
      g.Reachable := fun g hrun => ⟨config, now, hrun.runs⟩
  have hcreated : (create config now).Agrees :=
    agrees_publishLocked fun id definition hfind => (by cases hfind)
  have hinv : g.Reachable ∧ g.Agrees := by
    refine RunUnder.invariant (I := fun g => g.Reachable ∧ g.Agrees) hrun
      ⟨hreachable _ .refl, hcreated⟩ fun g op hg hop => ?_
    exact ⟨hg.1.apply op, (agrees_apply_iff hg.1 hg.2 op).mpr hop⟩
  exact ⟨hinv.2, agrees_apply_iff hinv.1 hinv.2⟩

section Deployment

open Deployment

/-- A reading is published with its snapshot, and an evaluation at the same time finds
nothing new. -/
theorem agrees_of_runsUnder_published :
    (after [.publishTemperature (reading 50 1 0)]).Agrees := by
  refine (agrees_of_runsUnder Deployment.config 0 _ ?_).1
  refine runsUnder_foldl _ (fun op hop g => ?_) _
  rintro ⟨id, e, hstores, -⟩
  simp only [setUp, List.cons_append, List.nil_append, List.mem_cons, List.not_mem_nil,
    or_false] at hop
  rcases hop with rfl | rfl | rfl <;> cases hstores

/-- A hundred seconds after the reading. -/
def readLongAgo : Governor := after [.publishTemperature (reading 50 1 0), .tick 100000000000]

/-- An evaluation then requires revalidation, and the snapshot still allows. -/
theorem not_agrees :
    ¬ ∀ (g : Governor) (op : Operation), g.Reachable → (g.apply op).Agrees := by
  intro h
  have hagrees := agrees_iff.mp (h readLongAgo (.evaluateDomain 1) (reachable_after _))
  have hregistered : ((readLongAgo.apply (.evaluateDomain 1)).domains.find 1).isSome = true := by
    decide +kernel
  have hdiffers : (((readLongAgo.apply (.evaluateDomain 1)).evaluations.lookup 1).all fun e =>
      (readLongAgo.apply (.evaluateDomain 1)).snapshotReport 1 = some e.reported) = false := by
    decide +kernel
  obtain ⟨definition, hfind⟩ := Option.isSome_iff_exists.mp hregistered
  cases hlookup : (readLongAgo.apply (.evaluateDomain 1)).evaluations.lookup 1 with
  | none =>
    rw [hlookup] at hdiffers
    cases hdiffers
  | some e =>
    rw [hlookup, Option.all_some, hagrees 1 definition e hfind hlookup] at hdiffers
    simp at hdiffers

end Deployment

end Governor

end ThermalGovernor
