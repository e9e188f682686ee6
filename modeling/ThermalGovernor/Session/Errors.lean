import ThermalGovernor.Lib.Stops
import ThermalGovernor.Session.Handle

/-!
# Errors are short

What is reported of an error is a text of the source, with nothing in it that a caller or a file
has sent: no operation of the coordinator answers with a detail of more than a line (`Terse`).
So the detail of a response fits its limit whatever the command, the unknown verb apart, which
is told back.
-/

namespace ThermalGovernor

open Lib

/-- The error, if it is one, has a short detail. -/
def Terse {α : Type} (r : Result α) : Prop := ∀ e, r = .error e → Brief e.detail

section Results

variable {α β : Type}

@[simp] theorem terse_ok (a : α) : Terse (.ok a) := fun _ h => by cases h

@[simp] theorem terse_error {e : ThermalError} :
    Terse (.error e : Result α) ↔ Brief e.detail :=
  ⟨fun h => h e rfl, fun h e' he => by cases he; exact h⟩

/-- A refusal with a text of the source. -/
theorem terse_refusal {code : ThermalErrorCode} {text : List Char} (h : text.length ≤ 4096) :
    Terse (failure code (String.ofList text) : Result α) := terse_error.mpr (brief_ofList h)

theorem Terse.bind {r : Result α} {f : α → Result β} (h : Terse r) (hf : ∀ a, Terse (f a)) :
    Terse (r.bind f) := by
  cases r with
  | error e => exact terse_error.mpr (terse_error.mp h)
  | ok a => exact hf a

theorem Terse.map {r : Result α} (h : Terse r) (f : α → β) : Terse (r.map f) := by
  cases r with
  | error e => exact terse_error.mpr (terse_error.mp h)
  | ok a => exact terse_ok (f a)

/-- The error of an operation is the error of the one after it. -/
theorem Terse.of_error {r : Result α} (h : Terse r) {e : ThermalError} (he : r = .error e) :
    Terse (.error e : Result β) := terse_error.mpr (h e he)

/-- A refusal in front. -/
theorem Terse.unless {c : Prop} [Decidable c] {code : ThermalErrorCode} {text : List Char}
    {r : Result α} (h : text.length ≤ 4096) (hr : Terse r) :
    Terse (if c then failure code (String.ofList text) else r) := by
  split
  · exact terse_refusal h
  · exact hr

theorem terse_runChecks {checks : List Check} (h : ∀ check ∈ checks, Brief check.detail) :
    Terse (runChecks checks) := by
  intro e he
  obtain ⟨check, hcheck, -, rfl⟩ := runChecks_eq_error he
  exact h check hcheck

/-- A check with a text of the source, in front of others. -/
theorem brief_cons {holds : Bool} {code : ThermalErrorCode} {text : List Char}
    {rest : List Check} (h : text.length ≤ 4096) (hrest : ∀ check ∈ rest, Brief check.detail) :
    ∀ check ∈ ⟨holds, code, String.ofList text⟩ :: rest, Brief check.detail :=
  List.forall_mem_cons.mpr ⟨brief_ofList h, hrest⟩

theorem brief_nil : ∀ check ∈ ([] : List Check), Brief check.detail := fun _ h => by cases h

end Results

/-! ### Policies and definitions -/

theorem brief_restrictionChecks (seen : List WorkloadThermalProfile)
    (list : List (WorkloadRestriction ℚ)) :
    ∀ check ∈ restrictionChecks seen list, Brief check.detail := by
  induction list generalizing seen with
  | nil => simp [restrictionChecks]
  | cons r rest ih =>
    unfold restrictionChecks orInvalid
    exact brief_cons (by decide) (brief_cons (by decide) (ih _))

theorem terse_validatePolicy (policy : ThermalPolicy) : Terse (validatePolicy policy) := by
  refine terse_runChecks ?_
  rw [policyChecks, List.forall_mem_append]
  refine ⟨?_, brief_restrictionChecks _ _⟩
  unfold orInvalid orLimit
  repeat refine brief_cons (by decide) ?_
  exact brief_nil

theorem terse_checkAdd (r : DomainRegistry) (d : ThermalDomainDefinition) :
    Terse (r.checkAdd d) := by
  unfold DomainRegistry.checkAdd
  repeat refine .unless (by decide) ?_
  exact terse_ok ()

theorem terse_checkChild (r : DomainRegistry) (id child : ThermalDomainId) :
    Terse (r.checkChild id child) :=
  .unless (by decide) <| .unless (by decide) <| terse_ok ()

theorem terse_checkUpdate (r : DomainRegistry) (d : ThermalDomainDefinition) :
    Terse (r.checkUpdate d) := by
  unfold DomainRegistry.checkUpdate
  split
  · exact terse_refusal (by decide)
  · repeat refine .unless (by decide) ?_
    exact List.foldlRecOn d.children (motive := Terse) _ (terse_ok ()) fun status hstatus c _ =>
      hstatus.bind fun _ => terse_checkChild r d.id c

/-! ### Records off the wire -/

section Decoding

open Decoder Wire

variable {R C : Type} [Input R C]

theorem stopsWith_readTemperature [Scalar R] :
    StopsWith (readTemperature : RecordReader C R) malformed :=
  .bind (stopsWith_field _) fun _ => .bind (stopsWith_require _) fun _ => stopsWith_pure _

theorem stopsWith_readThrottle :
    StopsWith (readThrottle : RecordReader C ThrottleObservation) malformed :=
  .bind (stopsWith_field _) fun _ => .bind (stopsWith_field _) fun _ =>
  .bind stopsWith_requireOk fun _ => .bind (stopsWith_require _) fun _ => stopsWith_pure _

theorem stopsWith_readCooling [Scalar R] :
    StopsWith (readCooling : RecordReader C (CoolingEvidence R)) malformed := by
  have hreading := (stopsWith_readTemperature (R := R) (C := C)).optional
  unfold readCooling
  refine .bind (stopsWith_field _) fun _ => ?_
  refine .bind hreading fun _ => .bind hreading fun _ => ?_
  refine .bind hreading fun _ => .bind hreading fun _ => ?_
  refine .bind (stopsWith_field _).optional fun _ => .bind (stopsWith_field _) fun _ => ?_
  exact .bind stopsWith_requireOk fun _ => .bind (stopsWith_require _) fun _ => stopsWith_pure _

theorem stopsWith_readFan : StopsWith (readFan : RecordReader C (FanEvidence R)) malformed := by
  unfold readFan
  refine .bind (stopsWith_field _) fun _ => .bind (stopsWith_field _).optional fun _ => ?_
  refine .bind (stopsWith_field _).optional fun _ => .bind (stopsWith_field _) fun _ => ?_
  exact .bind stopsWith_requireOk fun _ => .bind (stopsWith_require _) fun _ => stopsWith_pure _

theorem stopsWith_readSubject :
    StopsWith (readSubject : RecordReader C (Option SubjectRef)) malformed := by
  unfold readSubject
  refine .bind (stopsWith_field _) fun _ => .bind stopsWith_isOk fun _ => ?_
  split
  · exact stopsWith_pure _
  · iterate 10 refine .bind (stopsWith_field _) fun _ => ?_
    refine .bind stopsWith_isOk fun _ => ?_
    split <;> exact stopsWith_pure _

theorem stopsWith_readReading [Scalar R] (evidenceId : EvidenceId) (subject : SubjectRef) :
    StopsWith (readReading evidenceId subject : RecordReader C (ThermalEvidence R))
      malformed := by
  unfold readReading
  iterate 2 refine .bind (stopsWith_field _) fun _ => ?_
  refine .bind stopsWith_readTemperature fun _ => ?_
  iterate 2 refine .bind (stopsWith_field _) fun _ => ?_
  refine .bind stopsWith_requireOk fun _ => .bind (stopsWith_require _) fun _ => ?_
  iterate 10 refine .bind (stopsWith_field _) fun _ => ?_
  refine .bind stopsWith_requireOk fun _ => .bind (stopsWith_require _) fun _ => ?_
  refine .bind stopsWith_readThrottle.optional fun _ => ?_
  iterate 2 refine .bind stopsWith_readTemperature.optional fun _ => ?_
  iterate 2 refine .bind (stopsWith_field _).optional fun _ => ?_
  refine .bind stopsWith_readCooling.optional fun _ => ?_
  refine .bind stopsWith_readFan.optional fun _ => ?_
  exact .bind (stopsWith_field _).optional fun _ => stopsWith_pure _

theorem stopsWith_readEvidence [Scalar R] [Zero R] :
    StopsWith (readEvidence : RecordReader C (ThermalEvidence R)) malformed := by
  unfold readEvidence
  refine .bind (stopsWith_field _) fun _ => .bind stopsWith_readSubject fun subject => ?_
  split
  · exact stopsWith_pure _
  · exact stopsWith_readReading _ _

theorem terse_decodeEvidence (bytes : Bytes) : Terse (decodeEvidence bytes) := by
  have hbrief : Brief malformed.detail := brief_ofList (by decide)
  unfold decodeEvidence decodeWith
  split
  · rename_i e he
    obtain rfl := stopsWith_readEvidence _ _ he
    exact terse_error.mpr hbrief
  · split
    · exact terse_ok _
    · exact terse_error.mpr hbrief

end Decoding

namespace Governor

variable (g : Governor)

theorem brief_deviceChecks (registration : DeviceRegistration) :
    ∀ check ∈ g.deviceChecks registration, Brief check.detail := by
  unfold deviceChecks
  repeat refine brief_cons (by decide) ?_
  exact brief_nil

theorem terse_registerDevice (registration : DeviceRegistration) :
    Terse (g.registerDevice registration).2 := by
  have hchecks : Terse (runChecks (g.deviceChecks registration)) :=
    terse_runChecks (g.brief_deviceChecks registration)
  unfold registerDevice
  split
  · rename_i e he
    exact hchecks.of_error he
  · exact terse_ok ()

theorem terse_registerThermalDomain (definition : ThermalDomainDefinition) :
    Terse (g.registerThermalDomain definition).2 := by
  have hcheck := terse_checkAdd g.domains definition
  unfold registerThermalDomain DomainRegistry.add
  split
  · exact terse_refusal (by decide)
  · cases hadd : g.domains.checkAdd definition with
    | error e => exact hcheck.of_error hadd
    | ok _ => exact terse_ok ()

theorem terse_updateThermalDomain (definition : ThermalDomainDefinition) :
    Terse (g.updateThermalDomain definition).2 := by
  have hcheck := terse_checkUpdate g.domains definition
  unfold updateThermalDomain DomainRegistry.update
  cases hupdate : g.domains.checkUpdate definition with
  | error e => exact hcheck.of_error hupdate
  | ok _ => exact terse_ok ()

theorem brief_couplingChecks (relation : CouplingRelation) :
    ∀ check ∈ g.couplingChecks relation, Brief check.detail := by
  unfold couplingChecks
  repeat refine brief_cons (by decide) ?_
  exact brief_nil

theorem terse_registerCoupling (relation : CouplingRelation) :
    Terse (g.registerCoupling relation).2 := by
  have hchecks : Terse (runChecks (g.couplingChecks relation)) :=
    terse_runChecks (g.brief_couplingChecks relation)
  unfold registerCoupling
  split
  · rename_i e he
    exact hchecks.of_error he
  · exact terse_ok ()

theorem terse_setPolicy (policy : ThermalPolicy) : Terse (g.setPolicy policy).2 := by
  have hvalid := terse_validatePolicy policy
  unfold setPolicy
  split
  · rename_i e he
    exact hvalid.of_error he
  · split
    · exact terse_refusal (by decide)
    · exact terse_ok _

theorem terse_getPolicy (id : ThermalPolicyId) : Terse (g.getPolicy id) := by
  unfold getPolicy
  split
  · exact terse_refusal (by decide)
  · exact terse_ok _

theorem terse_noteWorkerDeath (worker : WorkerId) (boot : WorkerBootId) :
    Terse (g.noteWorkerDeath worker boot).2 := by
  unfold noteWorkerDeath
  split
  · exact terse_refusal (by decide)
  · split
    · exact terse_refusal (by decide)
    · exact terse_ok ()

/-! ### Evidence -/

theorem brief_evidenceChecks (e : ThermalEvidence) :
    ∀ check ∈ evidenceChecks e, Brief check.detail := by
  unfold evidenceChecks
  repeat refine brief_cons (by decide) ?_
  exact brief_nil

theorem terse_validateEvidenceStructure (e : ThermalEvidence) :
    Terse (validateEvidenceStructure e) :=
  terse_runChecks (brief_evidenceChecks e)

theorem brief_workerChecks (e : ThermalEvidence) :
    ∀ check ∈ g.workerChecks e, Brief check.detail := by
  unfold workerChecks
  split
  · exact brief_nil
  · split
    · exact brief_cons (by decide) brief_nil
    · exact brief_cons (by decide) (brief_cons (by decide) brief_nil)

theorem brief_deviceGenerationChecks (e : ThermalEvidence) :
    ∀ check ∈ g.deviceGenerationChecks e, Brief check.detail := by
  unfold deviceGenerationChecks
  split
  · exact brief_nil
  · split
    · exact brief_cons (by decide) brief_nil
    · exact brief_cons (by decide) brief_nil

theorem brief_domainGenerationChecks (e : ThermalEvidence) :
    ∀ check ∈ g.domainGenerationChecks e, Brief check.detail := by
  unfold domainGenerationChecks
  split
  · exact brief_nil
  · split
    · exact brief_cons (by decide) brief_nil
    · exact brief_cons (by decide) brief_nil

theorem terse_publishChecks (e : ThermalEvidence) : Terse (runChecks (g.publishChecks e)) := by
  refine terse_runChecks ?_
  rw [publishChecks, List.forall_mem_append, List.forall_mem_append, List.forall_mem_append]
  exact ⟨⟨⟨brief_cons (by decide) (brief_cons (by decide) brief_nil), g.brief_workerChecks e⟩,
    g.brief_deviceGenerationChecks e⟩, g.brief_domainGenerationChecks e⟩

theorem brief_of_refused {held : Option ThermalEvidence} {e : ThermalEvidence}
    {error : ThermalError} (h : sequenceVerdict held e = .refused error) :
    Brief error.detail := by
  unfold sequenceVerdict at h
  split at h
  · cases h
  · split at h
    · cases h
    · split at h
      · cases h
      · cases h
        exact brief_ofList (by decide)
      · cases h
        exact brief_ofList (by decide)
      · split at h
        · cases h
          exact brief_ofList (by decide)
        · cases h

theorem terse_publishTemperature (e : ThermalEvidence) : Terse (g.publishTemperature e).2 := by
  have hstructure := terse_validateEvidenceStructure e
  have hchecks := g.terse_publishChecks e
  unfold publishTemperature publishImpl
  split
  · rename_i err he
    exact hstructure.of_error he
  split
  · rename_i err he
    exact hchecks.of_error he
  split
  · rename_i err he
    exact terse_error.mpr (brief_of_refused he)
  · exact terse_ok _
  · exact terse_ok _

/-! ### Evaluations and queries -/

theorem terse_evaluateLocked (definition : ThermalDomainDefinition) :
    Terse (g.evaluateLocked definition).2 := by
  unfold evaluateLocked
  split
  · exact terse_refusal (by decide)
  · exact terse_ok _

theorem terse_evaluateDomain (domain : ThermalDomainId) : Terse (g.evaluateDomain domain).2 := by
  unfold evaluateDomain evaluateAndStore
  split
  · exact terse_refusal (by decide)
  · rename_i definition _
    have hlocked := g.terse_evaluateLocked definition
    split
    · rename_i g' e heval
      rw [heval] at hlocked
      exact hlocked.of_error rfl
    · exact terse_ok _

theorem brief_admissionChecks (request : ThermalAdmissionRequest)
    (definition : ThermalDomainDefinition) :
    ∀ check ∈ g.admissionChecks request definition, Brief check.detail := by
  unfold admissionChecks
  repeat refine brief_cons (by decide) ?_
  exact brief_nil

theorem terse_evaluateAdmission (request : ThermalAdmissionRequest) :
    Terse (g.evaluateAdmission request).2 := by
  unfold evaluateAdmission
  split
  · exact terse_refusal (by decide)
  rename_i definition _
  have hchecks : Terse (runChecks (g.admissionChecks request definition)) :=
    terse_runChecks (g.brief_admissionChecks request definition)
  split
  · rename_i e he
    exact hchecks.of_error he
  split
  · exact terse_refusal (by decide)
  rename_i policy _
  have hpolicy : Terse (runChecks [admissionPolicyCheck request policy]) :=
    terse_runChecks (brief_cons (by decide) brief_nil)
  split
  · rename_i e he
    exact hpolicy.of_error he
  have hlocked := g.terse_evaluateLocked definition
  split
  · rename_i g' e heval
    rw [heval] at hlocked
    exact hlocked.of_error rfl
  · exact terse_ok _

theorem terse_queryHeadroom (domain : ThermalDomainId) : Terse (g.queryHeadroom domain) := by
  unfold queryHeadroom
  split
  · exact terse_refusal (by decide)
  · exact terse_ok _

theorem terse_queryEnvelope (domain : ThermalDomainId) : Terse (g.queryEnvelope domain) := by
  unfold queryEnvelope
  split
  · exact terse_refusal (by decide)
  split
  · exact terse_refusal (by decide)
  · exact terse_ok _

theorem terse_evaluateRecovery (domain : ThermalDomainId) :
    Terse (g.evaluateRecovery domain) := by
  unfold evaluateRecovery
  split
  · exact terse_refusal (by decide)
  split
  · exact terse_refusal (by decide)
  split
  · exact terse_refusal (by decide)
  · exact terse_ok _

theorem terse_policyToExplain (domain : ThermalDomainId) : Terse (g.policyToExplain domain) := by
  unfold policyToExplain
  split
  · exact terse_refusal (by decide)
  · exact terse_ok _

theorem terse_explain (domain : ThermalDomainId) : Terse (g.explain domain).2 := by
  have hevaluation := g.terse_evaluateDomain domain
  have henvelope := (g.evaluateDomain domain).1.terse_queryEnvelope domain
  have hpolicy := (g.evaluateDomain domain).1.terse_policyToExplain domain
  unfold explain explainFrom
  dsimp only
  split
  · rename_i e he
    exact hevaluation.of_error he
  split
  · rename_i e he
    exact henvelope.of_error he
  split
  · rename_i e he
    exact hpolicy.of_error he
  · exact terse_ok _

theorem terse_explainAdmission (request : ThermalAdmissionRequest) :
    Terse (g.explainAdmission request).2 := by
  have hresult := g.terse_evaluateAdmission request
  have hpolicy := (g.evaluateAdmission request).1.terse_policyToExplain request.domain
  unfold explainAdmission explainAdmissionFrom
  dsimp only
  split
  · rename_i e he
    exact hresult.of_error he
  split
  · rename_i e he
    exact hpolicy.of_error he
  · exact terse_ok _

/-! ### Actions -/

theorem brief_authorizeChecks (policy : ThermalPolicy) (intent : MitigationIntent) :
    ∀ check ∈ g.authorizeChecks policy intent, Brief check.detail := by
  unfold authorizeChecks
  repeat refine brief_cons (by decide) ?_
  exact brief_nil

theorem brief_restorationChecks (e : ThermalEvaluation) (intent : MitigationIntent) :
    ∀ check ∈ restorationChecks e intent, Brief check.detail := by
  unfold restorationChecks
  repeat refine brief_cons (by decide) ?_
  exact brief_nil

theorem terse_authorizeMitigation (domain : ThermalDomainId) (record : MitigationIntentRecord)
    (rationale : String) : Terse (g.authorizeMitigation domain record rationale).2 := by
  unfold authorizeMitigation
  split
  · exact terse_refusal (by decide)
  rename_i definition _
  split
  · exact terse_refusal (by decide)
  split
  · exact terse_refusal (by decide)
  rename_i policy _
  have hchecks : Terse (runChecks (g.authorizeChecks policy record.intent)) :=
    terse_runChecks (g.brief_authorizeChecks policy record.intent)
  split
  · rename_i e he
    exact hchecks.of_error he
  have hlocked := g.terse_evaluateLocked definition
  split
  · rename_i g' e heval
    rw [heval] at hlocked
    exact hlocked.of_error rfl
  rename_i g' evaluation heval
  have hrestoration : Terse (runChecks (restorationChecks evaluation record.intent)) :=
    terse_runChecks (brief_restorationChecks evaluation record.intent)
  split
  · rename_i e he
    exact hrestoration.of_error he
  · exact terse_ok _

theorem terse_authorizeDerating (domain : ThermalDomainId) (record : MitigationIntentRecord)
    (rationale : String) : Terse (g.authorizeDerating domain record rationale).2 := by
  have hevaluation := g.terse_evaluateDomain domain
  unfold authorizeDerating
  split
  · rename_i g' e heval
    rw [heval] at hevaluation
    exact hevaluation.of_error rfl
  split
  · exact terse_authorizeMitigation _ _ _ _
  split
  · exact terse_refusal (by decide)
  · exact terse_authorizeMitigation _ _ _ _

theorem brief_dispatchChecks (action : ThermalAction) :
    ∀ check ∈ dispatchChecks action, Brief check.detail := by
  unfold dispatchChecks
  repeat refine brief_cons (by decide) ?_
  exact brief_nil

theorem brief_authorityChecks (authority : ActionAuthority) (current : AuthoritySnapshot) :
    ∀ check ∈ authorityChecks authority current, Brief check.detail := by
  unfold authorityChecks
  repeat refine brief_cons (by decide) ?_
  exact brief_nil

theorem terse_recordActionDispatch (id : ActionId) : Terse (g.recordActionDispatch id).2 := by
  unfold recordActionDispatch
  split
  · exact terse_refusal (by decide)
  rename_i action _
  have hchecks : Terse (runChecks (dispatchChecks action)) :=
    terse_runChecks (brief_dispatchChecks action)
  split
  · rename_i e he
    exact hchecks.of_error he
  have hauthority : Terse (revalidateActionAuthority action.authority
      (g.dispatchSnapshot action.authority)) := terse_runChecks (brief_authorityChecks _ _)
  split
  · rename_i e he
    exact hauthority.of_error he
  · exact terse_ok _

theorem terse_cancelAction (id : ActionId) (reason : String) :
    Terse (g.cancelAction id reason).2 := by
  unfold cancelAction
  split
  · exact terse_refusal (by decide)
  · rename_i action _
    dsimp only
    cases action.lifecycle
    all_goals exact terse_ok _

theorem brief_verifyChecks (action : ThermalAction) :
    ∀ check ∈ g.verifyChecks action, Brief check.detail := by
  unfold verifyChecks
  repeat refine brief_cons (by decide) ?_
  exact brief_nil

theorem brief_verificationChecks (input : VerificationInput) (action : ThermalAction) :
    ∀ check ∈ verificationChecks input action, Brief check.detail := by
  unfold verificationChecks
  repeat refine brief_cons (by decide) ?_
  exact brief_nil

theorem terse_verifyCommit (id : ActionId) (fresh : ThermalEvidence) :
    Terse (g.verifyCommit id fresh).2 := by
  unfold verifyCommit
  split
  · exact terse_refusal (by decide)
  rename_i action _
  have hchecks : Terse (runChecks (g.verifyChecks action)) :=
    terse_runChecks (g.brief_verifyChecks action)
  split
  · rename_i e he
    exact hchecks.of_error he
  split
  · exact terse_refusal (by decide)
  rename_i definition _
  split
  · exact terse_refusal (by decide)
  rename_i before _
  have hlocked := g.terse_evaluateLocked definition
  split
  · rename_i g' e heval
    rw [heval] at hlocked
    exact hlocked.of_error rfl
  rename_i g' after heval
  have hverified : Terse (ThermalGovernor.verifyAction
      (g'.verificationInput definition action before after fresh)) := by
    have hfence : Terse (verificationFence
        (g'.verificationInput definition action before after fresh) action) :=
      terse_runChecks (brief_verificationChecks _ _)
    unfold ThermalGovernor.verifyAction
    split
    · exact terse_refusal (by decide)
    · rename_i judged hjudged
      obtain rfl := Option.some.inj hjudged
      split
      · rename_i e he
        exact hfence.of_error he
      · exact terse_ok _
  split
  · rename_i e he
    exact hverified.of_error he
  · exact terse_ok _

theorem terse_verifyAction (id : ActionId) (fresh : ThermalEvidence) :
    Terse (g.verifyAction id fresh).2 := by
  have hpublished := g.terse_publishTemperature fresh
  unfold verifyAction
  split
  · rename_i g' e he
    rw [he] at hpublished
    exact hpublished.of_error rfl
  · exact terse_verifyCommit _ _ _

theorem terse_persist : Terse g.persist := by
  unfold persist
  split
  · exact terse_refusal (by decide)
  · exact terse_ok _

end Governor

end ThermalGovernor
