import ThermalGovernor.Laws.Answers
import ThermalGovernor.Ledger.Run

/-!
# Responses that the peer can read

The reader of a response takes a payload of a mebibyte and a detail up to its limit, and
`handle` asks for neither.  Most answers are always within both (`Laws.Answers`).  A listing has
a row for each record held, a device is told with what was said of its capabilities, a policy
with its label and an unknown verb with its name: for these `Answerable` counts the characters,
and `responses_decode_iff` says that the response comes back exactly then.
-/

namespace ThermalGovernor

open Lib Lib.Input Format Wire

/-- What the reader takes of an answer. -/
def Tellable : Result String → Prop
  | .ok text => text.length ≤ maxCollection
  | .error e => e.detail.length ≤ ({} : WireLimits).maxStringBytes

theorem responseBounds_tell_iff (r : Result String) :
    ResponseBounds {} (.tell r) ↔ Tellable r := by
  cases r with
  | ok text => exact ⟨fun h => h.payload, fun h => ⟨Nat.zero_le _, h⟩⟩
  | error e => exact ⟨fun h => h.detail, fun h => ⟨h, Nat.zero_le _⟩⟩

theorem fits_of_brief {text : String} (h : Brief text) : text.length ≤ maxCollection :=
  h.trans (by decide)

/-- A number with what it is. -/
theorem brief_labelled {label : List Char} (h : label.length ≤ 64) (value : Nat) :
    Brief (String.ofList label ++ decimal value) := by
  have hdigits := length_decimal_le value
  unfold Brief
  rw [String.length_append, String.length_ofList]
  omega

theorem tellable_error {e : ThermalError} (h : Brief e.detail) : Tellable (.error e) :=
  h.trans (by decide)

theorem tellable_map {α : Type} {r : Result α} {text : α → String} (h : Terse r)
    (htext : ∀ a, r = .ok a → (text a).length ≤ maxCollection) : Tellable (r.map text) := by
  cases r with
  | ok a => exact htext a rfl
  | error e => exact tellable_error (h e rfl)

/-- A command did an operation of the coordinator, and its answer is always told. -/
structure Serves (g : Governor) (outcome : Governor × Result String) : Prop where
  operation : ∃ op, outcome.1 = g.apply op
  answer : Tellable outcome.2

/-- A command whose answer does not grow. -/
theorem Serves.always {g : Governor} {outcome : Governor × Result String}
    (h : Serves g outcome) :
    (∃ op, outcome.1 = g.apply op) ∧ (Tellable outcome.2 ↔ True) :=
  ⟨h.operation, iff_of_true h.answer trivial⟩

namespace CoordinatorSession

variable {α : Type} (s : CoordinatorSession) (g : Governor) {outcome : Governor × Result α}
  {text : α → String}

/-! ### The parts of a command -/

/-- To leave the state as it is is to read the same clock again. -/
theorem operation_stay : ∃ op, g = g.apply op := ⟨.tick g.now, rfl⟩

theorem serves_error {e : ThermalError} (h : Brief e.detail) : Serves g (g, .error e) :=
  ⟨operation_stay g, tellable_error h⟩

theorem serves_refused {detail : List Char} (h : detail.length ≤ 4096) :
    Serves g (g, refused (String.ofList detail)) := serves_error g (brief_ofList h)

theorem serves_tell {answer : Result α} (h : Terse answer)
    (htext : ∀ a, answer = .ok a → (text a).length ≤ maxCollection) :
    Serves g (tell g answer text) := ⟨operation_stay g, tellable_map h htext⟩

variable {g}

theorem serves_report (op : Operation) (hop : outcome.1 = g.apply op) (h : Terse outcome.2)
    (htext : ∀ a, outcome.2 = .ok a → (text a).length ≤ maxCollection) :
    Serves g (report outcome text) := ⟨⟨op, hop⟩, tellable_map h htext⟩

theorem terse_persistNow (g : Governor) : Terse (s.persistNow g) := by
  unfold persistNow persist
  split
  · exact terse_ok ()
  · exact g.terse_persist.bind fun state => s.host.save_brief state

/-- What is told after the file is written. -/
theorem serves_settle (op : Operation) (hop : outcome.1 = g.apply op) (h : Terse outcome.2)
    (htext : ∀ a, outcome.2 = .ok a → (text a).length ≤ maxCollection) :
    Serves g (s.settle outcome text) := by
  refine ⟨⟨op, hop⟩, ?_⟩
  unfold settle
  cases hresult : outcome.2 with
  | error e => exact tellable_error (h e hresult)
  | ok a => exact tellable_map (s.terse_persistNow _) fun _ _ => htext a hresult

/-- The verbs that name an action. -/
theorem serves_onAction {operation : ActionId → Governor × Result String}
    (h : ∀ id, Serves g (operation id)) (arguments : List String) :
    Serves g (onAction g operation arguments) := by
  unfold onAction
  split
  · split
    · exact serves_refused g (by decide)
    · exact h _
  · exact serves_refused g (by decide)

/-- The verbs with one identifier. -/
theorem serves_query {answer : Nat → Governor × Result String} (h : ∀ id, Serves g (answer id))
    (arguments : List String) : Serves g (query g answer arguments) := by
  unfold query
  split
  · split
    · exact serves_refused g (by decide)
    · exact h _
  · exact serves_refused g (by decide)

theorem serves_onAdmission {name : String} (hname : name.length ≤ 64)
    {operation : ThermalAdmissionRequest → Governor × Result String}
    (h : ∀ request, Serves g (operation request)) (arguments : List String) :
    Serves g (onAdmission g name arguments operation) := by
  unfold onAdmission
  split
  · refine serves_error g ?_
    have hrest : " needs a domain id, a workload id and a profile".length ≤ 64 :=
      length_ofList_le (by decide)
    unfold Brief
    rw [String.length_append]
    omega
  · split
    · exact serves_refused g (by decide)
    · exact h _

/-! ### The commands -/

variable (g)

theorem serves_publish (payload : String) : Serves g (s.publish g payload) := by
  unfold publish
  split
  · exact serves_refused g (by decide)
  split
  · rename_i e he
    exact serves_error g (terse_decodeEvidence _ e he)
  · exact serves_report (.publishTemperature _) rfl (g.terse_publishTemperature _)
      fun receipt _ => fits_of_brief (brief_labelled (by decide) _)

theorem serves_registerDevice (arguments : List String) :
    Serves g (s.registerDevice g arguments) := by
  unfold registerDevice
  split
  · split
    · split
      · exact s.serves_settle (.registerDevice _) rfl (g.terse_registerDevice _) fun _ _ =>
          fits_of_brief (brief_ofList (by decide))
      · exact serves_refused g (by decide)
    · exact serves_refused g (by decide)
  · exact serves_refused g (by decide)

theorem serves_registerDomain (arguments : List String) :
    Serves g (s.registerDomain g arguments) := by
  unfold registerDomain
  split
  · split
    · split
      · exact serves_refused g (by decide)
      · exact s.serves_settle (.registerThermalDomain _) rfl (g.terse_registerThermalDomain _)
          fun _ _ => fits_of_brief (brief_ofList (by decide))
    · exact serves_refused g (by decide)
  · exact serves_refused g (by decide)
  · exact serves_refused g (by decide)

theorem serves_registerCoupling (arguments : List String) :
    Serves g (s.registerCoupling g arguments) := by
  unfold registerCoupling
  split
  · split
    · exact s.serves_settle (.registerCoupling _) rfl (g.terse_registerCoupling _) fun _ _ =>
        fits_of_brief (brief_ofList (by decide))
    · exact serves_refused g (by decide)
  · exact serves_refused g (by decide)

theorem serves_setThresholds (arguments : List String) :
    Serves g (s.setThresholds g arguments) := by
  unfold setThresholds
  split
  · refine serves_error g ?_
    unfold Brief
    repeat rw [String.length_append]
    repeat rw [String.length_ofList]
    decide
  split
  · split
    · split
      · rename_i e he
        exact serves_error g (g.terse_getPolicy _ e he)
      · exact s.serves_settle (.setPolicy _) rfl (g.terse_setPolicy _) fun _ _ =>
          fits_of_brief (brief_labelled (by decide) _)
    · exact serves_refused g (by decide)
  · exact serves_refused g (by decide)

theorem serves_bumpDomainGeneration (arguments : List String) :
    Serves g (s.bumpDomainGeneration g arguments) := by
  unfold bumpDomainGeneration
  split
  · split
    · exact serves_refused g (by decide)
    · split
      · exact serves_error g (brief_ofList (by decide))
      · exact s.serves_settle (.updateThermalDomain _) rfl (g.terse_updateThermalDomain _)
          fun _ _ => fits_of_brief (brief_labelled (by decide) _)
  · exact serves_refused g (by decide)

theorem serves_bumpDeviceGeneration (arguments : List String) :
    Serves g (s.bumpDeviceGeneration g arguments) := by
  unfold bumpDeviceGeneration
  split
  · split
    · exact serves_refused g (by decide)
    · split
      · exact serves_error g (brief_ofList (by decide))
      · exact s.serves_settle (.registerDevice _) rfl (g.terse_registerDevice _) fun _ _ =>
          fits_of_brief (brief_labelled (by decide) _)
  · exact serves_refused g (by decide)

theorem serves_workerDeath (arguments : List String) : Serves g (s.workerDeath g arguments) := by
  unfold workerDeath
  split
  · split
    · exact s.serves_settle (.noteWorkerDeath _ _) rfl (g.terse_noteWorkerDeath _ _) fun _ _ =>
        fits_of_brief (brief_ofList (by decide))
    · exact serves_refused g (by decide)
  · exact serves_refused g (by decide)

/-- The two authorisations. -/
theorem serves_authorize {operation : ThermalDomainId → MitigationIntentRecord → String →
    Governor × Result ActionId}
    (hop : ∀ domain record rationale, ∃ op, (operation domain record rationale).1 = g.apply op)
    (h : ∀ domain record rationale, Terse (operation domain record rationale).2)
    (arguments : List String) : Serves g (s.authorize g operation arguments) := by
  unfold authorize
  split
  · split
    · obtain ⟨op, hop⟩ := hop _ _ _
      exact s.serves_settle op hop (h _ _ _) fun _ _ =>
        fits_of_brief (brief_labelled (by decide) _)
    · exact serves_refused g (by decide)
  · exact serves_refused g (by decide)

theorem serves_verify (payload : String) (arguments : List String) :
    Serves g (s.verify g payload arguments) := by
  unfold verify
  split
  · split
    · exact serves_refused g (by decide)
    split
    · exact serves_refused g (by decide)
    split
    · rename_i e he
      exact serves_error g (terse_decodeEvidence _ e he)
    · exact s.serves_settle (.verifyAction _ _) rfl (g.terse_verifyAction _ _)
        fun record hrecord => length_renderVerification_le (Governor.nodup_of_verifyAction hrecord)
  · exact serves_refused g (by decide)

theorem serves_explain (arguments : List String) : Serves g (explain g arguments) := by
  unfold explain
  split
  · rename_i id
    split
    · exact serves_refused g (by decide)
    · exact serves_report (.evaluateDomain _) rfl (g.terse_explain _) fun x _ =>
        length_explanation_le x
  · exact serves_refused g (by decide)

theorem serves_temperature (id : ThermalDomainId) : Serves g (g, temperature g id) := by
  refine ⟨operation_stay g, ?_⟩
  unfold temperature
  split
  · exact tellable_error (brief_ofList (by decide))
  · rename_i evidence _
    have hreading := length_printed_le evidence.temperature
    have hprovenance := brief_provenance evidence.provenance
    have hlabel : " provenance=".length = 12 := rfl
    unfold Brief at hprovenance
    show (_ ++ _ : String).length ≤ 1048576
    rw [String.length_append, String.length_append]
    omega

theorem serves_shutdown : Serves g (report (s.shutdown g) fun _ => "shutdown") := by
  have hstate : (s.shutdown g).1 = g.apply .shutdown := by
    unfold shutdown
    split <;> rfl
  have hterse : Terse (s.shutdown g).2 := by
    unfold shutdown
    split
    · rename_i hstopping
      unfold Governor.shutdown
      rw [if_pos hstopping]
      exact terse_ok ()
    · dsimp only
      split
      · exact terse_ok ()
      · exact (Governor.terse_persist _).bind fun state => s.host.save_brief state
  exact serves_report .shutdown hstate hterse fun _ _ => fits_of_brief (brief_ofList (by decide))

end CoordinatorSession

/-! ### What grows -/

open CoordinatorSession

/-- The answer has a length that the reader takes.  A listing counts its rows, an answer about a
device or a policy counts what is held of it, and an unknown verb counts itself. -/
def Answerable (g : Governor) (request : CommandRequest) : Prop :=
  match Verb.ofText request.verb with
  | .domains => listedWidth g.published.domains domainWidth ≤ maxCollection
  | .devices => listedWidth g.published.devices deviceRowWidth ≤ maxCollection
  | .actions => ((Table.sortedValues g.actions).map actionWidth).sum ≤ maxCollection
  | .history => (g.history.map historyWidth).sum ≤ maxCollection
  | .device => ∀ argument id, request.arguments = [argument] →
      Session.parseU64 argument = some id → ∀ found, g.published.devices.lookup id = some found →
      deviceWidth id found ≤ maxCollection
  | .policy => ∀ policy, g.policies.lookup defaultPolicyId = some policy →
      policyWidth policy ≤ maxCollection
  | .unrecognised => request.verb.length + 31 ≤ ({} : WireLimits).maxStringBytes
  | _ => True

namespace CoordinatorSession

variable (s : CoordinatorSession) {g : Governor}

/-- A query that leaves the state alone is told if the answer for its identifier is. -/
theorem tellable_query_iff {answer : Nat → Result String} (arguments : List String) :
    Tellable (query g (fun id => (g, answer id)) arguments).2 ↔
      ∀ argument id, arguments = [argument] → Session.parseU64 argument = some id →
        Tellable (answer id) := by
  have hrefused : ∀ detail : List Char, detail.length ≤ 4096 →
      Tellable (refused (String.ofList detail)) := fun _ h => tellable_error (brief_ofList h)
  unfold query
  split
  · rename_i argument
    cases hparse : Session.parseU64 argument with
    | none =>
      refine iff_of_true (hrefused _ (by decide)) fun argument' id h hid => ?_
      obtain rfl := List.singleton_inj.mp h
      rw [hparse] at hid
      cases hid
    | some id =>
      refine ⟨fun h argument' id' hargument hid => ?_, fun h => h argument id rfl hparse⟩
      obtain rfl := List.singleton_inj.mp hargument
      obtain rfl := Option.some.inj (hparse.symm.trans hid)
      exact h
  · rename_i hsingle
    exact iff_of_true (hrefused _ (by decide)) fun argument _ h => absurd h (hsingle argument)

theorem operation_query {answer : Nat → Result String} (arguments : List String) :
    ∃ op, (query g (fun id => (g, answer id)) arguments).1 = g.apply op := by
  have hsame : (query g (fun id => (g, answer id)) arguments).1 = g := by
    unfold query
    split
    · split <;> rfl
    · rfl
  rw [hsame]
  exact operation_stay g

theorem tellable_device_iff (id : DeviceId) : Tellable (device g id) ↔
    ∀ found, g.published.devices.lookup id = some found →
      deviceWidth id found ≤ maxCollection := by
  unfold device
  cases hfound : g.published.devices.lookup id with
  | none =>
    exact iff_of_true (tellable_error (brief_ofList (by decide))) fun found h => by cases h
  | some found =>
    show (renderDevice id found).length ≤ maxCollection ↔ _
    rw [length_renderDevice]
    refine ⟨fun hwidth found' h => ?_, fun h => h found rfl⟩
    obtain rfl := Option.some.inj h
    exact hwidth

theorem tellable_policy_iff : Tellable ((g.getPolicy defaultPolicyId).map renderPolicy) ↔
    ∀ policy, g.policies.lookup defaultPolicyId = some policy →
      policyWidth policy ≤ maxCollection := by
  unfold Governor.getPolicy
  cases hpolicy : g.policies.lookup defaultPolicyId with
  | none =>
    exact iff_of_true (tellable_error (brief_ofList (by decide))) fun policy h => by cases h
  | some policy =>
    show (renderPolicy policy).length ≤ maxCollection ↔ _
    rw [length_renderPolicy]
    refine ⟨fun hwidth policy' h => ?_, fun h => h policy rfl⟩
    obtain rfl := Option.some.inj h
    exact hwidth

/-! ### The law -/

/-- **A command is an operation of the coordinator**, and it is told exactly when its answer is
short enough. -/
theorem execute_spec (hg : g.Reachable) (request : CommandRequest) :
    (∃ op, (s.execute g request).1 = g.apply op) ∧
      (Tellable (s.execute g request).2 ↔ Answerable g request) := by
  have hmodest := Governor.modestEvaluations_of_reachable hg
  have henvelope : ∀ id envelope, g.queryEnvelope id = .ok envelope →
      (renderEnvelope envelope).length ≤ maxCollection := by
    intro id envelope h
    unfold Governor.queryEnvelope at h
    split at h
    · cases h
    split at h
    · cases h
    · rename_i e he
      rw [← Except.ok.inj h]
      exact length_renderEnvelope_le (hmodest id e he)
  have hstay := operation_stay g
  unfold execute Answerable
  dsimp only
  cases Verb.ofText request.verb with
  | status | snapshotInfo => exact ⟨hstay, iff_of_true (length_renderSummary_le _) trivial⟩
  | epoch => exact ⟨hstay, iff_of_true (fits_of_brief (brief_decimal _)) trivial⟩
  | domains =>
    refine ⟨hstay, ?_⟩
    show (listDomains g).length ≤ maxCollection ↔ _
    rw [length_listDomains]
  | devices =>
    refine ⟨hstay, ?_⟩
    show (listDevices g).length ≤ maxCollection ↔ _
    rw [length_listDevices]
  | actions =>
    refine ⟨hstay, ?_⟩
    show (listActions g).length ≤ maxCollection ↔ _
    rw [length_listActions]
  | history =>
    refine ⟨hstay, ?_⟩
    show (listHistory g).length ≤ maxCollection ↔ _
    rw [length_listHistory]
  | persist =>
    have hserves : Serves g (tell g (s.persistNow g) fun _ => "persisted") :=
      serves_tell g (s.terse_persistNow g) fun _ _ => fits_of_brief (brief_ofList (by decide))
    exact hserves.always
  | shutdown => exact (s.serves_shutdown g).always
  | explain => exact (serves_explain g _).always
  | publish => exact (s.serves_publish g _).always
  | registerDevice => exact (s.serves_registerDevice g _).always
  | registerDomain => exact (s.serves_registerDomain g _).always
  | registerCoupling => exact (s.serves_registerCoupling g _).always
  | setThresholds => exact (s.serves_setThresholds g _).always
  | bumpDomainGeneration => exact (s.serves_bumpDomainGeneration g _).always
  | bumpDeviceGeneration => exact (s.serves_bumpDeviceGeneration g _).always
  | workerDeath => exact (s.serves_workerDeath g _).always
  | authorizeMitigation =>
    exact (s.serves_authorize g (fun domain record rationale =>
      ⟨.authorizeMitigation domain record rationale, rfl⟩) g.terse_authorizeMitigation _).always
  | authorizeDerating =>
    exact (s.serves_authorize g (fun domain record rationale =>
      ⟨.authorizeDerating domain record rationale, rfl⟩) g.terse_authorizeDerating _).always
  | dispatch =>
    exact (serves_onAction (fun id => serves_report (.recordActionDispatch id) rfl
      (g.terse_recordActionDispatch id) fun l _ => fits_of_brief (brief_lifecycle l)) _).always
  | cancel =>
    exact (serves_onAction (fun id => serves_report (.cancelAction id _) rfl
      (g.terse_cancelAction id _) fun r _ => fits_of_brief (brief_cancellation r)) _).always
  | verify => exact (s.serves_verify g _ _).always
  | evaluate =>
    exact (serves_query (fun id => serves_report (.evaluateDomain id) rfl
      (g.terse_evaluateDomain id) fun e he =>
        length_renderEvaluation_le (Governor.modest_of_evaluateDomain he)) _).always
  | domain =>
    exact (serves_query (fun id =>
      serves_tell g (g.terse_queryEnvelope id) (henvelope id)) _).always
  | headroom =>
    exact (serves_query (fun id =>
      serves_tell g (g.terse_queryHeadroom id) fun h _ => length_renderHeadroom_le h) _).always
  | throttle =>
    exact (serves_query (fun id => serves_tell g (g.terse_queryEnvelope id) fun e _ =>
      fits_of_brief (brief_throttle e.throttleClass)) _).always
  | recovery =>
    exact (serves_query (fun id => serves_tell g (g.terse_evaluateRecovery id) fun r _ =>
      length_explanation_le _) _).always
  | temperature => exact (serves_query (serves_temperature g) _).always
  | device =>
    refine ⟨operation_query _, ?_⟩
    rw [tellable_query_iff]
    exact forall₄_congr fun _ id _ _ => tellable_device_iff id
  | policy => exact ⟨hstay, tellable_policy_iff⟩
  | explainAdmission =>
    have hserves : ∀ request, Serves g (report (g.explainAdmission request) Explanation.render) :=
      fun request => serves_report (.evaluateAdmission request) rfl
        (g.terse_explainAdmission request) fun x _ => length_explanation_le x
    exact (serves_onAdmission (length_ofList_le (by decide)) hserves _).always
  | admission =>
    have hserves : ∀ request, Serves g (report (g.evaluateAdmission request) renderAdmission) :=
      fun request => serves_report (.evaluateAdmission request) rfl
        (g.terse_evaluateAdmission request) fun r hr =>
          have hmodest := Governor.modest_of_evaluateAdmission hr
          length_renderAdmission_le hmodest.1 hmodest.2.1 hmodest.2.2
    exact (serves_onAdmission (length_ofList_le (by decide)) hserves _).always
  | unrecognised =>
    refine ⟨hstay, ?_⟩
    show ("unrecognised coordinator verb: " ++ request.verb).length ≤ 65536 ↔ _
    rw [String.length_append, String.length_ofList, Nat.add_comm]
    rfl

/-- **Between the commands of a session the state is reachable.** -/
theorem reachable_session (hg : g.Reachable) (requests : List CommandRequest) :
    (requests.foldl (fun g request => (s.handle g request).1) g).Reachable := by
  induction requests generalizing g with
  | nil => exact hg
  | cons request rest ih =>
    obtain ⟨op, hop⟩ := (s.execute_spec hg request).1
    have hnext : (s.handle g request).1.Reachable := by
      rw [handle, hop]
      exact hg.apply op
    exact ih hnext

theorem responseBounds_handle_iff (hg : g.Reachable) (request : CommandRequest) :
    ResponseBounds {} (s.handle g request).2 ↔ Answerable g request :=
  (responseBounds_tell_iff _).trans (s.execute_spec hg request).2

/-- **When a response comes back**, read off what was written and off its bytes. -/
theorem responses_decode_iff (hg : g.Reachable) (request : CommandRequest) :
    let response := (s.handle g request).2
    (decodeFrom (readResponse {}) malformedResponse
        (put (writeResponse response) (Input.empty : Cursor)) = .ok response ↔
      Answerable g request) ∧
    (FitsAll Reader (writeResponse response : Payload Double) →
      (decodeResponse {} (encodeResponse response) = .ok response ↔ Answerable g request)) := by
  intro response
  have hbounds : ResponseBounds {} response ↔ Answerable g request :=
    s.responseBounds_handle_iff hg request
  exact ⟨decodeFrom_response_iff.trans hbounds,
    fun hfits => (decodeResponse_iff hfits).trans hbounds⟩

/-- A coordinator that is given nothing and whose files are written. -/
def quiet : CoordinatorSession where
  host :=
    { strtod := fun _ => none
      inNumbers := fun _ => {}
      save := fun _ => .ok ()
      save_brief := fun _ _ h => by cases h }

def historyCommand : CommandRequest := { verb := "history" }

/-- The history of one record is told. -/
theorem responses_decode_history :
    Answerable (Deployment.after []) historyCommand ∧
    decodeFrom (readResponse {}) malformedResponse
        (put (writeResponse (quiet.handle (Deployment.after []) historyCommand).2)
          (Input.empty : Cursor)) =
      .ok (quiet.handle (Deployment.after []) historyCommand).2 := by
  have hanswerable : Answerable (Deployment.after []) historyCommand := by
    show ((Deployment.after []).history.map historyWidth).sum ≤ maxCollection
    decide +kernel
  exact ⟨hanswerable, (quiet.responses_decode_iff (Deployment.reachable_after [])
    historyCommand).1.mpr hanswerable⟩

/-- A coordinator started on a file with a history. -/
def startedOn (transitions : List StateTransitionRecord) : Governor :=
  (Governor.create Deployment.config 0).apply
    (.loadDurable (some (.ok
      { formatVersion := 1
        coordinator := 1
        coordinatorEpoch := 1
        policyGeneration := 1
        sequence := transitions.length
        transitions := transitions })))

theorem reachable_startedOn (transitions : List StateTransitionRecord) :
    (startedOn transitions).Reachable :=
  Governor.Reachable.apply ⟨Deployment.config, 0, .refl⟩ _

theorem history_startedOn (transitions : List StateTransitionRecord) :
    (startedOn transitions).history = transitions := rfl

/-- A domain that warms up and cools down again. -/
def swings (n : Nat) : List StateTransitionRecord :=
  (List.range n).map fun k =>
    { domain := 1
      domainGeneration := 1
      source := if k % 2 = 0 then .normal else .warm
      target := if k % 2 = 0 then .warm else .normal
      temperature := if k % 2 = 0 then 80 else 60
      coordinatorEpoch := 1
      sequence := k + 1 }

theorem width_swings {n : Nat} : ∀ r ∈ swings n, 31 ≤ historyWidth r := by
  intro r hr
  obtain ⟨k, -, rfl⟩ := List.mem_map.mp hr
  have hnormal : ThermalState.normal.text.length = 6 := String.length_ofList
  have hwarm : ThermalState.warm.text.length = 4 := String.length_ofList
  unfold historyWidth digits
  dsimp only
  split
  · omega
  · omega

/-- A history of forty thousand records is not told. -/
theorem not_responses_decode : ¬ ∀ (s : CoordinatorSession) (g : Governor)
    (request : CommandRequest), g.Reachable → CommandBounds {} request →
    decodeFrom (readResponse {}) malformedResponse
        (put (writeResponse (s.handle g request).2) (Input.empty : Cursor)) =
      .ok (s.handle g request).2 := by
  intro hclaim
  have hreachable := reachable_startedOn (swings 40000)
  have hbounds : CommandBounds {} historyCommand :=
    ⟨by decide +kernel, Nat.zero_le _, fun argument h => (by cases h), Nat.zero_le _⟩
  have hdecodes := hclaim quiet (startedOn (swings 40000)) historyCommand hreachable hbounds
  have htold : Answerable (startedOn (swings 40000)) historyCommand :=
    (quiet.responseBounds_handle_iff hreachable historyCommand).mp
      (decodeFrom_response_iff.mp hdecodes)
  have hsum : ((startedOn (swings 40000)).history.map historyWidth).sum ≤ maxCollection := htold
  have hwide := le_sum_map (width_swings (n := 40000))
  rw [history_startedOn] at hsum
  have hcount : (swings 40000).length = 40000 := by
    rw [swings, List.length_map, List.length_range]
  rw [hcount] at hwide
  exact absurd (hwide.trans hsum) (by decide)

end CoordinatorSession

end ThermalGovernor
