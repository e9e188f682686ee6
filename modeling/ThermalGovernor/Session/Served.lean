import ThermalGovernor.Ledger.Run
import ThermalGovernor.Session.Program

/-!
# What sessions do to the state

A session takes some of the operations of the coordinator and no others: it sets no clock, adds
no capabilities to a device, removes no coupling, hears no heartbeat, publishes temperatures of
the one kind only, gives and takes back no authority to recover, and loads no file.

`within_program` : each section of a command is such an operation, or only reads.
-/

namespace ThermalGovernor

open Lib Format

/-- The operations that sessions take; the clock goes on meanwhile. -/
def Operation.Served : Operation → Prop
  | .tick _ | .registerDevice _ | .registerThermalDomain _ | .updateThermalDomain _
  | .registerCoupling _ | .setPolicy _ | .registerWorker _ _ _ | .noteWorkerDeath _ _
  | .publishTemperature _ | .evaluateDomain _ | .evaluateAdmission _
  | .authorizeMitigation _ _ _ | .authorizeDerating _ _ _ | .recordActionDispatch _
  | .recordActionAck _ | .recordActionResult _ | .verifyCommit _ _ | .cancelAction _ _
  | .shutdown => True
  | .setClock _ | .publishCapabilities _ _ _ | .removeCoupling _ | .workerHeartbeat _ _
  | .publishThrottleEvidence _ | .publishCoolingEvidence _ | .publishNodeTemperature _
  | .publishRackTemperature _ | .evaluateDevice _ | .authorizeRecovery _ | .revokeRecovery _
  | .verifyAction _ _ | .loadDurable _ => False

namespace Governor

/-- The state goes from one to the other by what sessions do. -/
abbrev Served : Governor → Governor → Prop := RunsUnder fun _ op => op.Served

instance : IsPreorder Governor Served where
  refl _ := .refl
  trans _ _ _ h h' := h.trans h'

theorem served_apply (g : Governor) (op : Operation) (hop : op.Served) : Served g (g.apply op) :=
  .tail op .refl hop

end Governor

namespace CoordinatorSession

open Governor Steps

variable {s : CoordinatorSession} {g : Governor}

theorem within_filed {p : Program (Result String)} (h : p.Within Served) :
    (s.filed p).Within Served := by
  refine h.bind fun outcome => ?_
  cases outcome with
  | error e => trivial
  | ok text => exact (within_look _).bind fun _ => trivial

/-- A section that takes one operation of a session. -/
theorem within_locked {α : Type} {operation : Governor → Governor × Result α}
    {text : α → String} (op : Operation) (hop : op.Served)
    (h : ∀ g : Governor, (operation g).1 = g.apply op) : (locked operation text).Within Served :=
  within_atomic fun g => (h g).symm ▸ g.served_apply op hop

/-! ### Commands of one section -/

theorem served_registerDevice (arguments : List String) :
    Served g (s.registerDevice g arguments).1 := by
  unfold registerDevice
  split
  · split
    · dsimp only
      split
      · exact g.served_apply (.registerDevice _) trivial
      · exact .refl
    · exact .refl
  · exact .refl

theorem served_registerCoupling (arguments : List String) :
    Served g (s.registerCoupling g arguments).1 := by
  unfold registerCoupling
  split
  · split
    · exact g.served_apply (.registerCoupling _) trivial
    · exact .refl
  · exact .refl

theorem served_workerDeath (arguments : List String) :
    Served g (s.workerDeath g arguments).1 := by
  unfold workerDeath
  split
  · split
    · exact g.served_apply (.noteWorkerDeath _ _) trivial
    · exact .refl
  · exact .refl

theorem served_authorize
    {operation : ThermalDomainId → MitigationIntentRecord → String → Governor × Result ActionId}
    (h : ∀ domain record rationale, Served g (operation domain record rationale).1)
    (arguments : List String) : Served g (s.authorize g operation arguments).1 := by
  unfold authorize
  split
  · split
    · exact h _ _ _
    · exact .refl
  · exact .refl

theorem served_publish (payload : String) : Served g (s.publish g payload).1 := by
  unfold publish
  split
  · exact .refl
  · split
    · exact .refl
    · exact g.served_apply (.publishTemperature _) trivial

theorem served_onAction {operation : ActionId → Governor × Result String}
    (h : ∀ id, Served g (operation id).1) (arguments : List String) :
    Served g (onAction g operation arguments).1 := by
  unfold onAction
  split
  · split
    · exact .refl
    · exact h _
  · exact .refl

theorem served_query {answer : Nat → Governor × Result String}
    (h : ∀ id, Served g (answer id).1) (arguments : List String) :
    Served g (query g answer arguments).1 := by
  unfold query
  split
  · split
    · exact .refl
    · exact h _
  · exact .refl

/-- A query that leaves the state alone. -/
theorem served_told {answer : Nat → Result String} (arguments : List String) :
    Served g (query g (fun id => (g, answer id)) arguments).1 :=
  served_query (fun _ => (.refl : Served g g)) arguments

theorem served_onAdmission {name : String} {arguments : List String}
    {operation : ThermalAdmissionRequest → Governor × Result String}
    (h : ∀ request, Served g (operation request).1) :
    Served g (onAdmission g name arguments operation).1 := by
  unfold onAdmission
  split
  · exact .refl
  · split
    · exact .refl
    · exact h _

/-! ### Commands of more than one section -/

theorem within_registerDomain (arguments : List String) :
    (s.registerDomainProgram arguments).Within Served := by
  unfold registerDomainProgram
  split
  · trivial
  · exact (within_look _).bind fun policyGeneration =>
      within_filed (within_locked (.registerThermalDomain _) trivial fun _ => rfl)

theorem within_setThresholds (arguments : List String) :
    (s.setThresholdsProgram arguments).Within Served := by
  unfold setThresholdsProgram
  split
  · trivial
  · refine (within_look _).bind fun policy => ?_
    cases policy with
    | error e => trivial
    | ok current => exact within_filed (within_locked (.setPolicy _) trivial fun _ => rfl)

theorem within_bumpDomain (arguments : List String) :
    (s.bumpDomainProgram arguments).Within Served := by
  unfold bumpDomainProgram
  split
  · split
    · trivial
    · refine (within_look _).bind fun requested => ?_
      cases requested with
      | error e => trivial
      | ok definition =>
        exact within_filed (within_locked (.updateThermalDomain _) trivial fun _ => rfl)
  · trivial

theorem within_bumpDevice (arguments : List String) :
    (s.bumpDeviceProgram arguments).Within Served := by
  unfold bumpDeviceProgram
  split
  · split
    · trivial
    · refine (within_look _).bind fun requested => ?_
      cases requested with
      | error e => trivial
      | ok registration =>
        exact within_filed (within_locked (.registerDevice _) trivial fun _ => rfl)
  · trivial

theorem within_publication (e : ThermalEvidence) :
    (atomic fun g : Governor => g.publishTemperature e).Within Served :=
  within_atomic fun g => g.served_apply (.publishTemperature e) trivial

theorem within_verify (payload : String) (arguments : List String) :
    (s.verifyProgram payload arguments).Within Served := by
  unfold verifyProgram
  split
  · split
    · trivial
    · split
      · trivial
      · split
        · trivial
        · refine (within_publication _).bind fun receipt => ?_
          cases receipt with
          | error e => trivial
          | ok receipt =>
            exact within_filed (within_locked (.verifyCommit _ _) trivial fun _ => rfl)
  · trivial

theorem within_shutdown : s.shutdownProgram.Within Served := by
  refine Within.bind (within_atomic fun g => g.served_apply (.shutdown) trivial) ?_
  intro first
  cases first with
  | true => exact (within_look _).bind fun _ => trivial
  | false => trivial

theorem within_evaluation (id : ThermalDomainId) :
    (atomic fun g : Governor => g.evaluateDomain id).Within Served :=
  within_atomic fun g => g.served_apply (.evaluateDomain id) trivial

theorem within_explainDomain (id : ThermalDomainId) : (explainDomain id).Within Served := by
  refine (within_evaluation id).bind fun evaluation => ?_
  cases evaluation with
  | error e => trivial
  | ok evaluation =>
    refine (within_look _).bind fun envelope => ?_
    cases envelope with
    | error e => trivial
    | ok envelope => exact (within_look _).bind fun _ => trivial

theorem within_explain (arguments : List String) :
    (explainProgram arguments).Within Served := by
  unfold explainProgram
  split
  · split
    · trivial
    · exact (within_explainDomain _).map
  · trivial

theorem within_explainAdmissionOf (request : ThermalAdmissionRequest) :
    (explainAdmissionOf request).Within Served := by
  refine Within.bind
    (within_atomic fun g => g.served_apply (.evaluateAdmission request) trivial) ?_
  intro result
  cases result with
  | error e => trivial
  | ok result => exact (within_look _).bind fun _ => trivial

theorem within_explainAdmission (arguments : List String) :
    (explainAdmissionProgram arguments).Within Served := by
  unfold explainAdmissionProgram
  split
  · trivial
  · split
    · trivial
    · exact (within_explainAdmissionOf _).map

/-- A command of one section takes one operation of a session. -/
theorem within_execute {request : CommandRequest}
    (h : ∀ g : Governor, Served g (s.execute g request).1) :
    (atomic fun g => s.execute g request).Within Served := within_atomic h

/-- **Each section of a command is an operation of a session, or only reads.** -/
theorem within_program (request : CommandRequest) : (s.program request).Within Served := by
  unfold program
  dsimp only
  cases hverb : Verb.ofText request.verb
  case registerDomain => exact within_registerDomain _
  case setThresholds => exact within_setThresholds _
  case bumpDomainGeneration => exact within_bumpDomain _
  case bumpDeviceGeneration => exact within_bumpDevice _
  case verify => exact within_verify _ _
  case shutdown => exact within_shutdown
  case explain => exact within_explain _
  case explainAdmission => exact within_explainAdmission _
  -- the file is written after the operation
  case registerDevice =>
    refine within_filed (within_execute fun g => ?_)
    rw [execute, hverb]
    exact served_registerDevice _
  case registerCoupling =>
    refine within_filed (within_execute fun g => ?_)
    rw [execute, hverb]
    exact served_registerCoupling _
  case workerDeath =>
    refine within_filed (within_execute fun g => ?_)
    rw [execute, hverb]
    exact served_workerDeath _
  case authorizeMitigation =>
    refine within_filed (within_execute fun g => ?_)
    rw [execute, hverb]
    exact served_authorize (fun _ _ _ =>
      g.served_apply (.authorizeMitigation _ _ _) trivial) _
  case authorizeDerating =>
    refine within_filed (within_execute fun g => ?_)
    rw [execute, hverb]
    exact served_authorize (fun _ _ _ =>
      g.served_apply (.authorizeDerating _ _ _) trivial) _
  all_goals
    refine within_execute fun g => ?_
    rw [execute, hverb]
  case publish => exact served_publish _
  case dispatch =>
    exact served_onAction (fun id => g.served_apply (.recordActionDispatch id) trivial) _
  case cancel =>
    exact served_onAction (fun id => g.served_apply (.cancelAction id _) trivial) _
  case evaluate =>
    exact served_query (fun id => g.served_apply (.evaluateDomain id) trivial) _
  case admission =>
    exact served_onAdmission fun request =>
      g.served_apply (.evaluateAdmission request) trivial
  case domain | headroom | throttle | recovery | temperature | device =>
    exact served_told _
  all_goals exact .refl

end CoordinatorSession

end ThermalGovernor
