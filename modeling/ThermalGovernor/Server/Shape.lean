import ThermalGovernor.Server.Answer

/-!
# The shape of answers

`answerKinds` lists the kinds of frames that a session answers a frame with, before the end of
the group.  No answer holds a request: a session never sends an intent to a worker, and never
asks one to stop.

`ends_serve` : every answer is a whole group of these kinds, except that `DISCONNECT` is not
answered.  `within_serve` : making up an answer takes operations of sessions only.
-/

namespace ThermalGovernor

open Lib Steps Protocol Governor

namespace Server

/-- The kinds that answer a kind, before the end of the group. -/
def answerKinds : MessageKind → List (List MessageKind)
  | .hello => [[.helloAck]]
  | .publishEvidence => [[.publishAck], [.publishAck, .evaluateResponse]]
  | .intentAck | .intentResult => [[.intentResult]]
  | .heartbeat => [[.heartbeat]]
  | .queryRequest => [[.queryResponse]]
  | .disconnect => []
  | _ => [[.errorResponse]]

theorem responseEnd_notMem_answerKinds :
    ∀ (kind : MessageKind), ∀ kinds ∈ answerKinds kind, MessageKind.responseEnd ∉ kinds := by
  intro kind
  cases kind <;> decide

/-- An answer to a frame of a kind: a group of the kinds that answer it, or the end of the
session. -/
inductive Proper (kind : MessageKind) : Answer → Prop
  | group (body : List Frame) (next : Next) (hkinds : body.map Frame.kind ∈ answerKinds kind)
      (hnext : next = .listen ∨ next = .raise ∧ kind = .queryRequest) :
      Proper kind (group body next)
  | disconnect (hkind : kind = .disconnect) : Proper kind { next := .leave }

/-- A response of one frame. -/
theorem proper_responding {kind answer : MessageKind} (response : CommandResponse)
    (h : [answer] ∈ answerKinds kind) : Proper kind (responding answer response) :=
  .group _ _ h (.inl rfl)

theorem proper_unexpected {kind : MessageKind} (h : answerKinds kind = [[.errorResponse]]) :
    Proper kind unexpected := .group _ _ (h ▸ List.mem_singleton_self _) (.inl rfl)

theorem ends_query (session : CoordinatorSession) (payload : Bytes) :
    (query session payload).Ends (Proper .queryRequest) := by
  unfold query
  split
  · exact proper_responding _ (by decide)
  · refine ends_map _ fun r =>
      .group _ _ (by decide : [MessageKind.queryResponse] ∈ answerKinds .queryRequest) ?_
    split
    · exact .inr ⟨rfl, rfl⟩
    · exact .inl rfl

theorem proper_acknowledging (outNumbers : EvaluationSummary → EvaluationSummary Double)
    (outcome : CommandResponse × Option EvaluationSummary) :
    Proper .publishEvidence (acknowledging outNumbers outcome) := by
  obtain ⟨response, _ | summary⟩ := outcome
  · exact proper_responding response (by decide)
  · exact .group _ _ (by decide : [MessageKind.publishAck, .evaluateResponse] ∈ _) (.inl rfl)

/-- **Every answer is proper.** -/
theorem ends_serve (service : Service) (frame : Frame) :
    (serve service frame).Ends (Proper frame.kind) := by
  unfold serve
  cases frame.kind with
  | hello => exact ends_map _ fun response => proper_responding response (by decide)
  | publishEvidence => exact ends_map _ fun outcome => proper_acknowledging _ outcome
  | intentAck => exact ends_map _ fun response => proper_responding response (by decide)
  | intentResult => exact ends_map _ fun response => proper_responding response (by decide)
  | heartbeat => exact .group _ _ (by decide : [MessageKind.heartbeat] ∈ _) (.inl rfl)
  | queryRequest => exact ends_query _ _
  | disconnect => exact .disconnect rfl
  | invalid | helloAck | registerWorker | registerAck | publishAck | evaluateRequest
  | evaluateResponse | dispatchIntent | snapshotRequest | snapshotResponse | shutdown
  | errorResponse | recoveryAuthorize | verificationReport | queryResponse | responseEnd =>
    exact proper_unexpected rfl

/-! ### Operations -/

theorem within_registerDevices (devices : List DeviceRegistration) :
    (registerDevices devices).Within Served := by
  induction devices with
  | nil => trivial
  | cons device rest ih =>
    refine Within.bind
      (within_atomic fun g => g.served_apply (.registerDevice device) trivial) ?_
    intro status
    cases status with
    | error e => trivial
    | ok _ => exact ih

theorem within_register (registration : WorkerRegistration) :
    (register registration).Within Served := by
  refine Within.bind
    (within_atomic fun g => g.served_apply (.registerWorker _ _ _) trivial) ?_
  intro status
  cases status with
  | error e => trivial
  | ok _ => exact within_registerDevices _

theorem within_hello (session : CoordinatorSession) (payload : Bytes) :
    (hello session payload).Within Served := by
  unfold hello
  split
  · trivial
  · exact (within_register _).bind fun _ => (within_look _).bind fun _ =>
      (within_look _).bind fun _ => trivial

theorem within_worstOf (domains : List ThermalDomainId) (summary : EvaluationSummary) :
    (worstOf domains summary).Within Served := by
  induction domains generalizing summary with
  | nil => trivial
  | cons domain rest ih =>
    refine (CoordinatorSession.within_evaluation domain).bind fun evaluation => ?_
    cases evaluation with
    | error e => exact ih summary
    | ok candidate => exact ih _

theorem within_summaryOf (domains : List ThermalDomainId) :
    (summaryOf domains).Within Served := by
  cases domains with
  | nil => trivial
  | cons front rest =>
    refine (CoordinatorSession.within_evaluation front).bind fun evaluation => ?_
    cases evaluation with
    | error e => trivial
    | ok evaluation => exact (within_worstOf _ _).map

theorem within_publish (session : CoordinatorSession) (payload : Bytes) :
    (publish session payload).Within Served := by
  unfold publish
  split
  · trivial
  · refine (CoordinatorSession.within_publication _).bind fun receipt => ?_
    cases receipt with
    | error e => trivial
    | ok receipt => exact (within_summaryOf _).bind fun _ => trivial

theorem within_intentAck (payload : Bytes) : (intentAck payload).Within Served := by
  unfold intentAck
  split
  · trivial
  · exact Within.map
      (within_atomic fun g => g.served_apply (.recordActionAck _) trivial)

theorem within_intentResult (payload : Bytes) : (intentResult payload).Within Served := by
  unfold intentResult
  split
  · trivial
  · exact Within.map
      (within_atomic fun g => g.served_apply (.recordActionResult _) trivial)

theorem within_query (session : CoordinatorSession) (payload : Bytes) :
    (query session payload).Within Served := by
  unfold query
  split
  · trivial
  · exact (CoordinatorSession.within_program _).map

/-- **Making up an answer takes operations of sessions only.** -/
theorem within_serve (service : Service) (frame : Frame) :
    (serve service frame).Within Served := by
  unfold serve
  split
  · exact (within_hello _ _).map
  · exact (within_publish _ _).map
  · exact (within_intentAck _).map
  · exact (within_intentResult _).map
  · trivial
  · exact within_query _ _
  · trivial
  · trivial

end Server

end ThermalGovernor
