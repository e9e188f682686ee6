import ThermalGovernor.Server.Commands

/-!
# What a worker is told of its registration

`welcome_tells` : the answer to a registration tells the epoch of the coordinator, and whether
the worker and all of its devices were registered; when it tells an error, the devices before the
one that was refused are registered all the same.
-/

namespace ThermalGovernor

open Lib Steps Protocol Governor

namespace Server

variable {service : Service} {start g g' ended : Governor} {p : Process} {frame : Frame}
  {body : List Frame}

/-! ### Answers to a worker -/

/-- The answer to a registration. -/
def welcomed (status : Status) (epoch : CoordinatorEpoch) : List Frame :=
  [⟨.helloAck, 0, Wire.encodeResponse (welcome status epoch)⟩]

/-- The acknowledgement of a publication. -/
def acknowledged (response : CommandResponse) : Frame :=
  ⟨.publishAck, 0, Wire.encodeResponse response⟩

/-- The answer to a publication. -/
def published (service : Service) : CommandResponse × Option EvaluationSummary → List Frame
  | (response, none) => [acknowledged response]
  | (response, some summary) =>
    [acknowledged response,
      ⟨.evaluateResponse, 0, Wire.encodeEvaluationSummary (service.outNumbers summary)⟩]

theorem acknowledging_eq (service : Service) (answer : CommandResponse × Option EvaluationSummary) :
    acknowledging service.outNumbers answer = group (published service answer) := by
  obtain ⟨response, _ | summary⟩ := answer <;> rfl

/-! ### A worker alone -/

def aRegistration : WorkerRegistration :=
  { worker := 1, boot := 1, label := "worker", devices := [Deployment.device] }

/-- Forty degrees. -/
def aReading : ThermalEvidence Double where
  evidenceId := 1
  subject := .forDevice 1 1
  temperature := ⟨0x4044000000000000⟩
  source := .syntheticModel
  provenance := .synthetic
  measurementSequence := 1
  telemetryGeneration := 1
  worker := 1
  workerBoot := 1
  coordinatorEpoch := 1

theorem decode_aRegistration :
    Wire.decodeWorkerRegistration {} (Wire.encodeWorkerRegistration aRegistration) =
      .ok aRegistration := by
  refine Wire.decodeWith_of_exact (Wire.exact_registration (by decide +kernel))
    ⟨by decide +kernel, by decide, fun device h => ?_⟩
  rw [List.mem_singleton.mp h]
  exact ⟨by decide +kernel, by decide +kernel⟩

theorem decode_aReading :
    Wire.decodeEvidence (Wire.encodeEvidence aReading) = .ok aReading := by
  refine Wire.decodeWith_of_exact (Wire.exact_evidence (by decide +kernel))
    ⟨by decide +kernel, ?_, ?_, ?_⟩ <;> rintro _ ⟨⟩

def helloFrame : Frame := ⟨.hello, 0, Wire.encodeWorkerRegistration aRegistration⟩

def readingFrame : Frame := ⟨.publishEvidence, 0, Wire.encodeEvidence aReading⟩

/-- The small deployment when the worker has been registered. -/
def aEnrolled : Governor := ((serve quietService helloFrame).alone (Deployment.after [])).1

/-- What the worker reads for its record. -/
def aPublished : List Frame :=
  published quietService ((publish quietService.session readingFrame.payload).alone aEnrolled).2

/-- A registration that is alone is answered with what becomes of it. -/
theorem alone_hello {service : Service} {payload : Bytes} {registration : WorkerRegistration}
    (hdecode : Wire.decodeWorkerRegistration {} payload = .ok registration) :
    ((serve service ⟨.hello, 0, payload⟩).alone g).2 =
      group (welcomed ((register registration).alone g).2
        ((register registration).alone g).1.epoch) := by
  show ((responding .helloAck <$> hello service.session payload).alone g).2 = _
  rw [alone_map]
  unfold hello
  rw [hdecode]
  simp only [alone_monad_bind, alone_look, alone_pure]
  rfl

theorem alone_helloFrame :
    ((serve quietService helloFrame).alone (Deployment.after [])).2 =
      group (welcomed (.ok ()) 1) := by
  have hstatus : ((register aRegistration).alone (Deployment.after [])).2 = .ok () := by
    decide +kernel
  have hepoch : ((register aRegistration).alone (Deployment.after [])).1.epoch = 1 := by
    decide +kernel
  rw [helloFrame, alone_hello decode_aRegistration, hstatus, hepoch]

theorem alone_readingFrame :
    ((serve quietService readingFrame).alone aEnrolled).2 = group aPublished := by
  show ((acknowledging quietService.outNumbers <$>
    publish quietService.session readingFrame.payload).alone _).2 = _
  rw [alone_map]
  dsimp only
  rw [acknowledging_eq, aPublished]

/-- The worker alone, with its registration and its record. -/
def aProcess : Process :=
  aloneProcess quietService (Deployment.after []) [helloFrame, readingFrame]

theorem reads_aProcess :
    Process.Runs quietService (.start (Deployment.after [])) aProcess ∧
      Reads aProcess helloFrame (welcomed (.ok ()) 1) ∧ Reads aProcess readingFrame aPublished := by
  have hanswers : (answerAll quietService (Deployment.after []) [helloFrame, readingFrame]).2 =
      [welcomed (.ok ()) 1, aPublished].map fun body => group body := by
    show [((serve quietService helloFrame).alone (Deployment.after [])).2,
      ((serve quietService readingFrame).alone aEnrolled).2] = _
    rw [alone_helloFrame, alone_readingFrame]
    rfl
  have hbodies : ∀ body ∈ [welcomed (.ok ()) 1, aPublished], ∀ frame ∈ body,
      isEnd frame = false := by
    simp only [List.forall_mem_cons]
    refine ⟨fun frame h => ?_, fun frame h => ?_, List.forall_mem_nil _⟩
    · rw [List.mem_singleton.mp h]
      rfl
    · unfold aPublished published at h
      split at h <;> simp only [List.mem_cons, List.not_mem_nil, or_false] at h
      · rw [h]
        rfl
      · rcases h with rfl | rfl <;> rfl
  obtain ⟨hcalm, hreads⟩ := reads_all_alone (by decide) hanswers hbodies
  exact ⟨hcalm.runs, hreads 0 _ _ rfl rfl, hreads 1 _ _ rfl rfl⟩

/-! ### Registrations -/

/-- The devices are registered one after another, and others come between. -/
inductive Registers : Governor → List DeviceRegistration → Governor → Prop
  | nil {g g' : Governor} (h : Served g g') : Registers g [] g'
  | cons {g middle g' : Governor} {device : DeviceRegistration}
      {rest : List DeviceRegistration} (hbefore : Served g middle)
      (hdone : (middle.registerDevice device).2 = .ok ())
      (hrest : Registers (middle.registerDevice device).1 rest g') :
      Registers g (device :: rest) g'

theorem Registers.of_served {devices : List DeviceRegistration} {start : Governor}
    (hserved : Served start g) (h : Registers g devices g') : Registers start devices g' := by
  cases h with
  | nil h => exact .nil (hserved.trans h)
  | cons hbefore hdone hrest => exact .cons (hserved.trans hbefore) hdone hrest

theorem Registers.and_then {devices : List DeviceRegistration} (h : Registers g devices g')
    (hserved : Served g' ended) : Registers g devices ended := by
  induction h with
  | nil h => exact .nil (h.trans hserved)
  | cons hbefore hdone _ ih => exact .cons hbefore hdone (ih hserved)

/-- The first device that is refused, with the error; those before it are registered. -/
def RefusesOne (g : Governor) (devices : List DeviceRegistration) (e : ThermalError)
    (g' : Governor) : Prop :=
  ∃ before device after middle, devices = before ++ device :: after ∧
    Registers g before middle ∧ (middle.registerDevice device).2 = .error e ∧
    Served (middle.registerDevice device).1 g'

/-- **What becomes of the devices of a registration.** -/
theorem outcome_registerDevices {devices : List DeviceRegistration} {status : Status}
    (h : Outcome Served (registerDevices devices) g g' status) :
    status = .ok () ∧ Registers g devices g' ∨
      ∃ e, status = .error e ∧ RefusesOne g devices e g' := by
  induction devices generalizing g with
  | nil =>
    obtain ⟨hmove, rfl⟩ := outcome_done_iff.mp h
    exact .inl ⟨rfl, .nil hmove⟩
  | cons device rest ih =>
    obtain ⟨after, outcome, hfirst, hrest⟩ := outcome_bind_iff.mp h
    obtain ⟨middle, hbefore, hafter, hstatus⟩ := outcome_atomic_iff.mp hfirst
    cases outcome with
    | error e =>
      obtain ⟨hmove, rfl⟩ := outcome_done_iff.mp hrest
      exact .inr ⟨e, rfl, [], device, rest, middle, rfl, .nil hbefore, hstatus,
        hafter.trans hmove⟩
    | ok _ =>
      rcases ih hrest with
        ⟨rfl, hall⟩ | ⟨e, rfl, before, refused, behind, last, rfl, hall, hrefused⟩
      · exact .inl ⟨rfl, .cons hbefore hstatus (hall.of_served hafter)⟩
      · exact .inr ⟨e, rfl, device :: before, refused, behind, last, rfl,
          .cons hbefore hstatus (hall.of_served hafter), hrefused⟩

/-- The worker and all of its devices are registered. -/
def Enrols (g : Governor) (registration : WorkerRegistration) (g' : Governor) : Prop :=
  ∃ middle, Served g middle ∧
    (middle.registerWorker registration.worker registration.boot registration.label).2 = .ok () ∧
    Registers (middle.registerWorker registration.worker registration.boot
      registration.label).1 registration.devices g'

/-- The worker is refused; or the worker is registered, and one of its devices is refused. -/
def Refuses (g : Governor) (registration : WorkerRegistration) (e : ThermalError)
    (g' : Governor) : Prop :=
  ∃ middle, Served g middle ∧
    ((middle.registerWorker registration.worker registration.boot
        registration.label).2 = .error e ∨
      (middle.registerWorker registration.worker registration.boot
        registration.label).2 = .ok () ∧
      RefusesOne (middle.registerWorker registration.worker registration.boot
        registration.label).1 registration.devices e g')

/-- **What becomes of a registration.** -/
theorem outcome_register {registration : WorkerRegistration} {status : Status}
    (h : Outcome Served (register registration) g g' status) :
    status = .ok () ∧ Enrols g registration g' ∨
      ∃ e, status = .error e ∧ Refuses g registration e g' := by
  obtain ⟨after, outcome, hfirst, hrest⟩ := outcome_bind_iff.mp h
  obtain ⟨middle, hbefore, hafter, hstatus⟩ := outcome_atomic_iff.mp hfirst
  cases outcome with
  | error e =>
    obtain ⟨-, rfl⟩ := outcome_done_iff.mp hrest
    exact .inr ⟨e, rfl, middle, hbefore, .inl hstatus⟩
  | ok _ =>
    rcases outcome_registerDevices hrest with ⟨rfl, hall⟩ | ⟨e, rfl, before, refused, behind, last,
        hdevices, hall, hrefused⟩
    · exact .inl ⟨rfl, middle, hbefore, hstatus, hall.of_served hafter⟩
    · exact .inr ⟨e, rfl, middle, hbefore, .inr ⟨hstatus, before, refused, behind, last, hdevices,
        hall.of_served hafter, hrefused⟩⟩

theorem Enrols.between {registration : WorkerRegistration} (h : Enrols g registration g')
    (hbefore : Served start g) (hafter : Served g' ended) :
    Enrols start registration ended := by
  obtain ⟨middle, hmiddle, hdone, hall⟩ := h
  exact ⟨middle, hbefore.trans hmiddle, hdone, hall.and_then hafter⟩

theorem Refuses.between {registration : WorkerRegistration} {e : ThermalError}
    (h : Refuses g registration e g') (hbefore : Served start g) (hafter : Served g' ended) :
    Refuses start registration e ended := by
  obtain ⟨middle, hmiddle, hrefused⟩ := h
  refine ⟨middle, hbefore.trans hmiddle, hrefused.imp_right ?_⟩
  rintro ⟨hdone, before, device, after, last, hdevices, hall, herror, hlast⟩
  exact ⟨hdone, before, device, after, last, hdevices, hall, herror, hlast.trans hafter⟩

/-- **Sessions leave the epoch alone.** -/
theorem epoch_of_served (h : Served g g') : g'.epoch = g.epoch := by
  refine epoch_of_runsUnder (h.mono fun _ op hop => ?_)
  cases op <;> first | rfl | cases hop

/-- **What is told of a registration.** -/
theorem outcome_hello {session : CoordinatorSession} {payload : Bytes}
    {registration : WorkerRegistration} {response : CommandResponse}
    (hdecode : Wire.decodeWorkerRegistration {} payload = .ok registration)
    (h : Outcome Served (hello session payload) g g' response) :
    ∃ status, response = welcome status g.epoch ∧
      (status = .ok () ∧ Enrols g registration g' ∨
        ∃ e, status = .error e ∧ Refuses g registration e g') := by
  unfold hello at h
  rw [hdecode] at h
  obtain ⟨registered, status, hregister, hrest⟩ := outcome_bind_iff.mp h
  obtain ⟨seen, epoch, hlook, hfile⟩ := outcome_bind_iff.mp hrest
  obtain ⟨filed, written, hwrite, htold⟩ := outcome_bind_iff.mp hfile
  obtain ⟨hlast, rfl⟩ := outcome_done_iff.mp htold
  obtain ⟨moment, hmoment, hseen, rfl⟩ := outcome_look_iff.mp hlook
  have hafter : Served registered g' :=
    ((within_look _).rel hlook).trans (((within_look _).rel hwrite).trans hlast)
  have hepoch : moment.epoch = g.epoch :=
    epoch_of_served (((within_register _).rel hregister).trans hmoment)
  refine ⟨status, by rw [hepoch], ?_⟩
  rcases outcome_register hregister with ⟨hok, hall⟩ | ⟨e, herror, hrefused⟩
  · exact .inl ⟨hok, hall.between .refl hafter⟩
  · exact .inr ⟨e, herror, hrefused.between .refl hafter⟩

/-- What a client reads for a registration was told of it. -/
theorem outcome_of_reads_hello (hrun : Process.Runs service (.start start) p)
    (h : Reads p frame body) (hkind : frame.kind = .hello) :
    ∃ begun ended response, Served start begun ∧
      Outcome Served (hello service.session frame.payload) begun ended response ∧
      Served ended p.governor ∧ body = [⟨.helloAck, 0, Wire.encodeResponse response⟩] := by
  obtain ⟨begun, ended, next, hbegun, houtcome, hended⟩ := outcome_of_reads hrun h
  unfold serve at houtcome
  rw [hkind] at houtcome
  obtain ⟨response, hresponse, hgroup⟩ := outcome_map_iff.mp houtcome
  exact ⟨begun, ended, response, hbegun, hresponse, hended, (body_of_group hgroup).symm⟩

end Server

end ThermalGovernor
