import ThermalGovernor.Server.Turns

/-!
# One client alone

With one connection and nobody else, the frames that a client sends are answered one after
another, each by the program of the frame run alone.  These are runs of the process like any
other; the runs that show what the process does are built of them.
-/

namespace ThermalGovernor

open Lib Steps Protocol Governor

namespace Server

/-- The coordinator and the answers after some frames, when nobody comes between. -/
def answerAll (service : Service) : Governor → List Frame → Governor × List Answer
  | g, [] => (g, [])
  | g, frame :: rest =>
    let answered := (serve service frame).alone g
    let others := answerAll service answered.1 rest
    (others.1, answered.2 :: others.2)

/-- A process with one thread. -/
def one (g : Governor) (main : MainStage) (refused : Nat) (t : SessionThread) : Process :=
  { governor := g, main := main, threads := [t], refused := refused }

variable {service : Service} {g : Governor} {main : MainStage} {refused : Nat}

/-- A run of the thread of the one session. -/
abbrev Process.Busy (service : Service) : Process → Process → Prop :=
  RunUnder (Process.apply service) fun _ e => e = .thread 0

theorem Process.Busy.calm {p p' : Process} (h : Process.Busy service p p') :
    Process.Calm service p p' :=
  h.mono fun _ e he hfails => by rw [he] at hfails; cases hfails

theorem calm_step {p p' p'' : Process} {e : Event} (hfails : e ≠ .acceptFails)
    (h : p.apply service e = p') (hrest : Process.Calm service p' p'') :
    Process.Calm service p p'' :=
  RunUnder.trans (h ▸ .tail e .refl hfails) hrest

theorem busy_step {p p' p'' : Process} (h : p.apply service (.thread 0) = p')
    (hrest : Process.Busy service p' p'') : Process.Busy service p p'' :=
  RunUnder.trans (h ▸ .tail (Event.thread 0) .refl rfl) hrest

theorem busy_working (program : Program Answer) (t : SessionThread) :
    Process.Busy service (one g main refused { t with stage := .working program })
      (one (program.alone g).1 main refused
        { t with
          stage := .sending (program.alone g).2.frames (program.alone g).2.next
          answers := t.answers ++ [(program.alone g).2] }) := by
  induction program generalizing g with
  | done answer => exact busy_step rfl .refl
  | step change rest ih => exact busy_step rfl (ih g)

theorem busy_sending (frames : List Frame) (next : Next) (t : SessionThread)
    (hwritable : t.writable = true) :
    Process.Busy service (one g main refused { t with stage := .sending frames next })
      (one g main refused { t with stage := .after next, sent := t.sent ++ frames }) := by
  induction frames generalizing t with
  | nil =>
    rw [List.append_nil]
    exact busy_step rfl .refl
  | cons frame rest ih =>
    have hsend : (one g main refused { t with stage := .sending (frame :: rest) next }).apply
        service (.thread 0) =
        one g main refused { t with stage := .sending rest next, sent := t.sent ++ [frame] } := by
      obtain ⟨stage, inbox, writable, interrupted, received, answers, sent⟩ := t
      obtain rfl := hwritable
      rfl
    have hrest := ih { t with sent := t.sent ++ [frame] } hwritable
    rw [List.append_assoc] at hrest
    exact busy_step hsend hrest

/-- The first of the frames that wait, and its answer. -/
theorem busy_frame (frame : Frame) (waiting : List Frame) (t : SessionThread)
    (hwritable : t.writable = true) :
    Process.Busy service
      (one g main refused { t with stage := .listening, inbox := frame :: waiting })
      (one ((serve service frame).alone g).1 main refused
        { t with
          stage := .after ((serve service frame).alone g).2.next
          inbox := waiting
          received := t.received ++ [frame]
          answers := t.answers ++ [((serve service frame).alone g).2]
          sent := t.sent ++ ((serve service frame).alone g).2.frames }) := by
  have hlisten :
      (one g main refused { t with stage := .listening, inbox := frame :: waiting }).apply
        service (.thread 0) =
      one g main refused { t with stage := .receiving, inbox := frame :: waiting } := rfl
  have hreceive :
      (one g main refused { t with stage := .receiving, inbox := frame :: waiting }).apply
        service (.thread 0) =
      one g main refused
        { t with
          stage := .working (serve service frame)
          inbox := waiting
          received := t.received ++ [frame] } := rfl
  have hworked := @busy_working service g main refused (serve service frame)
    { t with inbox := waiting, received := t.received ++ [frame] }
  have hsent := @busy_sending service ((serve service frame).alone g).1 main refused
    ((serve service frame).alone g).2.frames ((serve service frame).alone g).2.next
    { t with
      inbox := waiting
      received := t.received ++ [frame]
      answers := t.answers ++ [((serve service frame).alone g).2] } hwritable
  exact busy_step hlisten (busy_step hreceive (hworked.trans hsent))

/-- One frame and its answer. -/
theorem calm_frame (frame : Frame) (t : SessionThread) (hwritable : t.writable = true) :
    Process.Calm service (one g main refused { t with stage := .listening, inbox := [] })
      (one ((serve service frame).alone g).1 main refused
        { t with
          stage := .after ((serve service frame).alone g).2.next
          inbox := []
          received := t.received ++ [frame]
          answers := t.answers ++ [((serve service frame).alone g).2]
          sent := t.sent ++ ((serve service frame).alone g).2.frames }) := by
  have hdeliver : (one g main refused { t with stage := .listening, inbox := [] }).apply service
      (.deliver 0 frame) = one g main refused { t with stage := .listening, inbox := [frame] } :=
    rfl
  exact calm_step (by nofun) hdeliver (busy_frame frame [] t hwritable).calm

/-- **A client alone has every frame answered.** -/
theorem calm_frames (frames : List Frame) (t : SessionThread) (hwritable : t.writable = true)
    (hnext : ∀ answer ∈ (answerAll service g frames).2, answer.next = .listen) :
    Process.Calm service (one g main refused { t with stage := .listening, inbox := [] })
      (one (answerAll service g frames).1 main refused
        { t with
          stage := .listening
          inbox := []
          received := t.received ++ frames
          answers := t.answers ++ (answerAll service g frames).2
          sent := t.sent ++ (answerAll service g frames).2.flatMap Answer.frames }) := by
  induction frames generalizing g t with
  | nil =>
    simp only [answerAll, List.append_nil, List.flatMap_nil]
    exact .refl
  | cons frame rest ih =>
    have hfirst := @calm_frame service g main refused frame t hwritable
    rw [hnext _ List.mem_cons_self] at hfirst
    have hrest := ih
      { t with
        received := t.received ++ [frame]
        answers := t.answers ++ [((serve service frame).alone g).2]
        sent := t.sent ++ ((serve service frame).alone g).2.frames } hwritable
      fun answer h => hnext answer (List.mem_cons_of_mem _ h)
    simp only [List.append_assoc, List.singleton_append] at hrest
    exact hfirst.trans hrest

/-- The thread of a client that was alone with these frames. -/
def aloneThread (service : Service) (g : Governor) (frames : List Frame) : SessionThread where
  stage := .listening
  received := frames
  answers := (answerAll service g frames).2
  sent := (answerAll service g frames).2.flatMap Answer.frames

/-- The process of a client that was alone with these frames. -/
def aloneProcess (service : Service) (g : Governor) (frames : List Frame) : Process :=
  one (answerAll service g frames).1 .accepting 0 (aloneThread service g frames)

/-- A client is accepted. -/
theorem calm_connect (hroom : 0 < service.maxConnections) :
    Process.Calm service (.start g) (one g .accepting 0 {}) := by
  have hconnect : ((Process.start g).apply service .main).apply service .connect =
      one g .accepting 0 {} := by
    show Process.connect service { governor := g, main := .polling } = _
    have hnot : ¬ service.maxConnections ≤ ([] : List SessionThread).length :=
      Nat.not_le_of_lt hroom
    unfold Process.connect
    rw [if_pos rfl, if_neg hnot]
    rfl
  exact hconnect ▸
    RunUnder.tail Event.connect (RunUnder.tail Event.main .refl (by nofun)) (by nofun)

/-- Its session waits for a frame. -/
theorem busy_enter :
    Process.Busy service (one g main refused {}) (one g main refused { stage := .listening }) := by
  have henter : (one g main refused {}).apply service (.thread 0) =
      one g main refused { stage := .admitted } := rfl
  have hlisten : (one g main refused { stage := .admitted }).apply service (.thread 0) =
      one g main refused { stage := .listening } := rfl
  exact busy_step henter (busy_step hlisten .refl)

/-- From the start of the process to the last answer. -/
theorem calm_alone (hroom : 0 < service.maxConnections) (frames : List Frame)
    (hnext : ∀ answer ∈ (answerAll service g frames).2, answer.next = .listen) :
    Process.Calm service (.start g) (aloneProcess service g frames) :=
  (calm_connect hroom).trans (busy_enter.calm.trans (calm_frames frames {} rfl hnext))

/-- Groups are read as they were made. -/
theorem groupsRead_groups {bodies : List (List Frame)}
    (hbodies : ∀ body ∈ bodies, ∀ frame ∈ body, isEnd frame = false) :
    groupsRead ((bodies.map fun body => group body).flatMap Answer.frames) = bodies := by
  induction bodies with
  | nil => rfl
  | cons body rest ih =>
    have hrest := ih fun other h => hbodies other (List.mem_cons_of_mem _ h)
    rw [groupsRead] at hrest
    rw [List.map_cons, List.flatMap_cons, group, List.append_assoc, List.singleton_append,
      groupsRead, groups_append_end (hbodies body List.mem_cons_self) (by rfl), hrest]

/-- **A client alone reads the answers to its frames.** -/
theorem reads_all_alone {frames : List Frame} {bodies : List (List Frame)}
    (hroom : 0 < service.maxConnections)
    (hanswers : (answerAll service g frames).2 = bodies.map fun body => group body)
    (hbodies : ∀ body ∈ bodies, ∀ frame ∈ body, isEnd frame = false) :
    Process.Calm service (.start g) (aloneProcess service g frames) ∧
      ∀ (k : Nat) (frame : Frame) (body : List Frame), frames[k]? = some frame →
        bodies[k]? = some body → Reads (aloneProcess service g frames) frame body := by
  refine ⟨calm_alone hroom _ fun answer h => ?_, fun k frame body hframe hbody =>
    ⟨aloneThread service g frames, List.mem_singleton_self _, k, hframe, ?_⟩⟩
  · rw [hanswers] at h
    obtain ⟨body, -, rfl⟩ := List.mem_map.mp h
    rfl
  · show (groupsRead ((answerAll service g frames).2.flatMap Answer.frames))[k]? = _
    rw [hanswers, groupsRead_groups hbodies]
    exact hbody

/-- A client alone reads the answer to its frame. -/
theorem reads_alone {frame : Frame} {body : List Frame} (hroom : 0 < service.maxConnections)
    (hanswer : ((serve service frame).alone g).2 = group body)
    (hbody : ∀ frame ∈ body, isEnd frame = false) :
    Process.Calm service (.start g) (aloneProcess service g [frame]) ∧
      Reads (aloneProcess service g [frame]) frame body := by
  have hanswers : (answerAll service g [frame]).2 = [body].map fun body => group body := by
    show [((serve service frame).alone g).2] = _
    rw [hanswer]
    rfl
  have hreads := reads_all_alone hroom hanswers fun other h => by
    rw [List.mem_singleton.mp h]
    exact hbody
  exact ⟨hreads.1, hreads.2 0 frame body rfl rfl⟩

/-! ### A service -/

def rationalCooling (c : CoolingEvidence Double) : CoolingEvidence where
  zone := c.zone
  airInlet := c.airInlet.map Double.finite
  airOutlet := c.airOutlet.map Double.finite
  liquidInlet := c.liquidInlet.map Double.finite
  liquidOutlet := c.liquidOutlet.map Double.finite
  coolantFlowLitresPerMinute := c.coolantFlowLitresPerMinute.map Double.finite
  provenance := c.provenance

/-- A record with the numbers that its doubles stand for. -/
def rationalEvidence (e : ThermalEvidence Double) : ThermalEvidence :=
  { e with
    temperature := e.temperature.finite
    temperatureLimit := e.temperatureLimit.map Double.finite
    shutdownLimit := e.shutdownLimit.map Double.finite
    cooling := e.cooling.map rationalCooling
    fan := e.fan.map fun fan => { fan with speedPercent := fan.speedPercent.map Double.finite }
    confidence := e.confidence.map Double.finite }

/-- A file that is always written has no errors. -/
theorem brief_of_written (_ : DurableState) (e : ThermalError)
    (h : (.ok () : Status) = .error e) : Brief e.detail := by
  cases h

/-- A coordinator whose file is written, and whose numbers are those of its records. -/
def quietService : Service where
  session :=
    { host :=
        { strtod := fun _ => none
          inNumbers := rationalEvidence
          save := fun _ => .ok ()
          save_brief := brief_of_written }
      statePath := "governor.state" }
  outNumbers s :=
    { domain := s.domain
      domainGeneration := s.domainGeneration
      state := s.state
      temperature := .ofRat s.temperature
      governingLimit := .ofRat s.governingLimit
      effectiveHeadroom := .ofRat s.effectiveHeadroom
      permittedConcurrency := .ofRat s.permittedConcurrency }

end Server

end ThermalGovernor
