import ThermalGovernor.Server.Shape

/-!
# The coordinator's process

The process accepts connections in its main thread, and each connection gets a thread of its own.
All of them share the coordinator and the flag `stopping`, and take turns in any order: an
`Event` is a step of one thread, or something that happens to a connection.

The main thread looks at the flag and then waits for a connection, again and again.  When it has
seen the flag, or when accepting fails, it raises the flag, interrupts every session that is in
the registry and waits for all threads to end.  A session enters itself in the registry before it
looks at the flag, and looks at it before every receive.

A frame is sent or received as a whole here.  A connection that has failed to send, or that was
interrupted, takes no more; a session that was interrupted still receives what was delivered.
The frames that a session has received, the answers that it has made and the frames that it has
sent are kept.
-/

namespace ThermalGovernor

open Lib Steps Protocol Governor

namespace Server

/-- Where the thread of a session is. -/
inductive Stage
  /-- Not yet in the registry. -/
  | entering
  /-- In the registry, and about to look at the flag for the first time. -/
  | admitted
  /-- About to look at the flag. -/
  | listening
  | receiving
  | working (program : Program Answer)
  | sending (frames : List Frame) (next : Next)
  /-- About to raise the flag. -/
  | raising
  /-- About to leave the registry. -/
  | leaving
  | ended

/-- The thread of a session, with its connection. -/
structure SessionThread where
  stage : Stage := .entering
  inbox : List Frame := []
  writable : Bool := true
  interrupted : Bool := false
  received : List Frame := []
  answers : List Answer := []
  sent : List Frame := []

/-- Where the main thread is. -/
inductive MainStage
  /-- About to look at the flag. -/
  | accepting
  /-- Waiting for a connection. -/
  | polling
  /-- About to raise the flag. -/
  | raising
  | interrupting
  | joining
  | stopped
  deriving DecidableEq

structure Process where
  governor : Governor
  main : MainStage := .accepting
  stopping : Bool := false
  threads : List SessionThread := []
  /-- Connections that were closed at once. -/
  refused : Nat := 0

/-- What happens to the process. -/
inductive Event
  | tick (now : SteadyTimePoint)
  /-- The main thread takes a step; when it waits for a connection there is none. -/
  | main
  | connect
  | acceptFails
  /-- A frame arrives for a session. -/
  | deliver (index : Nat) (frame : Frame)
  /-- The thread of a session takes a step. -/
  | thread (index : Nat)
  /-- A receive fails: the peer has closed, or what arrives is no frame. -/
  | receiveFails (index : Nat)
  | sendFails (index : Nat)

/-- The frames that an event delivers to a session. -/
def Event.arrivals (i : Nat) : Event → List Frame
  | .deliver index frame => if index = i then [frame] else []
  | _ => []

/-! ### Sessions -/

namespace Stage

/-- The session is in the registry. -/
def registered : Stage → Bool
  | .entering | .ended => false
  | _ => true

def isReceiving : Stage → Bool
  | .receiving => true
  | _ => false

def isEnded : Stage → Bool
  | .ended => true
  | _ => false

theorem isReceiving_iff {stage : Stage} : stage.isReceiving = true ↔ stage = .receiving := by
  cases stage <;> simp [isReceiving]

theorem isEnded_iff {stage : Stage} : stage.isEnded = true ↔ stage = .ended := by
  cases stage <;> simp [isEnded]

/-- Where a session goes on when its answer is sent. -/
def after : Next → Stage
  | .listen => .listening
  | .raise => .raising
  | .leave => .leaving

end Stage

namespace SessionThread

/-- The registry's socket is shut down in both directions. -/
def interrupt (t : SessionThread) : SessionThread :=
  if t.stage.registered then { t with interrupted := true, writable := false } else t

/-- A send fails.  A session that was asked to stop the process does so all the same, and the
failure of the end of a group is not looked at. -/
def failSend (t : SessionThread) : SessionThread :=
  match t.stage with
  | .sending (_ :: rest) next =>
    { t with
      writable := false
      stage := if next = .raise ∨ rest = [] then .after next else .leaving }
  | _ => t

/-- A session that waits for a frame. -/
def receive (service : Service) (t : SessionThread) : SessionThread :=
  match t.inbox with
  | frame :: rest =>
    { t with
      stage := .working (serve service frame)
      inbox := rest
      received := t.received ++ [frame] }
  | [] => if t.interrupted then { t with stage := .leaving } else t

/-- A session that has frames to send. -/
def send (t : SessionThread) (frames : List Frame) (next : Next) : SessionThread :=
  match frames with
  | [] => { t with stage := .after next }
  | frame :: rest =>
    if t.writable then { t with stage := .sending rest next, sent := t.sent ++ [frame] }
    else t.failSend

end SessionThread

/-! ### The process -/

namespace Process

variable (service : Service) (p : Process)

/-- Change the thread of one session. -/
def modify (index : Nat) (f : SessionThread → SessionThread) : Process :=
  { p with threads := p.threads.modify index f }

/-- A connection is accepted, unless there are too many threads. -/
def connect : Process :=
  if p.main = .polling then
    if service.maxConnections ≤ p.threads.length then
      { p with main := .accepting, refused := p.refused + 1 }
    else { p with main := .accepting, threads := p.threads ++ [{}] }
  else p

/-- A step of the main thread. -/
def stepMain : Process :=
  match p.main with
  | .accepting => { p with main := if p.stopping then .raising else .polling }
  | .polling => { p with main := .accepting }
  | .raising => { p with main := .interrupting, stopping := true }
  | .interrupting =>
    { p with main := .joining, threads := p.threads.map SessionThread.interrupt }
  | .joining =>
    if p.threads.all fun t => t.stage.isEnded then { p with main := .stopped } else p
  | .stopped => p

/-- A step of the thread of a session. -/
def stepThread (index : Nat) : Process :=
  match p.threads[index]? with
  | none => p
  | some t =>
    match t.stage with
    | .entering => p.modify index fun t => { t with stage := .admitted }
    | .admitted =>
      p.modify index fun t => { t with stage := if p.stopping then .leaving else .listening }
    | .listening =>
      p.modify index fun t => { t with stage := if p.stopping then .leaving else .receiving }
    | .receiving => p.modify index (·.receive service)
    | .working (.step change rest) =>
      { p.modify index fun t => { t with stage := .working (rest p.governor) } with
        governor := change p.governor }
    | .working (.done answer) =>
      p.modify index fun t =>
        { t with
          stage := .sending answer.frames answer.next
          answers := t.answers ++ [answer] }
    | .sending frames next => p.modify index (·.send frames next)
    | .raising =>
      { p.modify index fun t => { t with stage := .leaving } with stopping := true }
    | .leaving => p.modify index fun t => { t with stage := .ended }
    | .ended => p

/-- What an event makes of the process; nothing when it cannot happen there. -/
def apply : Event → Process
  | .tick now => { p with governor := p.governor.apply (.tick now) }
  | .main => p.stepMain
  | .connect => p.connect service
  | .acceptFails => if p.main = .polling then { p with main := .raising } else p
  | .deliver index frame => p.modify index fun t => { t with inbox := t.inbox ++ [frame] }
  | .thread index => p.stepThread service index
  | .receiveFails index =>
    p.modify index fun t =>
      if t.stage.isReceiving then { t with stage := .leaving } else t
  | .sendFails index => p.modify index SessionThread.failSend

/-- The process that starts with a coordinator. -/
def start (g : Governor) : Process := { governor := g }

/-- The process goes from one state to the other by some events. -/
abbrev Runs (service : Service) : Process → Process → Prop :=
  RunUnder (apply service) fun _ _ => True

/-- A run in which accepting never fails. -/
abbrev Calm (service : Service) : Process → Process → Prop :=
  RunUnder (apply service) fun _ e => e ≠ .acceptFails

theorem Calm.runs {service : Service} {p p' : Process} (h : Calm service p p') :
    Runs service p p' := h.mono fun _ _ _ => trivial

end Process

end Server

end ThermalGovernor
