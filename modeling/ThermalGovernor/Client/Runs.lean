import ThermalGovernor.Client.Rounds

/-!
# A session that lags behind its worker

The coordinator need not be any faster than the worker makes it: in the run of `exists_run` the
session answers one frame for every group that the worker reads, and no more.
-/

namespace ThermalGovernor

open Lib Talk Did Protocol Governor Server Client

namespace Server

/-! ### The session -/

/-- The kinds of frames that a worker sends if nothing is asked of it. -/
def workerKinds : List MessageKind := [.hello, .publishEvidence, .responseEnd]

/-- Such a frame is answered by a group, and the session goes on. -/
theorem alone_of_kind {service : Service} {frame : Frame} (hkind : frame.kind ∈ workerKinds)
    (g : Governor) : ∃ body, ((serve service frame).alone g).2 = group body ∧
      body.map Frame.kind ∈ answerKinds frame.kind := by
  have hproper : Proper frame.kind ((serve service frame).alone g).2 :=
    (@Steps.outcome_alone _ _ Served _ (serve service frame) g).ends
      (ends_serve service frame)
  revert hproper
  generalize ((serve service frame).alone g).2 = answer
  intro hproper
  cases hproper with
  | group body next hkinds hnext =>
    rcases hnext with rfl | ⟨-, hquery⟩
    · exact ⟨body, rfl, hkinds⟩
    · rw [hquery] at hkind
      exact absurd hkind (by decide)
  | disconnect hdisconnect =>
    rw [hdisconnect] at hkind
    exact absurd hkind (by decide)

/-- A session has answered the first of the frames that were sent to it, one with each of the
groups, and waits for the next. -/
structure Lags (frames : List Frame) (groups : List (List Frame)) (t : SessionThread) :
    Prop where
  stage : t.stage = .listening
  writable : t.writable = true
  stream : t.received ++ t.inbox = frames
  count : t.received.length = groups.length
  sent : t.sent = (groups.map fun body => group body).flatMap Answer.frames
  bodies : ∀ body ∈ groups, ∀ frame ∈ body, isEnd frame = false
  kinds : ∀ frame ∈ frames, frame.kind ∈ workerKinds

variable {service : Service} {g : Governor} {main : MainStage} {refused : Nat}
  {frames : List Frame} {groups : List (List Frame)} {t : SessionThread} {frame : Frame}

theorem Lags.groupsRead (h : Lags frames groups t) : groupsRead t.sent = groups := by
  rw [h.sent, groupsRead_groups h.bodies]

/-- A frame is delivered. -/
theorem Lags.deliver (h : Lags frames groups t) (hkind : frame.kind ∈ workerKinds) :
    Lags (frames ++ [frame]) groups { t with inbox := t.inbox ++ [frame] } where
  stage := h.stage
  writable := h.writable
  stream := by rw [← h.stream, List.append_assoc]
  count := h.count
  sent := h.sent
  bodies := h.bodies
  kinds other hother := by
    rcases List.mem_append.mp hother with hother | hother
    · exact h.kinds other hother
    · rw [List.mem_singleton.mp hother]
      exact hkind

/-- **The first of the frames that wait is answered.** -/
theorem Lags.answer (h : Lags frames groups t) (hwaits : groups.length < frames.length) :
    ∃ (first : Frame) (body : List Frame) (t' : SessionThread),
      frames[groups.length]? = some first ∧ ((serve service first).alone g).2 = group body ∧
      body.map Frame.kind ∈ answerKinds first.kind ∧
      Process.Busy service (one g main refused t)
        (one ((serve service first).alone g).1 main refused t') ∧
      Lags frames (groups ++ [body]) t' := by
  obtain ⟨stage, inbox, writable, interrupted, received, answers, sent⟩ := t
  obtain ⟨rfl, rfl, rfl, hcount, rfl, hbodies, hkinds⟩ := h
  dsimp only at hcount hkinds hwaits ⊢
  cases inbox with
  | nil =>
    rw [List.append_nil] at hwaits
    omega
  | cons first waiting =>
    obtain ⟨body, hanswer, hbody⟩ :=
      @alone_of_kind service first (hkinds first (by simp)) g
    have hbusy := @busy_frame service g main refused first waiting
      { received := received
        interrupted := interrupted
        answers := answers
        sent := (groups.map fun body => group body).flatMap Answer.frames } rfl
    rw [hanswer] at hbusy
    refine ⟨first, body, _, ?_, hanswer, hbody, hbusy, ?_⟩
    · rw [← hcount, List.getElem?_append_right (le_refl _), Nat.sub_self]
      rfl
    · refine ⟨rfl, rfl, List.append_assoc _ _ _, ?_, ?_, ?_, hkinds⟩
      · show (received ++ [first]).length = (groups ++ [body]).length
        rw [List.length_append, List.length_append, hcount]
        rfl
      · rw [List.map_append, List.flatMap_append, List.map_singleton, List.flatMap_singleton]
      · intro other hother
        rcases List.mem_append.mp hother with hother | hother
        · exact hbodies other hother
        · rw [List.mem_singleton.mp hother]
          exact isEnd_body hbody

end Server

/-! ### The worker -/

namespace Worker

variable {w : Worker} {service : Service} {start g : Governor} {main : MainStage} {refused : Nat}
  {frames : List Frame} {t : SessionThread} {log : List (Did Frame WorkerLine)} {frame : Frame}
  {epoch : CoordinatorEpoch} {temperatures : List Double} {sequence : Nat}

/-- The session lags behind the worker, which has read all of its answers. -/
structure Behind (frames : List Frame) (t : SessionThread) (log : List (Did Frame WorkerLine)) :
    Prop where
  lags : Lags frames (gots log) t
  sents : sents log = frames
  whole : ∀ message, .lost message ∉ log

theorem Behind.say (h : Behind frames t log) (lines : List WorkerLine) :
    Behind frames t (log ++ lines.map .said) := by
  have hgots : gots (log ++ lines.map .said) = gots log := by
    rw [gots_append, gots_said, List.append_nil]
  refine ⟨hgots ▸ h.lags, ?_, fun message hmem => ?_⟩
  · rw [sents_append, sents_said, List.append_nil, h.sents]
  · rcases List.mem_append.mp hmem with hlog | hlines
    · exact h.whole message hlog
    · obtain ⟨_, -, hline⟩ := List.mem_map.mp hlines
      cases hline

/-- A group is sent. -/
theorem Behind.send (h : Behind frames t log) (hkind : frame.kind ∈ workerKinds) :
    ∃ t', Conversation.Run service ⟨one g main refused t, sendGroup frame, log⟩
        ⟨one g main refused t', .done true, log ++ [.sent frame, .sent responseEnd]⟩ ∧
      Behind (frames ++ [frame, responseEnd]) t' (log ++ [.sent frame, .sent responseEnd]) := by
  have hrun := @Conversation.run_sendGroup service _ (one g main refused t) log frame h.whole
  refine ⟨_, hrun, ?_, ?_, ?_⟩
  · have hlags := (h.lags.deliver hkind).deliver (by decide : responseEnd.kind ∈ workerKinds)
    rw [List.append_assoc] at hlags
    rw [gots_append]
    exact (List.append_nil (gots log)).symm ▸ hlags
  · rw [sents_append, h.sents]
    rfl
  · intro message hmem
    rcases List.mem_append.mp hmem with hlog | hsent
    · exact h.whole message hlog
    · rcases List.mem_cons.mp hsent with hsent | hsent
      · cases hsent
      · cases List.mem_singleton.mp hsent

theorem Behind.length_le (h : Behind frames t log) : (gots log).length ≤ frames.length := by
  rw [← h.lags.count, ← h.lags.stream, List.length_append]
  exact Nat.le_add_right _ _

/-- The session answers the first frame that waits, and that is read. -/
theorem Behind.read (h : Behind frames t log) (hwaits : (gots log).length < frames.length) :
    ∃ (first : Frame) (body : List Frame) (t' : SessionThread),
      frames[(gots log).length]? = some first ∧ ((serve service first).alone g).2 = group body ∧
      body.map Frame.kind ∈ answerKinds first.kind ∧
      Conversation.Run service ⟨one g main refused t, Talk.take, log⟩
        ⟨one ((serve service first).alone g).1 main refused t', .done (some body),
          log ++ [.got body]⟩ ∧
      Behind frames t' (log ++ [.got body]) := by
  obtain ⟨first, body, t', hfirst, hanswer, hbody, hbusy, hlags⟩ :=
    @Lags.answer service g main refused _ _ _ h.lags hwaits
  have hgots : gots (log ++ [(.got body : Did Frame WorkerLine)]) = gots log ++ [body] := by
    rw [gots_append]
    rfl
  have hread : (groupsRead t'.sent)[(gots log).length]? = some body := by
    rw [hlags.groupsRead, List.getElem?_append_right (le_refl _), Nat.sub_self]
    rfl
  refine ⟨first, body, t', hfirst, hanswer, hbody,
    (Conversation.run_busy hbusy).trans (Conversation.run_take rfl hread), hgots ▸ hlags, ?_,
    fun message hmem => ?_⟩
  · rw [sents_append, h.sents]
    exact List.append_nil frames
  · rcases List.mem_append.mp hmem with hlog | hgot
    · exact h.whole message hlog
    · cases List.mem_singleton.mp hgot

/-- The group that is read does not stop the worker. -/
theorem took_goThrough {temperature : Double} {group : List Frame} (htame : Tame group) :
    Took (goThrough sequence temperature group)
      ((remarks sequence temperature group).map .said) (.done true) := by
  obtain ⟨log, out, hended, -, -⟩ := Talk.exists_ended (goThrough sequence temperature group)
  obtain ⟨rfl, rfl⟩ := ended_goThrough htame hended
  exact hended

/-- **A record is published while the session lags behind.** -/
theorem Behind.publish (h : Behind frames t log) (temperature : Double) :
    ∃ g' t' log', Conversation.Run service
        ⟨one g main refused t, w.publish epoch sequence temperature, log⟩
        ⟨one g' main refused t', .done true, log'⟩ ∧
      Behind (frames ++ [w.evidence epoch sequence temperature, responseEnd]) t' log' ∧
      (gots log').length = (gots log).length + 1 := by
  obtain ⟨t₁, hsend, hsent⟩ :=
    @Behind.send service g main refused _ _ _ (w.evidence epoch sequence temperature) h
      (by decide : MessageKind.publishEvidence ∈ workerKinds)
  have hgots : gots (log ++ [.sent (w.evidence epoch sequence temperature), .sent responseEnd]) =
      gots log := by
    rw [gots_append]
    exact List.append_nil _
  have hwaits : (gots log).length <
      (frames ++ [w.evidence epoch sequence temperature, responseEnd]).length := by
    have hle := h.length_le
    rw [List.length_append, List.length_cons]
    omega
  obtain ⟨first, body, t₂, -, -, hbody, hread, hbehind⟩ :=
    @Behind.read service g main refused _ _ _ hsent (hgots.symm ▸ hwaits)
  have hsaid := @Conversation.run_said service _ _
    (one ((serve service first).alone g).1 main refused t₂) _ _
    (log ++ [.sent (w.evidence epoch sequence temperature), .sent responseEnd] ++ [.got body]) _
    (@took_goThrough sequence temperature _ (tame_of_kinds hbody))
  refine ⟨_, t₂, _, (hsend.bind _).trans ((hread.bind _).trans hsaid), hbehind.say _, ?_⟩
  rw [gots_append, gots_said, List.append_nil, gots_append, hgots, List.length_append]
  rfl

theorem Behind.publishRound (h : Behind frames t log) :
    ∃ g' t' log', Conversation.Run service
        ⟨one g main refused t, w.publishRound epoch temperatures sequence, log⟩
        ⟨one g' main refused t', .done (some (sequence + temperatures.length)), log'⟩ ∧
      Behind (frames ++ w.recordFrames epoch temperatures sequence) t' log' ∧
      (gots log').length = (gots log).length + temperatures.length := by
  induction temperatures generalizing g t log frames sequence with
  | nil => exact ⟨g, t, log, .refl, (List.append_nil frames).symm ▸ h, rfl⟩
  | cons temperature rest ih =>
    obtain ⟨g₁, t₁, log₁, hpublish, hbehind, hcount⟩ :=
      @Behind.publish w service g main refused _ _ _ epoch (sequence + 1) h temperature
    obtain ⟨g₂, t₂, log₂, hround, hlast, hcount'⟩ := @ih g₁ _ _ _ (sequence + 1) hbehind
    rw [show sequence + 1 + rest.length = sequence + (temperature :: rest).length by
      rw [List.length_cons]; omega] at hround
    rw [List.append_assoc] at hlast
    refine ⟨g₂, t₂, log₂, (hpublish.bind _).trans hround, hlast, ?_⟩
    rw [hcount', hcount, List.length_cons]
    omega

/-- A worker is registered. -/
theorem exists_registered {body : List Frame}
    (hanswer : ((serve service w.hello).alone g).2 = group body)
    (hwelcome : readWelcome 1 body = some epoch) :
    ∃ g' t log, Conversation.Run service
        ⟨one g main refused { stage := .listening }, w.register, []⟩
        ⟨one g' main refused t, .done (some epoch), log⟩ ∧
      Behind [w.hello, responseEnd] t log ∧ (gots log).length = 1 := by
  have hbegin : Behind [] { stage := .listening } [] :=
    ⟨⟨rfl, rfl, rfl, rfl, rfl, (fun _ h => by cases h), (fun _ h => by cases h)⟩, rfl,
      fun _ h => by cases h⟩
  obtain ⟨t₁, hsend, hsent⟩ := @Behind.send service g main refused _ _ _ w.hello hbegin
    (by decide : MessageKind.hello ∈ workerKinds)
  obtain ⟨first, body', t₂, hfirst, hanswer', -, hread, hbehind⟩ :=
    @Behind.read service g main refused _ _ _ hsent (by decide : 0 < 2)
  obtain rfl : w.hello = first := Option.some.inj hfirst
  obtain rfl := body_of_group (hanswer.symm.trans hanswer')
  rw [← hwelcome]
  exact ⟨_, t₂, _, (hsend.bind _).trans (hread.bind _), hbehind, rfl⟩

/-- **The session can lag behind until the worker is ready.** -/
theorem exists_run (hroom : 0 < service.maxConnections) {body : List Frame}
    (hanswer : ((serve service w.hello).alone start).2 = group body)
    (hwelcome : readWelcome 1 body = some epoch) :
    ∃ (c : Conversation WorkerLine (Option Nat)) (t : SessionThread),
      Conversation.Reaches service start 0 w.program c ∧
      c.talk = .done (some w.observations.length) ∧ c.process.threads = [t] ∧
      Behind (w.stream epoch) t c.log ∧ (gots c.log).length = w.observations.length + 1 := by
  obtain ⟨g₁, t₁, log₁, hregister, hbehind, hone⟩ :=
    @exists_registered w service start .accepting 0 epoch body hanswer hwelcome
  have htell := @Conversation.run_said service _ _ (one g₁ .accepting 0 t₁) _ _ log₁
    [.registered w.options.workerId w.options.boot epoch] (Took.said (.nothing (.done ())))
  obtain ⟨g₂, t₂, log₂, hround, hlast, hcount⟩ :=
    @Behind.publishRound w service g₁ .accepting 0 _ _ _ epoch w.observations 0
      (hbehind.say [.registered w.options.workerId w.options.boot epoch])
  rw [Nat.zero_add, observations, ← publishRounds_eq, ← observations] at hround
  rw [gots_append, gots_said, List.append_nil, hone] at hcount
  exact ⟨_, t₂, ⟨⟨one start .accepting 0 {}, w.program, []⟩,
    ⟨(calm_connect hroom).runs, rfl, rfl, rfl⟩,
    (Conversation.run_busy busy_enter).trans ((hregister.bind _).trans
      ((htell.bind _).trans hround))⟩, rfl, rfl, hlast, hcount.trans (Nat.add_comm 1 _)⟩

end Worker

end ThermalGovernor
