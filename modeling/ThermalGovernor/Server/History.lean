import ThermalGovernor.Laws.Epochs
import ThermalGovernor.Server.Moves

/-!
# What sessions have answered

`sound_of_runs` : in every run of the process, whatever the order of its events, the answers of a
session are outcomes of the programs of the frames it has received, one for each and in their
order, and what it has sent is a part of these answers from the front.  The coordinator goes
through operations of sessions only, so its epoch is the one it started with.
-/

namespace ThermalGovernor

open Lib Steps Protocol Governor

namespace Server

variable {service : Service} {start g : Governor} {p p' : Process} {t t' : SessionThread}
  {new : List Frame}

/-- Between `start` and `now` a session can have answered the frame so: the program of the frame,
begun in a state on the way, can have ended with the answer in another. -/
def Answered (service : Service) (start now : Governor) (frame : Frame) (answer : Answer) : Prop :=
  ∃ begun ended, Served start begun ∧ Outcome Served (serve service frame) begun ended answer ∧
    Served ended now

theorem Answered.proper {frame : Frame} {answer : Answer}
    (h : Answered service start g frame answer) : Proper frame.kind answer := by
  obtain ⟨begun, ended, -, houtcome, -⟩ := h
  exact houtcome.ends (ends_serve service frame)

theorem Answered.others {g' : Governor} {frame : Frame} {answer : Answer}
    (h : Answered service start g frame answer) (hmove : Served g g') :
    Answered service start g' frame answer := by
  obtain ⟨begun, ended, hbegun, houtcome, hended⟩ := h
  exact ⟨begun, ended, hbegun, houtcome, hended.trans hmove⟩

/-- The answers of a session, and what it is still at work on. -/
def Stage.History (service : Service) (start g : Governor) :
    Stage → List Frame → List Answer → Prop
  | .working p, received, answers =>
    ∃ prior frame begun, received = prior ++ [frame] ∧
      List.Forall₂ (Answered service start g) prior answers ∧ Served start begun ∧
      p.Within Served ∧ Follows Served (serve service frame) begun p g
  | _, received, answers => List.Forall₂ (Answered service start g) received answers

/-- The frames of the last answer that are not sent yet. -/
def Stage.unsent : Stage → List Frame
  | .sending frames _ => frames
  | _ => []

@[simp] theorem Stage.unsent_after (next : Next) : (Stage.after next).unsent = [] := by
  cases next <;> rfl

/-- The frames that a session has to send for its answers. -/
def SessionThread.owed (t : SessionThread) : List Frame := t.answers.flatMap Answer.frames

structure SessionThread.Sound (service : Service) (start g : Governor) (t : SessionThread) :
    Prop where
  history : t.stage.History service start g t.received t.answers
  isPrefix : t.sent <+: t.owed
  complete : t.writable = true → t.sent ++ t.stage.unsent = t.owed

theorem Stage.history_after {next : Next} {received : List Frame} {answers : List Answer}
    (h : List.Forall₂ (Answered service start g) received answers) :
    (Stage.after next).History service start g received answers := by
  cases next <;> exact h

/-- The others take operations of sessions. -/
theorem Stage.History.others {stage : Stage} {g' : Governor} {received : List Frame}
    {answers : List Answer} (h : stage.History service start g received answers)
    (hmove : Served g g') : stage.History service start g' received answers := by
  have hall : ∀ frames, List.Forall₂ (Answered service start g) frames answers →
      List.Forall₂ (Answered service start g') frames answers :=
    fun _ h => h.imp fun _ _ h => h.others hmove
  cases stage with
  | working p =>
    obtain ⟨prior, frame, begun, hreceived, hprior, hbegun, hwithin, hfollows⟩ := h
    exact ⟨prior, frame, begun, hreceived, hall prior hprior, hbegun, hwithin,
      hfollows.others hmove⟩
  | entering | admitted | listening | receiving | sending | raising | leaving | ended =>
    exact hall received h

/-- The frames that a session has answered are the first that it has received. -/
theorem SessionThread.Sound.answered (h : t.Sound service start g) :
    ∃ answered rest, t.received = answered ++ rest ∧
      List.Forall₂ (Answered service start g) answered t.answers := by
  have hhistory := h.history
  cases hstage : t.stage with
  | working program =>
    rw [hstage] at hhistory
    obtain ⟨prior, frame, -, hreceived, hprior, -⟩ := hhistory
    exact ⟨prior, [frame], hreceived, hprior⟩
  | entering | admitted | listening | receiving | sending | raising | leaving | ended =>
    rw [hstage] at hhistory
    exact ⟨t.received, [], (List.append_nil _).symm, hhistory⟩

/-- Every answer of a session answers a frame that it has received. -/
theorem SessionThread.Sound.exists_answered {answer : Answer} (h : t.Sound service start g)
    (hanswer : answer ∈ t.answers) :
    ∃ frame ∈ t.received, Answered service start g frame answer := by
  obtain ⟨answered, rest, hreceived, hanswers⟩ := h.answered
  obtain ⟨k, hlt, rfl⟩ := List.mem_iff_getElem.mp hanswer
  have hlt' : k < answered.length := hanswers.length_eq.symm ▸ hlt
  refine ⟨answered[k], ?_, (List.forall₂_iff_get.mp hanswers).2 k hlt' hlt⟩
  rw [hreceived]
  exact List.mem_append_left _ (List.getElem_mem hlt')

theorem sound_new : SessionThread.Sound service start g {} where
  history := .nil
  isPrefix := List.prefix_rfl
  complete _ := rfl

/-- **What becomes of a thread keeps it sound.** -/
theorem SessionThread.Sound.moved (hstart : Served start p.governor)
    (hserved : Served p.governor p'.governor) (h : t.Sound service start p.governor)
    (hmoved : Moved service p p' t new t') : t'.Sound service start p'.governor := by
  obtain ⟨hbefore, hprefix, hcomplete⟩ := h
  have hhistory := hbefore.others hserved
  -- where the answers stay and nothing is left to send
  have hquiet : ∀ stage : Stage, t.stage.unsent = [] → stage.unsent = [] →
      t.writable = true → t.sent ++ stage.unsent = t.owed := by
    intro stage hold hnew hwritable
    rw [hnew, ← hold]
    exact hcomplete hwritable
  cases hmoved with
  | stay => exact ⟨hhistory, hprefix, hcomplete⟩
  | enter hstage =>
    rw [hstage] at hhistory
    exact ⟨hhistory, hprefix, hquiet _ (by rw [hstage]; rfl) rfl⟩
  | letIn hstage =>
    rw [hstage] at hhistory
    refine ⟨?_, hprefix, hquiet _ (by rw [hstage]; rfl) ?_⟩ <;> dsimp only <;> split
    · exact hhistory
    · exact hhistory
    · rfl
    · rfl
  | listen hstage =>
    rw [hstage] at hhistory
    refine ⟨?_, hprefix, hquiet _ (by rw [hstage]; rfl) ?_⟩ <;> dsimp only <;> split
    · exact hhistory
    · exact hhistory
    · rfl
    · rfl
  | deliver frame => exact ⟨hhistory, hprefix, hcomplete⟩
  | receive frame rest hstage hinbox =>
    rw [hstage] at hhistory
    refine ⟨⟨t.received, frame, p.governor, rfl, hhistory, hstart, within_serve service frame,
      (follows_self _ _).others hserved⟩, hprefix, hquiet _ (by rw [hstage]; rfl) rfl⟩
  | receiveFails hstage =>
    rw [hstage] at hhistory
    exact ⟨hhistory, hprefix, hquiet _ (by rw [hstage]; rfl) rfl⟩
  | section_ change rest hstage hgovernor =>
    rw [hstage] at hbefore
    obtain ⟨prior, frame, begun, hreceived, hprior, hbegun, hwithin, hfollows⟩ := hbefore
    refine ⟨⟨prior, frame, begun, hreceived, hprior.imp fun _ _ h => h.others hserved, hbegun,
      (hwithin _).2, ?_⟩, hprefix, hquiet _ (by rw [hstage]; rfl) rfl⟩
    rw [hgovernor]
    exact hfollows.section
  | answer answer hstage =>
    rw [hstage] at hhistory
    obtain ⟨prior, frame, begun, hreceived, hprior, hbegun, -, hfollows⟩ := hhistory
    have howed : (t.answers ++ [answer]).flatMap Answer.frames = t.owed ++ answer.frames := by
      rw [List.flatMap_append, List.flatMap_singleton, SessionThread.owed]
    refine ⟨?_, ?_, fun hwritable => ?_⟩
    · show List.Forall₂ (Answered service start p'.governor) t.received (t.answers ++ [answer])
      rw [hreceived]
      exact List.rel_append hprior
        (.cons ⟨begun, _, hbegun, hfollows.outcome, .refl⟩ .nil)
    · show t.sent <+: (t.answers ++ [answer]).flatMap Answer.frames
      rw [howed]
      exact hprefix.trans (List.prefix_append _ _)
    · show t.sent ++ answer.frames = (t.answers ++ [answer]).flatMap Answer.frames
      rw [howed, ← hcomplete hwritable, hstage]
      show _ = t.sent ++ [] ++ _
      rw [List.append_nil]
  | send frame rest next hstage hwritable =>
    rw [hstage] at hhistory
    have hall := hcomplete hwritable
    rw [hstage] at hall
    have hsplit : (t.sent ++ [frame]) ++ rest = t.owed := by
      rw [List.append_assoc]
      exact hall
    exact ⟨hhistory, ⟨rest, hsplit⟩, fun _ => hsplit⟩
  | sendFails frame rest next hstage =>
    rw [hstage] at hhistory
    refine ⟨?_, hprefix, fun h => (by cases h)⟩
    dsimp only
    split
    · exact Stage.history_after hhistory
    · exact hhistory
  | sent next hstage =>
    rw [hstage] at hhistory
    exact ⟨Stage.history_after hhistory, hprefix,
      hquiet _ (by rw [hstage]; rfl) (Stage.unsent_after next)⟩
  | raise hstage hstopping =>
    rw [hstage] at hhistory
    exact ⟨hhistory, hprefix, hquiet _ (by rw [hstage]; rfl) rfl⟩
  | leave hstage =>
    rw [hstage] at hhistory
    exact ⟨hhistory, hprefix, hquiet _ (by rw [hstage]; rfl) rfl⟩
  | interrupt hmain hregistered => exact ⟨hhistory, hprefix, fun h => (by cases h)⟩

/-! ### The process -/

/-- The coordinator has gone through operations of sessions, and every session is sound. -/
structure Process.Sound (service : Service) (start : Governor) (p : Process) : Prop where
  served : Served start p.governor
  threads : ∀ t ∈ p.threads, t.Sound service start p.governor

/-- An event takes the coordinator through operations of sessions. -/
theorem Process.Sound.served_apply (h : p.Sound service start) (e : Event) :
    Served p.governor (p.apply service e).governor := by
  rcases governor_apply service p e with
    hsame | ⟨now, htick⟩ | ⟨t, ht, change, rest, hstage, hchange⟩
  · rw [hsame]
    exact .refl
  · rw [htick]
    exact p.governor.served_apply (.tick now) trivial
  · have hhistory := (h.threads t ht).history
    rw [hstage] at hhistory
    obtain ⟨_, _, _, _, _, _, hwithin, _⟩ := hhistory
    rw [hchange]
    exact (hwithin p.governor).1

theorem Process.Sound.apply (h : p.Sound service start) (e : Event) :
    (p.apply service e).Sound service start := by
  have hserved := h.served_apply e
  refine ⟨h.served.trans hserved, fun t' ht' => ?_⟩
  obtain ⟨i, hi⟩ := List.mem_iff_getElem?.mp ht'
  rcases apply_thread hi with ⟨-, rfl⟩ | ⟨t, ht, hmoved⟩
  · exact sound_new
  · exact (h.threads t (List.mem_of_getElem? ht)).moved h.served hserved hmoved

/-- **In every run of the process the sessions are sound.** -/
theorem sound_of_runs (hrun : Process.Runs service (.start start) p) : p.Sound service start :=
  hrun.invariant ⟨.refl, fun t ht => (by cases ht)⟩ fun _ e h _ => h.apply e

end Server

end ThermalGovernor
