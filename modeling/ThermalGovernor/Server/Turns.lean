import ThermalGovernor.Lib.Groups
import ThermalGovernor.Server.History

/-!
# One group for each frame

A session goes on only after an answer that says so, so every answer but the last is a whole
group.  What a client reads of a session, group by group, is therefore in step with what it has
sent frame by frame: the first group answers the first frame, the second the second, whatever the
other sessions do meanwhile (`group_answers`).

A client that ends each request with a terminator sends two frames for one request, and reads one
group for it.
-/

namespace ThermalGovernor

open Lib Steps Protocol Governor

namespace Server

variable {service : Service} {start : Governor} {p p' : Process} {t t' : SessionThread}
  {new : List Frame}

/-! ### Taking turns -/

/-- What the last answer says a session does next, as its stage shows it. -/
def Stage.FollowsUp : Stage → Option Next → Prop
  | .sending _ next, last => last = some next
  | .raising, last => last = some .raise
  | .leaving, _ | .ended, _ => True
  | _, last => ∀ next ∈ last, next = .listen

/-- Every answer but the last lets the session go on. -/
structure SessionThread.InTurn (t : SessionThread) : Prop where
  earlier : ∀ answer ∈ t.answers.dropLast, answer.next = .listen
  last : t.stage.FollowsUp (t.answers.getLast?.map Answer.next)

theorem Stage.followsUp_after {next : Next} {last : Option Next} (h : last = some next) :
    (Stage.after next).FollowsUp last := by
  subst h
  cases next with
  | listen =>
    intro next h
    exact (Option.some.inj h).symm
  | raise => rfl
  | leave => trivial

/-- What a session that is not yet asked to end has answered lets it go on. -/
theorem forall_listen {answers : List Answer}
    (hearlier : ∀ answer ∈ answers.dropLast, answer.next = .listen)
    (hlast : ∀ next ∈ answers.getLast?.map Answer.next, next = .listen) :
    ∀ answer ∈ answers, answer.next = .listen := by
  intro answer hanswer
  rcases List.eq_nil_or_concat answers with rfl | ⟨prior, a, rfl⟩
  · cases hanswer
  · rw [List.concat_eq_append, List.dropLast_concat] at hearlier
    rw [List.concat_eq_append, List.getLast?_concat] at hlast
    rw [List.concat_eq_append, List.mem_append, List.mem_singleton] at hanswer
    rcases hanswer with h | rfl
    · exact hearlier answer h
    · exact hlast _ rfl

theorem inTurn_new : SessionThread.InTurn {} where
  earlier _ h := by cases h
  last _ h := by cases h

theorem SessionThread.InTurn.moved (h : t.InTurn) (hmoved : Moved service p p' t new t') :
    t'.InTurn := by
  obtain ⟨hearlier, hlast⟩ := h
  cases hmoved with
  | stay => exact ⟨hearlier, hlast⟩
  | enter hstage | receive _ _ hstage _ | section_ _ _ hstage _ =>
    rw [hstage] at hlast
    exact ⟨hearlier, hlast⟩
  | letIn hstage | listen hstage =>
    rw [hstage] at hlast
    refine ⟨hearlier, ?_⟩
    dsimp only
    split
    · trivial
    · exact hlast
  | deliver frame => exact ⟨hearlier, hlast⟩
  | receiveFails hstage | raise hstage _ | leave hstage => exact ⟨hearlier, trivial⟩
  | answer answer hstage =>
    rw [hstage] at hlast
    refine ⟨?_, ?_⟩
    · show ∀ a ∈ (t.answers ++ [answer]).dropLast, a.next = .listen
      rw [List.dropLast_concat]
      exact forall_listen hearlier hlast
    · show (t.answers ++ [answer]).getLast?.map Answer.next = some answer.next
      rw [List.getLast?_concat]
      rfl
  | send frame rest next hstage hwritable =>
    rw [hstage] at hlast
    exact ⟨hearlier, hlast⟩
  | sendFails frame rest next hstage =>
    rw [hstage] at hlast
    refine ⟨hearlier, ?_⟩
    dsimp only
    split
    · exact Stage.followsUp_after hlast
    · trivial
  | sent next hstage =>
    rw [hstage] at hlast
    exact ⟨hearlier, Stage.followsUp_after hlast⟩
  | interrupt hmain hregistered => exact ⟨hearlier, hlast⟩

theorem inTurn_of_runs (hrun : Process.Runs service (.start start) p) :
    ∀ t ∈ p.threads, t.InTurn := by
  refine hrun.invariant (I := fun p => ∀ t ∈ p.threads, t.InTurn) (fun t ht => (by cases ht)) ?_
  intro p e h _ t' ht'
  obtain ⟨i, hi⟩ := List.mem_iff_getElem?.mp ht'
  rcases apply_thread hi with ⟨-, rfl⟩ | ⟨t, ht, hmoved⟩
  · exact inTurn_new
  · exact (h t (List.mem_of_getElem? ht)).moved hmoved

/-! ### Groups -/

/-- The frame ends a group. -/
def isEnd (frame : Frame) : Bool := frame.kind = .responseEnd

/-- The groups that a client reads. -/
abbrev groupsRead (frames : List Frame) : List (List Frame) := groups isEnd frames

theorem isEnd_body {kind : MessageKind} {body : List Frame}
    (h : body.map Frame.kind ∈ answerKinds kind) : ∀ frame ∈ body, isEnd frame = false := by
  intro frame hframe
  have hnot := responseEnd_notMem_answerKinds kind _ h
  refine decide_eq_false fun hkind => hnot ?_
  rw [← hkind]
  exact List.mem_map_of_mem hframe

/-- **The groups of some answers are theirs, one for each**, if they are proper and only the last
may end the session. -/
theorem group_of_answers {frames : List Frame} {answers : List Answer}
    (hproper : List.Forall₂ (fun frame answer => Proper frame.kind answer) frames answers)
    (hearlier : ∀ answer ∈ answers.dropLast, answer.next = .listen) {k : Nat} {body : List Frame}
    (hbody : (groupsRead (answers.flatMap Answer.frames))[k]? = some body) :
    ∃ frame next, frames[k]? = some frame ∧ answers[k]? = some (group body next) ∧
      body.map Frame.kind ∈ answerKinds frame.kind := by
  induction hproper generalizing k with
  | nil => cases hbody
  | @cons frame answer frames answers hanswer hrest ih =>
    cases hanswer with
    | group first next hkinds hnext =>
      rw [List.flatMap_cons, group, List.append_assoc, List.singleton_append,
        groupsRead, groups_append_end (isEnd_body hkinds) (by rfl)] at hbody
      cases k with
      | zero =>
        obtain rfl := Option.some.inj hbody
        exact ⟨frame, next, rfl, rfl, hkinds⟩
      | succ k =>
        refine ih (fun a ha => hearlier a ?_) hbody
        cases answers with
        | nil => cases ha
        | cons a' rest => exact List.mem_cons_of_mem _ ha
    | disconnect hkind =>
      -- nothing follows the answer that ends the session
      cases answers with
      | nil => cases hbody
      | cons a' rest => exact absurd (hearlier _ List.mem_cons_self) (by decide)

/-- **The groups that a client reads answer the frames that it has sent, one for one.** -/
theorem group_answers (hrun : Process.Runs service (.start start) p) (ht : t ∈ p.threads)
    {k : Nat} {body : List Frame} (hbody : (groupsRead t.sent)[k]? = some body) :
    ∃ frame next, t.received[k]? = some frame ∧
      Answered service start p.governor frame (group body next) ∧
      body.map Frame.kind ∈ answerKinds frame.kind := by
  have hsound := (sound_of_runs hrun).threads t ht
  have hturn := inTurn_of_runs hrun t ht
  obtain ⟨answered, rest, hreceived, hanswers⟩ := hsound.answered
  have howed : (groupsRead t.owed)[k]? = some body := by
    obtain ⟨more, hmore⟩ : groupsRead t.sent <+: groupsRead t.owed :=
      groups_isPrefix hsound.isPrefix
    rw [← hmore, List.getElem?_append_left (List.getElem?_eq_some_iff.mp hbody).1]
    exact hbody
  obtain ⟨frame, next, hframe, hanswer, hkinds⟩ :=
    group_of_answers (hanswers.imp fun _ _ h => h.proper) hturn.earlier howed
  refine ⟨frame, next, ?_, ?_, hkinds⟩
  · rw [hreceived]
    rw [List.getElem?_append_left (List.getElem?_eq_some_iff.mp hframe).1]
    exact hframe
  · obtain ⟨hlt, hget⟩ := List.getElem?_eq_some_iff.mp hframe
    obtain ⟨hlt', hget'⟩ := List.getElem?_eq_some_iff.mp hanswer
    have hk := (List.forall₂_iff_get.mp hanswers).2 k hlt hlt'
    rw [List.get_eq_getElem, List.get_eq_getElem, hget, hget'] at hk
    exact hk

/-- Some client has sent the frame, and has read this group for it. -/
def Reads (p : Process) (frame : Frame) (body : List Frame) : Prop :=
  ∃ t ∈ p.threads, ∃ k : Nat, t.received[k]? = some frame ∧ (groupsRead t.sent)[k]? = some body

/-- What a client reads for a frame is made up by the program of the frame. -/
theorem outcome_of_reads {frame : Frame} {body : List Frame}
    (hrun : Process.Runs service (.start start) p) (h : Reads p frame body) :
    ∃ begun ended next, Served start begun ∧
      Outcome Served (serve service frame) begun ended (group body next) ∧
      Served ended p.governor := by
  obtain ⟨t, ht, k, hframe, hbody⟩ := h
  obtain ⟨frame', next, hframe', ⟨begun, ended, hbegun, houtcome, hended⟩, -⟩ :=
    group_answers hrun ht hbody
  obtain rfl := Option.some.inj (hframe.symm.trans hframe')
  exact ⟨begun, ended, next, hbegun, houtcome, hended⟩

theorem body_of_group {body body' : List Frame} {next next' : Next}
    (h : group body next = group body' next') : body = body' :=
  List.append_inj_left' (congrArg Answer.frames h) rfl

end Server

end ThermalGovernor
