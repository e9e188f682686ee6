import ThermalGovernor.Server.Commands

/-!
# What a client reads

`replies_in_turn` : in every run, a client reads one group for each frame that it has sent, in
their order and of the kinds that answer them, and none is left out when the session waits for
the next frame.  A session sends answers only: no client is ever sent an intent to carry out, or
told to stop.
-/

namespace ThermalGovernor

open Lib Steps Protocol Governor

namespace Server

variable {service : Service} {start : Governor} {p : Process} {t : SessionThread}

/-- The kinds of frames that sessions send. -/
def repliedKinds : List MessageKind :=
  [.helloAck, .publishAck, .evaluateResponse, .intentResult, .heartbeat, .queryResponse,
    .errorResponse, .responseEnd]

theorem answerKinds_subset (kind : MessageKind) :
    ∀ kinds ∈ answerKinds kind, kinds ⊆ repliedKinds := by
  cases kind <;> decide

theorem Proper.kinds {kind : MessageKind} {answer : Answer} (h : Proper kind answer) :
    ∀ frame ∈ answer.frames, frame.kind ∈ repliedKinds := by
  cases h with
  | group body next hkinds hnext =>
    intro frame hframe
    rcases List.mem_append.mp hframe with hbody | hend
    · exact answerKinds_subset kind _ hkinds (List.mem_map_of_mem hbody)
    · rw [List.mem_singleton.mp hend]
      decide
  | disconnect hkind => exact fun _ hframe => by cases hframe

/-- **A session sends answers only.** -/
theorem kind_of_sent (hrun : Process.Runs service (.start start) p) (ht : t ∈ p.threads) :
    ∀ frame ∈ t.sent, frame.kind ∈ repliedKinds := by
  intro frame hframe
  have hsound := (sound_of_runs hrun).threads t ht
  obtain ⟨answer, hanswer, hmem⟩ := List.mem_flatMap.mp (hsound.isPrefix.subset hframe)
  obtain ⟨_, _, hanswered⟩ := hsound.exists_answered hanswer
  exact hanswered.proper.kinds frame hmem

/-- Answers that let the session go on are as many groups. -/
theorem length_groups_of_answers {frames : List Frame} {answers : List Answer}
    (hproper : List.Forall₂ (fun frame answer => Proper frame.kind answer) frames answers)
    (hlisten : ∀ answer ∈ answers, answer.next = .listen) :
    (groupsRead (answers.flatMap Answer.frames)).length = frames.length := by
  induction hproper with
  | nil => rfl
  | @cons frame answer frames answers hanswer hrest ih =>
    cases hanswer with
    | group body next hkinds hnext =>
      rw [List.flatMap_cons, group, List.append_assoc, List.singleton_append, groupsRead,
        groups_append_end (isEnd_body hkinds) (by rfl), List.length_cons, List.length_cons,
        ih fun a ha => hlisten a (List.mem_cons_of_mem _ ha)]
    | disconnect hkind => exact absurd (hlisten _ List.mem_cons_self) (by decide)

/-- **A session that waits for a frame has answered every frame before.** -/
theorem length_groupsRead (hrun : Process.Runs service (.start start) p) (ht : t ∈ p.threads)
    (hstage : t.stage = .receiving) (hwritable : t.writable = true) :
    (groupsRead t.sent).length = t.received.length := by
  obtain ⟨hhistory, -, hcomplete⟩ := (sound_of_runs hrun).threads t ht
  obtain ⟨hearlier, hlast⟩ := inTurn_of_runs hrun t ht
  rw [hstage] at hhistory hcomplete hlast
  have hsent : t.sent = t.owed := (List.append_nil _).symm.trans (hcomplete hwritable)
  have hanswers : List.Forall₂ (Answered service start p.governor) t.received t.answers :=
    hhistory
  rw [hsent]
  exact length_groups_of_answers (hanswers.imp fun _ _ h => h.proper)
    (forall_listen hearlier hlast)

end Server

end ThermalGovernor
