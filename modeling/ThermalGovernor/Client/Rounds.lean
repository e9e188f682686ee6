import ThermalGovernor.Client.Worker
import ThermalGovernor.Server.Replies

/-!
# What a worker reads, and when

A worker sends two frames for each of its records and reads one group for the two, and the
session answers every frame.  So the group that is read behind record `s` answers the frame at
`s`: the end of a group, when `s` is odd, and record `s / 2`, when it is even.

`worked_of_reaches` : what a worker of the coordinator has sent is a beginning of its stream, and
what it has said is an account of the groups that it has read.
-/

namespace ThermalGovernor

open Lib Talk Did Protocol Server Client

namespace Worker

variable (w : Worker) {epoch : CoordinatorEpoch} {sequence : Nat} {temperature : Double}
  {log : List (Did Frame WorkerLine)}

/-! ### Groups that ask for nothing -/

/-- A group that neither asks the worker to carry out an intent nor to stop. -/
def Tame (group : List Frame) : Prop :=
  ∀ frame ∈ group, frame.kind ≠ .dispatchIntent ∧ frame.kind ≠ .shutdown

/-- What is said of a frame of such a group. -/
def remark (sequence : Nat) (temperature : Double) (frame : Frame) : Option WorkerLine :=
  match frame.kind with
  | .publishAck => some (acknowledgement sequence temperature frame)
  | .evaluateResponse => (Wire.decodeEvaluationSummary {} frame.payload).toOption.map .evaluated
  | _ => none

/-- What is said of such a group behind a record. -/
def remarks (sequence : Nat) (temperature : Double) (group : List Frame) : List WorkerLine :=
  group.filterMap (remark sequence temperature)

theorem tame_of_kinds {kind : MessageKind} {group : List Frame}
    (h : group.map Frame.kind ∈ answerKinds kind) : Tame group := by
  intro frame hframe
  have hkind := answerKinds_subset kind _ h (List.mem_map_of_mem hframe)
  constructor
  · intro heq
    rw [heq] at hkind
    exact absurd hkind (by decide)
  · intro heq
    rw [heq] at hkind
    exact absurd hkind (by decide)

theorem ended_follow {frame : Frame} {out : Bool} (hintent : frame.kind ≠ .dispatchIntent)
    (hshutdown : frame.kind ≠ .shutdown) (h : Ended (follow sequence temperature frame) log out) :
    log = (remark sequence temperature frame).toList.map .said ∧ out = true := by
  unfold follow at h
  unfold remark
  cases hkind : frame.kind with
  | dispatchIntent => exact absurd hkind hintent
  | shutdown => exact absurd hkind hshutdown
  | publishAck =>
    rw [hkind] at h
    obtain ⟨first, last, _, rfl, hfirst, hlast⟩ := ended_bind_iff.mp h
    obtain rfl := ended_tell_iff.mp hfirst
    obtain ⟨rfl, rfl⟩ := ended_pure_iff.mp hlast
    exact ⟨rfl, rfl⟩
  | evaluateResponse =>
    rw [hkind] at h
    dsimp only at h ⊢
    cases hsummary : Wire.decodeEvaluationSummary {} frame.payload with
    | error e =>
      rw [hsummary] at h
      obtain ⟨rfl, rfl⟩ := ended_pure_iff.mp h
      exact ⟨rfl, rfl⟩
    | ok summary =>
      rw [hsummary] at h
      obtain ⟨first, last, _, rfl, hfirst, hlast⟩ := ended_bind_iff.mp h
      obtain rfl := ended_tell_iff.mp hfirst
      obtain ⟨rfl, rfl⟩ := ended_pure_iff.mp hlast
      exact ⟨rfl, rfl⟩
  | _ =>
    rw [hkind] at h
    obtain ⟨rfl, rfl⟩ := ended_pure_iff.mp h
    exact ⟨rfl, rfl⟩

theorem ended_goThrough {group : List Frame} {out : Bool} (htame : Tame group)
    (h : Ended (goThrough sequence temperature group) log out) :
    log = (remarks sequence temperature group).map .said ∧ out = true := by
  induction group generalizing log with
  | nil =>
    obtain ⟨rfl, rfl⟩ := ended_pure_iff.mp h
    exact ⟨rfl, rfl⟩
  | cons frame rest ih =>
    obtain ⟨hintent, hshutdown⟩ := htame frame List.mem_cons_self
    obtain ⟨first, last, ok, rfl, hfirst, hlast⟩ := ended_bind_iff.mp h
    obtain ⟨rfl, rfl⟩ := ended_follow hintent hshutdown hfirst
    obtain ⟨rfl, rfl⟩ := ih (fun other hother => htame other (List.mem_cons_of_mem _ hother)) hlast
    rw [← List.map_append, remarks, remarks, List.filterMap_cons]
    cases remark sequence temperature frame <;> exact ⟨rfl, rfl⟩

/-! ### What is sent -/

/-- The temperatures that a worker publishes, round after round. -/
def observations : List Double := (List.replicate w.options.rounds w.script).flatten

/-- The frames of the records of some temperatures, each with the end of a group behind it. -/
def recordFrames (epoch : CoordinatorEpoch) : List Double → Nat → List Frame
  | [], _ => []
  | temperature :: rest, sequence =>
    w.evidence epoch (sequence + 1) temperature :: responseEnd ::
      recordFrames epoch rest (sequence + 1)

/-- All the frames of a worker. -/
def stream (epoch : CoordinatorEpoch) : List Frame :=
  w.hello :: responseEnd :: w.recordFrames epoch w.observations 0

variable {w} {temperatures : List Double} {out : Option Nat} {frame : Frame} {k : Nat}

theorem publishRound_append (front rest : List Double) (sequence : Nat) :
    w.publishRound epoch (front ++ rest) sequence =
      (w.publishRound epoch front sequence).bind fun
        | none => .done none
        | some sequence => w.publishRound epoch rest sequence := by
  induction front generalizing sequence with
  | nil => rfl
  | cons temperature front ih =>
    show Talk.bind _ _ = Talk.bind (Talk.bind _ _) _
    rw [Talk.bind_assoc]
    refine congrArg (Talk.bind _) (funext fun ok => ?_)
    cases ok with
    | true => exact ih (sequence + 1)
    | false => rfl

/-- The rounds of a script are one round of all its temperatures. -/
theorem publishRounds_eq (rounds sequence : Nat) :
    w.publishRounds epoch rounds sequence =
      w.publishRound epoch (List.replicate rounds w.script).flatten sequence := by
  induction rounds generalizing sequence with
  | zero => rfl
  | succ rounds ih =>
    rw [List.replicate_succ, List.flatten_cons, publishRound_append]
    show Talk.bind _ _ = _
    refine congrArg (Talk.bind _) (funext fun sequence => ?_)
    cases sequence with
    | none => rfl
    | some sequence => exact ih sequence

/-- The frames at odd places are ends of groups, those at even places are records. -/
theorem getElem?_recordFrames (h : (w.recordFrames epoch temperatures sequence)[k]? = some frame) :
    k % 2 = 1 ∧ frame = responseEnd ∨
      k % 2 = 0 ∧ ∃ temperature, temperatures[k / 2]? = some temperature ∧
        frame = w.evidence epoch (sequence + k / 2 + 1) temperature := by
  induction temperatures generalizing sequence k with
  | nil => cases h
  | cons temperature rest ih =>
    match k with
    | 0 => exact .inr ⟨rfl, temperature, rfl, (Option.some.inj h).symm⟩
    | 1 => exact .inl ⟨rfl, (Option.some.inj h).symm⟩
    | k + 2 =>
      have hhalf : (k + 2) / 2 = k / 2 + 1 := by omega
      have hplace : sequence + 1 + k / 2 + 1 = sequence + (k / 2 + 1) + 1 := by omega
      rw [Nat.add_mod_right, hhalf, ← hplace]
      exact ih h

/-! ### What is done -/

/-- A record is published when a group has been read; then it is gone through. -/
theorem ended_publish {out : Bool} (htame : ∀ group ∈ gots log, Tame group)
    (h : Ended (w.publish epoch sequence temperature) log out) :
    ∃ first group, Asked (w.evidence epoch sequence temperature) first group ∧
      match group with
      | none => log = first ∧ out = false
      | some group =>
        log = first ++ (remarks sequence temperature group).map .said ∧ out = true := by
  obtain ⟨first, rest, ok, rfl, hfirst, hrest⟩ := ended_bind_iff.mp h
  rcases ended_sendGroup hfirst with ⟨rfl, rfl⟩ | ⟨rfl, sent, rfl⟩
  · obtain ⟨rfl, rfl⟩ := ended_pure_iff.mp hrest
    exact ⟨_, _, .lost, rfl, rfl⟩
  · obtain ⟨second, last, group, rfl, hsecond, hlast⟩ := ended_bind_iff.mp hrest
    obtain rfl := ended_take_iff.mp hsecond
    cases group with
    | none =>
      obtain ⟨rfl, rfl⟩ := ended_pure_iff.mp hlast
      exact ⟨_, _, .closed sent, rfl, rfl⟩
    | some group =>
      have hgroup : Tame group := htame group (mem_gots.mpr (by simp))
      obtain ⟨rfl, rfl⟩ := ended_goThrough hgroup hlast
      exact ⟨_, _, .got sent group, rfl, rfl⟩

/-- What is said of the groups that are read behind some records. -/
def account : List Double → Nat → List (List Frame) → List WorkerLine
  | temperature :: rest, sequence, group :: groups =>
    remarks (sequence + 1) temperature group ++ account rest (sequence + 1) groups
  | _, _, _ => []

/-- What is done to publish some temperatures, after so many records. -/
structure Published (w : Worker) (epoch : CoordinatorEpoch) (temperatures : List Double)
    (sequence : Nat) (log : List (Did Frame WorkerLine)) (out : Option Nat) : Prop where
  sents : sents log <+: w.recordFrames epoch temperatures sequence
  saids : saids log = account temperatures sequence (gots log)
  all : ∀ n, out = some n →
    n = sequence + temperatures.length ∧ (gots log).length = temperatures.length

theorem published_of_ended (htame : ∀ group ∈ gots log, Tame group) (hintact : Intact log)
    (h : Ended (w.publishRound epoch temperatures sequence) log out) :
    Published w epoch temperatures sequence log out := by
  induction temperatures generalizing log sequence with
  | nil =>
    obtain ⟨rfl, rfl⟩ := ended_pure_iff.mp h
    exact ⟨List.nil_prefix, rfl, fun n hn => ⟨(Option.some.inj hn).symm, rfl⟩⟩
  | cons temperature rest ih =>
    obtain ⟨front, later, ok, rfl, hfront, hlater⟩ := ended_bind_iff.mp h
    rw [gots_append] at htame
    obtain ⟨first, group, hasked, hgroup⟩ :=
      ended_publish (fun group h => htame group (List.mem_append_left _ h)) hfront
    obtain ⟨hgots, hsaids⟩ := hasked.gots_eq
    cases group with
    | none =>
      obtain ⟨rfl, rfl⟩ := hgroup
      obtain ⟨rfl, rfl⟩ := ended_pure_iff.mp hlater
      refine ⟨hasked.sents_isPrefix hintact List.nil_prefix, ?_, fun n hn => by cases hn⟩
      rw [List.append_nil, hsaids, hgots]
      rfl
    | some group =>
      obtain ⟨rfl, rfl⟩ := hgroup
      have hrest : Published w epoch rest (sequence + 1) later out :=
        ih (fun group h => htame group (List.mem_append_right _ h)) hintact.of_append.2 hlater
      have hall : gots (first ++ (remarks (sequence + 1) temperature group).map .said ++ later) =
          group :: gots later := by
        rw [gots_append, gots_append, hgots, gots_said]
        rfl
      refine ⟨?_, ?_, fun n hn => ?_⟩
      · rw [List.append_assoc] at hintact ⊢
        refine hasked.sents_isPrefix hintact ?_
        rw [sents_append, sents_said]
        exact hrest.sents
      · rw [hall, saids_append, saids_append, hsaids, saids_said, hrest.saids]
        rfl
      · obtain ⟨hcount, hlength⟩ := hrest.all n hn
        rw [hall, List.length_cons, List.length_cons]
        omega

/-- What a worker has done. -/
structure Worked (w : Worker) (epoch : CoordinatorEpoch) (log : List (Did Frame WorkerLine))
    (out : Option Nat) : Prop where
  sents : sents log <+: w.stream epoch
  lines : saids log = [] ∨
    ∃ (welcome : List Frame) (groups : List (List Frame)), gots log = welcome :: groups ∧
      readWelcome 1 welcome = some epoch ∧
      saids log = .registered w.options.workerId w.options.boot epoch ::
        account w.observations 0 groups
  all : ∀ n, out = some n → saids log ≠ [] ∧ n = w.observations.length ∧ (gots log).length = n + 1

theorem ended_register {told : Option CoordinatorEpoch} (h : Ended w.register log told) :
    ∃ group, Asked w.hello log group ∧ told = group.bind (readWelcome 1) := by
  obtain ⟨first, rest, ok, rfl, hfirst, hrest⟩ := ended_bind_iff.mp h
  rcases ended_sendGroup hfirst with ⟨rfl, rfl⟩ | ⟨rfl, sent, rfl⟩
  · obtain ⟨rfl, rfl⟩ := ended_pure_iff.mp hrest
    exact ⟨none, .lost, rfl⟩
  · obtain ⟨second, last, group, rfl, hsecond, hlast⟩ := ended_bind_iff.mp hrest
    obtain rfl := ended_take_iff.mp hsecond
    cases group with
    | none =>
      obtain ⟨rfl, rfl⟩ := ended_pure_iff.mp hlast
      exact ⟨none, .closed sent, rfl⟩
    | some group =>
      obtain ⟨rfl, rfl⟩ := ended_pure_iff.mp hlast
      exact ⟨some group, .got sent group, rfl⟩

/-- **What a worker has done when it ends.** -/
theorem worked_of_ended (htame : ∀ group ∈ gots log, Tame group) (hintact : Intact log)
    (h : Ended w.program log out) : ∃ epoch, Worked w epoch log out := by
  obtain ⟨first, rest, told, rfl, hfirst, hrest⟩ := ended_bind_iff.mp h
  obtain ⟨group, hasked, rfl⟩ := ended_register hfirst
  obtain ⟨hgots, hsaids⟩ := hasked.gots_eq
  cases hwelcome : group.bind (readWelcome 1) with
  | none =>
    rw [hwelcome] at hrest
    obtain ⟨rfl, rfl⟩ := ended_pure_iff.mp hrest
    refine ⟨1, hasked.sents_isPrefix hintact List.nil_prefix, .inl ?_, fun n hn => by cases hn⟩
    rw [List.append_nil, hsaids]
  | some epoch =>
    rw [hwelcome] at hrest
    obtain ⟨group, rfl, hread⟩ := Option.bind_eq_some_iff.mp hwelcome
    obtain ⟨second, last, _, rfl, hsecond, hlast⟩ := ended_bind_iff.mp hrest
    obtain rfl := ended_tell_iff.mp hsecond
    rw [publishRounds_eq] at hlast
    have hpublished : Published w epoch w.observations 0 last out :=
      published_of_ended
        (fun group h => htame group (by rw [gots_append]; exact List.mem_append_right _ h))
        hintact.of_append.2.of_append.2 hlast
    have hall : gots (first ++ ([.said (.registered w.options.workerId w.options.boot epoch)] ++
        last)) = group :: gots last := by
      rw [gots_append, gots_append, hgots]
      rfl
    have hlines : saids (first ++ ([.said (.registered w.options.workerId w.options.boot epoch)] ++
        last)) = .registered w.options.workerId w.options.boot epoch ::
          account w.observations 0 (gots last) := by
      rw [saids_append, saids_append, hsaids, hpublished.saids]
      rfl
    refine ⟨epoch, hasked.sents_isPrefix hintact hpublished.sents,
      .inr ⟨group, gots last, hall, hread, hlines⟩, fun n hn => ?_⟩
    obtain ⟨hcount, hlength⟩ := hpublished.all n hn
    rw [hlines, hall, List.length_cons]
    exact ⟨List.cons_ne_nil _ _, by omega⟩

/-! ### A worker and the coordinator -/

variable {service : Service} {start : Governor} {index : Nat}
  {c : Conversation WorkerLine (Option Nat)}

/-- **What a worker of the coordinator has done**, up to the lines that it would still say. -/
theorem worked_of_reaches (h : Conversation.Reaches service start index w.program c) :
    ∃ epoch more out, Worked w epoch (c.log ++ more) out ∧ sents (c.log ++ more) = sents c.log ∧
      gots (c.log ++ more) = gots c.log ∧
      ∀ n, c.talk = .done (some n) → more = [] ∧ out = some n := by
  obtain ⟨more, out, hended, hsents, hgots⟩ := Talk.exists_ended c.talk
  have hsound := Conversation.sound_of_reaches h
  have hmore : gots (c.log ++ more) = gots c.log := by rw [gots_append, hgots, List.append_nil]
  have htame : ∀ group ∈ gots (c.log ++ more), Tame group := by
    rw [hmore]
    intro group hgroup
    obtain ⟨k, hk⟩ := List.mem_iff_getElem?.mp hgroup
    obtain ⟨frame, -, -, hkinds⟩ := Conversation.reads_of_reaches h hk
    exact tame_of_kinds hkinds
  obtain ⟨epoch, hworked⟩ :=
    worked_of_ended htame (hsound.intact.append hsents) (hsound.took.trans hended)
  refine ⟨epoch, more, out, hworked, by rw [sents_append, hsents, List.append_nil], hmore,
    fun n hn => ?_⟩
  rw [hn] at hended
  obtain ⟨hnone, hout⟩ := ended_done_iff.mp hended
  exact ⟨hnone, hout.symm⟩

theorem getElem?_stream (h : (w.stream epoch)[k]? = some frame) :
    k = 0 ∧ frame = w.hello ∨ k % 2 = 1 ∧ frame = responseEnd ∨
      ∃ (j : Nat) (temperature : Double), k = 2 * (j + 1) ∧
        w.observations[j]? = some temperature ∧ frame = w.evidence epoch (j + 1) temperature := by
  match k with
  | 0 => exact .inl ⟨rfl, (Option.some.inj h).symm⟩
  | 1 => exact .inr (.inl ⟨rfl, (Option.some.inj h).symm⟩)
  | k + 2 =>
    rcases getElem?_recordFrames h with ⟨hodd, hend⟩ | ⟨heven, temperature, htemperature, hframe⟩
    · exact .inr (.inl ⟨by omega, hend⟩)
    · rw [Nat.zero_add] at hframe
      exact .inr (.inr ⟨k / 2, temperature, by omega, htemperature, hframe⟩)

/-- The group at a place answers the frame there. -/
theorem reads_of_worked {body : List Frame}
    (h : Conversation.Reaches service start index w.program c)
    (hsents : sents c.log <+: w.stream epoch) (hbody : (gots c.log)[k]? = some body) :
    ∃ frame : Frame, (w.stream epoch)[k]? = some frame ∧ Reads c.process frame body ∧
      body.map Frame.kind ∈ answerKinds frame.kind := by
  obtain ⟨frame, hframe, hreads, hkinds⟩ := Conversation.reads_of_reaches h hbody
  obtain ⟨later, hlater⟩ := hsents
  refine ⟨frame, ?_, hreads, hkinds⟩
  rw [← hlater, List.getElem?_append_left (List.getElem?_eq_some_iff.mp hframe).1]
  exact hframe

theorem mem_account {groups : List (List Frame)} {line : WorkerLine}
    (h : line ∈ account temperatures sequence groups) :
    ∃ (k : Nat) (group : List Frame) (temperature : Double), groups[k]? = some group ∧
      temperatures[k]? = some temperature ∧
      line ∈ remarks (sequence + k + 1) temperature group := by
  induction temperatures generalizing sequence groups with
  | nil => cases h
  | cons temperature rest ih =>
    cases groups with
    | nil => cases h
    | cons group groups =>
      rcases List.mem_append.mp h with h | h
      · exact ⟨0, group, temperature, rfl, rfl, h⟩
      · obtain ⟨k, group', temperature', hgroup', htemperature', hline⟩ := ih h
        refine ⟨k + 1, group', temperature', hgroup', htemperature', ?_⟩
        rw [show sequence + (k + 1) + 1 = sequence + 1 + k + 1 by omega]
        exact hline

/-- Nothing is said of a group of errors. -/
theorem remarks_of_unexpected {group : List Frame}
    (h : group.map Frame.kind = [.errorResponse]) : remarks sequence temperature group = [] := by
  obtain ⟨frame, rfl, hkind⟩ := List.map_eq_singleton_iff.mp h
  unfold remarks remark
  rw [List.filterMap_cons, List.filterMap_nil, hkind]

end Worker

end ThermalGovernor
