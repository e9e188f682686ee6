import ThermalGovernor.Client.Enrolment

/-!
# When a worker is ready

A worker says that it is ready when it has read a group behind each of its records.  The groups
lag behind, since the session answers the ends of the worker's groups too.

`lines_lag` : what is said of record `2 * k` was told of record `k`.  `ready_after_half` : when
the worker is ready, half of its records have been acknowledged.  `exists_ready` : it can be
ready when the session has received no more than these.
-/

namespace ThermalGovernor

open Lib Talk Did Protocol Governor Server

namespace Worker

variable {w : Worker} {epoch : CoordinatorEpoch} {sequence k : Nat} {temperature : Double}
  {temperatures : List Double} {frame : Frame} {service : Service} {start : Governor} {index : Nat}
  {c : Conversation WorkerLine (Option Nat)}

/-! ### How much is said -/

/-- The line reports what has become of a record. -/
def isReport : WorkerLine → Bool
  | .published _ _ | .rejected _ _ => true
  | _ => false

/-- The acknowledgements of records in a group. -/
def acknowledgements (group : List Frame) : Nat :=
  group.countP fun frame => frame.kind = .publishAck

theorem isReport_acknowledgement (frame : Frame) :
    isReport (acknowledgement sequence temperature frame) = true := by
  unfold acknowledgement
  split
  · rfl
  · split <;> rfl

/-- Every acknowledgement is reported. -/
theorem countP_remarks (group : List Frame) :
    (remarks sequence temperature group).countP isReport = acknowledgements group := by
  rw [remarks, List.countP_filterMap, acknowledgements]
  refine List.countP_congr fun frame _ => ?_
  unfold remark
  cases hkind : frame.kind with
  | publishAck => simp [isReport_acknowledgement]
  | evaluateResponse =>
    cases Wire.decodeEvaluationSummary {} frame.payload <;> simp [Except.toOption, isReport]
  | _ => simp

theorem countP_account {groups : List (List Frame)} (h : groups.length ≤ temperatures.length) :
    (account temperatures sequence groups).countP isReport =
      (groups.map acknowledgements).sum := by
  induction temperatures generalizing sequence groups with
  | nil =>
    obtain rfl := List.length_eq_zero_iff.mp (Nat.le_zero.mp h)
    rfl
  | cons temperature rest ih =>
    cases groups with
    | nil => rfl
    | cons group groups =>
      rw [account, List.countP_append, countP_remarks, ih (Nat.le_of_succ_le_succ h), List.map_cons,
        List.sum_cons]

/-- What is counted at every second place. -/
theorem sum_of_places {α : Type} {f : α → Nat} {list : List α}
    (h : ∀ (k : Nat) (a : α), list[k]? = some a → f a = k % 2) :
    (list.map f).sum = list.length / 2 := by
  induction list using List.reverseRecOn with
  | nil => simp
  | append_singleton list a ih =>
    have hfront := ih fun k b hb =>
      h k b (by rw [List.getElem?_append_left (List.getElem?_eq_some_iff.mp hb).1]; exact hb)
    have hlast := h list.length a List.getElem?_concat_length
    rw [List.map_append, List.sum_append, hfront, List.map_singleton, List.sum_singleton, hlast,
      List.length_append, List.length_singleton]
    omega

/-- The answer to the frame at a place acknowledges a record at every second of them. -/
theorem acknowledgements_of_stream {body : List Frame}
    (hframe : (w.stream epoch)[k + 1]? = some frame)
    (hkinds : body.map Frame.kind ∈ answerKinds frame.kind) : acknowledgements body = k % 2 := by
  have hcount : acknowledgements body = (body.map Frame.kind).countP (· = .publishAck) := by
    rw [List.countP_map]
    rfl
  rw [hcount]
  rcases getElem?_stream hframe with ⟨hzero, -⟩ | ⟨hodd, rfl⟩ | ⟨j, temperature, hk, -, rfl⟩
  · cases hzero
  · rw [List.mem_singleton.mp hkinds, show k % 2 = 0 by omega]
    rfl
  · rw [show k % 2 = 1 by omega]
    rcases List.mem_cons.mp hkinds with hkinds | hkinds
    · rw [hkinds]
      rfl
    · rw [List.mem_singleton.mp hkinds]
      rfl

/-- **The groups that a worker has read when it is ready**: half of those behind its records are
acknowledgements. -/
theorem groups_of_ready (h : Conversation.Reaches service start index w.program c) {n : Nat}
    (hready : c.talk = .done (some n)) :
    ∃ (epoch : CoordinatorEpoch) (welcome : List Frame) (groups : List (List Frame)),
      gots c.log = welcome :: groups ∧ n = w.observations.length ∧ groups.length = n ∧
      acknowledgements welcome = 0 ∧ (groups.map acknowledgements).sum = n / 2 ∧
      saids c.log = .registered w.options.workerId w.options.boot epoch ::
        account w.observations 0 groups := by
  obtain ⟨epoch, more, out, hworked, hsents, hgots, hdone⟩ := worked_of_reaches h
  obtain ⟨rfl, rfl⟩ := hdone n hready
  rw [List.append_nil] at hworked
  obtain ⟨hsaid, hcount, hlength⟩ := hworked.all n rfl
  rcases hworked.lines with hnone | ⟨welcome, groups, hgroups, -, hlines⟩
  · exact absurd hnone hsaid
  have hfirst : (gots c.log)[0]? = some welcome := by rw [hgroups]; rfl
  have hall : groups.length = n := by
    rw [hgroups, List.length_cons] at hlength
    exact Nat.succ.inj hlength
  refine ⟨epoch, welcome, groups, hgroups, hcount, hall, ?_, ?_, hlines⟩
  · obtain ⟨frame, hframe, -, hkinds⟩ := reads_of_worked h hworked.sents hfirst
    obtain rfl : w.hello = frame := Option.some.inj hframe
    obtain ⟨other, rfl, hother⟩ := List.map_eq_singleton_iff.mp (List.mem_singleton.mp hkinds)
    rw [acknowledgements, List.countP_singleton, hother]
    rfl
  · rw [← hall]
    refine sum_of_places fun k body hbody => ?_
    have hread : (gots c.log)[k + 1]? = some body := by rw [hgroups]; exact hbody
    obtain ⟨frame, hframe, -, hkinds⟩ := reads_of_worked h hworked.sents hread
    exact acknowledgements_of_stream hframe hkinds

/-- **A worker that is ready has read an acknowledgement of half of its records**, and has
reported on no more, in every run. -/
theorem ready_after_half (h : Conversation.Reaches service start index w.program c) {n : Nat}
    (hready : c.talk = .done (some n)) :
    n = w.observations.length ∧ ((gots c.log).map acknowledgements).sum = n / 2 ∧
      (saids c.log).countP isReport = n / 2 := by
  obtain ⟨epoch, welcome, groups, hgroups, hcount, hall, hwelcome, hsum, hlines⟩ :=
    groups_of_ready h hready
  refine ⟨hcount, ?_, ?_⟩
  · rw [hgroups, List.map_cons, List.sum_cons, hwelcome, hsum, Nat.zero_add]
  · rw [hlines, List.countP_cons, countP_account (by omega), hsum]
    rfl

/-- The worker with two temperatures is ready with one acknowledgement. -/
theorem ready_after_half_worker :
    ∃ c, Conversation.Reaches quietService (Deployment.after []) 0 quietWorker.program c ∧
      c.talk = .done (some 2) ∧ ((gots c.log).map acknowledgements).sum = 1 ∧
      (saids c.log).countP isReport = 1 := by
  obtain ⟨c, hreaches, hready⟩ := exists_quietWorker
  obtain ⟨-, hread, hsaid⟩ := ready_after_half hreaches hready
  exact ⟨c, hreaches, hready, hread, hsaid⟩

/-- **A worker can be ready when the session has received no more than half of its records**,
whatever the coordinator is, if it welcomes the worker. -/
theorem exists_ready (hroom : 0 < service.maxConnections) {body : List Frame}
    (hanswer : ((serve service w.hello).alone start).2 = group body)
    (hwelcome : readWelcome 1 body = some epoch) :
    ∃ (c : Conversation WorkerLine (Option Nat)) (t : SessionThread),
      Conversation.Reaches service start 0 w.program c ∧
      c.talk = .done (some w.observations.length) ∧ sents c.log = w.stream epoch ∧
      c.process.threads = [t] ∧
      t.received = (w.stream epoch).take (w.observations.length + 1) := by
  obtain ⟨c, t, hreaches, hready, hthreads, hbehind, hcount⟩ := exists_run hroom hanswer hwelcome
  refine ⟨c, t, hreaches, hready, hbehind.sents, hthreads, ?_⟩
  rw [← hbehind.lags.stream, ← hcount, ← hbehind.lags.count, List.take_left]

/-- The worker is ready, and its second record has not been received. -/
theorem exists_ready_worker :
    ∃ (c : Conversation WorkerLine (Option Nat)) (t : SessionThread),
      Conversation.Reaches quietService (Deployment.after []) 0 quietWorker.program c ∧
      c.talk = .done (some 2) ∧ sents c.log = quietWorker.stream 1 ∧ c.process.threads = [t] ∧
      t.received =
        [quietWorker.hello, responseEnd, quietWorker.evidence 1 1 ⟨0x4044000000000000⟩] :=
  exists_ready (by decide) alone_quietWorker (readWelcome_ok 1 1)

/-! ### What is said when -/

/-- **What a worker says of record `2 * j` was told of record `j`**, in every run. -/
theorem lines_lag (h : Conversation.Reaches service start index w.program c) {line : WorkerLine}
    (hline : line ∈ saids c.log) :
    (∃ epoch, line = .registered w.options.workerId w.options.boot epoch) ∨
      ∃ (j : Nat) (epoch : CoordinatorEpoch) (temperature later : Double) (body : List Frame),
        w.observations[j]? = some temperature ∧ w.observations[2 * j + 1]? = some later ∧
          Reads c.process (w.evidence epoch (j + 1) temperature) body ∧
          line ∈ remarks (2 * (j + 1)) later body := by
  obtain ⟨epoch, more, out, hworked, hsents, hgots, -⟩ := worked_of_reaches h
  have hsaid : line ∈ saids (c.log ++ more) := by
    rw [saids_append]
    exact List.mem_append_left _ hline
  rcases hworked.lines with hnone | ⟨welcome, groups, hgroups, -, hlines⟩
  · rw [hnone] at hsaid
    cases hsaid
  · rw [hlines] at hsaid
    rcases List.mem_cons.mp hsaid with hregistered | hsaid
    · exact .inl ⟨epoch, hregistered⟩
    · right
      obtain ⟨k, body, later, hbody, hlater, hremark⟩ := mem_account hsaid
      have hread : (gots c.log)[k + 1]? = some body := by
        rw [← hgots, hgroups]
        exact hbody
      obtain ⟨frame, hframe, hreads, hkinds⟩ := reads_of_worked h (hsents ▸ hworked.sents) hread
      rcases getElem?_stream hframe with
        ⟨hzero, -⟩ | ⟨-, rfl⟩ | ⟨j, temperature, hk, htemperature, rfl⟩
      · cases hzero
      · rw [remarks_of_unexpected (List.mem_singleton.mp hkinds)] at hremark
        cases hremark
      · obtain rfl : k = 2 * j + 1 := by omega
        rw [show 0 + (2 * j + 1) + 1 = 2 * (j + 1) by omega] at hremark
        exact ⟨j, epoch, temperature, later, body, htemperature, hlater, hreads, hremark⟩

/-- A worker that is ready has reported on a record if it had two. -/
theorem exists_report (h : Conversation.Reaches service start index w.program c) {n : Nat}
    (hready : c.talk = .done (some n)) (htwo : 2 ≤ n) :
    ∃ line ∈ saids c.log, isReport line = true := by
  obtain ⟨epoch, welcome, groups, -, hcount, hall, -, hsum, hlines⟩ := groups_of_ready h hready
  have hreports : 0 < (account w.observations 0 groups).countP isReport := by
    rw [countP_account (by omega), hsum]
    omega
  obtain ⟨line, hline, hreport⟩ := List.countP_pos_iff.mp hreports
  exact ⟨line, by rw [hlines]; exact List.mem_cons_of_mem _ hline, hreport⟩

/-- What the worker with two temperatures reports of its second record was told of its first. -/
theorem lines_lag_report :
    ∃ (c : Conversation WorkerLine (Option Nat)) (line : WorkerLine),
      Conversation.Reaches quietService (Deployment.after []) 0 quietWorker.program c ∧
      line ∈ saids c.log ∧ isReport line = true ∧
      ((∃ epoch, line = .registered 1 1 epoch) ∨
        ∃ (j : Nat) (epoch : CoordinatorEpoch) (temperature later : Double) (body : List Frame),
          quietWorker.observations[j]? = some temperature ∧
          quietWorker.observations[2 * j + 1]? = some later ∧
          Reads c.process (quietWorker.evidence epoch (j + 1) temperature) body ∧
          line ∈ remarks (2 * (j + 1)) later body) := by
  obtain ⟨c, hreaches, hready⟩ := exists_quietWorker
  obtain ⟨line, hline, hreport⟩ := exists_report hreaches hready (by decide)
  exact ⟨c, line, hreaches, hline, hreport, lines_lag hreaches hline⟩

end Worker

end ThermalGovernor
