import ThermalGovernor.Lib.Pool
import ThermalGovernor.Server.Shutdown

/-!
# The process comes to rest

When the process is to stop, its threads only go on: a session that looks at the flag leaves, and
the main thread never goes back to its loop.  So whatever the clients send, after some time no
thread moves any more (`comes_to_rest`).

`shutdown_completes` : if the main thread and every session that is not waiting for its client
are given their turns, the process ends with all of its sessions.  A session that does wait is
interrupted.
-/

namespace ThermalGovernor

open Lib Steps Protocol Governor

namespace Server

variable {service : Service} {start : Governor} {p p' : Process} {t t' : SessionThread}
  {new : List Frame} {e : Event}

/-! ### What is left to do -/

/-- Where a session that leaves at the flag can go on to. -/
inductive Stage.Later : Stage → Stage → Prop
  | enter : Later .admitted .entering
  | letIn : Later .leaving .admitted
  | listen : Later .leaving .listening
  | receive (program : Program Answer) : Later (.working program) .receiving
  | receiveFails : Later .leaving .receiving
  | section_ {program rest : Program Answer} (h : Left rest program) :
      Later (.working rest) (.working program)
  | answer (answer : Answer) :
      Later (.sending answer.frames answer.next) (.working (.done answer))
  | send (frame : Frame) (rest : List Frame) (next : Next) :
      Later (.sending rest next) (.sending (frame :: rest) next)
  | sent (frames : List Frame) (next : Next) : Later (.after next) (.sending frames next)
  | sendFails (frames : List Frame) (next : Next) : Later .leaving (.sending frames next)
  | raise : Later .leaving .raising
  | leave : Later .ended .leaving

theorem acc_leaving : Acc Stage.Later .leaving := by
  refine ⟨_, fun stage h => ?_⟩
  cases h with
  | leave => exact ⟨_, fun _ h => by cases h⟩

theorem acc_after (next : Next) : Acc Stage.Later (.after next) := by
  refine ⟨_, fun stage h => ?_⟩
  cases next with
  | listen =>
    cases h with
    | listen => exact acc_leaving
  | raise =>
    cases h with
    | raise => exact acc_leaving
  | leave =>
    cases h with
    | leave => exact ⟨_, fun _ h => by cases h⟩

theorem acc_sending (frames : List Frame) (next : Next) :
    Acc Stage.Later (.sending frames next) := by
  induction frames with
  | nil =>
    refine ⟨_, fun stage h => ?_⟩
    cases h with
    | sent => exact acc_after next
    | sendFails => exact acc_leaving
  | cons frame rest ih =>
    refine ⟨_, fun stage h => ?_⟩
    cases h with
    | send => exact ih
    | sent => exact acc_after next
    | sendFails => exact acc_leaving

theorem acc_working (program : Program Answer) : Acc Stage.Later (.working program) := by
  induction program using wellFounded_left.induction with
  | _ program ih =>
    refine ⟨_, fun stage h => ?_⟩
    cases h with
    | section_ hleft => exact ih _ hleft
    | answer answer => exact acc_sending _ _

/-- **A session cannot go on for ever.** -/
theorem wellFounded_later : WellFounded Stage.Later := by
  have hadmitted : Acc Stage.Later .admitted := by
    refine ⟨_, fun stage h => ?_⟩
    cases h with
    | letIn => exact acc_leaving
  refine ⟨fun stage => ?_⟩
  cases stage with
  | entering =>
    refine ⟨_, fun stage h => ?_⟩
    cases h with
    | enter => exact hadmitted
  | admitted => exact hadmitted
  | listening => exact acc_after .listen
  | receiving =>
    refine ⟨_, fun stage h => ?_⟩
    cases h with
    | receive program => exact acc_working program
    | receiveFails => exact acc_leaving
  | working program => exact acc_working program
  | sending frames next => exact acc_sending frames next
  | raising => exact acc_after .raise
  | leaving => exact acc_leaving
  | ended => exact ⟨_, fun _ h => by cases h⟩

/-- **When the process is to stop, sessions only go on.** -/
theorem Moved.later (h : Moved service p p' t new t') (hstopping : p.stopping = true) :
    t'.stage = t.stage ∨ t'.stage.Later t.stage := by
  cases h with
  | stay | deliver | interrupt => exact .inl rfl
  | enter hstage =>
    rw [hstage]
    exact .inr .enter
  | letIn hstage =>
    rw [hstage, hstopping]
    exact .inr .letIn
  | listen hstage =>
    rw [hstage, hstopping]
    exact .inr .listen
  | receive frame rest hstage hinbox =>
    rw [hstage]
    exact .inr (.receive _)
  | receiveFails hstage =>
    rw [hstage]
    exact .inr .receiveFails
  | section_ change rest hstage hgovernor =>
    rw [hstage]
    exact .inr (.section_ (.intro change rest _))
  | answer answer hstage =>
    rw [hstage]
    exact .inr (.answer answer)
  | send frame rest next hstage hwritable =>
    rw [hstage]
    exact .inr (.send frame rest next)
  | sendFails frame rest next hstage =>
    rw [hstage]
    refine .inr ?_
    dsimp only
    split
    · exact .sent _ next
    · exact .sendFails _ next
  | sent next hstage =>
    rw [hstage]
    exact .inr (.sent [] next)
  | raise hstage hstopping' =>
    rw [hstage]
    exact .inr .raise
  | leave hstage =>
    rw [hstage]
    exact .inr .leave

/-! ### The schedule -/

/-- The steps that the main thread has before it, when the process is to stop. -/
def MainStage.left : MainStage → Nat
  | .polling => 5
  | .accepting => 4
  | .raising => 3
  | .interrupting => 2
  | .joining => 1
  | .stopped => 0

/-- Where the main thread and the sessions are. -/
def Process.schedule (p : Process) : MainStage × List Stage :=
  (p.main, p.threads.map SessionThread.stage)

/-- The main thread has gone on; or else one session has, and nothing else. -/
abbrev Descends : MainStage × List Stage → MainStage × List Stage → Prop :=
  Prod.Lex (InvImage (· < ·) MainStage.left) (OneMoves Stage.Later)

theorem wellFounded_descends : WellFounded Descends :=
  WellFounded.prod_lex (InvImage.wf _ wellFounded_lt) (wellFounded_oneMoves wellFounded_later)

theorem descends_of_main (h : p'.main.left < p.main.left) :
    Descends p'.schedule p.schedule := .left _ _ h

/-- A session that goes on goes down in the schedule. -/
theorem descends_of_thread {index : Nat} {f : SessionThread → SessionThread}
    (hthreads : p'.threads = p.threads.modify index f) (hmain : p'.main = p.main)
    (h : ∀ t, p.threads[index]? = some t →
      (f t).stage = t.stage ∨ (f t).stage.Later t.stage) :
    p'.schedule = p.schedule ∨ Descends p'.schedule p.schedule := by
  unfold Process.schedule
  rw [hthreads, hmain, List.modify_eq_set_getElem?]
  cases hfound : p.threads[index]? with
  | none => exact .inl rfl
  | some t =>
    have hstage : (p.threads.map SessionThread.stage)[index]? = some t.stage := by
      rw [List.getElem?_map, hfound]
      rfl
    have hset : ((p.threads.set index (f t)).map SessionThread.stage) =
        (p.threads.map SessionThread.stage).set index (f t).stage := List.map_set
    rcases h t hfound with hsame | hlater
    · refine .inl (Prod.ext rfl (hset.trans ?_))
      obtain ⟨hlt, hget⟩ := List.getElem?_eq_some_iff.mp hstage
      rw [hsame, ← hget, List.set_getElem_self]
    · exact .inr (.right _ ⟨index, t.stage, (f t).stage, hstage, hlater, hset⟩)

/-- The main thread goes on, unless it waits for the sessions. -/
theorem left_stepMain (hstopping : p.stopping = true)
    (h : p.main = .joining → ∀ t ∈ p.threads, t.stage = .ended) (hstopped : p.main ≠ .stopped) :
    p.stepMain.main.left < p.main.left := by
  unfold Process.stepMain
  cases hmain : p.main with
  | accepting =>
    rw [hstopping]
    exact Nat.lt_succ_self 3
  | polling => exact Nat.lt_succ_self 4
  | raising => exact Nat.lt_succ_self 2
  | interrupting => exact Nat.lt_succ_self 1
  | joining =>
    have hall : (p.threads.all fun t => t.stage.isEnded) = true :=
      List.all_eq_true.mpr fun t ht => Stage.isEnded_iff.mpr (h hmain t ht)
    dsimp only
    rw [if_pos hall]
    exact Nat.lt_succ_self 0
  | stopped => exact absurd hmain hstopped

/-- **When the process is to stop, every event leaves the schedule or goes down in it.** -/
theorem descends_apply (hstopping : p.stopping = true) (e : Event) :
    (p.apply service e).schedule = p.schedule ∨
      Descends (p.apply service e).schedule p.schedule := by
  rcases apply_cases service p e with ⟨index, f, hthreads, hmain, -⟩ | rfl | rfl | rfl
  · refine descends_of_thread hthreads hmain fun t ht => ?_
    obtain ⟨t', ht', hmoved⟩ := exists_thread service ht e
    rw [hthreads, List.getElem?_modify_eq, ht] at ht'
    obtain rfl := Option.some.inj ht'
    exact hmoved.later hstopping
  · show p.stepMain.schedule = _ ∨ Descends p.stepMain.schedule _
    by_cases hwaits : (p.main = .joining → ∀ t ∈ p.threads, t.stage = .ended) ∧ p.main ≠ .stopped
    · exact .inr (descends_of_main (left_stepMain hstopping hwaits.1 hwaits.2))
    · refine .inl ?_
      unfold Process.stepMain
      cases hmain : p.main with
      | joining =>
        have hnot : ¬ (p.threads.all fun t => t.stage.isEnded) = true := fun hall =>
          hwaits ⟨fun _ t ht => Stage.isEnded_iff.mp (List.all_eq_true.mp hall t ht),
            hmain ▸ by decide⟩
        dsimp only
        rw [if_neg hnot]
      | stopped => rfl
      | accepting | polling | raising | interrupting =>
        exact absurd ⟨fun h => absurd (hmain.symm.trans h) (by decide), hmain ▸ by decide⟩ hwaits
  · show (p.connect service).schedule = _ ∨ Descends (p.connect service).schedule _
    unfold Process.connect
    split
    · rename_i hmain
      refine .inr (descends_of_main ?_)
      rw [hmain]
      split <;> exact Nat.lt_succ_self 4
    · exact .inl rfl
  · unfold Process.apply
    dsimp only
    split
    · rename_i hmain
      refine .inr (descends_of_main ?_)
      rw [hmain]
      exact (by decide : 3 < 5)
    · exact .inl rfl

/-! ### Interrupted sessions -/

theorem stopping_apply_of (hstopping : p.stopping = true) (e : Event) :
    (p.apply service e).stopping = true := by
  cases e with
  | tick now => exact hstopping
  | main =>
    show p.stepMain.stopping = true
    unfold Process.stepMain
    split
    case h_3 => rfl
    case h_5 => split <;> exact hstopping
    all_goals exact hstopping
  | connect =>
    show (p.connect service).stopping = true
    unfold Process.connect
    split
    · split <;> exact hstopping
    · exact hstopping
  | acceptFails =>
    unfold Process.apply
    dsimp only
    split <;> exact hstopping
  | deliver index frame => exact hstopping
  | thread index =>
    show (p.stepThread service index).stopping = true
    unfold Process.stepThread
    cases p.threads[index]? with
    | none => exact hstopping
    | some t =>
      dsimp only
      cases t.stage with
      | raising => rfl
      | working program => cases program <;> exact hstopping
      | entering | admitted | listening | receiving | sending | leaving | ended => exact hstopping
  | receiveFails index => exact hstopping
  | sendFails index => exact hstopping

/-- The session is between two looks at the flag. -/
def Stage.busy : Stage → Bool
  | .receiving | .working _ | .sending _ _ => true
  | _ => false

@[simp] theorem Stage.busy_after (next : Next) : (Stage.after next).busy = false := by
  cases next <;> rfl

theorem Stage.registered_of_busy {stage : Stage} (h : stage.busy = true) :
    stage.registered = true := by
  cases stage <;> first | rfl | cases h

/-- A session between two looks at the flag was interrupted. -/
def SessionThread.Quiet (t : SessionThread) : Prop :=
  t.stage.busy = true → t.interrupted = true ∧ t.writable = false

theorem SessionThread.Quiet.moved (h : t.Quiet) (hstopping : p.stopping = true)
    (hmoved : Moved service p p' t new t') : t'.Quiet := by
  -- a session that has looked at the flag is on its way out
  have hout : ∀ t' : SessionThread, t'.stage.busy = false → t'.Quiet := fun t' hfalse hbusy => by
    rw [hfalse] at hbusy
    cases hbusy
  cases hmoved with
  | stay | deliver => exact h
  | enter | receiveFails | raise | leave => exact hout _ rfl
  | letIn | listen =>
    refine hout _ ?_
    rw [hstopping]
    rfl
  | receive _ _ hstage | section_ _ _ hstage | answer _ hstage | send _ _ _ hstage =>
    intro _
    exact h (by rw [hstage]; rfl)
  | sendFails =>
    refine hout _ ?_
    dsimp only
    split
    · exact Stage.busy_after _
    · rfl
  | sent next => exact hout _ (Stage.busy_after next)
  | interrupt => exact fun _ => ⟨rfl, rfl⟩

/-- When the main thread waits for the sessions, those that could wait for their clients were
interrupted. -/
structure Process.Quiet (p : Process) : Prop where
  stopping : p.main.left < 3 → p.stopping = true
  sessions : p.main.left < 2 → ∀ t ∈ p.threads, t.Quiet

theorem quiet_interrupt (t : SessionThread) : t.interrupt.Quiet := by
  intro hbusy
  unfold SessionThread.interrupt at hbusy ⊢
  split
  · exact ⟨rfl, rfl⟩
  · rename_i hnot
    rw [if_neg hnot] at hbusy
    exact absurd (Stage.registered_of_busy hbusy) hnot

/-- An event after which the main thread is no further. -/
theorem Process.Quiet.apply_of_le (h : p.Quiet) (e : Event)
    (hmain : p.main.left ≤ (p.apply service e).main.left) : (p.apply service e).Quiet where
  stopping hleft := stopping_apply_of (h.stopping (hmain.trans_lt hleft)) e
  sessions hleft t' ht' := by
    have hbefore : p.main.left < 2 := hmain.trans_lt hleft
    obtain ⟨index, hindex⟩ := List.mem_iff_getElem?.mp ht'
    rcases apply_thread hindex with ⟨-, rfl⟩ | ⟨t, ht, hmoved⟩
    · exact fun hbusy => by cases hbusy
    · exact (h.sessions hbefore t (List.mem_of_getElem? ht)).moved
        (h.stopping (hbefore.trans (by decide))) hmoved

/-- A process whose main thread is not yet to stop. -/
theorem quiet_of_le (h : 3 ≤ p.main.left) : p.Quiet where
  stopping hleft := absurd hleft (Nat.not_lt_of_le h)
  sessions hleft := absurd (hleft.trans (by decide)) (Nat.not_lt_of_le h)

theorem Process.Quiet.apply (h : p.Quiet) (e : Event) : (p.apply service e).Quiet := by
  rcases apply_cases service p e with ⟨index, f, -, hmain, -⟩ | rfl | rfl | rfl
  · exact h.apply_of_le e (Nat.le_of_eq (congrArg MainStage.left hmain.symm))
  · cases hmain : p.main with
    | accepting =>
      refine quiet_of_le ?_
      show 3 ≤ p.stepMain.main.left
      unfold Process.stepMain
      rw [hmain]
      dsimp only
      split <;> decide
    | polling =>
      refine quiet_of_le ?_
      show 3 ≤ p.stepMain.main.left
      unfold Process.stepMain
      rw [hmain]
      exact (by decide : 3 ≤ 4)
    | raising =>
      have hstep : p.stepMain = { p with main := .interrupting, stopping := true } := by
        unfold Process.stepMain
        rw [hmain]
      show p.stepMain.Quiet
      rw [hstep]
      exact ⟨fun _ => rfl, fun hleft => absurd hleft (Nat.lt_irrefl 2)⟩
    | interrupting =>
      have hstep : p.stepMain =
          { p with main := .joining, threads := p.threads.map SessionThread.interrupt } := by
        unfold Process.stepMain
        rw [hmain]
      show p.stepMain.Quiet
      rw [hstep]
      refine ⟨fun _ => h.stopping (hmain ▸ Nat.lt_succ_self 2), fun _ t ht => ?_⟩
      obtain ⟨t₀, -, rfl⟩ := List.mem_map.mp ht
      exact quiet_interrupt t₀
    | joining =>
      have hquiet : ∀ t ∈ p.threads, t.Quiet := h.sessions (hmain ▸ Nat.lt_succ_self 1)
      have hstopping : p.stopping = true := h.stopping (hmain ▸ (by decide : 1 < 3))
      show p.stepMain.Quiet
      unfold Process.stepMain
      rw [hmain]
      dsimp only
      split <;> exact ⟨fun _ => hstopping, fun _ => hquiet⟩
    | stopped =>
      refine h.apply_of_le .main ?_
      rw [hmain]
      exact Nat.zero_le _
  · show (p.connect service).Quiet
    unfold Process.connect
    split
    · split <;> exact quiet_of_le (by decide : 3 ≤ 4)
    · exact h
  · unfold Process.apply
    dsimp only
    split
    · exact quiet_of_le (Nat.le_refl 3)
    · exact h

/-! ### Fair turns -/

/-- The thread waits for its client, or has ended. -/
def SessionThread.Waits (t : SessionThread) : Prop :=
  match t.stage with
  | .receiving => t.inbox = [] ∧ t.interrupted = false
  | .sending (_ :: _) _ => t.writable = true
  | .ended => True
  | _ => False

theorem exists_modified {index : Nat} {f : SessionThread → SessionThread} {stage : Stage}
    (ht : p.threads[index]? = some t) (h : (f t).stage.Later stage) :
    ∃ t', (p.threads.modify index f)[index]? = some t' ∧ t'.stage.Later stage := by
  refine ⟨f t, ?_, h⟩
  rw [List.getElem?_modify_eq, ht]
  rfl

/-- **A session that does not wait goes on when it is its turn.** -/
theorem stepThread_later (service : Service) {index : Nat} (hstopping : p.stopping = true)
    (ht : p.threads[index]? = some t) (hwaits : ¬ t.Waits) :
    ∃ t', (p.stepThread service index).threads[index]? = some t' ∧
      t'.stage.Later t.stage := by
  unfold SessionThread.Waits at hwaits
  unfold Process.stepThread
  rw [ht]
  dsimp only
  cases hstage : t.stage with
  | entering => exact exists_modified ht .enter
  | admitted =>
    rw [hstopping]
    exact exists_modified ht .letIn
  | listening =>
    rw [hstopping]
    exact exists_modified ht .listen
  | receiving =>
    rw [hstage] at hwaits
    refine exists_modified ht ?_
    unfold SessionThread.receive
    cases hinbox : t.inbox with
    | cons frame rest => exact .receive _
    | nil =>
      have hinterrupted : t.interrupted = true :=
        eq_true_of_ne_false fun hnot => hwaits ⟨hinbox, hnot⟩
      dsimp only
      rw [if_pos hinterrupted]
      exact .receiveFails
  | working program =>
    cases program with
    | done answer => exact exists_modified ht (.answer answer)
    | step change rest => exact exists_modified ht (.section_ (.intro change rest _))
  | sending frames next =>
    rw [hstage] at hwaits
    refine exists_modified ht ?_
    unfold SessionThread.send
    cases frames with
    | nil => exact .sent [] next
    | cons frame rest =>
      dsimp only
      rw [if_neg hwaits]
      unfold SessionThread.failSend
      rw [hstage]
      dsimp only
      split
      · exact .sent _ next
      · exact .sendFails _ next
  | raising => exact exists_modified ht .raise
  | leaving => exact exists_modified ht .leave
  | ended =>
    rw [hstage] at hwaits
    exact absurd trivial hwaits

/-- An endless run of the process. -/
structure Execution (service : Service) (start : Governor) where
  event : Nat → Event
  state : Nat → Process
  initial : state 0 = .start start
  next : ∀ n, state (n + 1) = (state n).apply service (event n)

/-- The main thread has its turn again and again, and so has every session that does not wait for
its client. -/
structure Execution.Fair (x : Execution service start) : Prop where
  main : ∀ n, ∃ m, n ≤ m ∧ x.event m = .main
  threads : ∀ n index, ∃ m, n ≤ m ∧
    (x.event m = .thread index ∨ ∀ t, (x.state m).threads[index]? = some t → t.Waits)

namespace Execution

variable (x : Execution service start)

theorem quiet (n : Nat) : (x.state n).Quiet := by
  induction n with
  | zero =>
    rw [x.initial]
    exact quiet_of_le (by decide : 3 ≤ 4)
  | succ n ih =>
    rw [x.next]
    exact ih.apply _

theorem runs (n : Nat) : Process.Runs service (.start start) (x.state n) := by
  induction n with
  | zero =>
    rw [x.initial]
    exact .refl
  | succ n ih =>
    rw [x.next]
    exact ih.tail _ trivial

theorem stopping_of_le {n m : Nat} (hstop : (x.state n).stopping = true) (h : n ≤ m) :
    (x.state m).stopping = true := by
  induction m, h using Nat.le_induction with
  | base => exact hstop
  | succ m _ ih =>
    rw [x.next]
    exact stopping_apply_of ih _

/-- **When the process is to stop it comes to rest**, whatever the clients do. -/
theorem comes_to_rest {n : Nat} (hstop : (x.state n).stopping = true) :
    ∃ N, n ≤ N ∧ ∀ m, N ≤ m → (x.state m).schedule = (x.state N).schedule := by
  refine exists_rest wellFounded_descends fun m hm => ?_
  rw [x.next]
  exact descends_apply (x.stopping_of_le hstop hm) _

variable {x}

/-- At rest the main thread has ended, or waits for a session. -/
theorem rest_main (hfair : x.Fair) {N : Nat} (hstop : (x.state N).stopping = true)
    (hrest : ∀ m, N ≤ m → (x.state m).schedule = (x.state N).schedule)
    (h : (x.state N).main = .joining → ∀ t ∈ (x.state N).threads, t.stage = .ended) :
    (x.state N).main = .stopped := by
  by_contra hnot
  obtain ⟨m, hm, hevent⟩ := hfair.main N
  have hmain : (x.state m).main = (x.state N).main := congrArg Prod.fst (hrest m hm)
  have hstages : (x.state m).threads.map SessionThread.stage =
      (x.state N).threads.map SessionThread.stage := congrArg Prod.snd (hrest m hm)
  have hended : (x.state m).main = .joining → ∀ t ∈ (x.state m).threads, t.stage = .ended := by
    intro hjoining t ht
    have hstage := List.mem_map_of_mem (f := SessionThread.stage) ht
    rw [hstages] at hstage
    obtain ⟨t₀, ht₀, hsame⟩ := List.mem_map.mp hstage
    rw [← hsame]
    exact h (hmain ▸ hjoining) t₀ ht₀
  have hlater := left_stepMain (x.stopping_of_le hstop hm) hended (hmain ▸ hnot)
  have hnext : (x.state (m + 1)).main = (x.state m).stepMain.main := by
    rw [x.next, hevent]
    rfl
  have hsame : (x.state (m + 1)).main = (x.state m).main :=
    congrArg Prod.fst ((hrest (m + 1) (Nat.le_succ_of_le hm)).trans (hrest m hm).symm)
  rw [← hnext, hsame] at hlater
  exact Nat.lt_irrefl _ hlater

/-- At rest, when the main thread waits for the sessions, they have ended. -/
theorem rest_threads (hfair : x.Fair) {N : Nat} (hstop : (x.state N).stopping = true)
    (hrest : ∀ m, N ≤ m → (x.state m).schedule = (x.state N).schedule)
    (hleft : (x.state N).main.left < 2) : ∀ t ∈ (x.state N).threads, t.stage = .ended := by
  intro t ht
  obtain ⟨index, hindex⟩ := List.mem_iff_getElem?.mp ht
  obtain ⟨m, hm, hturn⟩ := hfair.threads N index
  have hmain : (x.state m).main = (x.state N).main := congrArg Prod.fst (hrest m hm)
  -- the session is where it was, and was interrupted
  have hstages : ∀ m, N ≤ m → (x.state m).threads[index]?.map SessionThread.stage =
      some t.stage := by
    intro m hm
    have h := congrArg (fun schedule => schedule.2[index]?) (hrest m hm)
    rw [Process.schedule, Process.schedule, List.getElem?_map, List.getElem?_map, hindex] at h
    exact h
  obtain ⟨t', ht', hstage⟩ := Option.map_eq_some_iff.mp (hstages m hm)
  have hquiet := (x.quiet m).sessions (hmain ▸ hleft) t' (List.mem_of_getElem? ht')
  rw [← hstage]
  by_contra hended
  have hwaits : ¬ t'.Waits := by
    intro hwaits
    unfold SessionThread.Waits at hwaits
    unfold SessionThread.Quiet at hquiet
    split at hwaits
    · rename_i hreceiving
      rw [hreceiving] at hquiet
      exact absurd ((hquiet rfl).1.symm.trans hwaits.2) (by decide)
    · rename_i hsending
      rw [hsending] at hquiet
      exact absurd (hwaits.symm.trans (hquiet rfl).2) (by decide)
    · rename_i h
      exact hended h
    · exact hwaits
  rcases hturn with hevent | hall
  · obtain ⟨t'', ht'', hlater⟩ := stepThread_later service
      (x.stopping_of_le hstop hm) ht' hwaits
    have hsame := hstages (m + 1) (Nat.le_succ_of_le hm)
    rw [x.next, hevent] at hsame
    change ((x.state m).stepThread service index).threads[index]?.map _ = _ at hsame
    rw [ht''] at hsame
    have hstage' : t''.stage = t'.stage := (Option.some.inj hsame).trans hstage.symm
    rw [hstage'] at hlater
    exact wellFounded_later.irrefl.irrefl _ hlater
  · exact hwaits (hall t' ht')

/-- **When the process is to stop, it does**: with fair turns the main thread ends, and every
session has ended then, whatever the clients do. -/
theorem shutdown_completes (hfair : x.Fair) {n : Nat} (hstop : (x.state n).stopping = true) :
    ∃ m, n ≤ m ∧ (x.state m).main = .stopped ∧ ∀ t ∈ (x.state m).threads, t.stage = .ended := by
  obtain ⟨N, hN, hrest⟩ := x.comes_to_rest hstop
  have hstopN := x.stopping_of_le hstop hN
  have hmain : (x.state N).main = .stopped := by
    refine rest_main hfair hstopN hrest fun hjoining => ?_
    exact rest_threads hfair hstopN hrest (hjoining ▸ Nat.lt_succ_self 1)
  exact ⟨N, hN, hmain, rest_threads hfair hstopN hrest (hmain ▸ Nat.zero_lt_two)⟩

/-! ### A session that waits -/

/-- The run in which these events happen. -/
def follow (service : Service) (start : Governor) (event : Nat → Event) :
    Execution service start where
  event := event
  state n := n.rec (.start start) fun n p => p.apply service (event n)
  initial := rfl
  next _ := rfl

/-- A client connects and sends nothing, and then accepting fails; the two threads take turns. -/
def idleClient (n : Nat) : Event :=
  if n = 1 then .connect
  else if n = 8 then .acceptFails
  else if n % 2 = 0 then .main
  else .thread 0

/-- A process that takes one connection, with that client. -/
def idle : Execution { quietService with maxConnections := 1 } (Deployment.after []) :=
  follow _ _ idleClient

theorem idleClient_main (n : Nat) : idleClient (2 * (n + 5)) = .main := by
  unfold idleClient
  rw [if_neg (by omega), if_neg (by omega), if_pos (by omega)]

theorem idleClient_thread (n : Nat) : idleClient (2 * (n + 5) + 1) = .thread 0 := by
  unfold idleClient
  rw [if_neg (by omega), if_neg (by omega), if_neg (by omega)]

theorem fair_idle : idle.Fair where
  main n := ⟨2 * (n + 5), by omega, idleClient_main n⟩
  threads n index := by
    refine ⟨2 * (n + 5) + 1, by omega, ?_⟩
    cases index with
    | zero => exact .inl (idleClient_thread n)
    | succ index =>
      refine .inr fun t ht => ?_
      have hlength := length_le_of_runs (idle.runs (2 * (n + 5) + 1))
      have hlt := (List.getElem?_eq_some_iff.mp ht).1
      exact absurd (hlt.trans_le hlength) (by simp)

/-- The session waits for a frame that never comes, and is interrupted. -/
theorem shutdown_completes_idle :
    ∃ m, 11 ≤ m ∧ (idle.state m).main = .stopped ∧
      ∀ t ∈ (idle.state m).threads, t.stage = .ended :=
  shutdown_completes fair_idle (rfl : (idle.state 11).stopping = true)

end Execution

end Server

end ThermalGovernor
