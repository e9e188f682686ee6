import ThermalGovernor.Server.Process

/-!
# What an event does

`Moved` lists what can become of the thread of a session, and `apply_thread` says that an event
does nothing else to any of them.  `governor_apply` says what an event does to the coordinator:
the clock goes on, or a session takes one section of its program.

Everything that is proved of all runs of the process is proved of `Moved`.
-/

namespace ThermalGovernor

open Lib Steps Protocol Governor

namespace Server

variable {service : Service} {p p' : Process} {t t' : SessionThread} {index : Nat}

/-- What becomes of a thread, with the frames that arrive for it, while the process goes from `p`
to `p'`. -/
inductive Moved (service : Service) (p p' : Process) (t : SessionThread) :
    List Frame → SessionThread → Prop
  | stay : Moved service p p' t [] t
  | enter (hstage : t.stage = .entering) : Moved service p p' t [] { t with stage := .admitted }
  | letIn (hstage : t.stage = .admitted) :
      Moved service p p' t [] { t with stage := if p.stopping then .leaving else .listening }
  | listen (hstage : t.stage = .listening) :
      Moved service p p' t [] { t with stage := if p.stopping then .leaving else .receiving }
  | deliver (frame : Frame) : Moved service p p' t [frame] { t with inbox := t.inbox ++ [frame] }
  | receive (frame : Frame) (rest : List Frame) (hstage : t.stage = .receiving)
      (hinbox : t.inbox = frame :: rest) :
      Moved service p p' t []
        { t with
          stage := .working (serve service frame)
          inbox := rest
          received := t.received ++ [frame] }
  | receiveFails (hstage : t.stage = .receiving) :
      Moved service p p' t [] { t with stage := .leaving }
  | section_ (change : Governor → Governor) (rest : Governor → Program Answer)
      (hstage : t.stage = .working (.step change rest))
      (hgovernor : p'.governor = change p.governor) :
      Moved service p p' t [] { t with stage := .working (rest p.governor) }
  | answer (answer : Answer) (hstage : t.stage = .working (.done answer)) :
      Moved service p p' t []
        { t with stage := .sending answer.frames answer.next, answers := t.answers ++ [answer] }
  | send (frame : Frame) (rest : List Frame) (next : Next)
      (hstage : t.stage = .sending (frame :: rest) next) (hwritable : t.writable = true) :
      Moved service p p' t [] { t with stage := .sending rest next, sent := t.sent ++ [frame] }
  | sendFails (frame : Frame) (rest : List Frame) (next : Next)
      (hstage : t.stage = .sending (frame :: rest) next) :
      Moved service p p' t []
        { t with
          writable := false
          stage := if next = .raise ∨ rest = [] then .after next else .leaving }
  | sent (next : Next) (hstage : t.stage = .sending [] next) :
      Moved service p p' t [] { t with stage := .after next }
  | raise (hstage : t.stage = .raising) (hstopping : p'.stopping = true) :
      Moved service p p' t [] { t with stage := .leaving }
  | leave (hstage : t.stage = .leaving) : Moved service p p' t [] { t with stage := .ended }
  | interrupt (hmain : p.main = .interrupting) (hregistered : t.stage.registered = true) :
      Moved service p p' t [] { t with interrupted := true, writable := false }

theorem moved_failSend : Moved service p p' t [] t.failSend := by
  unfold SessionThread.failSend
  split
  · rename_i frame rest next hstage
    exact .sendFails frame rest next hstage
  · exact .stay

theorem moved_interrupt (hmain : p.main = .interrupting) : Moved service p p' t [] t.interrupt := by
  unfold SessionThread.interrupt
  split
  · rename_i hregistered
    exact .interrupt hmain hregistered
  · exact .stay

theorem moved_receive (hstage : t.stage = .receiving) :
    Moved service p p' t [] (t.receive service) := by
  unfold SessionThread.receive
  split
  · rename_i frame rest hinbox
    exact .receive frame rest hstage hinbox
  · split
    · exact .receiveFails hstage
    · exact .stay

theorem moved_send {frames : List Frame} {next : Next} (hstage : t.stage = .sending frames next) :
    Moved service p p' t [] (t.send frames next) := by
  unfold SessionThread.send
  split
  · exact .sent next hstage
  · split
    · rename_i frame rest hwritable
      exact .send frame rest next hstage hwritable
    · exact moved_failSend

/-! ### One thread -/

@[simp] theorem Process.governor_modify (f : SessionThread → SessionThread) :
    (p.modify index f).governor = p.governor := rfl

@[simp] theorem Process.stopping_modify (f : SessionThread → SessionThread) :
    (p.modify index f).stopping = p.stopping := rfl

@[simp] theorem Process.main_modify (f : SessionThread → SessionThread) :
    (p.modify index f).main = p.main := rfl

/-- A thread that is changed, and the others that are not. -/
theorem moved_of_modify {i : Nat} {new : List Frame} {f : SessionThread → SessionThread}
    (h : ∀ t, p.threads[index]? = some t → Moved service p p' t new (f t))
    (ht : (p.threads.modify index f)[i]? = some t') :
    ∃ t, p.threads[i]? = some t ∧
      Moved service p p' t (if index = i then new else []) t' := by
  rw [List.getElem?_modify] at ht
  obtain ⟨t, hfound, rfl⟩ := Option.map_eq_some_iff.mp ht
  refine ⟨t, hfound, ?_⟩
  split
  · rename_i hindex
    exact h t (hindex ▸ hfound)
  · exact .stay

/-- A thread that is changed while nothing arrives. -/
theorem moved_of_step {i : Nat} {f : SessionThread → SessionThread}
    (h : ∀ t, p.threads[index]? = some t → Moved service p p' t [] (f t))
    (ht : (p.threads.modify index f)[i]? = some t') :
    ∃ t, p.threads[i]? = some t ∧ Moved service p p' t [] t' := by
  obtain ⟨t, hfound, hmoved⟩ := moved_of_modify h ht
  rw [ite_self] at hmoved
  exact ⟨t, hfound, hmoved⟩

/-- The threads of a process whose threads are as they were. -/
theorem moved_of_eq {i : Nat} (ht : p.threads[i]? = some t') :
    ∃ t, p.threads[i]? = some t ∧ Moved service p p' t [] t' := ⟨t', ht, .stay⟩

theorem moved_stepThread {i : Nat}
    (ht : (p.stepThread service index).threads[i]? = some t') :
    ∃ t, p.threads[i]? = some t ∧ Moved service p (p.stepThread service index) t [] t' := by
  unfold Process.stepThread at ht ⊢
  cases hfound : p.threads[index]? with
  | none =>
    rw [hfound] at ht
    exact moved_of_eq ht
  | some found =>
    rw [hfound] at ht
    dsimp only at ht ⊢
    have hsame : ∀ t, p.threads[index]? = some t → t.stage = found.stage := fun t h => by
      rw [Option.some.inj (h.symm.trans hfound)]
    cases hstage : found.stage with
    | entering =>
      rw [hstage] at ht
      exact moved_of_step (fun t h => .enter ((hsame t h).trans hstage)) ht
    | admitted =>
      rw [hstage] at ht
      exact moved_of_step (fun t h => .letIn ((hsame t h).trans hstage)) ht
    | listening =>
      rw [hstage] at ht
      exact moved_of_step (fun t h => .listen ((hsame t h).trans hstage)) ht
    | receiving =>
      rw [hstage] at ht
      exact moved_of_step (fun t h => moved_receive ((hsame t h).trans hstage)) ht
    | working program =>
      rw [hstage] at ht
      cases program with
      | done answer =>
        exact moved_of_step (fun t h => .answer answer ((hsame t h).trans hstage)) ht
      | step change rest =>
        exact moved_of_step
          (fun t h => .section_ change rest ((hsame t h).trans hstage) rfl) ht
    | sending frames next =>
      rw [hstage] at ht
      exact moved_of_step (fun t h => moved_send ((hsame t h).trans hstage)) ht
    | raising =>
      rw [hstage] at ht
      exact moved_of_step (fun t h => .raise ((hsame t h).trans hstage) rfl) ht
    | leaving =>
      rw [hstage] at ht
      exact moved_of_step (fun t h => .leave ((hsame t h).trans hstage)) ht
    | ended =>
      rw [hstage] at ht
      exact moved_of_eq ht

theorem moved_stepMain {i : Nat} (ht : p.stepMain.threads[i]? = some t') :
    ∃ t, p.threads[i]? = some t ∧ Moved service p p.stepMain t [] t' := by
  unfold Process.stepMain at ht ⊢
  cases hmain : p.main with
  | accepting | polling | raising | stopped =>
    rw [hmain] at ht
    exact moved_of_eq ht
  | interrupting =>
    rw [hmain] at ht
    dsimp only at ht ⊢
    rw [List.getElem?_map] at ht
    obtain ⟨t, hfound, rfl⟩ := Option.map_eq_some_iff.mp ht
    exact ⟨t, hfound, moved_interrupt hmain⟩
  | joining =>
    rw [hmain] at ht
    dsimp only at ht ⊢
    split at ht
    · exact moved_of_eq ht
    · exact moved_of_eq ht

/-- **What an event does to a thread**: a new one is there, or it has moved. -/
theorem apply_thread {e : Event} {i : Nat} (ht : (p.apply service e).threads[i]? = some t') :
    (p.threads[i]? = none ∧ t' = {}) ∨
      ∃ t, p.threads[i]? = some t ∧ Moved service p (p.apply service e) t (e.arrivals i) t' := by
  cases e with
  | tick now => exact .inr (moved_of_eq ht)
  | main => exact .inr (moved_stepMain ht)
  | connect =>
    change (p.connect service).threads[i]? = some t' at ht
    unfold Process.connect at ht
    split at ht
    · split at ht
      · exact .inr (moved_of_eq ht)
      · dsimp only at ht
        rw [List.getElem?_append] at ht
        split at ht
        · exact .inr (moved_of_eq ht)
        · rename_i hlength
          refine .inl ⟨List.getElem?_eq_none (Nat.le_of_not_lt hlength), ?_⟩
          exact (List.mem_singleton.mp (List.mem_of_getElem? ht))
    · exact .inr (moved_of_eq ht)
  | acceptFails =>
    refine .inr (moved_of_eq ?_)
    rw [← ht]
    unfold Process.apply
    dsimp only
    split <;> rfl
  | deliver index frame => exact .inr (moved_of_modify (fun t _ => .deliver frame) ht)
  | thread index => exact .inr (moved_stepThread ht)
  | receiveFails index =>
    refine .inr (moved_of_step (fun t _ => ?_) ht)
    split
    · rename_i hstage
      exact .receiveFails (Stage.isReceiving_iff.mp hstage)
    · exact .stay
  | sendFails index => exact .inr (moved_of_step (fun t _ => moved_failSend) ht)

/-! ### The coordinator and the flags -/

/-- **What an event does to the coordinator**: nothing, or the clock goes on, or a session takes
one section of its program. -/
theorem governor_apply (service : Service) (p : Process) (e : Event) :
    (p.apply service e).governor = p.governor ∨
      (∃ now, (p.apply service e).governor = p.governor.apply (.tick now)) ∨
      ∃ t ∈ p.threads, ∃ change rest, t.stage = .working (.step change rest) ∧
        (p.apply service e).governor = change p.governor := by
  cases e with
  | tick now => exact .inr (.inl ⟨now, rfl⟩)
  | main =>
    refine .inl ?_
    change p.stepMain.governor = _
    unfold Process.stepMain
    split
    case h_5 => split <;> rfl
    all_goals rfl
  | connect =>
    refine .inl ?_
    change (p.connect service).governor = _
    unfold Process.connect
    split
    · split <;> rfl
    · rfl
  | acceptFails =>
    refine .inl ?_
    unfold Process.apply
    dsimp only
    split <;> rfl
  | deliver index frame => exact .inl rfl
  | thread index =>
    change (p.stepThread service index).governor = _ ∨ _
    unfold Process.stepThread
    cases hfound : p.threads[index]? with
    | none => exact .inl rfl
    | some found =>
      dsimp only
      cases hstage : found.stage with
      | working program =>
        cases program with
        | done answer => exact .inl rfl
        | step change rest =>
          refine .inr (.inr ⟨found, List.mem_of_getElem? hfound, change, rest, hstage, ?_⟩)
          change (p.stepThread service index).governor = _
          unfold Process.stepThread
          rw [hfound]
          dsimp only
          rw [hstage]
      | entering | admitted | listening | receiving | sending | raising | leaving | ended =>
        exact .inl rfl
  | receiveFails index => exact .inl rfl
  | sendFails index => exact .inl rfl

end Server

end ThermalGovernor
