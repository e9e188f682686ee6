import ThermalGovernor.Server.Alone

/-!
# Connections over the life of the process

The threads of sessions that have ended stay among the threads until the process stops, so the
limit on connections is one on its whole life.  `limit_for_life` : when as many connections were
accepted as the limit allows, no run accepts another, and each one that is tried is refused.
-/

namespace ThermalGovernor

open Lib Steps Protocol Governor

namespace Server

variable {service : Service} {start : Governor} {p p' : Process} {e : Event}

/-- What an event does to the threads and to the main thread: one thread is changed and the main
thread stays, or the main thread takes its step, or a connection is tried. -/
theorem apply_cases (service : Service) (p : Process) (e : Event) :
    (∃ index f, (p.apply service e).threads = p.threads.modify index f ∧
      (p.apply service e).main = p.main ∧ (p.apply service e).refused = p.refused) ∨
    (e = .main ∨ e = .connect ∨ e = .acceptFails) := by
  have hnone : p.threads = p.threads.modify 0 id := by rw [List.modify_id]
  cases e with
  | tick now => exact .inl ⟨0, id, hnone, rfl, rfl⟩
  | main => exact .inr (.inl rfl)
  | connect => exact .inr (.inr (.inl rfl))
  | acceptFails => exact .inr (.inr (.inr rfl))
  | deliver index frame => exact .inl ⟨index, _, rfl, rfl, rfl⟩
  | thread index =>
    refine .inl ?_
    show ∃ index' f, (p.stepThread service index).threads = p.threads.modify index' f ∧
      (p.stepThread service index).main = p.main ∧
      (p.stepThread service index).refused = p.refused
    unfold Process.stepThread
    cases hfound : p.threads[index]? with
    | none => exact ⟨0, id, hnone, rfl, rfl⟩
    | some t =>
      dsimp only
      cases t.stage with
      | working program =>
        cases program with
        | done answer => exact ⟨index, _, rfl, rfl, rfl⟩
        | step change rest => exact ⟨index, _, rfl, rfl, rfl⟩
      | ended => exact ⟨0, id, hnone, rfl, rfl⟩
      | entering | admitted | listening | receiving | sending | raising | leaving =>
        exact ⟨index, _, rfl, rfl, rfl⟩
  | receiveFails index => exact .inl ⟨index, _, rfl, rfl, rfl⟩
  | sendFails index => exact .inl ⟨index, _, rfl, rfl, rfl⟩

@[simp] theorem length_stepMain : p.stepMain.threads.length = p.threads.length := by
  unfold Process.stepMain
  split
  case h_4 => exact List.length_map _
  case h_5 => split <;> rfl
  all_goals rfl

@[simp] theorem refused_stepMain : p.stepMain.refused = p.refused := by
  unfold Process.stepMain
  split
  case h_5 => split <;> rfl
  all_goals rfl

/-- **How many threads there are after an event**: as many as before, and one more where a
connection is accepted. -/
theorem length_apply (service : Service) (p : Process) (e : Event) :
    (p.apply service e).threads.length = p.threads.length ∨
      e = .connect ∧ p.main = .polling ∧ p.threads.length < service.maxConnections ∧
        (p.apply service e).threads.length = p.threads.length + 1 := by
  rcases apply_cases service p e with ⟨index, f, hthreads, -, -⟩ | rfl | rfl | rfl
  · rw [hthreads]
    exact .inl (List.length_modify _ _ _)
  · exact .inl length_stepMain
  · show (p.connect service).threads.length = _ ∨
      _ ∧ _ ∧ _ ∧ (p.connect service).threads.length = _
    unfold Process.connect
    split
    · rename_i hmain
      split
      · exact .inl rfl
      · rename_i hroom
        refine .inr ⟨rfl, hmain, Nat.lt_of_not_le hroom, ?_⟩
        rw [List.length_append, List.length_singleton]
    · exact .inl rfl
  · refine .inl ?_
    unfold Process.apply
    dsimp only
    split <;> rfl

/-- A thread stays where it is among the threads, and what becomes of it is `Moved`. -/
theorem exists_thread (service : Service) {t : SessionThread} {index : Nat}
    (ht : p.threads[index]? = some t) (e : Event) :
    ∃ t', (p.apply service e).threads[index]? = some t' ∧
      Moved service p (p.apply service e) t (e.arrivals index) t' := by
  have hlt := (List.getElem?_eq_some_iff.mp ht).1
  have hlt' : index < (p.apply service e).threads.length := by
    rcases length_apply service p e with h | ⟨-, -, -, h⟩ <;> omega
  obtain ⟨t', ht'⟩ : ∃ t', (p.apply service e).threads[index]? = some t' :=
    ⟨_, List.getElem?_eq_getElem hlt'⟩
  rcases apply_thread ht' with ⟨hnone, -⟩ | ⟨t₀, ht₀, hmoved⟩
  · rw [hnone] at ht
    cases ht
  · obtain rfl := Option.some.inj (ht.symm.trans ht₀)
    exact ⟨t', ht', hmoved⟩

/-! ### The records of a session -/

/-- What a session has received, answered and sent has grown. -/
structure SessionThread.Grown (t t' : SessionThread) : Prop where
  received : t.received <+: t'.received
  answers : t.answers <+: t'.answers
  sent : t.sent <+: t'.sent

theorem SessionThread.Grown.refl (t : SessionThread) : t.Grown t :=
  ⟨List.prefix_rfl, List.prefix_rfl, List.prefix_rfl⟩

theorem SessionThread.Grown.trans {t t' t'' : SessionThread} (h : t.Grown t')
    (h' : t'.Grown t'') : t.Grown t'' :=
  ⟨h.received.trans h'.received, h.answers.trans h'.answers, h.sent.trans h'.sent⟩

theorem Moved.grown {t t' : SessionThread} {new : List Frame}
    (h : Moved service p p' t new t') : t.Grown t' := by
  cases h with
  | receive frame rest hstage hinbox =>
    exact ⟨List.prefix_append _ _, List.prefix_rfl, List.prefix_rfl⟩
  | answer answer hstage => exact ⟨List.prefix_rfl, List.prefix_append _ _, List.prefix_rfl⟩
  | send frame rest next hstage hwritable =>
    exact ⟨List.prefix_rfl, List.prefix_rfl, List.prefix_append _ _⟩
  | stay | enter | letIn | listen | deliver | receiveFails | section_ | sendFails | sent | raise
  | leave | interrupt => exact ⟨List.prefix_rfl, List.prefix_rfl, List.prefix_rfl⟩

/-- What has arrived is received in its order. -/
theorem Moved.stream {t t' : SessionThread} {new : List Frame} (h : Moved service p p' t new t') :
    t'.received ++ t'.inbox = t.received ++ t.inbox ++ new := by
  cases h with
  | deliver frame => exact (List.append_assoc _ _ _).symm
  | receive frame rest hstage hinbox =>
    rw [hinbox, List.append_nil]
    exact List.append_assoc _ _ _
  | stay | enter | letIn | listen | receiveFails | section_ | answer | send | sendFails | sent
  | raise | leave | interrupt => exact (List.append_nil _).symm

/-- **A session keeps its place and its records.** -/
theorem exists_thread_of_runs {t : SessionThread} {index : Nat} (hrun : Process.Runs service p p')
    (ht : p.threads[index]? = some t) :
    ∃ t', p'.threads[index]? = some t' ∧ t.Grown t' := by
  refine hrun.invariant (I := fun p' => ∃ t', p'.threads[index]? = some t' ∧ t.Grown t')
    ⟨t, ht, .refl t⟩ ?_
  rintro q e ⟨t₁, ht₁, hgrown⟩ -
  obtain ⟨t₂, ht₂, hmoved⟩ := exists_thread service ht₁ e
  exact ⟨t₂, ht₂, hgrown.trans hmoved.grown⟩

/-! ### The limit -/

theorem length_le_of_runs (hrun : Process.Runs service (.start start) p) :
    p.threads.length ≤ service.maxConnections := by
  refine hrun.invariant (I := fun p => p.threads.length ≤ service.maxConnections)
    (Nat.zero_le _) ?_
  intro q e h _
  rcases length_apply service q e with hsame | ⟨-, -, hroom, hmore⟩ <;> omega

/-- When there is no room, no event makes any. -/
theorem length_eq_of_runs (hrun : Process.Runs service p p')
    (hfull : p.threads.length = service.maxConnections) :
    p'.threads.length = service.maxConnections := by
  refine hrun.invariant (I := fun p => p.threads.length = service.maxConnections) hfull ?_
  intro q e h _
  rcases length_apply service q e with hsame | ⟨-, -, hroom, hmore⟩ <;> omega

/-- **The limit on connections is one for the life of the process**: as many are accepted at
most, and then, though all sessions may have ended, each one that is tried is refused. -/
theorem limit_for_life (hrun : Process.Runs service (.start start) p) :
    p.threads.length ≤ service.maxConnections ∧
      (p.threads.length = service.maxConnections → ∀ p', Process.Runs service p p' →
        p'.threads.length = service.maxConnections ∧
          (p'.main = .polling → p'.apply service .connect =
            { p' with main := .accepting, refused := p'.refused + 1 })) := by
  refine ⟨length_le_of_runs hrun, fun hfull p' hrest => ?_⟩
  have hlength := length_eq_of_runs hrest hfull
  refine ⟨hlength, fun hmain => ?_⟩
  show p'.connect service = _
  unfold Process.connect
  rw [if_pos hmain, if_pos (Nat.le_of_eq hlength.symm)]

/-- A process that takes one connection, and has taken it. -/
theorem limit_for_life_one :
    let service := { quietService with maxConnections := 1 }
    let p := aloneProcess service (Deployment.after []) []
    p.threads.length ≤ 1 ∧
      (p.threads.length = 1 → ∀ p', Process.Runs service p p' →
        p'.threads.length = 1 ∧
          (p'.main = .polling → p'.apply service .connect =
            { p' with main := .accepting, refused := p'.refused + 1 })) :=
  limit_for_life (calm_alone (by decide) [] fun _ h => by cases h).runs

end Server

end ThermalGovernor
