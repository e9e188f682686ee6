import ThermalGovernor.Server.Commands
import ThermalGovernor.Server.Connections

/-!
# When the process stops

`stops_when_asked` : while accepting never fails, the process stops only after some client has
sent the command to shut down.
-/

namespace ThermalGovernor

open Lib Steps Protocol Governor

namespace Server

variable {service : Service} {start : Governor} {p p' : Process} {t t' : SessionThread} {e : Event}

/-! ### Asking -/

/-- The frame asks the process to stop. -/
def Asks (frame : Frame) : Prop :=
  frame.kind = .queryRequest ∧
    ∃ request, Wire.decodeCommand {} frame.payload = .ok request ∧ request.verb = "shutdown"

/-- **An answer that stops the process is an answer to a frame that asks for it.** -/
theorem ends_asks (service : Service) (frame : Frame) :
    (serve service frame).Ends fun answer => answer.next = .raise → Asks frame := by
  cases hkind : frame.kind with
  | queryRequest =>
    unfold serve
    rw [hkind]
    show (query service.session frame.payload).Ends _
    unfold query
    cases hdecode : Wire.decodeCommand {} frame.payload with
    | error e => exact fun h => by cases h
    | ok request =>
      refine ends_map _ fun r hnext => ⟨hkind, request, hdecode, ?_⟩
      by_contra hverb
      dsimp only [group] at hnext
      rw [if_neg hverb] at hnext
      cases hnext
  | _ =>
    refine (ends_serve service frame).mono fun answer hproper hnext => ?_
    cases hproper with
    | group body next hkinds h =>
      rcases h with h | ⟨-, h⟩
      · exact absurd (h.symm.trans hnext) (by decide)
      · exact absurd (hkind.symm.trans h) (by decide)
    | disconnect h => cases hnext

/-- A session whose answer stops the process. -/
def SessionThread.Asked (t : SessionThread) : Prop := ∃ answer ∈ t.answers, answer.next = .raise

theorem SessionThread.Asked.grown (h : t.Asked) (hgrown : t.Grown t') : t'.Asked := by
  obtain ⟨answer, hanswer, hnext⟩ := h
  exact ⟨answer, hgrown.answers.subset hanswer, hnext⟩

/-- A session that is about to raise the flag was asked to. -/
theorem SessionThread.InTurn.asked (h : t.InTurn) (hstage : t.stage = .raising) : t.Asked := by
  have hlast := h.last
  rw [hstage] at hlast
  obtain ⟨answer, hanswer, hnext⟩ := Option.map_eq_some_iff.mp hlast
  exact ⟨answer, List.mem_of_getLast? hanswer, hnext⟩

/-- Some session was asked to stop the process. -/
def Process.Asked (p : Process) : Prop := ∃ t ∈ p.threads, t.Asked

theorem Process.Asked.apply (h : p.Asked) (e : Event) : (p.apply service e).Asked := by
  obtain ⟨t, ht, hasked⟩ := h
  obtain ⟨index, hindex⟩ := List.mem_iff_getElem?.mp ht
  obtain ⟨t', ht', hmoved⟩ := exists_thread service hindex e
  exact ⟨t', List.mem_of_getElem? ht', hasked.grown hmoved.grown⟩

/-- The process stops only when a session was asked to stop it. -/
structure Process.Patient (p : Process) : Prop where
  inTurn : ∀ t ∈ p.threads, t.InTurn
  stopping : p.stopping = true → p.Asked
  main : p.main ≠ .accepting → p.main ≠ .polling → p.Asked

/-- **Who raises the flag**: the main thread, or a session that is about to. -/
theorem stopping_apply (h : (p.apply service e).stopping = true) :
    p.stopping = true ∨ p.main = .raising ∨ ∃ t ∈ p.threads, t.stage = .raising := by
  cases e with
  | tick now => exact .inl h
  | main =>
    change p.stepMain.stopping = true at h
    unfold Process.stepMain at h
    split at h
    case h_3 hmain => exact .inr (.inl hmain)
    case h_5 => split at h <;> exact .inl h
    all_goals exact .inl h
  | connect =>
    change (p.connect service).stopping = true at h
    unfold Process.connect at h
    split at h
    · split at h <;> exact .inl h
    · exact .inl h
  | acceptFails =>
    unfold Process.apply at h
    dsimp only at h
    split at h <;> exact .inl h
  | deliver index frame => exact .inl h
  | thread index =>
    change (p.stepThread service index).stopping = true at h
    unfold Process.stepThread at h
    cases hfound : p.threads[index]? with
    | none =>
      rw [hfound] at h
      exact .inl h
    | some t =>
      rw [hfound] at h
      dsimp only at h
      cases hstage : t.stage with
      | raising => exact .inr (.inr ⟨t, List.mem_of_getElem? hfound, hstage⟩)
      | working program =>
        rw [hstage] at h
        cases program with
        | done answer => exact .inl h
        | step change rest => exact .inl h
      | entering | admitted | listening | receiving | sending | leaving | ended =>
        rw [hstage] at h
        exact .inl h
  | receiveFails index => exact .inl h
  | sendFails index => exact .inl h

/-- **How the main thread leaves the loop**: it has seen the flag, or accepting failed. -/
theorem main_apply (h : (p.apply service e).main ≠ .accepting)
    (h' : (p.apply service e).main ≠ .polling) (hfails : e ≠ .acceptFails) :
    p.main ≠ .accepting ∧ p.main ≠ .polling ∨ p.main = .accepting ∧ p.stopping = true := by
  rcases apply_cases service p e with ⟨index, f, -, hmain, -⟩ | rfl | rfl | rfl
  · rw [hmain] at h h'
    exact .inl ⟨h, h'⟩
  · change p.stepMain.main ≠ _ at h h'
    unfold Process.stepMain at h h'
    cases hmain : p.main with
    | accepting =>
      rw [hmain] at h'
      dsimp only at h'
      split at h'
      · rename_i hstopping
        exact .inr ⟨rfl, hstopping⟩
      · exact absurd rfl h'
    | polling =>
      rw [hmain] at h
      exact absurd rfl h
    | raising | interrupting | joining | stopped => exact .inl ⟨by decide, by decide⟩
  · change (p.connect service).main ≠ _ at h h'
    unfold Process.connect at h h'
    split at h
    · split at h <;> exact absurd rfl h
    · rename_i hmain
      rw [if_neg hmain] at h'
      exact .inl ⟨h, h'⟩
  · exact absurd rfl hfails

theorem Process.Patient.apply (h : p.Patient) (hfails : e ≠ .acceptFails) :
    (p.apply service e).Patient := by
  have hasked : p.Asked → (p.apply service e).Asked := fun h => h.apply e
  refine ⟨?_, fun hstopping => hasked ?_, fun hleft hleft' => hasked ?_⟩
  · intro t' ht'
    obtain ⟨index, hindex⟩ := List.mem_iff_getElem?.mp ht'
    rcases apply_thread hindex with ⟨-, rfl⟩ | ⟨t, ht, hmoved⟩
    · exact inTurn_new
    · exact (h.inTurn t (List.mem_of_getElem? ht)).moved hmoved
  · rcases stopping_apply hstopping with hbefore | hmain | ⟨t, ht, hstage⟩
    · exact h.stopping hbefore
    · exact h.main (hmain ▸ by decide) (hmain ▸ by decide)
    · exact ⟨t, ht, (h.inTurn t ht).asked hstage⟩
  · rcases main_apply hleft hleft' hfails with ⟨hmain, hmain'⟩ | ⟨-, hstopping⟩
    · exact h.main hmain hmain'
    · exact h.stopping hstopping

/-- A session that was asked has received the frame that asks. -/
theorem SessionThread.Sound.asks {g : Governor} (h : t.Sound service start g) (hasked : t.Asked) :
    ∃ frame ∈ t.received, Asks frame := by
  obtain ⟨answer, hanswer, hnext⟩ := hasked
  obtain ⟨frame, hframe, begun, ended, -, houtcome, -⟩ := h.exists_answered hanswer
  exact ⟨frame, hframe, houtcome.ends (ends_asks service frame) hnext⟩

/-- **The process stops only when a client asks it to**, while accepting does not fail. -/
theorem stops_when_asked
    (hrun : RunUnder (Process.apply service) (fun _ e => e ≠ .acceptFails) (.start start) p)
    (hstop : p.stopping = true ∨ p.main ≠ .accepting ∧ p.main ≠ .polling) :
    ∃ t ∈ p.threads, ∃ frame ∈ t.received, Asks frame := by
  have hpatient : p.Patient :=
    hrun.invariant
      ⟨fun t ht => (by cases ht), fun h => (by cases h), fun h _ => absurd rfl h⟩
      fun _ _ h hfails => h.apply hfails
  have hsound := sound_of_runs (hrun.mono fun _ _ _ => trivial)
  obtain ⟨t, ht, hasked⟩ : p.Asked := by
    rcases hstop with hstopping | ⟨hmain, hmain'⟩
    · exact hpatient.stopping hstopping
    · exact hpatient.main hmain hmain'
  exact ⟨t, ht, (hsound.threads t ht).asks hasked⟩

/-- A client alone has sent one frame and has read the answer, and its session has taken one more
step. -/
def answeredProcess (service : Service) (g : Governor) (frame : Frame) : Process :=
  let answered := (serve service frame).alone g
  (one answered.1 .accepting 0
    { stage := .after answered.2.next
      received := [frame]
      answers := [answered.2]
      sent := answered.2.frames }).apply service (.thread 0)

theorem calm_answered (hroom : 0 < service.maxConnections) (g : Governor) (frame : Frame) :
    Process.Calm service (.start g) (answeredProcess service g frame) := by
  have hlistening := @calm_alone service g hroom [] fun _ h => by cases h
  exact RunUnder.tail (.thread 0) (hlistening.trans (calm_frame frame {} rfl)) (by nofun)

def shutdownCommand : CommandRequest := { verb := "shutdown" }

theorem decode_shutdownCommand :
    Wire.decodeCommand {} (Wire.encodeCommand shutdownCommand) = .ok shutdownCommand :=
  (Wire.decodeCommand_iff (by decide +kernel)).mpr
    ⟨by decide +kernel, Nat.zero_le _, fun _ h => (by cases h), Nat.zero_le _⟩

theorem stopping_answered {g : Governor} :
    (answeredProcess service g (commandFrame shutdownCommand)).stopping = true := by
  have hverb : shutdownCommand.verb = "shutdown" := rfl
  unfold answeredProcess
  rw [alone_command decode_shutdownCommand, if_pos hverb]
  rfl

/-- A client alone asks the process to stop. -/
theorem stops_when_asked_shutdown :
    ∃ t ∈ (answeredProcess quietService (Deployment.after [])
        (commandFrame shutdownCommand)).threads,
      ∃ frame ∈ t.received, Asks frame :=
  stops_when_asked (calm_answered (by decide) _ _) (.inl stopping_answered)

end Server

end ThermalGovernor
