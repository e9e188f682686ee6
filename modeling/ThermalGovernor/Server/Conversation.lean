import ThermalGovernor.Lib.Talk
import ThermalGovernor.Server.Connections

/-!
# Clients of the coordinator

A client is a program that talks over one connection.  It takes its steps among the events of the
process, and what it sends is delivered to its session.

`reads_of_reaches` : whatever the client is and whatever the other sessions do, the groups that
it reads answer the frames that it has sent, one for one and in their order.
-/

namespace ThermalGovernor

open Lib Steps Protocol Governor Did

namespace Server

variable {ν α : Type}

/-- A process and one of its clients. -/
structure Conversation (ν α : Type) where
  process : Process
  /-- What the client has left to do. -/
  talk : Talk Frame ν α
  /-- What the client has done. -/
  log : List (Did Frame ν) := []

namespace Conversation

/-- A step of the process, or of the client of a session.  A client that has failed to send sends
nothing more. -/
inductive Step (service : Service) (index : Nat) : Conversation ν α → Conversation ν α → Prop
  | process (c : Conversation ν α) (e : Event) (h : e.arrivals index = []) :
      Step service index c { c with process := c.process.apply service e }
  | send (p : Process) (log : List (Did Frame ν)) (frame : Frame) (rest : Bool → Talk Frame ν α)
      (hopen : ∀ lost, .lost lost ∉ log) :
      Step service index ⟨p, .send frame rest, log⟩
        ⟨p.apply service (.deliver index frame), rest true, log ++ [.sent frame]⟩
  | lose (p : Process) (log : List (Did Frame ν)) (frame : Frame)
      (rest : Bool → Talk Frame ν α) :
      Step service index ⟨p, .send frame rest, log⟩ ⟨p, rest false, log ++ [.lost frame]⟩
  | read (p : Process) (log : List (Did Frame ν)) (rest : Option (List Frame) → Talk Frame ν α)
      (t : SessionThread) (group : List Frame) (ht : p.threads[index]? = some t)
      (hgroup : (groupsRead t.sent)[(gots log).length]? = some group) :
      Step service index ⟨p, .read rest, log⟩ ⟨p, rest (some group), log ++ [.got group]⟩
  | close (p : Process) (log : List (Did Frame ν))
      (rest : Option (List Frame) → Talk Frame ν α) :
      Step service index ⟨p, .read rest, log⟩ ⟨p, rest none, log ++ [.closed]⟩
  | say (p : Process) (log : List (Did Frame ν)) (line : ν) (rest : Talk Frame ν α) :
      Step service index ⟨p, .say line rest, log⟩ ⟨p, rest, log ++ [.said line]⟩

/-- The client has just been accepted. -/
structure Begins (service : Service) (start : Governor) (index : Nat) (program : Talk Frame ν α)
    (c : Conversation ν α) : Prop where
  runs : Process.Runs service (.start start) c.process
  thread : c.process.threads[index]? = some {}
  talk : c.talk = program
  log : c.log = []

/-- The client with this program can have come so far. -/
def Reaches (service : Service) (start : Governor) (index : Nat) (program : Talk Frame ν α)
    (c : Conversation ν α) : Prop :=
  ∃ c₀, Begins service start index program c₀ ∧ Relation.ReflTransGen (Step service index) c₀ c

/-- What the client has sent has been delivered to its session, and what it has read was sent. -/
structure Sound (service : Service) (start : Governor) (index : Nat) (program : Talk Frame ν α)
    (c : Conversation ν α) : Prop where
  runs : Process.Runs service (.start start) c.process
  took : Talk.Took program c.log c.talk
  intact : Intact c.log
  thread : ∃ t, c.process.threads[index]? = some t ∧ t.received ++ t.inbox = sents c.log ∧
    gots c.log <+: groupsRead t.sent

variable {service : Service} {start : Governor} {index : Nat} {program : Talk Frame ν α}
  {c c' : Conversation ν α}

theorem Begins.sound (h : Begins service start index program c) :
    Sound service start index program c := by
  obtain ⟨hruns, hthread, htalk, hlog⟩ := h
  refine ⟨hruns, ?_, hlog ▸ intact_nil, {}, hthread, ?_, ?_⟩
  · rw [hlog, htalk]
    exact .nothing _
  · rw [hlog]
    rfl
  · rw [hlog]
    exact List.prefix_rfl

theorem Sound.step (h : Sound service start index program c) (hstep : Step service index c c') :
    Sound service start index program c' := by
  obtain ⟨hruns, htook, hintact, t, ht, hstream, hread⟩ := h
  cases hstep with
  | process _ e harrivals =>
    obtain ⟨t', ht', hmoved⟩ := exists_thread service ht e
    refine ⟨hruns.tail e trivial, htook, hintact, t', ht', ?_, ?_⟩
    · rw [hmoved.stream, harrivals, List.append_nil, hstream]
    · exact hread.trans (groups_isPrefix hmoved.grown.sent)
  | send p log frame rest hopen =>
    obtain ⟨t', ht', hmoved⟩ := exists_thread service ht (.deliver index frame)
    refine ⟨hruns.tail (.deliver index frame) trivial, htook.trans (.sent (.nothing _)),
      hintact.concat (.inr hopen), t', ht', ?_, ?_⟩
    · rw [hmoved.stream, sents_append, ← hstream]
      show _ ++ (if index = index then [frame] else []) = _
      rw [if_pos rfl]
      rfl
    · rw [gots_append]
      refine List.IsPrefix.trans ?_ (hread.trans (groups_isPrefix hmoved.grown.sent))
      rw [show gots [(.sent frame : Did Frame ν)] = [] from rfl, List.append_nil]
  | lose p log frame rest =>
    refine ⟨hruns, htook.trans (.lost (.nothing _)), hintact.concat (.inl rfl), t, ht, ?_, ?_⟩
    · rw [sents_append, hstream]
      exact (List.append_nil _).symm
    · rw [gots_append]
      exact (List.append_nil (gots log)).symm ▸ hread
  | read p log rest t₀ group ht₀ hgroup =>
    obtain rfl := Option.some.inj (ht.symm.trans ht₀)
    refine ⟨hruns, htook.trans (.got (.nothing _)), hintact.concat (.inl rfl), t, ht, ?_, ?_⟩
    · rw [sents_append, hstream]
      exact (List.append_nil _).symm
    · rw [gots_append]
      obtain ⟨more, hmore⟩ := hread
      have hlast : more[0]? = some group := by
        rw [← hmore, List.getElem?_append_right (le_refl _), Nat.sub_self] at hgroup
        exact hgroup
      obtain ⟨first, others, rfl⟩ := List.exists_cons_of_length_pos
        (List.getElem?_eq_some_iff.mp hlast).1
      obtain rfl := Option.some.inj hlast
      exact ⟨others, by rw [← hmore, List.append_assoc]; rfl⟩
  | close p log rest =>
    refine ⟨hruns, htook.trans (.closed (.nothing _)), hintact.concat (.inl rfl), t, ht, ?_, ?_⟩
    · rw [sents_append, hstream]
      exact (List.append_nil _).symm
    · rw [gots_append]
      exact (List.append_nil (gots log)).symm ▸ hread
  | say p log line rest =>
    refine ⟨hruns, htook.trans (.said (.nothing _)), hintact.concat (.inl rfl), t, ht, ?_, ?_⟩
    · rw [sents_append, hstream]
      exact (List.append_nil _).symm
    · rw [gots_append]
      exact (List.append_nil (gots log)).symm ▸ hread

theorem sound_of_reaches (h : Reaches service start index program c) :
    Sound service start index program c := by
  obtain ⟨c₀, hbegins, hsteps⟩ := h
  induction hsteps with
  | refl => exact hbegins.sound
  | tail _ hstep ih => exact ih.step hstep

/-- **The groups that a client reads answer the frames that it has sent, one for one.** -/
theorem reads_of_reaches (h : Reaches service start index program c) {k : Nat}
    {body : List Frame} (hbody : (gots c.log)[k]? = some body) :
    ∃ frame : Frame, (sents c.log)[k]? = some frame ∧ Reads c.process frame body ∧
      body.map Frame.kind ∈ answerKinds frame.kind := by
  obtain ⟨hruns, -, -, t, ht, hstream, more, hmore⟩ := sound_of_reaches h
  have hmem := List.mem_of_getElem? ht
  have hsent : (groupsRead t.sent)[k]? = some body := by
    rw [← hmore, List.getElem?_append_left (List.getElem?_eq_some_iff.mp hbody).1]
    exact hbody
  obtain ⟨frame, -, hframe, -, hkinds⟩ := group_answers hruns hmem hsent
  refine ⟨frame, ?_, ⟨t, hmem, k, hframe, hsent⟩, hkinds⟩
  rw [← hstream, List.getElem?_append_left (List.getElem?_eq_some_iff.mp hframe).1]
  exact hframe

end Conversation

end Server

end ThermalGovernor
