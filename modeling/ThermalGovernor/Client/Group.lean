import ThermalGovernor.Server.Conversation

/-!
# Sending a group

Both tools send a message with the end of a group behind it, and whether the end goes out is not
looked at.  `Asked` says what is done then to read one group.

A run of a client is made of its own steps and of those of its session (`run_busy`), and what
comes after a program does not change its run (`Run.bind`).
-/

namespace ThermalGovernor

open Lib Talk Did Protocol Server

namespace Client

variable {ν : Type} {frame : Frame} {log first more : List (Did Frame ν)}
  {group : Option (List Frame)} {later : List Frame}

/-- Send a message with the end of a group behind it. -/
def sendGroup (frame : Frame) : Talk Frame ν Bool := do
  if ← Talk.put frame then
    let _ ← Talk.put Server.responseEnd
    pure true
  else pure false

/-- The end of a group, which goes out or not. -/
def closing (sent : Bool) : Did Frame ν :=
  if sent then .sent responseEnd else .lost responseEnd

theorem ended_sendGroup {out : Bool}
    (h : Ended (sendGroup frame : Talk Frame ν Bool) log out) :
    out = false ∧ log = [.lost frame] ∨ out = true ∧ ∃ sent, log = [.sent frame, closing sent] := by
  obtain ⟨first, rest, ok, rfl, hfirst, hrest⟩ := ended_bind_iff.mp h
  obtain rfl := ended_put_iff.mp hfirst
  cases ok with
  | false =>
    obtain ⟨rfl, rfl⟩ := ended_pure_iff.mp hrest
    exact .inl ⟨rfl, rfl⟩
  | true =>
    obtain ⟨second, last, sent, rfl, hsecond, hlast⟩ := ended_bind_iff.mp hrest
    obtain rfl := ended_put_iff.mp hsecond
    obtain ⟨rfl, rfl⟩ := ended_pure_iff.mp hlast
    exact .inr ⟨rfl, sent, rfl⟩

/-- What is done to send a message and read a group; perhaps not all of it. -/
inductive Asked (frame : Frame) : List (Did Frame ν) → Option (List Frame) → Prop
  | lost : Asked frame [.lost frame] none
  | closed (sent : Bool) : Asked frame [.sent frame, closing sent, .closed] none
  | got (sent : Bool) (group : List Frame) :
      Asked frame [.sent frame, closing sent, .got group] (some group)

theorem Asked.sents_isPrefix (h : Asked frame first group) (hintact : Intact (first ++ more))
    (hmore : sents more <+: later) :
    sents (first ++ more) <+: frame :: responseEnd :: later := by
  have hsent : sents first = [frame, responseEnd] →
      sents (first ++ more) <+: frame :: responseEnd :: later := by
    intro hfirst
    rw [sents_append, hfirst]
    exact (List.prefix_append_right_inj _).mpr hmore
  cases h with
  | lost =>
    have hnone : sents more = [] := hintact [] more frame rfl
    rw [sents_append, hnone]
    exact List.nil_prefix
  | closed sent =>
    cases sent with
    | true => exact hsent rfl
    | false =>
      have hnone : sents (.closed :: more) = [] := hintact [.sent frame] _ responseEnd rfl
      rw [sents_append, show sents more = [] from hnone]
      exact ⟨responseEnd :: later, rfl⟩
  | got sent group =>
    cases sent with
    | true => exact hsent rfl
    | false =>
      have hnone : sents (.got group :: more) = [] := hintact [.sent frame] _ responseEnd rfl
      rw [sents_append, show sents more = [] from hnone]
      exact ⟨responseEnd :: later, rfl⟩

theorem Asked.gots_eq (h : Asked frame first group) :
    gots first = group.toList ∧ saids first = [] := by
  cases h with
  | lost => exact ⟨rfl, rfl⟩
  | closed sent => cases sent <;> exact ⟨rfl, rfl⟩
  | got sent group => cases sent <;> exact ⟨rfl, rfl⟩

end Client

/-! ### Runs of a client -/

namespace Server

namespace Conversation

variable {service : Service} {ν α β : Type} {p p' : Process} {talk talk' : Talk Frame ν α}
  {log log' : List (Did Frame ν)}

abbrev Run (service : Service) : Conversation ν α → Conversation ν α → Prop :=
  Relation.ReflTransGen (Step service 0)

theorem run_busy (h : Process.Busy service p p') : Run service ⟨p, talk, log⟩ ⟨p', talk, log⟩ := by
  induction h with
  | refl => exact .refl
  | tail e _ he ih =>
    obtain rfl := he
    exact ih.tail (.process _ (.thread 0) rfl)

/-- What comes after a program does not change its run. -/
theorem Run.bind (h : Run service ⟨p, talk, log⟩ ⟨p', talk', log'⟩) (next : α → Talk Frame ν β) :
    Run service ⟨p, talk.bind next, log⟩ ⟨p', talk'.bind next, log'⟩ := by
  refine Relation.ReflTransGen.lift
    (fun c : Conversation ν α => (⟨c.process, c.talk.bind next, c.log⟩ : Conversation ν β)) ?_ _ _ h
  intro c c' hstep
  cases hstep with
  | process _ e harrivals => exact .process _ e harrivals
  | send p log frame rest hopen => exact .send p log frame _ hopen
  | lose p log frame rest => exact .lose p log frame _
  | read p log rest t group ht hgroup => exact .read p log _ t group ht hgroup
  | close p log rest => exact .close p log _
  | say p log line rest => exact .say p log line _

/-- Lines are said at once. -/
theorem run_said {lines : List ν} (h : Took talk (lines.map .said) talk') :
    Run service ⟨p, talk, log⟩ ⟨p, talk', log ++ lines.map .said⟩ := by
  induction lines generalizing talk log with
  | nil =>
    cases h with
    | nothing =>
      rw [List.map_nil, List.append_nil]
  | cons line rest ih =>
    cases h with
    | said h =>
      rw [List.map_cons, List.append_cons]
      exact (ih h).head (.say p log line _)

/-- A message goes out. -/
theorem run_put {frame : Frame} (hopen : ∀ message, .lost message ∉ log) :
    Run service ⟨p, (Talk.put frame : Talk Frame ν Bool), log⟩
      ⟨p.apply service (.deliver 0 frame), .done true, log ++ [.sent frame]⟩ :=
  .single (.send p log frame _ hopen)

/-- A group goes out. -/
theorem run_sendGroup {frame : Frame} (hopen : ∀ message, .lost message ∉ log) :
    Run service ⟨p, (Client.sendGroup frame : Talk Frame ν Bool), log⟩
      ⟨(p.apply service (.deliver 0 frame)).apply service (.deliver 0 responseEnd), .done true,
        log ++ [.sent frame, .sent responseEnd]⟩ := by
  have hopen' : ∀ message, .lost message ∉ log ++ [(.sent frame : Did Frame ν)] := by
    intro message hmem
    rcases List.mem_append.mp hmem with hlog | hsent
    · exact hopen message hlog
    · cases List.mem_singleton.mp hsent
  have hfirst := (@run_put service ν p log frame hopen).bind fun ok =>
    if ok then (Talk.put responseEnd).bind fun _ => .done true else .done false
  have hsecond := (@run_put service ν (p.apply service (.deliver 0 frame)) _ responseEnd
    hopen').bind fun _ => (.done true : Talk Frame ν Bool)
  rw [List.append_assoc] at hsecond
  exact hfirst.trans hsecond

/-- A group is read. -/
theorem run_take {t : SessionThread} {group : List Frame} (ht : p.threads[0]? = some t)
    (hgroup : (groupsRead t.sent)[(gots log).length]? = some group) :
    Run service ⟨p, (Talk.take : Talk Frame ν (Option (List Frame))), log⟩
      ⟨p, .done (some group), log ++ [.got group]⟩ :=
  .single (.read p log _ t group ht hgroup)

end Conversation

end Server

end ThermalGovernor
