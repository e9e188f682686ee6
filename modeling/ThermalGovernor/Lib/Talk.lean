import Mathlib.Data.List.Induction

/-!
# Programs that talk

A client sends messages over a connection and reads groups of them, and it says lines to whoever
runs it.  `Talk` is such a program: it goes on with whether a message went out, and with what it
has read, if anything.

`Took p log q` says that `p` can have done what is in the log, with `q` left to do.  The logs of
two programs, one after the other, are put together of theirs (`ended_bind_iff`).
-/

namespace ThermalGovernor.Lib

/-- A program over messages `μ` and lines `ν` that ends with a value. -/
inductive Talk (μ ν α : Type)
  | done (a : α)
  | send (message : μ) (rest : Bool → Talk μ ν α)
  | read (rest : Option (List μ) → Talk μ ν α)
  | say (line : ν) (rest : Talk μ ν α)

/-- What a program has done. -/
inductive Did (μ ν : Type)
  | sent (message : μ)
  /-- A message that did not go out. -/
  | lost (message : μ)
  | got (group : List μ)
  /-- There was nothing more to read. -/
  | closed
  | said (line : ν)

namespace Did

variable {μ ν : Type}

/-- The messages that went out. -/
def sents (log : List (Did μ ν)) : List μ :=
  log.filterMap fun
    | sent message => some message
    | _ => none

/-- The groups that were read. -/
def gots (log : List (Did μ ν)) : List (List μ) :=
  log.filterMap fun
    | got group => some group
    | _ => none

/-- The lines that were said. -/
def saids (log : List (Did μ ν)) : List ν :=
  log.filterMap fun
    | said line => some line
    | _ => none

@[simp] theorem sents_append (log log' : List (Did μ ν)) :
    sents (log ++ log') = sents log ++ sents log' := List.filterMap_append

@[simp] theorem gots_append (log log' : List (Did μ ν)) :
    gots (log ++ log') = gots log ++ gots log' := List.filterMap_append

@[simp] theorem saids_append (log log' : List (Did μ ν)) :
    saids (log ++ log') = saids log ++ saids log' := List.filterMap_append

@[simp] theorem sents_said (lines : List ν) :
    sents (lines.map (said : ν → Did μ ν)) = [] := by
  induction lines with
  | nil => rfl
  | cons line rest ih => exact ih

@[simp] theorem gots_said (lines : List ν) : gots (lines.map (said : ν → Did μ ν)) = [] := by
  induction lines with
  | nil => rfl
  | cons line rest ih => exact ih

@[simp] theorem saids_said (lines : List ν) :
    saids (lines.map (said : ν → Did μ ν)) = lines := by
  induction lines with
  | nil => rfl
  | cons line rest ih => exact congrArg (line :: ·) ih

theorem mem_gots {log : List (Did μ ν)} {group : List μ} :
    group ∈ gots log ↔ got group ∈ log := by
  constructor
  · intro h
    obtain ⟨did, hdid, hgroup⟩ := List.mem_filterMap.mp h
    cases did with
    | got group' =>
      obtain rfl := Option.some.inj hgroup
      exact hdid
    | sent | lost | closed | said => cases hgroup
  · exact fun h => List.mem_filterMap.mpr ⟨got group, h, rfl⟩

/-- After a message that did not go out none does. -/
def Intact (log : List (Did μ ν)) : Prop :=
  ∀ before after message, log = before ++ lost message :: after → sents after = []

theorem Intact.of_append {log log' : List (Did μ ν)} (h : Intact (log ++ log')) :
    Intact log ∧ Intact log' := by
  constructor
  · rintro before after message rfl
    have hall := h before (after ++ log') message (by rw [List.append_assoc, List.cons_append])
    rw [sents_append, List.append_eq_nil_iff] at hall
    exact hall.1
  · rintro before after message rfl
    exact h (log ++ before) after message (by rw [List.append_assoc])

theorem intact_nil : Intact ([] : List (Did μ ν)) := by
  intro before after message h
  cases before <;> cases h

/-- One more thing is done; a message does not go out behind one that did not. -/
theorem Intact.concat {log : List (Did μ ν)} {did : Did μ ν} (h : Intact log)
    (hdid : sents [did] = [] ∨ ∀ message, lost message ∉ log) : Intact (log ++ [did]) := by
  intro before after message hlog
  rcases List.eq_nil_or_concat after with rfl | ⟨prior, last, rfl⟩
  · rfl
  · rw [List.concat_eq_append, ← List.cons_append, ← List.append_assoc] at hlog
    obtain ⟨hfront, hlast⟩ := List.append_inj' hlog rfl
    obtain rfl := List.singleton_inj.mp hlast
    rw [List.concat_eq_append, sents_append, h before prior message hfront, List.nil_append]
    rcases hdid with hdid | hnone
    · exact hdid
    · refine absurd ?_ (hnone message)
      rw [hfront]
      exact List.mem_append_right _ List.mem_cons_self

/-- Other things may be done as long as no message goes out. -/
theorem Intact.append {log log' : List (Did μ ν)} (h : Intact log) (hnone : sents log' = []) :
    Intact (log ++ log') := by
  induction log' using List.reverseRecOn with
  | nil => exact (List.append_nil log).symm ▸ h
  | append_singleton log' did ih =>
    rw [sents_append, List.append_eq_nil_iff] at hnone
    rw [← List.append_assoc]
    exact (ih hnone.1).concat (.inl hnone.2)

end Did

namespace Talk

open Did

variable {μ ν α β : Type}

/-- The one program, and then the other. -/
def bind : Talk μ ν α → (α → Talk μ ν β) → Talk μ ν β
  | done a, next => next a
  | send message rest, next => send message fun out => (rest out).bind next
  | read rest, next => read fun group => (rest group).bind next
  | say line rest, next => say line (rest.bind next)

instance : Monad (Talk μ ν) where
  pure := done
  bind := bind

/-- Send a message. -/
def put (message : μ) : Talk μ ν Bool := send message done

/-- Read a group. -/
def take : Talk μ ν (Option (List μ)) := read done

/-- Say some lines. -/
def tell (line : ν) : Talk μ ν Unit := say line (done ())

/-- What a program can have done, and what is left of it then. -/
inductive Took : Talk μ ν α → List (Did μ ν) → Talk μ ν α → Prop
  | nothing (p : Talk μ ν α) : Took p [] p
  | sent {message : μ} {rest : Bool → Talk μ ν α} {log : List (Did μ ν)} {q : Talk μ ν α}
      (h : Took (rest true) log q) : Took (.send message rest) (.sent message :: log) q
  | lost {message : μ} {rest : Bool → Talk μ ν α} {log : List (Did μ ν)} {q : Talk μ ν α}
      (h : Took (rest false) log q) : Took (.send message rest) (.lost message :: log) q
  | got {group : List μ} {rest : Option (List μ) → Talk μ ν α} {log : List (Did μ ν)}
      {q : Talk μ ν α} (h : Took (rest (some group)) log q) :
      Took (.read rest) (.got group :: log) q
  | closed {rest : Option (List μ) → Talk μ ν α} {log : List (Did μ ν)} {q : Talk μ ν α}
      (h : Took (rest none) log q) : Took (.read rest) (.closed :: log) q
  | said {line : ν} {rest : Talk μ ν α} {log : List (Did μ ν)} {q : Talk μ ν α}
      (h : Took rest log q) : Took (.say line rest) (.said line :: log) q

theorem Took.trans {p q r : Talk μ ν α} {log log' : List (Did μ ν)} (h : Took p log q)
    (h' : Took q log' r) : Took p (log ++ log') r := by
  induction h with
  | nothing => exact h'
  | sent _ ih => exact .sent (ih h')
  | lost _ ih => exact .lost (ih h')
  | got _ ih => exact .got (ih h')
  | closed _ ih => exact .closed (ih h')
  | said _ ih => exact .said (ih h')

/-- The program can have ended with the value, and have done this. -/
def Ended (p : Talk μ ν α) (log : List (Did μ ν)) (a : α) : Prop := Took p log (done a)

variable {p : Talk μ ν α} {log : List (Did μ ν)} {a : α} {b : β}

theorem ended_done_iff {a' : α} : Ended (done a') log a ↔ log = [] ∧ a' = a := by
  constructor
  · intro h
    cases h with
    | nothing => exact ⟨rfl, rfl⟩
  · rintro ⟨rfl, rfl⟩
    exact .nothing _

theorem ended_pure_iff {a' : α} : Ended (pure a' : Talk μ ν α) log a ↔ log = [] ∧ a' = a :=
  ended_done_iff

theorem ended_put_iff {message : μ} {out : Bool} :
    Ended (put message : Talk μ ν Bool) log out ↔
      log = [if out then .sent message else .lost message] := by
  constructor
  · intro h
    cases h with
    | sent h =>
      obtain ⟨rfl, rfl⟩ := ended_done_iff.mp h
      rfl
    | lost h =>
      obtain ⟨rfl, rfl⟩ := ended_done_iff.mp h
      rfl
  · rintro rfl
    cases out with
    | true => exact .sent (.nothing _)
    | false => exact .lost (.nothing _)

theorem ended_take_iff {group : Option (List μ)} :
    Ended (take : Talk μ ν (Option (List μ))) log group ↔
      log = [group.elim .closed .got] := by
  constructor
  · intro h
    cases h with
    | got h =>
      obtain ⟨rfl, rfl⟩ := ended_done_iff.mp h
      rfl
    | closed h =>
      obtain ⟨rfl, rfl⟩ := ended_done_iff.mp h
      rfl
  · rintro rfl
    cases group with
    | some group => exact .got (.nothing _)
    | none => exact .closed (.nothing _)

theorem ended_tell_iff {line : ν} {u : Unit} :
    Ended (tell line : Talk μ ν Unit) log u ↔ log = [.said line] := by
  constructor
  · intro h
    cases h with
    | said h =>
      obtain ⟨rfl, -⟩ := ended_done_iff.mp h
      rfl
  · rintro rfl
    exact .said (.nothing _)

/-- **The log of two programs, one after the other.** -/
theorem ended_bind_iff {next : α → Talk μ ν β} :
    Ended (p.bind next) log b ↔
      ∃ first rest a, log = first ++ rest ∧ Ended p first a ∧ Ended (next a) rest b := by
  induction p generalizing log with
  | done a =>
    constructor
    · exact fun h => ⟨[], log, a, rfl, .nothing _, h⟩
    · rintro ⟨first, rest, a', rfl, hfirst, hrest⟩
      obtain ⟨rfl, rfl⟩ := ended_done_iff.mp hfirst
      exact hrest
  | send message rest ih =>
    constructor
    · intro h
      cases h with
      | sent h =>
        obtain ⟨first, last, a, rfl, hfirst, hlast⟩ := (ih true).mp h
        exact ⟨.sent message :: first, last, a, rfl, .sent hfirst, hlast⟩
      | lost h =>
        obtain ⟨first, last, a, rfl, hfirst, hlast⟩ := (ih false).mp h
        exact ⟨.lost message :: first, last, a, rfl, .lost hfirst, hlast⟩
    · rintro ⟨first, last, a, rfl, hfirst, hlast⟩
      cases hfirst with
      | sent h => exact .sent ((ih true).mpr ⟨_, last, a, rfl, h, hlast⟩)
      | lost h => exact .lost ((ih false).mpr ⟨_, last, a, rfl, h, hlast⟩)
  | read rest ih =>
    constructor
    · intro h
      cases h with
      | got h =>
        obtain ⟨first, last, a, rfl, hfirst, hlast⟩ := (ih _).mp h
        exact ⟨.got _ :: first, last, a, rfl, .got hfirst, hlast⟩
      | closed h =>
        obtain ⟨first, last, a, rfl, hfirst, hlast⟩ := (ih _).mp h
        exact ⟨.closed :: first, last, a, rfl, .closed hfirst, hlast⟩
    · rintro ⟨first, last, a, rfl, hfirst, hlast⟩
      cases hfirst with
      | got h => exact .got ((ih _).mpr ⟨_, last, a, rfl, h, hlast⟩)
      | closed h => exact .closed ((ih _).mpr ⟨_, last, a, rfl, h, hlast⟩)
  | say line rest ih =>
    constructor
    · intro h
      cases h with
      | said h =>
        obtain ⟨first, last, a, rfl, hfirst, hlast⟩ := ih.mp h
        exact ⟨.said line :: first, last, a, rfl, .said hfirst, hlast⟩
    · rintro ⟨first, last, a, rfl, hfirst, hlast⟩
      cases hfirst with
      | said h => exact .said (ih.mpr ⟨_, last, a, rfl, h, hlast⟩)

theorem bind_assoc {γ : Type} (p : Talk μ ν α) (next : α → Talk μ ν β) (last : β → Talk μ ν γ) :
    (p.bind next).bind last = p.bind fun a => (next a).bind last := by
  induction p with
  | done a => rfl
  | send message rest ih => exact congrArg (send message) (funext ih)
  | read rest ih => exact congrArg read (funext ih)
  | say line rest ih => exact congrArg (say line) ih

/-- A program ends when nothing goes out any more and there is nothing to read. -/
theorem exists_ended (p : Talk μ ν α) :
    ∃ log a, Ended p log a ∧ sents log = [] ∧ gots log = [] := by
  induction p with
  | done a => exact ⟨[], a, .nothing _, rfl, rfl⟩
  | send message rest ih =>
    obtain ⟨log, a, h, hsents, hgots⟩ := ih false
    exact ⟨.lost message :: log, a, .lost h, hsents, hgots⟩
  | read rest ih =>
    obtain ⟨log, a, h, hsents, hgots⟩ := ih none
    exact ⟨.closed :: log, a, .closed h, hsents, hgots⟩
  | say line rest ih =>
    obtain ⟨log, a, h, hsents, hgots⟩ := ih
    exact ⟨.said line :: log, a, .said h, hsents, hgots⟩

end Talk

end ThermalGovernor.Lib
