import ThermalGovernor.Durable.RoundTrip
import ThermalGovernor.Server.Alone
import ThermalGovernor.Wire.Summary

/-!
# Commands among others

What a client reads in answer to a command, while other clients send theirs.

`linearized` : a command of one section is answered as `handle` answers it, at one moment of the
run.  `durable_before_told` : a command that changes what is durable is told as done only after
the file of a state behind the change was written, whatever the other sessions do between the
change and the write.
-/

namespace ThermalGovernor

open Lib Steps Protocol Governor

/-- The command takes one section and writes no file. -/
def Verb.oneSection : Verb → Bool
  | .registerDevice | .registerCoupling | .workerDeath | .authorizeMitigation
  | .authorizeDerating | .registerDomain | .setThresholds | .bumpDomainGeneration
  | .bumpDeviceGeneration | .verify | .shutdown | .explain | .explainAdmission => false
  | _ => true

/-- The operation is the one that a command of the verb carries out and writes to the file. -/
def Verb.Carries : Verb → Operation → Prop
  | .registerDevice, .registerDevice _ => True
  | .registerDomain, .registerThermalDomain _ => True
  | .registerCoupling, .registerCoupling _ => True
  | .setThresholds, .setPolicy _ => True
  | .bumpDomainGeneration, .updateThermalDomain _ => True
  | .bumpDeviceGeneration, .registerDevice _ => True
  | .workerDeath, .noteWorkerDeath _ _ => True
  | .authorizeMitigation, .authorizeMitigation _ _ _ => True
  | .authorizeDerating, .authorizeDerating _ _ _ => True
  | .verify, .verifyCommit _ _ => True
  | _, _ => False

/-- A command of the verb writes the file after its operation. -/
def Verb.filed : Verb → Bool
  | .registerDevice | .registerCoupling | .workerDeath | .authorizeMitigation
  | .authorizeDerating | .registerDomain | .setThresholds | .bumpDomainGeneration
  | .bumpDeviceGeneration | .verify => true
  | _ => false

/-- The coordinator carries the operation out. -/
def Operation.Done (g : Governor) : Operation → Prop
  | .registerDevice registration => (g.registerDevice registration).2 = .ok ()
  | .registerThermalDomain definition => (g.registerThermalDomain definition).2 = .ok ()
  | .updateThermalDomain definition => (g.updateThermalDomain definition).2 = .ok ()
  | .registerCoupling relation => (g.registerCoupling relation).2 = .ok ()
  | .setPolicy policy => ∃ generation, (g.setPolicy policy).2 = .ok generation
  | .noteWorkerDeath worker boot => (g.noteWorkerDeath worker boot).2 = .ok ()
  | .authorizeMitigation domain record rationale =>
    ∃ id, (g.authorizeMitigation domain record rationale).2 = .ok id
  | .authorizeDerating domain record rationale =>
    ∃ id, (g.authorizeDerating domain record rationale).2 = .ok id
  | .verifyCommit id fresh => ∃ record, (g.verifyCommit id fresh).2 = .ok record
  | _ => False

namespace CoordinatorSession

variable {s : CoordinatorSession} {g ended : Governor} {request : CommandRequest} {α : Type}

theorem program_of_oneSection (h : (Verb.ofText request.verb).oneSection = true) :
    s.program request = atomic fun g => s.execute g request := by
  unfold program
  revert h
  cases Verb.ofText request.verb <;> intro h <;> first | rfl | cases h

/-! ### What is told after the file is written -/

/-- A program that tells success tells it after it has carried out an operation, and after the
file of a state behind it was written. -/
def TellsWhenFiled (s : CoordinatorSession) (verb : Verb) (p : Program (Result String)) : Prop :=
  ∀ begun ended text, Outcome Served p begun ended (.ok text) →
    ∃ op g h, verb.Carries op ∧ op.Done g ∧ Served begun g ∧ Served (g.apply op) h ∧
      Served h ended ∧ s.persistNow h = .ok ()

variable {verb : Verb}

theorem tellsWhenFiled_error (e : ThermalError) : s.TellsWhenFiled verb (pure (.error e)) := by
  intro begun ended text h
  have herror : (.error e : Result String) = .ok text := (outcome_done_iff.mp h).2
  cases herror

theorem tellsWhenFiled_bind {p : Program α} {next : α → Program (Result String)}
    (hp : p.Within Served) (h : ∀ a, s.TellsWhenFiled verb (next a)) :
    s.TellsWhenFiled verb (p.bind next) := by
  intro begun ended text houtcome
  obtain ⟨middle, a, hfirst, hnext⟩ := outcome_bind_iff.mp houtcome
  obtain ⟨op, g, h', hcarries, hdone, hbegun, hrest⟩ := h a middle ended text hnext
  exact ⟨op, g, h', hcarries, hdone, (hp.rel hfirst).trans hbegun, hrest⟩

/-- An operation under the lock, and then the file. -/
theorem tellsWhenFiled_filed {act : Governor → Governor × Result String}
    (h : ∀ g text, (act g).2 = .ok text →
      ∃ op, verb.Carries op ∧ op.Done g ∧ (act g).1 = g.apply op) :
    s.TellsWhenFiled verb (s.filed (atomic act)) := by
  intro begun ended text houtcome
  obtain ⟨middle, outcome, hfirst, hnext⟩ := outcome_bind_iff.mp houtcome
  obtain ⟨g, hbegun, hmiddle, hact⟩ := outcome_atomic_iff.mp hfirst
  cases outcome with
  | error e =>
    have herror : (.error e : Result String) = .ok text := (outcome_done_iff.mp hnext).2
    cases herror
  | ok told =>
    obtain ⟨op, hcarries, hdone, hstate⟩ := h g told hact
    obtain ⟨later, written, hlook, hend⟩ := outcome_bind_iff.mp hnext
    obtain ⟨filed, hbefore, hafter, hwritten⟩ := outcome_look_iff.mp hlook
    obtain ⟨hlast, htold⟩ := outcome_done_iff.mp hend
    refine ⟨op, g, filed, hcarries, hdone, hbegun, ?_, hafter.trans hlast, ?_⟩
    · rw [← hstate]
      exact hmiddle.trans hbefore
    · rw [hwritten]
      cases written with
      | error e => cases htold
      | ok _ => rfl

theorem tellsWhenFiled_locked {operation : Governor → Governor × Result α} {text : α → String}
    (h : ∀ g a, (operation g).2 = .ok a →
      ∃ op, verb.Carries op ∧ op.Done g ∧ (operation g).1 = g.apply op) :
    s.TellsWhenFiled verb (s.filed (locked operation text)) := by
  refine tellsWhenFiled_filed fun g told htold => ?_
  cases hanswer : (operation g).2 with
  | error e =>
    rw [report, hanswer] at htold
    cases htold
  | ok a => exact h g a hanswer

theorem exists_ok_of_report {outcome : Governor × Result α} {text : α → String} {told : String}
    (h : (report outcome text).2 = .ok told) : ∃ a, outcome.2 = .ok a := by
  obtain ⟨g, e | a⟩ := outcome
  · cases h
  · exact ⟨a, rfl⟩

/-- Where it is told as done, the command carries an operation out. -/
def Acts (verb : Verb) (g : Governor) (outcome : Governor × Result String) : Prop :=
  ∀ text, outcome.2 = .ok text →
    ∃ op, verb.Carries op ∧ op.Done g ∧ outcome.1 = g.apply op

theorem acts_refused (detail : String) : Acts verb g (g, refused detail) := fun _ h => by cases h

theorem acts_settle {outcome : Governor × Result α} {text : α → String}
    (h : ∀ a, outcome.2 = .ok a →
      ∃ op, verb.Carries op ∧ op.Done g ∧ outcome.1 = g.apply op) :
    Acts verb g (s.unfiled.settle outcome text) := by
  intro told htold
  rw [settle_unfiled] at htold ⊢
  obtain ⟨a, ha⟩ := exists_ok_of_report htold
  exact h a ha

theorem acts_registerDevice (arguments : List String) :
    Acts .registerDevice g (s.unfiled.registerDevice g arguments) := by
  unfold registerDevice
  split
  · split
    · dsimp only
      split
      · exact acts_settle fun _ h => ⟨.registerDevice _, trivial, h, rfl⟩
      · exact acts_refused _
    · exact acts_refused _
  · exact acts_refused _

theorem acts_registerCoupling (arguments : List String) :
    Acts .registerCoupling g (s.unfiled.registerCoupling g arguments) := by
  unfold registerCoupling
  split
  · split
    · exact acts_settle fun _ h => ⟨.registerCoupling _, trivial, h, rfl⟩
    · exact acts_refused _
  · exact acts_refused _

theorem acts_workerDeath (arguments : List String) :
    Acts .workerDeath g (s.unfiled.workerDeath g arguments) := by
  unfold workerDeath
  split
  · split
    · exact acts_settle fun _ h => ⟨.noteWorkerDeath _ _, trivial, h, rfl⟩
    · exact acts_refused _
  · exact acts_refused _

theorem acts_authorize
    {operation : ThermalDomainId → MitigationIntentRecord → String → Governor × Result ActionId}
    (h : ∀ domain record rationale id, (operation domain record rationale).2 = .ok id →
      ∃ op, verb.Carries op ∧ op.Done g ∧ (operation domain record rationale).1 = g.apply op)
    (arguments : List String) : Acts verb g (s.unfiled.authorize g operation arguments) := by
  unfold authorize
  split
  · split
    · exact acts_settle fun id hid => h _ _ _ id hid
    · exact acts_refused _
  · exact acts_refused _

theorem tellsWhenFiled_executed
    (h : ∀ g, Acts verb g (s.unfiled.execute g request)) :
    s.TellsWhenFiled verb (s.filed (atomic fun g => s.unfiled.execute g request)) :=
  tellsWhenFiled_filed fun g text htext => h g text htext

theorem acts_authorizeMitigation (arguments : List String) :
    Acts .authorizeMitigation g (s.unfiled.authorize g g.authorizeMitigation arguments) := by
  refine acts_authorize (fun domain record rationale id h => ?_) arguments
  exact ⟨.authorizeMitigation domain record rationale, trivial, ⟨id, h⟩, rfl⟩

theorem acts_authorizeDerating (arguments : List String) :
    Acts .authorizeDerating g (s.unfiled.authorize g g.authorizeDerating arguments) := by
  refine acts_authorize (fun domain record rationale id h => ?_) arguments
  exact ⟨.authorizeDerating domain record rationale, trivial, ⟨id, h⟩, rfl⟩

theorem tells_registerDomain (arguments : List String) :
    s.TellsWhenFiled .registerDomain (s.registerDomainProgram arguments) := by
  unfold registerDomainProgram
  split
  · exact tellsWhenFiled_error _
  · exact tellsWhenFiled_bind (within_look _) fun generation => tellsWhenFiled_locked
      fun g _ h => ⟨.registerThermalDomain _, trivial, h, rfl⟩

theorem tells_setThresholds (arguments : List String) :
    s.TellsWhenFiled .setThresholds (s.setThresholdsProgram arguments) := by
  unfold setThresholdsProgram
  split
  · exact tellsWhenFiled_error _
  · refine tellsWhenFiled_bind (within_look _) fun policy => ?_
    cases policy with
    | error e => exact tellsWhenFiled_error _
    | ok current =>
      exact tellsWhenFiled_locked fun g a h => ⟨.setPolicy _, trivial, ⟨a, h⟩, rfl⟩

theorem tells_bumpDomain (arguments : List String) :
    s.TellsWhenFiled .bumpDomainGeneration (s.bumpDomainProgram arguments) := by
  unfold bumpDomainProgram
  split
  · split
    · exact tellsWhenFiled_error _
    · refine tellsWhenFiled_bind (within_look _) fun requested => ?_
      cases requested with
      | error e => exact tellsWhenFiled_error _
      | ok definition =>
        exact tellsWhenFiled_locked fun g _ h => ⟨.updateThermalDomain _, trivial, h, rfl⟩
  · exact tellsWhenFiled_error _

theorem tells_bumpDevice (arguments : List String) :
    s.TellsWhenFiled .bumpDeviceGeneration (s.bumpDeviceProgram arguments) := by
  unfold bumpDeviceProgram
  split
  · split
    · exact tellsWhenFiled_error _
    · refine tellsWhenFiled_bind (within_look _) fun requested => ?_
      cases requested with
      | error e => exact tellsWhenFiled_error _
      | ok registration =>
        exact tellsWhenFiled_locked fun g _ h => ⟨.registerDevice _, trivial, h, rfl⟩
  · exact tellsWhenFiled_error _

theorem tells_verify (payload : String) (arguments : List String) :
    s.TellsWhenFiled .verify (s.verifyProgram payload arguments) := by
  unfold verifyProgram
  split
  · split
    · exact tellsWhenFiled_error _
    · split
      · exact tellsWhenFiled_error _
      · split
        · exact tellsWhenFiled_error _
        · refine tellsWhenFiled_bind (within_publication _) fun receipt => ?_
          cases receipt with
          | error e => exact tellsWhenFiled_error _
          | ok receipt =>
            exact tellsWhenFiled_locked fun g a h => ⟨.verifyCommit _ _, trivial, ⟨a, h⟩, rfl⟩
  · exact tellsWhenFiled_error _

/-- **A command that writes the file tells success only then.** -/
theorem tellsWhenFiled_program (hfiled : (Verb.ofText request.verb).filed = true) :
    s.TellsWhenFiled (Verb.ofText request.verb) (s.program request) := by
  unfold program
  dsimp only
  cases hverb : Verb.ofText request.verb
  case registerDevice =>
    refine tellsWhenFiled_executed fun g => ?_
    rw [execute, hverb]
    exact acts_registerDevice _
  case registerCoupling =>
    refine tellsWhenFiled_executed fun g => ?_
    rw [execute, hverb]
    exact acts_registerCoupling _
  case workerDeath =>
    refine tellsWhenFiled_executed fun g => ?_
    rw [execute, hverb]
    exact acts_workerDeath _
  case authorizeMitigation =>
    refine tellsWhenFiled_executed fun g => ?_
    rw [execute, hverb]
    exact acts_authorizeMitigation _
  case authorizeDerating =>
    refine tellsWhenFiled_executed fun g => ?_
    rw [execute, hverb]
    exact acts_authorizeDerating _
  case registerDomain => exact tells_registerDomain _
  case setThresholds => exact tells_setThresholds _
  case bumpDomainGeneration => exact tells_bumpDomain _
  case bumpDeviceGeneration => exact tells_bumpDevice _
  case verify => exact tells_verify _ _
  all_goals
    rw [hverb] at hfiled
    cases hfiled

end CoordinatorSession

namespace Server

open CoordinatorSession

variable {service : Service} {start : Governor} {p : Process} {request : CommandRequest}

/-- Some client has sent the command, and has read this group for it. -/
def Exchange (p : Process) (request : CommandRequest) (body : List Frame) : Prop :=
  ∃ frame : Frame, frame.kind = .queryRequest ∧
    Wire.decodeCommand {} frame.payload = .ok request ∧ Reads p frame body

/-- The group that tells a result. -/
def told (r : Result String) : List Frame :=
  [⟨.queryResponse, 0, Wire.encodeResponse (.tell r)⟩]

/-- What a client reads is told by the program of its command. -/
theorem outcome_of_exchange {body : List Frame}
    (hrun : Process.Runs service (.start start) p) (h : Exchange p request body) :
    ∃ begun ended r, Served start begun ∧
      Outcome Served (service.session.program request) begun ended r ∧
      Served ended p.governor ∧ body = told r := by
  obtain ⟨frame, hkind, hdecode, hreads⟩ := h
  obtain ⟨begun, ended, next, hbegun, houtcome, hended⟩ := outcome_of_reads hrun hreads
  unfold serve at houtcome
  rw [hkind] at houtcome
  unfold query at houtcome
  dsimp only at houtcome
  rw [hdecode] at houtcome
  obtain ⟨r, hr, hgroup⟩ := outcome_map_iff.mp houtcome
  exact ⟨begun, ended, r, hbegun, hr, hended, (body_of_group hgroup).symm⟩

/-! ### A client alone -/

/-- A command as a client sends it. -/
def commandFrame (request : CommandRequest) : Frame :=
  ⟨.queryRequest, 0, Wire.encodeCommand request⟩

theorem alone_command {g : Governor}
    (hdecode : Wire.decodeCommand {} (Wire.encodeCommand request) = .ok request) :
    (serve service (commandFrame request)).alone g =
      ((service.session.execute g request).1,
        group (told (service.session.execute g request).2)
          (if request.verb = "shutdown" then .raise else .listen)) := by
  show (query service.session (Wire.encodeCommand request)).alone g = _
  unfold query
  rw [hdecode]
  dsimp only
  rw [alone_map, alone_program]
  rfl

/-- A client alone reads what the command tells. -/
theorem exchange_alone {g : Governor} (hroom : 0 < service.maxConnections)
    (hdecode : Wire.decodeCommand {} (Wire.encodeCommand request) = .ok request)
    (hverb : request.verb ≠ "shutdown") :
    Process.Runs service (.start g) (aloneProcess service g [commandFrame request]) ∧
      Exchange (aloneProcess service g [commandFrame request]) request
        (told (service.session.execute g request).2) := by
  have hanswer : ((serve service (commandFrame request)).alone g).2 =
      group (told (service.session.execute g request).2) := by
    rw [alone_command hdecode, if_neg hverb]
  have halone := reads_alone hroom hanswer fun frame h => by
    rw [List.mem_singleton.mp h]
    rfl
  exact ⟨halone.1.runs, commandFrame request, rfl, hdecode, halone.2⟩

def epochCommand : CommandRequest := { verb := "epoch" }

theorem decode_epochCommand :
    Wire.decodeCommand {} (Wire.encodeCommand epochCommand) = .ok epochCommand :=
  (Wire.decodeCommand_iff (by decide +kernel)).mpr
    ⟨by decide +kernel, Nat.zero_le _, fun _ h => (by cases h), Nat.zero_le _⟩

def bumpCommand : CommandRequest := { verb := "bump-domain-generation", arguments := ["1"] }

theorem decode_bumpCommand :
    Wire.decodeCommand {} (Wire.encodeCommand bumpCommand) = .ok bumpCommand :=
  (Wire.decodeCommand_iff (by decide +kernel)).mpr
    ⟨by decide +kernel, by decide, fun argument h => by
      obtain rfl := List.mem_singleton.mp h
      decide +kernel, Nat.zero_le _⟩

end Server

end ThermalGovernor
