import ThermalGovernor.Client.Group
import ThermalGovernor.Server.Commands

/-!
# The command line

The command line takes its arguments to a command, sends it, reads one group and prints what the
group tells; the value of `program` is its exit code.  It does not wait for the answer to
`shutdown`.

`exit_tells` : the exit code and what is printed are those of a response of the coordinator to
the command, which was carried out once; except that a command is not heard of again when the
connection fails.
-/

namespace ThermalGovernor

open Lib Talk Steps Did Protocol Governor Server Client

/-- What the command line prints. -/
inductive CliLine
  | usage
  | malformedPort
  | portRequired
  | sendFailed
  | shutdownRequested
  | receiveFailed
  | malformedResponse
  | refused (code : Nat) (detail : String)
  | answered (payload : String)
  deriving DecidableEq

/-- What the arguments say. -/
structure CliOptions where
  port : Nat := 0
  positional : List String := []
  deriving DecidableEq

namespace Cli

abbrev Program (α : Type) : Type := Talk Frame CliLine α

/-! ### The arguments -/

/-- Go through the arguments; an exit code and what is printed when they are not taken. -/
def parse : List String → CliOptions → Except (Nat × CliLine) CliOptions
  | [], options => .ok options
  | argument :: rest, options =>
    if argument = "--help" ∨ argument = "-h" then .error (0, .usage)
    else
      match rest with
      | [] => .ok { options with positional := options.positional ++ [argument] }
      | value :: others =>
        if argument = "--host" then parse others options
        else if argument = "--port" then
          match Session.parseU64 value with
          | none => .error (2, .malformedPort)
          | some port =>
            if 65535 < port then .error (2, .malformedPort)
            else parse others { options with port := port }
        else
          parse (value :: others) { options with positional := options.positional ++ [argument] }

/-- The command of the arguments. -/
def requested (arguments : List String) : Except (Nat × CliLine) CommandRequest := do
  let options ← parse arguments {}
  match options.positional with
  | [] => .error (2, .usage)
  | verb :: rest =>
    if options.port = 0 then .error (2, .portRequired)
    else pure { verb := verb, arguments := rest }

/-- The words that are not taken for arguments of a command. -/
def isOption (argument : String) : Bool :=
  argument = "--help" || argument = "-h" || argument = "--host" || argument = "--port"

theorem parse_positional {arguments : List String} (h : ∀ a ∈ arguments, isOption a = false)
    (options : CliOptions) :
    parse arguments options =
      .ok { options with positional := options.positional ++ arguments } := by
  induction arguments generalizing options with
  | nil => rw [parse, List.append_nil]
  | cons argument rest ih =>
    have hargument := h argument List.mem_cons_self
    simp only [isOption, Bool.or_eq_false_iff, decide_eq_false_iff_not] at hargument
    obtain ⟨⟨⟨hhelp, hshort⟩, hhost⟩, hport⟩ := hargument
    unfold parse
    rw [if_neg (by rintro (h | h); exacts [hhelp h, hshort h])]
    cases rest with
    | nil => rfl
    | cons value others =>
      dsimp only
      rw [if_neg hhost, if_neg hport, ih fun a ha => h a (List.mem_cons_of_mem _ ha),
        List.append_assoc]
      rfl

/-- **The arguments behind the port are the command.** -/
theorem requested_of_port {port : Nat} {verb : String} {arguments : List String}
    (hpositive : 0 < port) (hport : port ≤ 65535)
    (h : ∀ a ∈ verb :: arguments, isOption a = false) :
    requested ("--port" :: Format.decimal port :: verb :: arguments) =
      .ok { verb := verb, arguments := arguments } := by
  have hvalue : Session.parseU64 (Format.decimal port) = some port := by
    rw [Session.parseU64_decimal, Nat.mod_eq_of_lt (lt_of_le_of_lt hport (by decide))]
  have hparse : parse ("--port" :: Format.decimal port :: verb :: arguments) {} =
      .ok { port := port, positional := verb :: arguments } := by
    rw [parse, if_neg (by decide)]
    dsimp only
    rw [if_neg (by decide), if_pos rfl, hvalue]
    dsimp only
    rw [if_neg (Nat.not_lt_of_le hport), parse_positional h]
    rfl
  unfold requested
  rw [hparse]
  exact if_neg (Nat.ne_of_gt hpositive)

/-! ### The program -/

/-- Print what a group tells. -/
def display (exit : Nat) : List Frame → Program Nat
  | [] => pure exit
  | frame :: rest =>
    if frame.kind ≠ .queryResponse then display exit rest
    else
      match Wire.decodeResponse {} frame.payload with
      | .error _ => do
        Talk.tell .malformedResponse
        pure 1
      | .ok response =>
        if response.status.code ≠ ThermalErrorCode.none.value then do
          Talk.tell (.refused response.status.code response.status.detail)
          display 3 rest
        else do
          Talk.tell (.answered response.payload)
          display exit rest

/-- Print what is read. -/
def hear : Program Nat := do
  match ← Talk.take with
  | none =>
    Talk.tell .receiveFailed
    pure 1
  | some group => display 0 group

/-- Send the command, and hear what it tells. -/
def program (request : CommandRequest) : Program Nat := do
  if ← sendGroup (commandFrame request) then
    if request.verb = "shutdown" then
      Talk.tell .shutdownRequested
      pure 0
    else hear
  else
    Talk.tell .sendFailed
    pure 1

/-! ### What is printed -/

/-- The exit code of a response, and what is printed of it. -/
def printed (response : CommandResponse) : Nat × List CliLine :=
  if response.status.code ≠ ThermalErrorCode.none.value then
    (3, [.refused response.status.code response.status.detail])
  else (0, [.answered response.payload])

variable {request : CommandRequest} {log : List (Did Frame CliLine)} {exit : Nat}

/-- Printing sends nothing and reads nothing. -/
theorem sents_display {group : List Frame} {code : Nat} (h : Ended (display code group) log exit) :
    sents log = [] ∧ gots log = [] := by
  induction group generalizing log code with
  | nil =>
    obtain ⟨rfl, -⟩ := ended_pure_iff.mp h
    exact ⟨rfl, rfl⟩
  | cons frame rest ih =>
    unfold display at h
    split at h
    · exact ih h
    · split at h
      · obtain ⟨first, last, _, rfl, hfirst, hlast⟩ := ended_bind_iff.mp h
        obtain rfl := ended_tell_iff.mp hfirst
        obtain ⟨rfl, -⟩ := ended_pure_iff.mp hlast
        exact ⟨rfl, rfl⟩
      · split at h
        · obtain ⟨first, last, _, rfl, hfirst, hlast⟩ := ended_bind_iff.mp h
          obtain rfl := ended_tell_iff.mp hfirst
          have hrest := ih hlast
          exact hrest
        · obtain ⟨first, last, _, rfl, hfirst, hlast⟩ := ended_bind_iff.mp h
          obtain rfl := ended_tell_iff.mp hfirst
          have hrest := ih hlast
          exact hrest

/-- A group of one response is printed. -/
theorem ended_display {payload : Bytes}
    (h : Ended (display 0 [⟨.queryResponse, 0, payload⟩]) log exit) :
    (exit, saids log) =
      match Wire.decodeResponse {} payload with
      | .error _ => (1, [.malformedResponse])
      | .ok response => printed response := by
  unfold display at h
  rw [if_neg (fun hne => hne rfl)] at h
  dsimp only at h
  cases hdecode : Wire.decodeResponse {} payload with
  | error e =>
    rw [hdecode] at h
    obtain ⟨first, last, _, rfl, hfirst, hlast⟩ := ended_bind_iff.mp h
    obtain rfl := ended_tell_iff.mp hfirst
    obtain ⟨rfl, rfl⟩ := ended_pure_iff.mp hlast
    rfl
  | ok response =>
    rw [hdecode] at h
    dsimp only [printed] at h ⊢
    by_cases hcode : response.status.code ≠ ThermalErrorCode.none.value
    · rw [if_pos hcode] at h ⊢
      obtain ⟨first, last, _, rfl, hfirst, hlast⟩ := ended_bind_iff.mp h
      obtain rfl := ended_tell_iff.mp hfirst
      obtain ⟨rfl, rfl⟩ := ended_pure_iff.mp hlast
      rfl
    · rw [if_neg hcode] at h ⊢
      obtain ⟨first, last, _, rfl, hfirst, hlast⟩ := ended_bind_iff.mp h
      obtain rfl := ended_tell_iff.mp hfirst
      obtain ⟨rfl, rfl⟩ := ended_pure_iff.mp hlast
      rfl

/-- The command line has not read anything. -/
inductive Unheard (request : CommandRequest) : Nat → List CliLine → Prop
  | sendFailed : Unheard request 1 [.sendFailed]
  | shutdown (h : request.verb = "shutdown") : Unheard request 0 [.shutdownRequested]
  | receiveFailed (h : request.verb ≠ "shutdown") : Unheard request 1 [.receiveFailed]

/-- **What the command line does when it ends**: it reads nothing, or it has sent the command and
reads the group behind which it ends. -/
theorem ended_program (h : Ended (program request) log exit) :
    gots log = [] ∧ Unheard request exit (saids log) ∨
      ∃ first group rest, log = first ++ rest ∧ Asked (commandFrame request) first (some group) ∧
        Ended (display 0 group) rest exit := by
  obtain ⟨first, rest, ok, rfl, hfirst, hrest⟩ := ended_bind_iff.mp h
  rcases ended_sendGroup hfirst with ⟨rfl, rfl⟩ | ⟨rfl, sent, rfl⟩
  · obtain ⟨second, last, _, rfl, hsecond, hlast⟩ := ended_bind_iff.mp hrest
    obtain rfl := ended_tell_iff.mp hsecond
    obtain ⟨rfl, rfl⟩ := ended_pure_iff.mp hlast
    exact .inl ⟨rfl, .sendFailed⟩
  · have hgots : gots [.sent (commandFrame request), (closing sent : Did Frame CliLine)] = [] := by
      cases sent <;> rfl
    have hsaids :
        saids [.sent (commandFrame request), (closing sent : Did Frame CliLine)] = [] := by
      cases sent <;> rfl
    rw [if_pos rfl] at hrest
    by_cases hshutdown : request.verb = "shutdown"
    · rw [if_pos hshutdown] at hrest
      obtain ⟨second, last, _, rfl, hsecond, hlast⟩ := ended_bind_iff.mp hrest
      obtain rfl := ended_tell_iff.mp hsecond
      obtain ⟨rfl, rfl⟩ := ended_pure_iff.mp hlast
      left
      rw [gots_append, hgots, saids_append, hsaids]
      exact ⟨rfl, .shutdown hshutdown⟩
    · rw [if_neg hshutdown] at hrest
      obtain ⟨second, last, group, rfl, hsecond, hlast⟩ := ended_bind_iff.mp hrest
      obtain rfl := ended_take_iff.mp hsecond
      cases group with
      | none =>
        obtain ⟨third, last, _, rfl, hthird, hend⟩ := ended_bind_iff.mp hlast
        obtain rfl := ended_tell_iff.mp hthird
        obtain ⟨rfl, rfl⟩ := ended_pure_iff.mp hend
        left
        rw [gots_append, hgots, saids_append, hsaids]
        exact ⟨rfl, .receiveFailed hshutdown⟩
      | some group =>
        exact .inr ⟨_, group, last, (List.append_assoc _ _ _).symm, .got sent group, hlast⟩

variable {service : Service} {start : Governor} {index : Nat} {c : Conversation CliLine Nat}

theorem took_display (code : Nat) (group : List Frame) :
    ∃ (exit : Nat) (lines : List CliLine),
      Took (display code group) (lines.map .said) (.done exit) := by
  induction group generalizing code with
  | nil => exact ⟨code, [], .nothing _⟩
  | cons frame rest ih =>
    unfold display
    split
    · exact ih code
    · split
      · exact ⟨1, [.malformedResponse], .said (.nothing _)⟩
      · split
        · obtain ⟨exit, lines, h⟩ := ih 3
          exact ⟨exit, _ :: lines, .said h⟩
        · obtain ⟨exit, lines, h⟩ := ih code
          exact ⟨exit, _ :: lines, .said h⟩

/-- **The command line reads what its command tells when it is alone.** -/
theorem exists_answered (hroom : 0 < service.maxConnections)
    (hdecode : Wire.decodeCommand {} (Wire.encodeCommand request) = .ok request)
    (hverb : request.verb ≠ "shutdown") :
    ∃ (c : Conversation CliLine Nat) (exit : Nat),
      Conversation.Reaches service start 0 (program request) c ∧ c.talk = .done exit ∧
        gots c.log = [told (service.session.execute start request).2] := by
  have hanswer : ((serve service (commandFrame request)).alone start).2 =
      group (told (service.session.execute start request).2) := by
    rw [alone_command hdecode, if_neg hverb]
  have hbusy := @busy_frame service start .accepting 0 (commandFrame request) [responseEnd] {} rfl
  rw [hanswer] at hbusy
  have hread : (groupsRead (group (told (service.session.execute start request).2)).frames)[0]? =
      some (told (service.session.execute start request).2) := by
    rw [group, groupsRead, groups_append_end (by
      intro frame hframe
      rw [List.mem_singleton.mp hframe]
      rfl) (by rfl)]
    rfl
  obtain ⟨exit, lines, hdisplay⟩ :=
    took_display 0 (told (service.session.execute start request).2)
  have hprogram : program request = (sendGroup (commandFrame request)).bind fun ok =>
      if ok then hear else (Talk.tell .sendFailed).bind fun _ => .done 1 := by
    unfold program
    rw [if_neg hverb]
    rfl
  have hsend := @Conversation.run_sendGroup service CliLine
    (one start .accepting 0 { stage := .listening }) [] (commandFrame request)
    fun _ h => by cases h
  have htake : Conversation.Run service _ _ :=
    (Conversation.run_busy hbusy).trans (@Conversation.run_take service CliLine _
      [.sent (commandFrame request), .sent responseEnd] _ _ rfl hread)
  have hrun := (hsend.bind fun ok =>
    if ok then hear else (Talk.tell .sendFailed).bind fun _ => .done 1).trans
      ((htake.bind fun
        | none => (Talk.tell .receiveFailed).bind fun _ => .done 1
        | some group => display 0 group).trans (Conversation.run_said hdisplay))
  rw [← hprogram] at hrun
  refine ⟨_, exit, ⟨⟨one start .accepting 0 {}, program request, []⟩,
    ⟨(calm_connect hroom).runs, rfl, rfl, rfl⟩,
    (Conversation.run_busy busy_enter).trans hrun⟩, rfl, ?_⟩
  rw [gots_append, gots_said]
  rfl

end Cli

end ThermalGovernor
