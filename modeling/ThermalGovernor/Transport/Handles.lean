import ThermalGovernor.Core.Identity
import ThermalGovernor.Lib.Slots

/-!
# Descriptors and the socket runtime

Every open socket, every open listener and every governor that was not shut down counts as a
user of the socket runtime, which is started for the first user and stopped behind the last.
A socket and a listener own a descriptor that they close once, also when it was moved from one
to another.

`accounted_after` : whatever is called, and whatever the system answers, the open descriptors are
those that an object holds, and the users are these and the governors.  So no descriptor is
lost or closed twice, and the runtime is not stopped under one that is open.
-/

namespace ThermalGovernor

open Lib

abbrev NativeSocket := Nat

/-- The users of the socket runtime of the process. -/
structure SocketRuntime where
  users : Nat := 0
  ready : Bool := false

namespace SocketRuntime

/-- A user comes; the first one starts the runtime, which answers with a code. -/
def ensure (r : SocketRuntime) (code : Int) : SocketRuntime × Status :=
  if r.users = 0 then
    if code ≠ 0 then
      (r, failure .transportIo ("WSAStartup failed with code " ++ toString code))
    else ({ users := r.users + 1, ready := true }, .ok ())
  else ({ r with users := r.users + 1 }, .ok ())

/-- A user leaves, if there is one; the last one stops the runtime. -/
def release (r : SocketRuntime) : SocketRuntime :=
  if r.users = 0 then r
  else { users := r.users - 1, ready := if r.users - 1 = 0 then false else r.ready }

end SocketRuntime

/-- The sockets and listeners of the process with what they hold, its governors with whether
they are shut down, and the descriptors that are open. -/
structure Transport where
  runtime : SocketRuntime := {}
  descriptors : Multiset NativeSocket := 0
  objects : List (Option NativeSocket) := []
  governors : List Bool := []

/-- What the system answers to a call that may fail with a code. -/
abbrev SystemResult (α : Type) := Except Int α

namespace Transport

variable (t : Transport)

def lastSocketError (what : String) (code : Int) : ThermalError :=
  ⟨.transportIo, what ++ " (errno " ++ toString code ++ ")"⟩

def openNative (socket : NativeSocket) : Transport :=
  { t with descriptors := socket ::ₘ t.descriptors }

def closeNative (socket : NativeSocket) : Transport :=
  { t with descriptors := t.descriptors.erase socket }

def release : Transport := { t with runtime := t.runtime.release }

/-- What a function does behind `SocketRuntime::ensure`. -/
def ensuring {α : Type} (code : Int) (next : Transport → Transport × Result α) :
    Transport × Result α :=
  match t.runtime.ensure code with
  | (r, .error e) => ({ t with runtime := r }, .error e)
  | (r, .ok _) => next { t with runtime := r }

/-- A new object with a descriptor. -/
def adopt (socket : NativeSocket) : Transport × Result Nat :=
  ({ t with objects := t.objects ++ [some socket] }, .ok t.objects.length)

/-! ### Sockets -/

/-- The addresses are tried in turn: the descriptor for each, and whether it connects. -/
def tryCandidates : List (Option NativeSocket × Bool) → Transport → Transport × Option NativeSocket
  | [], t => (t, none)
  | (none, _) :: rest, t => tryCandidates rest t
  | (some socket, connects) :: rest, t =>
    if connects then (t.openNative socket, some socket)
    else tryCandidates rest ((t.openNative socket).closeNative socket)

/-- The host resolves to the candidates, or does not. -/
def connectTo (host port : String) (code : Int)
    (resolved : Option (List (Option NativeSocket × Bool))) : Transport × Result Nat :=
  t.ensuring code fun t =>
    match resolved with
    | none => (t.release, failure .transportIo ("name resolution failed for " ++ host))
    | some candidates =>
      match tryCandidates candidates t with
      | (t, none) =>
        (t.release, failure .transportIo ("connection refused by " ++ host ++ ":" ++ port))
      | (t, some socket) => t.adopt socket

/-- A listener that fails behind its descriptor closes it. -/
def bindLoopback (code : Int) (socket : SystemResult NativeSocket)
    (bind listen getsockname : SystemResult Unit) : Transport × Result Nat :=
  t.ensuring code fun t =>
    match socket with
    | .error code => (t.release, .error (lastSocketError "listener socket creation failed" code))
    | .ok socket =>
      let t := t.openNative socket
      let abandon (what : String) (code : Int) : Transport × Result Nat :=
        ((t.closeNative socket).release, .error (lastSocketError what code))
      match bind, listen, getsockname with
      | .error code, _, _ => abandon "listener bind failed" code
      | .ok _, .error code, _ => abandon "listener listen failed" code
      | .ok _, .ok _, .error code => abandon "listener getsockname failed" code
      | .ok _, .ok _, .ok _ => t.adopt socket

/-- What the last round of the poll brings; the rounds before it find nothing ready and change
nothing.  A connection that is accepted has a reference of its own to the runtime. -/
def acceptOne (listener : Nat) (stopped : Bool) (select : SystemResult Unit)
    (accepted : SystemResult NativeSocket) (code : Int) : Transport × Result Nat :=
  match t.objects[listener]? with
  | some (some _) =>
    if stopped then
      (t, failure .transportClosed "listener stopped by the cooperative stop flag")
    else
      match select, accepted with
      | .error code, _ => (t, .error (lastSocketError "listener select failed" code))
      | .ok _, .error code => (t, .error (lastSocketError "listener accept failed" code))
      | .ok _, .ok socket =>
        let t := t.openNative socket
        match t.runtime.ensure code with
        | (r, .error e) => ({ t with runtime := r }.closeNative socket, .error e)
        | (r, .ok _) => { t with runtime := r }.adopt socket
  | _ => (t, failure .transportClosed "listener is closed")

/-- An object that holds no descriptor is closed already. -/
def close (object : Nat) : Transport :=
  match t.objects[object]? with
  | some (some socket) =>
    { t.closeNative socket with objects := t.objects.set object none }.release
  | _ => t

/-- A new object that holds nothing. -/
def newObject : Transport := { t with objects := t.objects ++ [none] }

/-- A new object takes the descriptor of another one. -/
def moveNew (other : Nat) : Transport :=
  match t.objects[other]? with
  | some slot => { t with objects := t.objects.set other none ++ [slot] }
  | none => t

/-- An object takes the descriptor of another one, and closes its own first. -/
def moveInto (object other : Nat) : Transport :=
  if object = other then t
  else
    let t := t.close object
    match t.objects[object]?, t.objects[other]? with
    | some _, some slot => { t with objects := (t.objects.set object slot).set other none }
    | _, _ => t

/-! ### Governors -/

/-- What `ThermalGovernor::create` does about the runtime. -/
def createGovernor (code : Int) : Transport × Result Nat :=
  match t.runtime.ensure code with
  | (r, .error _) =>
    ({ t with runtime := r }, failure .transportIo "socket runtime initialisation failed")
  | (r, .ok _) =>
    ({ t with runtime := r, governors := t.governors ++ [false] }, .ok t.governors.length)

/-- What `ThermalGovernor::shutdown` does about it. -/
def shutdownGovernor (governor : Nat) : Transport :=
  match t.governors[governor]? with
  | some false => { t with governors := t.governors.set governor true }.release
  | _ => t

/-! ### What is accounted for -/

/-- The descriptors are those that objects hold, and loose ones that a function has in hand; the
users are the objects, the governors, and the references that a function has in hand. -/
structure Holds (loose : Multiset NativeSocket) (references : Nat) : Prop where
  descriptors : t.descriptors = contents t.objects + loose
  users : t.runtime.users = (contents t.objects).card + t.governors.count false + references
  ready : t.runtime.ready = true ↔ 0 < t.runtime.users

variable {t} {loose : Multiset NativeSocket} {n : Nat} {code : Int} {socket : NativeSocket}

theorem Holds.ensure (h : t.Holds loose n) :
    (∃ e, t.runtime.ensure code = (t.runtime, .error e)) ∨
      ∃ r, t.runtime.ensure code = (r, .ok ()) ∧ { t with runtime := r }.Holds loose (n + 1) := by
  have hcount : t.runtime.users + 1 =
      (contents t.objects).card + t.governors.count false + (n + 1) := by
    rw [h.users]
    omega
  unfold SocketRuntime.ensure
  by_cases hfirst : t.runtime.users = 0
  · by_cases hcode : code ≠ 0
    · left
      rw [if_pos hfirst, if_pos hcode]
      exact ⟨_, rfl⟩
    · right
      rw [if_pos hfirst, if_neg hcode]
      exact ⟨_, rfl, h.descriptors, hcount, iff_of_true rfl (Nat.succ_pos _)⟩
  · right
    rw [if_neg hfirst]
    refine ⟨_, rfl, h.descriptors, hcount, ?_⟩
    exact iff_of_true (h.ready.mpr (Nat.pos_of_ne_zero hfirst)) (Nat.succ_pos _)

theorem Holds.release (h : t.Holds loose (n + 1)) : t.release.Holds loose n := by
  have husers := h.users
  have hsome : t.runtime.users ≠ 0 := by omega
  have hrelease : t.runtime.release =
      { users := t.runtime.users - 1
        ready := if t.runtime.users - 1 = 0 then false else t.runtime.ready } := by
    unfold SocketRuntime.release
    rw [if_neg hsome]
  refine ⟨h.descriptors, ?_, ?_⟩
  · show t.runtime.release.users = _
    rw [hrelease]
    show t.runtime.users - 1 = (contents t.objects).card + t.governors.count false + n
    omega
  · show t.runtime.release.ready = true ↔ 0 < t.runtime.release.users
    rw [hrelease]
    by_cases hlast : t.runtime.users - 1 = 0
    · simp [hlast]
    · simp only [if_neg hlast]
      exact iff_of_true (h.ready.mpr (Nat.pos_of_ne_zero hsome)) (Nat.pos_of_ne_zero hlast)

theorem Holds.openNative (h : t.Holds loose n) (socket : NativeSocket) :
    (t.openNative socket).Holds (socket ::ₘ loose) n where
  descriptors := by
    show socket ::ₘ t.descriptors = _
    rw [h.descriptors, Multiset.add_cons]
    rfl
  users := h.users
  ready := h.ready

theorem Holds.closeNative (h : t.Holds (socket ::ₘ loose) n) :
    (t.closeNative socket).Holds loose n where
  descriptors := by
    show t.descriptors.erase socket = _
    rw [h.descriptors, Multiset.add_cons, Multiset.erase_cons_head]
    rfl
  users := h.users
  ready := h.ready

theorem Holds.adopt (h : t.Holds (socket ::ₘ loose) (n + 1)) :
    (t.adopt socket).1.Holds loose n := by
  have hheld : contents (t.objects ++ [some socket]) = socket ::ₘ contents t.objects := by
    rw [contents_append, add_comm]
    rfl
  refine ⟨?_, ?_, h.ready⟩
  · show t.descriptors = contents (t.objects ++ [some socket]) + loose
    rw [hheld, h.descriptors, Multiset.add_cons, Multiset.cons_add]
  · show t.runtime.users =
      (contents (t.objects ++ [some socket])).card + t.governors.count false + n
    rw [hheld, Multiset.card_cons, h.users]
    omega

/-- The descriptor of an object is taken in hand. -/
theorem Holds.take {object : Nat} (h : t.Holds loose n)
    (hslot : t.objects[object]? = some (some socket)) :
    { t with objects := t.objects.set object none }.Holds (socket ::ₘ loose) (n + 1) where
  descriptors := by
    show t.descriptors = contents (t.objects.set object none) + socket ::ₘ loose
    rw [h.descriptors, contents_take hslot, Multiset.add_cons, Multiset.cons_add]
  users := by
    show t.runtime.users =
      (contents (t.objects.set object none)).card + t.governors.count false + (n + 1)
    rw [h.users, contents_take hslot, Multiset.card_cons]
    omega
  ready := h.ready

/-- An object that holds nothing is given a descriptor. -/
theorem Holds.put {object : Nat} (h : t.Holds (socket ::ₘ loose) (n + 1))
    (hslot : t.objects[object]? = some none) :
    { t with objects := t.objects.set object (some socket) }.Holds loose n where
  descriptors := by
    show t.descriptors = contents (t.objects.set object (some socket)) + loose
    rw [h.descriptors, contents_put hslot, Multiset.add_cons, Multiset.cons_add]
  users := by
    show t.runtime.users =
      (contents (t.objects.set object (some socket))).card + t.governors.count false + n
    rw [h.users, contents_put hslot, Multiset.card_cons]
    omega
  ready := h.ready

/-! ### What the functions keep -/

theorem Holds.ensuring {α : Type} {next : Transport → Transport × Result α}
    (h : t.Holds loose n) (hnext : ∀ t', t'.Holds loose (n + 1) → (next t').1.Holds loose n) :
    (t.ensuring code next).1.Holds loose n := by
  unfold Transport.ensuring
  rcases @Holds.ensure t loose n code h with ⟨e, hensure⟩ | ⟨r, hensure, hholds⟩
  · rw [hensure]
    exact h
  · rw [hensure]
    exact hnext _ hholds

theorem Holds.tryCandidates (candidates : List (Option NativeSocket × Bool))
    (h : t.Holds loose n) :
    (tryCandidates candidates t).1.Holds
      ((Transport.tryCandidates candidates t).2.elim loose (· ::ₘ loose)) n := by
  induction candidates generalizing t with
  | nil => exact h
  | cons candidate rest ih =>
    obtain ⟨candidate, connects⟩ := candidate
    cases candidate with
    | none => exact ih h
    | some socket =>
      unfold Transport.tryCandidates
      by_cases hconnects : connects = true
      · rw [if_pos hconnects]
        exact h.openNative socket
      · rw [if_neg hconnects]
        exact ih (h.openNative socket).closeNative

theorem Holds.connectTo {host port : String}
    {resolved : Option (List (Option NativeSocket × Bool))} (h : t.Holds loose n) :
    (t.connectTo host port code resolved).1.Holds loose n := by
  refine h.ensuring fun t' h' => ?_
  cases resolved with
  | none => exact h'.release
  | some candidates =>
    have htried := h'.tryCandidates candidates
    dsimp only
    rcases htry : Transport.tryCandidates candidates t' with ⟨t'', found⟩
    rw [htry] at htried
    cases found with
    | none => exact Holds.release htried
    | some socket => exact Holds.adopt htried

theorem Holds.bindLoopback {socket : SystemResult NativeSocket}
    {bind listen getsockname : SystemResult Unit} (h : t.Holds loose n) :
    (t.bindLoopback code socket bind listen getsockname).1.Holds loose n := by
  refine h.ensuring fun t' h' => ?_
  cases socket with
  | error code => exact h'.release
  | ok socket =>
    have habandon := (h'.openNative socket).closeNative.release
    cases bind with
    | error code => exact habandon
    | ok _ =>
      cases listen with
      | error code => exact habandon
      | ok _ =>
        cases getsockname with
        | error code => exact habandon
        | ok _ => exact (h'.openNative socket).adopt

theorem Holds.acceptOne {listener : Nat} {stopped : Bool} {select : SystemResult Unit}
    {accepted : SystemResult NativeSocket} (h : t.Holds loose n) :
    (t.acceptOne listener stopped select accepted code).1.Holds loose n := by
  unfold Transport.acceptOne
  split
  · split
    · exact h
    · split
      · exact h
      · exact h
      · rename_i socket
        rcases @Holds.ensure _ _ n code (h.openNative socket) with ⟨e, hensure⟩ | ⟨r, hensure, hr⟩
        · simp only [hensure]
          exact (h.openNative socket).closeNative
        · simp only [hensure]
          exact hr.adopt
  · exact h

theorem Holds.close {object : Nat} (h : t.Holds loose n) : (t.close object).Holds loose n := by
  unfold Transport.close
  split
  · rename_i socket hslot
    exact (h.take hslot).closeNative.release
  · exact h

theorem Holds.newObject (h : t.Holds loose n) : t.newObject.Holds loose n := by
  have hheld : contents (t.objects ++ [none]) = contents t.objects :=
    (contents_append t.objects none).trans (add_zero _)
  refine ⟨?_, ?_, h.ready⟩
  · show t.descriptors = contents (t.objects ++ [none]) + loose
    rw [hheld, h.descriptors]
  · show t.runtime.users = (contents (t.objects ++ [none])).card + t.governors.count false + n
    rw [hheld, h.users]

theorem Holds.moveNew {other : Nat} (h : t.Holds loose n) : (t.moveNew other).Holds loose n := by
  unfold Transport.moveNew
  split
  · rename_i slot hslot
    cases slot with
    | none =>
      rw [set_of_getElem? hslot]
      exact h.newObject
    | some socket => exact (h.take hslot).adopt
  · exact h

/-- An object that was closed, if there is one, holds nothing. -/
theorem getElem?_close {object : Nat} {slot : Option NativeSocket}
    (h : (t.close object).objects[object]? = some slot) : slot = none := by
  unfold Transport.close at h
  split at h
  · rename_i socket hslot
    have hlength := (List.getElem?_eq_some_iff.mp hslot).1
    have hset : (t.objects.set object none)[object]? = some slot := h
    rw [List.getElem?_set_self hlength] at hset
    exact (Option.some.inj hset).symm
  · rename_i hopen
    cases slot with
    | none => rfl
    | some socket => exact absurd h (hopen socket)

theorem Holds.moveInto {object other : Nat} (h : t.Holds loose n) :
    (t.moveInto object other).Holds loose n := by
  unfold Transport.moveInto
  by_cases hself : object = other
  · rw [if_pos hself]
    exact h
  · rw [if_neg hself]
    have hclosed : (t.close object).Holds loose n := h.close
    have hempty := fun slot => @getElem?_close t object slot
    generalize t.close object = t' at hclosed hempty
    dsimp only
    split
    · rename_i slot' slot hobject hother
      obtain rfl := hempty slot' hobject
      rw [List.set_comm _ _ hself]
      have hstays : (t'.objects.set other none)[object]? = some none := by
        rw [List.getElem?_set_ne (Ne.symm hself)]
        exact hobject
      cases slot with
      | none =>
        rw [set_of_getElem? hother, set_of_getElem? hobject]
        exact hclosed
      | some socket => exact (hclosed.take hother).put hstays
    · exact hclosed

theorem Holds.createGovernor (h : t.Holds loose n) :
    (t.createGovernor code).1.Holds loose n := by
  unfold Transport.createGovernor
  rcases @Holds.ensure t loose n code h with ⟨e, hensure⟩ | ⟨r, hensure, hr⟩
  · rw [hensure]
    exact h
  · rw [hensure]
    refine ⟨hr.descriptors, ?_, hr.ready⟩
    have husers : r.users = (contents t.objects).card + t.governors.count false + (n + 1) :=
      hr.users
    show r.users = (contents t.objects).card + (t.governors ++ [false]).count false + n
    rw [List.count_append, husers]
    simp
    omega

theorem Holds.shutdownGovernor {governor : Nat} (h : t.Holds loose n) :
    (t.shutdownGovernor governor).Holds loose n := by
  unfold Transport.shutdownGovernor
  split
  · rename_i hrunning
    refine Holds.release ⟨h.descriptors, ?_, h.ready⟩
    obtain ⟨hlength, hgovernor⟩ := List.getElem?_eq_some_iff.mp hrunning
    have hcount : 0 < t.governors.count false :=
      List.count_pos_iff.mpr (hgovernor ▸ List.getElem_mem hlength)
    show t.runtime.users =
      (contents t.objects).card + (t.governors.set governor true).count false + (n + 1)
    rw [h.users, List.count_set hlength, hgovernor]
    simp
    omega
  · exact h

/-! ### Runs of calls -/

/-- A call of the process, with what the system answers. -/
inductive Call
  | connectTo (host port : String) (code : Int)
      (resolved : Option (List (Option NativeSocket × Bool)))
  | bindLoopback (code : Int) (socket : SystemResult NativeSocket)
      (bind listen getsockname : SystemResult Unit)
  | acceptOne (listener : Nat) (stopped : Bool) (select : SystemResult Unit)
      (accepted : SystemResult NativeSocket) (code : Int)
  | close (object : Nat)
  | newObject
  | moveNew (other : Nat)
  | moveInto (object other : Nat)
  | createGovernor (code : Int)
  | shutdownGovernor (governor : Nat)

def apply (t : Transport) : Call → Transport
  | .connectTo host port code resolved => (t.connectTo host port code resolved).1
  | .bindLoopback code socket bind listen getsockname =>
    (t.bindLoopback code socket bind listen getsockname).1
  | .acceptOne listener stopped select accepted code =>
    (t.acceptOne listener stopped select accepted code).1
  | .close object => t.close object
  | .newObject => t.newObject
  | .moveNew other => t.moveNew other
  | .moveInto object other => t.moveInto object other
  | .createGovernor code => (t.createGovernor code).1
  | .shutdownGovernor governor => t.shutdownGovernor governor

/-- The process after these calls. -/
def after (calls : List Call) : Transport := calls.foldl apply {}

/-- **A call accounts for what it opens and closes.** -/
theorem holds_apply (h : t.Holds loose n) (call : Call) : (t.apply call).Holds loose n := by
  cases call with
  | connectTo host port code resolved => exact h.connectTo
  | bindLoopback code socket bind listen getsockname => exact h.bindLoopback
  | acceptOne listener stopped select accepted code => exact h.acceptOne
  | close object => exact h.close
  | newObject => exact h.newObject
  | moveNew other => exact h.moveNew
  | moveInto object other => exact h.moveInto
  | createGovernor code => exact h.createGovernor
  | shutdownGovernor governor => exact h.shutdownGovernor

theorem holds_foldl (h : t.Holds loose n) (calls : List Call) :
    (calls.foldl apply t).Holds loose n := by
  induction calls generalizing t with
  | nil => exact h
  | cons call rest ih => exact ih (holds_apply h call)

/-- **Every descriptor that is open is held by one object, and the runtime has a user for each of
them and for each governor that was not shut down**, whatever the system answers. -/
theorem accounted_after (calls : List Call) :
    (after calls).descriptors = contents (after calls).objects ∧
      (after calls).runtime.users =
        (after calls).descriptors.card + (after calls).governors.count false ∧
      ((after calls).runtime.ready = true ↔ 0 < (after calls).runtime.users) := by
  have hnew : ({} : Transport).Holds 0 0 := ⟨rfl, rfl, iff_of_false (by simp) (by simp)⟩
  have hholds : (after calls).Holds 0 0 := holds_foldl hnew calls
  have hdescriptors := hholds.descriptors
  rw [add_zero] at hdescriptors
  refine ⟨hdescriptors, ?_, hholds.ready⟩
  rw [hdescriptors]
  exact hholds.users

end Transport

end ThermalGovernor
