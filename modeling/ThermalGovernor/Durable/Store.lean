import ThermalGovernor.Durable.RoundTrip

/-!
# The durable store

A call of `save` writes a scratch file beside the durable one and renames it over it.  The gate
of the path lets one call at a time do so; the system may refuse every step, and the process
may end between any two of them and start again.

`whole_after` : whatever is saved by whichever calls, the durable file is the one that was found
or the whole container of the state that was renamed into place last, and a call that returns
well has done so.  No other file is touched but scratch files.  `load_of_completed` says what
is then loaded.
-/

namespace ThermalGovernor

open Lib Lib.Bytes

/-- The files of the host by their names. -/
abbrev Files := String → Option Bytes

namespace Files

def write (files : Files) (name : String) (content : Bytes) : Files :=
  fun other => if other = name then some content else files other

def remove (files : Files) (name : String) : Files :=
  fun other => if other = name then none else files other

/-- A file takes the place of another one. -/
def rename (files : Files) (source target : String) : Option Files :=
  (files source).map fun content => (files.remove source).write target content

variable {files : Files} {name other : String} {content : Bytes}

theorem write_self : files.write name content name = some content :=
  if_pos rfl

theorem write_of_ne (h : other ≠ name) : files.write name content other = files other :=
  if_neg h

theorem remove_of_ne (h : other ≠ name) : files.remove name other = files other :=
  if_neg h

end Files

/-- A scratch file beside the durable one.  The source counts its saves for this. -/
def uniqueTemporaryPath (base : String) (index : Nat) : String :=
  base ++ ".tmp-" ++ toString index

theorem uniqueTemporaryPath_ne (base : String) (index : Nat) :
    uniqueTemporaryPath base index ≠ base := by
  intro h
  have hlength := congrArg String.length h
  rw [uniqueTemporaryPath, String.length_append, String.length_append] at hlength
  have hmark : ".tmp-".length = 5 := rfl
  omega

/-- Where a call of `save` stands. -/
inductive SaveStage
  /-- It waits for the gate of its path. -/
  | waiting
  | gated
  | writing (temp : String) (written : Nat)
  /-- The scratch file is written and closed. -/
  | closed (temp : String)
  | returned (status : Status)

/-- It holds the gate. -/
def SaveStage.Holds : SaveStage → Prop
  | .gated | .writing _ _ | .closed _ => True
  | .waiting | .returned _ => False

/-- A call of `save`, with the bytes that its state was encoded to. -/
structure Saver where
  state : DurableState Double
  bytes : Bytes
  stage : SaveStage

/-- The files and the calls of a process, and the states that were renamed into place, by this
process or one before it, the last one first. -/
structure Disk where
  files : Files
  counter : Nat := 0
  gate : Option Nat := none
  savers : List Saver := []
  completed : List (DurableState Double) := []

namespace Disk

variable (d : Disk)

def move (i : Nat) (s : Saver) (stage : SaveStage) : Disk :=
  { d with savers := d.savers.set i { s with stage := stage } }

/-- A call returns and leaves the gate. -/
def returns (i : Nat) (s : Saver) (status : Status) : Disk :=
  { d.move i s (.returned status) with gate := none }

end Disk

structure DurableStore where
  path : String
  limits : PersistenceLimits := {}

/-- What happens to a store: a call begins or goes on, which the system lets it do or not, with
so many bytes at a time; a store of another path takes a number; the process starts again. -/
inductive StoreEvent
  | save (state : DurableState Double)
  | proceed (saver : Nat) (succeeds : Bool) (chunk : Nat)
  | elsewhere
  | crash

namespace DurableStore

variable (store : DurableStore)

/-- What `save` does before it takes the gate. -/
def prepare (state : DurableState Double) : Result Bytes :=
  if store.path.isEmpty then failure .invalidArgument "durable path is empty"
  else Durable.encodeDurableBytes state store.limits

/-- The next step of a call of `save`. -/
def proceed (d : Disk) (i : Nat) (s : Saver) (succeeds : Bool) (chunk : Nat) : Disk :=
  match s.stage with
  | .waiting => if d.gate = none then { d.move i s .gated with gate := some i } else d
  | .gated =>
    let index := (d.counter + 1) % 2 ^ 64
    let temp := uniqueTemporaryPath store.path index
    if succeeds then
      { d with counter := index, files := d.files.write temp [] }.move i s (.writing temp 0)
    else
      { d with counter := index }.returns i s
        (failure .persistenceIo "cannot create temporary file")
  | .writing temp written =>
    if succeeds then
      { d with files := d.files.write temp (s.bytes.take (written + chunk)) }.move i s
        (if written + chunk < s.bytes.length then .writing temp (written + chunk)
        else .closed temp)
    else
      { d with files := d.files.remove temp }.returns i s
        (failure .persistenceIo "durable write failed")
  | .closed temp =>
    match if succeeds then d.files.rename temp store.path else none with
    | some files =>
      { d with files := files, completed := s.state :: d.completed }.returns i s (.ok ())
    | none =>
      { d with files := d.files.remove temp }.returns i s (failure .persistenceIo "rename failed")
  | .returned _ => d

def step (d : Disk) : StoreEvent → Disk
  | .save state =>
    match store.prepare state with
    | .ok bytes => { d with savers := d.savers ++ [⟨state, bytes, .waiting⟩] }
    | .error e => { d with savers := d.savers ++ [⟨state, [], .returned (.error e)⟩] }
  | .proceed saver succeeds chunk =>
    match d.savers[saver]? with
    | some s => store.proceed d saver s succeeds chunk
    | none => d
  | .elsewhere => { d with counter := (d.counter + 1) % 2 ^ 64 }
  | .crash => { d with counter := 0, gate := none, savers := [] }

/-- The store after these events, from the files that it found. -/
def after (found : Files) (events : List StoreEvent) : Disk :=
  events.foldl store.step { files := found }

def load (files : Files) : Result Durable.PersistenceLoadResult :=
  if store.path.isEmpty then failure .invalidArgument "durable path is empty"
  else
    match files store.path with
    | none => failure .persistenceIo "durable file is not readable"
    | some bytes =>
      if store.limits.maxFileBytes < bytes.length then
        failure .persistenceCorrupt "durable file exceeds the configured bound"
      else Durable.decodeDurableBytes bytes store.limits

/-- **What is loaded is what is decoded.**  The decoder has the same bound. -/
theorem load_eq_ok {store : DurableStore} {files : Files} {bytes : Bytes}
    {result : Durable.PersistenceLoadResult} (hpath : store.path.isEmpty = false)
    (hfile : files store.path = some bytes) :
    store.load files = .ok result ↔ Durable.decodeDurableBytes bytes store.limits = .ok result := by
  rw [load, hpath, hfile]
  dsimp only
  rw [if_neg Bool.false_ne_true]
  by_cases hlarge : store.limits.maxFileBytes < bytes.length
  · rw [if_pos hlarge, Durable.decodeDurableBytes, if_pos hlarge]
    exact iff_of_false (fun h => by cases h) fun h => by cases h
  · rw [if_neg hlarge]

theorem prepare_eq_ok {store : DurableStore} {state : DurableState Double} {bytes : Bytes}
    (h : store.prepare state = .ok bytes) :
    store.path.isEmpty = false ∧ Durable.encodeDurableBytes state store.limits = .ok bytes := by
  rw [prepare] at h
  cases hpath : store.path.isEmpty with
  | true =>
    rw [hpath] at h
    cases h
  | false =>
    rw [hpath] at h
    exact ⟨rfl, h⟩

/-! ### Where the calls stand -/

variable {store} {found files files' : Files} {completed completed' : List (DurableState Double)}
  {d d' : Disk} {s s' : Saver} {i : Nat}

/-- The scratch file of a call that holds the gate is what it has written, and a call that
returned well has renamed it into place. -/
def At (store : DurableStore) (files : Files) (completed : List (DurableState Double))
    (s : Saver) : Prop :=
  match s.stage with
  | .waiting | .gated => store.prepare s.state = .ok s.bytes
  | .writing temp _ =>
    store.prepare s.state = .ok s.bytes ∧ ∃ index, temp = uniqueTemporaryPath store.path index
  | .closed temp =>
    store.prepare s.state = .ok s.bytes ∧ files temp = some s.bytes ∧
      ∃ index, temp = uniqueTemporaryPath store.path index
  | .returned (.ok _) => s.state ∈ completed
  | .returned (.error _) => True

/-- What the others do leaves a call where it is that does not hold the gate. -/
theorem At.other (h : store.At files completed s) (hfree : ¬ s.stage.Holds)
    (hgrow : completed ⊆ completed') : store.At files' completed' s := by
  obtain ⟨state, bytes, stage⟩ := s
  cases stage with
  | waiting => exact h
  | gated => exact absurd trivial hfree
  | writing temp written => exact absurd trivial hfree
  | closed temp => exact absurd trivial hfree
  | returned status =>
    cases status with
    | ok _ => exact hgrow h
    | error e => exact trivial

/-- The durable file, if these states were renamed into place. -/
def lastSaved (store : DurableStore) (found : Files) :
    List (DurableState Double) → Option Bytes
  | [] => found store.path
  | state :: _ => (store.prepare state).toOption

/-- A file that is neither the durable one nor a scratch file. -/
def Elsewhere (store : DurableStore) (name : String) : Prop :=
  name ≠ store.path ∧ ∀ index, name ≠ uniqueTemporaryPath store.path index

structure Sound (store : DurableStore) (found : Files) (d : Disk) : Prop where
  file : d.files store.path = store.lastSaved found d.completed
  encoded : ∀ state ∈ d.completed, ∃ bytes, store.prepare state = .ok bytes
  others : ∀ name, store.Elsewhere name → d.files name = found name
  savers : ∀ (i : Nat) (s : Saver), d.savers[i]? = some s → store.At d.files d.completed s
  gate : ∀ (i : Nat) (s : Saver), d.savers[i]? = some s → s.stage.Holds → d.gate = some i

theorem sound_start (found : Files) : store.Sound found { files := found } where
  file := rfl
  encoded state hstate := by cases hstate
  others name _ := rfl
  savers i s hs := by cases hs
  gate i s hs := by cases hs

/-- No call but this one holds the gate. -/
def Alone (d : Disk) (i : Nat) : Prop :=
  ∀ (j : Nat) (s : Saver), d.savers[j]? = some s → s.stage.Holds → j = i

theorem Sound.alone_of_holds (h : store.Sound found d) (hs : d.savers[i]? = some s)
    (hholds : s.stage.Holds) : Alone d i := by
  intro j s' hs' hholds'
  have hgate := h.gate j s' hs' hholds'
  rw [h.gate i s hs hholds] at hgate
  exact (Option.some.inj hgate).symm

theorem Sound.alone_of_open (h : store.Sound found d) (hopen : d.gate = none) : Alone d i := by
  intro j s' hs' hholds'
  have hgate := h.gate j s' hs' hholds'
  rw [hopen] at hgate
  cases hgate

/-- **A call goes on while no other one holds the gate.** -/
theorem Sound.replace (h : store.Sound found d) (halone : Alone d i)
    (hsavers : d'.savers = d.savers.set i s')
    (hfile : d'.files store.path = store.lastSaved found d'.completed)
    (hencoded : ∀ state ∈ d'.completed, ∃ bytes, store.prepare state = .ok bytes)
    (hothers : ∀ name, store.Elsewhere name → d'.files name = d.files name)
    (hgrow : d.completed ⊆ d'.completed) (hat : store.At d'.files d'.completed s')
    (hgate : s'.stage.Holds → d'.gate = some i) : store.Sound found d' := by
  -- the call itself, or another one, which holds nothing
  have hcases : ∀ (j : Nat) (s₁ : Saver), d'.savers[j]? = some s₁ →
      (j = i ∧ s₁ = s') ∨ (¬ s₁.stage.Holds ∧ store.At d'.files d'.completed s₁) := by
    intro j s₁ hs₁
    rw [hsavers] at hs₁
    by_cases hj : j = i
    · left
      subst hj
      have hlength : j < d.savers.length := by
        have hlt := (List.getElem?_eq_some_iff.mp hs₁).1
        rwa [List.length_set] at hlt
      rw [List.getElem?_set_self hlength] at hs₁
      exact ⟨rfl, (Option.some.inj hs₁).symm⟩
    · right
      rw [List.getElem?_set_ne (Ne.symm hj)] at hs₁
      have hfree : ¬ s₁.stage.Holds := fun hholds => hj (halone j s₁ hs₁ hholds)
      exact ⟨hfree, (h.savers j s₁ hs₁).other hfree hgrow⟩
  refine ⟨hfile, hencoded, fun name hname => (hothers name hname).trans (h.others name hname),
    fun j s₁ hs₁ => ?_, fun j s₁ hs₁ hholds => ?_⟩
  · rcases hcases j s₁ hs₁ with ⟨-, rfl⟩ | ⟨-, hat₁⟩
    · exact hat
    · exact hat₁
  · rcases hcases j s₁ hs₁ with ⟨rfl, rfl⟩ | ⟨hfree, -⟩
    · exact hgate hholds
    · exact absurd hholds hfree

/-- The files of a call that only touches its scratch file. -/
structure Scratch (store : DurableStore) (files files' : Files) : Prop where
  file : files' store.path = files store.path
  others : ∀ name, store.Elsewhere name → files' name = files name

theorem scratch_write (index : Nat) (content : Bytes) :
    store.Scratch files (files.write (uniqueTemporaryPath store.path index) content) where
  file := Files.write_of_ne (uniqueTemporaryPath_ne store.path index).symm
  others _ hname := Files.write_of_ne (hname.2 index)

theorem scratch_remove (index : Nat) :
    store.Scratch files (files.remove (uniqueTemporaryPath store.path index)) where
  file := Files.remove_of_ne (uniqueTemporaryPath_ne store.path index).symm
  others _ hname := Files.remove_of_ne (hname.2 index)

/-- **A call that only touches its scratch file goes on.** -/
theorem Sound.scratch (h : store.Sound found d) (halone : Alone d i)
    (hsavers : d'.savers = d.savers.set i s') (hcompleted : d'.completed = d.completed)
    (hfiles : store.Scratch d.files d'.files) (hat : store.At d'.files d'.completed s')
    (hgate : s'.stage.Holds → d'.gate = some i) : store.Sound found d' := by
  refine h.replace halone hsavers ?_ ?_ hfiles.others ?_ hat hgate
  · rw [hcompleted, hfiles.file]
    exact h.file
  · rw [hcompleted]
    exact h.encoded
  · rw [hcompleted]
    exact List.Subset.refl _

theorem Sound.proceed (h : store.Sound found d) (hs : d.savers[i]? = some s)
    (succeeds : Bool) (chunk : Nat) :
    store.Sound found (store.proceed d i s succeeds chunk) := by
  have hat := h.savers i s hs
  have hholds := h.gate i s hs
  obtain ⟨state, bytes, stage⟩ := s
  cases stage with
  | waiting =>
    by_cases hopen : d.gate = none
    · rw [DurableStore.proceed]
      dsimp only
      rw [if_pos hopen]
      exact h.scratch (h.alone_of_open hopen) rfl rfl ⟨rfl, fun _ _ => rfl⟩ hat fun _ => rfl
    · rw [DurableStore.proceed]
      dsimp only
      rw [if_neg hopen]
      exact h
  | gated =>
    have halone := h.alone_of_holds hs trivial
    cases succeeds with
    | true =>
      exact h.scratch halone rfl rfl (scratch_write _ _) ⟨hat, _, rfl⟩
        fun _ => hholds trivial
    | false => exact h.scratch halone rfl rfl ⟨rfl, fun _ _ => rfl⟩ trivial fun h => h.elim
  | writing temp written =>
    have halone := h.alone_of_holds hs trivial
    obtain ⟨hprepare, index, rfl⟩ := hat
    cases succeeds with
    | true =>
      refine h.scratch halone rfl rfl (scratch_write index _) ?_ fun _ => hholds trivial
      by_cases hmore : written + chunk < bytes.length
      · rw [if_pos hmore]
        exact ⟨hprepare, index, rfl⟩
      · rw [if_neg hmore]
        refine ⟨hprepare, ?_, index, rfl⟩
        refine Files.write_self.trans ?_
        rw [List.take_of_length_le (Nat.le_of_not_lt hmore)]
    | false => exact h.scratch halone rfl rfl (scratch_remove index) trivial fun h => h.elim
  | closed temp =>
    have halone := h.alone_of_holds hs trivial
    obtain ⟨hprepare, htemp, index, rfl⟩ := hat
    cases succeeds with
    | true =>
      have hrename : d.files.rename (uniqueTemporaryPath store.path index) store.path =
          some ((d.files.remove (uniqueTemporaryPath store.path index)).write
            store.path bytes) := by
        rw [Files.rename, htemp]
        rfl
      rw [DurableStore.proceed]
      dsimp only
      rw [if_pos rfl, hrename]
      refine h.replace halone rfl ?_ ?_ ?_ (List.subset_cons_self _ _) List.mem_cons_self
        fun h => h.elim
      · refine Files.write_self.trans ?_
        show some bytes = (store.prepare state).toOption
        rw [hprepare]
        rfl
      · intro saved hsaved
        rcases List.mem_cons.mp hsaved with rfl | hold
        · exact ⟨bytes, hprepare⟩
        · exact h.encoded saved hold
      · intro name hname
        refine (Files.write_of_ne hname.1).trans ?_
        exact (scratch_remove index).others name hname
    | false => exact h.scratch halone rfl rfl (scratch_remove index) trivial fun h => h.elim
  | returned status => exact h

/-- A call begins behind the others. -/
theorem Sound.append (h : store.Sound found d) (hfree : ¬ s.stage.Holds)
    (hat : store.At d.files d.completed s) :
    store.Sound found { d with savers := d.savers ++ [s] } := by
  have hcases : ∀ (j : Nat) (s₁ : Saver), (d.savers ++ [s])[j]? = some s₁ →
      d.savers[j]? = some s₁ ∨ s₁ = s := by
    intro j s₁ hs₁
    rw [List.getElem?_append] at hs₁
    split at hs₁
    · exact .inl hs₁
    · exact .inr (List.mem_singleton.mp (List.mem_of_getElem? hs₁))
  refine ⟨h.file, h.encoded, h.others, fun j s₁ hs₁ => ?_, fun j s₁ hs₁ hholds => ?_⟩
  · rcases hcases j s₁ hs₁ with hold | rfl
    · exact h.savers j s₁ hold
    · exact hat
  · rcases hcases j s₁ hs₁ with hold | rfl
    · exact h.gate j s₁ hold hholds
    · exact absurd hholds hfree

/-- **Every event keeps the store sound.** -/
theorem Sound.step (h : store.Sound found d) (event : StoreEvent) :
    store.Sound found (store.step d event) := by
  cases event with
  | save state =>
    rw [DurableStore.step]
    cases hprepare : store.prepare state with
    | ok bytes => exact h.append id hprepare
    | error e => exact h.append id trivial
  | proceed saver succeeds chunk =>
    rw [DurableStore.step]
    cases hs : d.savers[saver]? with
    | none => exact h
    | some s => exact h.proceed hs succeeds chunk
  | elsewhere => exact ⟨h.file, h.encoded, h.others, h.savers, h.gate⟩
  | crash =>
    refine ⟨h.file, h.encoded, h.others, fun j s hs => ?_, fun j s hs => ?_⟩
    · cases hs
    · cases hs

theorem sound_after (found : Files) (events : List StoreEvent) :
    store.Sound found (store.after found events) := by
  have hrun : ∀ d, store.Sound found d → store.Sound found (events.foldl store.step d) := by
    induction events with
    | nil => exact fun d h => h
    | cons event rest ih => exact fun d h => ih _ (h.step event)
  exact hrun _ (sound_start found)

/-- **A state that was renamed into place is loaded back** exactly when it is within the bounds
of the reader, and then it is the same but for what a file does not carry. -/
theorem load_of_completed {events : List StoreEvent} {state : DurableState Double}
    {rest : List (DurableState Double)} {result : Durable.PersistenceLoadResult}
    (hcompleted : (store.after found events).completed = state :: rest)
    (hstorable : Durable.Storable state) :
    store.load (store.after found events).files = .ok result ↔
      ((Durable.entries state).length ≤ store.limits.maxRecords ∧
        (Durable.container state).byteSize ≤ store.limits.maxFileBytes ∧
        (∀ entry ∈ Durable.entries state, entry.Bounds store.limits) ∧
        Durable.UniqueIds state) ∧
      ∃ bytes, store.prepare state = .ok bytes ∧ result =
        { state := Durable.readBack state
          recordsRead := (Durable.entries state).length
          bytesRead := bytes.length } := by
  have h := @sound_after store found events
  obtain ⟨bytes, hprepare⟩ := h.encoded state (hcompleted ▸ List.mem_cons_self)
  have hfile := h.file
  rw [hcompleted, lastSaved, hprepare] at hfile
  obtain ⟨hpath, hwritten⟩ := prepare_eq_ok hprepare
  rw [load_eq_ok hpath hfile, Durable.decode_of_encode hstorable hwritten]
  refine and_congr_right fun _ => ⟨fun hresult => ⟨bytes, hprepare, hresult⟩, ?_⟩
  rintro ⟨bytes', hprepare', hresult⟩
  obtain rfl := Except.ok.inj (hprepare.symm.trans hprepare')
  exact hresult

end DurableStore

end ThermalGovernor
