import ThermalGovernor.Durable.Reads

/-!
# The entries of a durable file

A file is a list of records, the state of the coordinator first and then each table in turn.
An `Entry` is what one record holds.  A reader admits an entry to the state it has read so far
when the record meets its bounds (`Entry.Bounds`), the table has room and no entry of it has the
same identity (`Entry.Fresh`); it then enters the table (`Entry.enter`).

`exact_record` connects the two: in front of the record of an entry the reader yields exactly
when the entry is admitted, and then the state it enters.  `loads_entries` says which states
are admitted entry by entry: those within the bounds of the reader (`WithinCounts`) whose tables
repeat no identity (`UniqueIds`).
-/

namespace ThermalGovernor

open Lib Lib.Decoder Lib.Input

namespace Durable

/-- The kinds of record. -/
inductive PersistenceRecordType
  | coordinatorState | policy | domainDefinition | coupling | stateTransition | actionRecord
  | verificationRecord | operatorConfig | deviceRegistration
  deriving DecidableEq

structure Record (R : Type := ℚ) where
  type : PersistenceRecordType
  payload : Payload R

variable {R C : Type} [Input R C]

/-! ### Writing -/

def writeCoordinator (state : DurableState R) : Payload R :=
  [ .u32 state.formatVersion, .u64 state.coordinator, .u64 state.coordinatorEpoch,
    .u64 state.policyGeneration, .u64 state.topologyGeneration, .u64 state.sequence ]

/-- What a record holds. -/
inductive Entry (R : Type := ℚ)
  | coordinator (state : DurableState R)
  | policy (policy : PolicyOver R)
  | device (device : DeviceRegistration)
  | domain (definition : ThermalDomainDefinition R)
  | coupling (relation : CouplingRelation R)
  | transition (record : StateTransitionRecord R)
  | action (action : ThermalAction R)
  | verification (verification : ActionVerification R)
  | operatorConfig (text : String)

/-- The record of an entry. -/
def Entry.record : Entry R → Record R
  | .coordinator state => ⟨.coordinatorState, writeCoordinator state⟩
  | .policy p => ⟨.policy, writePolicy p⟩
  | .device d => ⟨.deviceRegistration, writeDevice d⟩
  | .domain definition => ⟨.domainDefinition, writeDomain definition⟩
  | .coupling relation => ⟨.coupling, writeCoupling relation⟩
  | .transition record => ⟨.stateTransition, writeTransition record⟩
  | .action a => ⟨.actionRecord, writeAction a⟩
  | .verification v => ⟨.verificationRecord, writeVerification v⟩
  | .operatorConfig text => ⟨.operatorConfig, [.text text]⟩

/-- The entries of a state, in the order they are written. -/
def entries (state : DurableState R) : List (Entry R) :=
  .coordinator state ::
    (state.policies.map .policy ++ (state.devices.map .device ++ (state.domains.map .domain ++
    (state.couplings.map .coupling ++ (state.transitions.map .transition ++
    (state.actions.map .action ++ state.verifications.map .verification))))))

/-! ### Reading -/

def readCoordinator (state : DurableState R) : RecordReader C (DurableState R) := do
  let formatVersion ← u32
  let coordinator ← u64
  let coordinatorEpoch ← u64
  let policyGeneration ← u64
  let topologyGeneration ← u64
  let sequence ← u64
  require (formatVersion = persistenceFormatVersion)
    ⟨.persistenceUnsupportedVersion, "embedded state version is not supported"⟩
  pure
    { state with
      formatVersion := formatVersion
      coordinator := coordinator
      coordinatorEpoch := coordinatorEpoch
      policyGeneration := policyGeneration
      topologyGeneration := topologyGeneration
      sequence := sequence }

/-- Read a record that enters a table with room for it, and does not repeat an entry. -/
def readEntry {α : Type} (size maximum : Nat) (tooMany : String) (read : RecordReader C α)
    (repeated : α → Bool) (repeats : String) (enter : α → DurableState R) :
    RecordReader C (DurableState R) := do
  require (size < maximum) (corrupt tooMany)
  let entry ← read
  require (! repeated entry) (corrupt repeats)
  pure (enter entry)

/-- Read one record into the state. -/
def readRecord [Scalar R] (limits : PersistenceLimits) (state : DurableState R) :
    PersistenceRecordType → RecordReader C (DurableState R)
  | .coordinatorState => readCoordinator state
  | .policy =>
    readEntry state.policies.length limits.maxPolicies
      "durable container carries too many policies" (readPolicy limits)
      (fun policy => state.policies.any fun p => p.id = policy.id)
      "durable container repeats a policy identity"
      fun policy => { state with policies := state.policies ++ [policy] }
  | .deviceRegistration =>
    readEntry state.devices.length limits.maxDevices
      "durable container carries too many devices" (readDevice limits)
      (fun device => state.devices.any fun d => d.device = device.device)
      "durable container repeats a device identity"
      fun device => { state with devices := state.devices ++ [device] }
  | .domainDefinition =>
    readEntry state.domains.length limits.maxDomains
      "durable container carries too many domains" (readDomain limits)
      (fun definition => state.domains.any fun d => d.id = definition.id)
      "durable container repeats a domain identity"
      fun definition => { state with domains := state.domains ++ [definition] }
  | .coupling =>
    readEntry state.couplings.length limits.maxCouplings
      "durable container carries too many couplings" (readCoupling limits)
      (fun relation => state.couplings.any fun r => r.id = relation.id)
      "durable container repeats a coupling identity"
      fun relation => { state with couplings := state.couplings ++ [relation] }
  | .stateTransition =>
    readEntry state.transitions.length limits.maxTransitions
      "durable container carries too many transitions" readTransition (fun _ => false) ""
      fun record => { state with transitions := state.transitions ++ [record] }
  | .actionRecord =>
    readEntry state.actions.length limits.maxActions
      "durable container carries too many actions" (readAction limits)
      (fun action => state.actions.any fun a => a.id = action.id)
      "durable container repeats an action identity"
      fun action => { state with actions := state.actions ++ [action] }
  | .verificationRecord =>
    readEntry state.verifications.length limits.maxVerifications
      "durable container carries too many verifications" readVerification (fun _ => false) ""
      fun verification => { state with verifications := state.verifications ++ [verification] }
  | .operatorConfig => do
    let _ ← text limits.maxStringBytes
    pure state

/-! ### Entries that are admitted -/

/-- The state with an entry of the file in it. -/
def Entry.enter (state : DurableState R) : Entry R → DurableState R
  | .coordinator written =>
    { state with
      formatVersion := written.formatVersion
      coordinator := written.coordinator
      coordinatorEpoch := written.coordinatorEpoch
      policyGeneration := written.policyGeneration
      topologyGeneration := written.topologyGeneration
      sequence := written.sequence }
  | .policy p => { state with policies := state.policies ++ [p] }
  | .device d => { state with devices := state.devices ++ [d] }
  | .domain definition => { state with domains := state.domains ++ [definition] }
  | .coupling relation => { state with couplings := state.couplings ++ [forgetExpiry relation] }
  | .transition record => { state with transitions := state.transitions ++ [record] }
  | .action a => { state with actions := state.actions ++ [forgetInstants a] }
  | .verification v =>
    { state with verifications := state.verifications ++ [forgetReasons v] }
  | .operatorConfig _ => state

/-- The bounds of the reader on an entry itself. -/
def Entry.Bounds [Scalar R] (limits : PersistenceLimits) : Entry R → Prop
  | .coordinator state => state.formatVersion = persistenceFormatVersion
  | .policy p => PolicyBounds limits p
  | .device d => DeviceBounds limits d
  | .domain definition => DomainBounds limits definition
  | .coupling relation => relation.evidenceSource.length ≤ limits.maxStringBytes
  | .transition record => Scalar.isReading record.temperature = true
  | .action a => ActionBounds limits a
  | .verification v => VerificationBounds v
  | .operatorConfig text => text.length ≤ limits.maxStringBytes

/-- The tables of the state have room for the entry, and none of its identity. -/
def Entry.Fresh (limits : PersistenceLimits) (state : DurableState R) : Entry R → Prop
  | .policy p =>
    state.policies.length < limits.maxPolicies ∧ ∀ q ∈ state.policies, q.id ≠ p.id
  | .device d =>
    state.devices.length < limits.maxDevices ∧ ∀ e ∈ state.devices, e.device ≠ d.device
  | .domain definition =>
    state.domains.length < limits.maxDomains ∧ ∀ d ∈ state.domains, d.id ≠ definition.id
  | .coupling relation =>
    state.couplings.length < limits.maxCouplings ∧ ∀ r ∈ state.couplings, r.id ≠ relation.id
  | .transition _ => state.transitions.length < limits.maxTransitions
  | .action a =>
    state.actions.length < limits.maxActions ∧ ∀ b ∈ state.actions, b.id ≠ a.id
  | .verification _ => state.verifications.length < limits.maxVerifications
  | .coordinator _ | .operatorConfig _ => True

theorem exact_readEntry {α : Type} {size maximum : Nat} {tooMany repeats : String}
    {read : RecordReader C α} {repeated : α → Bool} {enter : α → DurableState R} {a : α}
    {payload : Payload R} {bounds : Prop} (h : Exact read payload bounds a) :
    Exact (readEntry size maximum tooMany read repeated repeats enter) payload
      (size < maximum ∧ bounds ∧ repeated a = false) (enter a) := by
  intro c s c'
  simp [-bind_pure_comp, readEntry, h.bind_iff, and_assoc]

/-- **In front of the record of an entry the reader yields exactly when the entry is admitted,
and then the state it enters.** -/
theorem exact_record [Scalar R] {limits : PersistenceLimits} {state : DurableState R}
    {entry : Entry R} (hfits : FitsAll C entry.record.payload) :
    Exact (readRecord limits state entry.record.type : RecordReader C (DurableState R))
      entry.record.payload (entry.Bounds limits ∧ entry.Fresh limits state)
      (entry.enter state) := by
  cases entry with
  | coordinator written =>
    intro c s c'
    have hfields : FitsAll C (writeCoordinator written) := hfits
    simp only [FitsAll, writeCoordinator, List.forall_mem_cons] at hfields
    simp [-bind_pure_comp, Entry.record, readRecord, readCoordinator, writeCoordinator, hfields,
      Entry.Bounds, Entry.Fresh, Entry.enter]
  | policy policy =>
    refine (exact_readEntry (exact_policy hfits)).congr ?_
    simp [Entry.Bounds, Entry.Fresh, and_left_comm]
  | device device =>
    refine (exact_readEntry (exact_device hfits)).congr ?_
    simp [Entry.Bounds, Entry.Fresh, and_left_comm]
  | domain definition =>
    refine (exact_readEntry (exact_domain hfits)).congr ?_
    simp [Entry.Bounds, Entry.Fresh, and_left_comm]
  | coupling relation =>
    refine (exact_readEntry (exact_coupling hfits)).congr ?_
    simp only [List.any_eq_false, decide_eq_true_eq, Entry.Bounds, Entry.Fresh, and_left_comm]
    rfl
  | transition record =>
    refine (exact_readEntry (exact_transition hfits)).congr ?_
    simp [Entry.Bounds, Entry.Fresh, and_comm]
  | action action =>
    refine (exact_readEntry (exact_action hfits)).congr ?_
    simp only [List.any_eq_false, decide_eq_true_eq, Entry.Bounds, Entry.Fresh, and_left_comm]
    rfl
  | verification verification =>
    refine (exact_readEntry (exact_verification hfits)).congr ?_
    simp [Entry.Bounds, Entry.Fresh, and_comm]
  | operatorConfig text =>
    intro c s c'
    have hfits' : FitsAll C [.text text] := hfits
    simp only [FitsAll, List.forall_mem_cons] at hfits'
    simp [-bind_pure_comp, Entry.record, readRecord, hfits', Entry.Bounds, Entry.Fresh,
      Entry.enter]

/-- Read one record into the state; the record must be used up. -/
def takeRecord [Scalar R] (limits : PersistenceLimits) (state : DurableState R)
    (type : PersistenceRecordType) (payload : C) : Result (DurableState R) :=
  ((readRecord limits state type).run payload).bind fun read =>
    if Input.ok read.2 && exhausted read.2 then .ok read.1
    else failure .persistenceCorrupt "durable container record payload is malformed"

theorem takeRecord_eq_ok [Scalar R] {limits : PersistenceLimits} {state state' : DurableState R}
    {type : PersistenceRecordType} {payload : C} :
    takeRecord limits state type payload = .ok state' ↔
      Yields (readRecord limits state type) payload state' empty := by
  have hempty : Input.ok (empty : C) = true := ((exhausted_iff (empty : C)).mpr rfl).1
  rw [takeRecord]
  constructor
  · intro h
    cases hrun : (readRecord limits state type).run payload with
    | error e =>
      rw [hrun] at h
      cases h
    | ok read =>
      rw [hrun, Except.bind] at h
      split at h
      · rename_i hused
        rw [Bool.and_eq_true] at hused
        have hread : read = (state', empty) :=
          Prod.ext (Except.ok.inj h) ((exhausted_iff read.2).mp hused)
        exact ⟨hrun.trans (by rw [hread]), hempty⟩
      · cases h
  · rintro ⟨hrun, -⟩
    have hused := (exhausted_iff (empty : C)).mpr rfl
    rw [hrun, Except.bind, if_pos (by rw [hused.1, hused.2]; rfl)]

/-- The record of an entry is taken exactly when the entry is admitted. -/
theorem takeRecord_record [Scalar R] {limits : PersistenceLimits} {state state' : DurableState R}
    {entry : Entry R} (hfits : FitsAll C entry.record.payload) :
    takeRecord limits state entry.record.type (put entry.record.payload (empty : C)) =
        .ok state' ↔
      (entry.Bounds limits ∧ entry.Fresh limits state) ∧ state' = entry.enter state := by
  have hempty : Input.ok (empty : C) = true := ((exhausted_iff (empty : C)).mpr rfl).1
  rw [takeRecord_eq_ok, exact_record hfits]
  simp [hempty]

/-- Reading goes on from the record of an entry exactly when the entry is admitted. -/
theorem takeRecord_bind [Scalar R] {limits : PersistenceLimits} {state : DurableState R}
    {entry : Entry R} (hfits : FitsAll C entry.record.payload) {α : Type}
    {next : DurableState R → Result α} {a : α} :
    (takeRecord limits state entry.record.type (put entry.record.payload (empty : C))).bind next =
        .ok a ↔
      (entry.Bounds limits ∧ entry.Fresh limits state) ∧ next (entry.enter state) = .ok a := by
  constructor
  · intro h
    cases htake : takeRecord limits state entry.record.type
        (put entry.record.payload (empty : C)) with
    | error e =>
      rw [htake] at h
      cases h
    | ok state' =>
      obtain ⟨hadmitted, rfl⟩ := (takeRecord_record hfits).mp htake
      rw [htake] at h
      exact ⟨hadmitted, h⟩
  · rintro ⟨hadmitted, h⟩
    rw [(takeRecord_record hfits).mpr ⟨hadmitted, rfl⟩]
    exact h

/-! ### Whole files -/

section Loads

variable {state : DurableState R} {α : Type}

/-- The entries are admitted one after the other. -/
def Loads [Scalar R] (limits : PersistenceLimits) : DurableState R → List (Entry R) → Prop
  | _, [] => True
  | state, entry :: rest =>
    (entry.Bounds limits ∧ entry.Fresh limits state) ∧ Loads limits (entry.enter state) rest

/-- The state with all entries in it. -/
def enterAll (state : DurableState R) (list : List (Entry R)) : DurableState R :=
  list.foldl Entry.enter state

theorem enterAll_cons (entry : Entry R) (rest : List (Entry R)) :
    enterAll state (entry :: rest) = enterAll (entry.enter state) rest := rfl

/-- **A whole table is admitted when it has room, every entry is within its bounds, and no
two have the same identity.** -/
theorem loads_table [Scalar R] (limits : PersistenceLimits) (entry : α → Entry R) (f : α → α)
    (put : List α → DurableState R) (apart : α → α → Prop) {maximum : Nat}
    (hfresh : ∀ done a, (entry a).Fresh limits (put done) ↔
      done.length < maximum ∧ ∀ b ∈ done, apart b (f a))
    (henter : ∀ done a, (entry a).enter (put done) = put (done ++ [f a]))
    (list : List α) (rest : List (Entry R)) :
    Loads limits (put []) (list.map entry ++ rest) ↔
      (list.length ≤ maximum ∧ (∀ a ∈ list, (entry a).Bounds limits) ∧
        (list.map f).Pairwise apart) ∧
        Loads limits (put (list.map f)) rest := by
  have hfrom : ∀ (list done : List α), done.length ≤ maximum → done.Pairwise apart →
      (Loads limits (put done) (list.map entry ++ rest) ↔
        (done.length + list.length ≤ maximum ∧ (∀ a ∈ list, (entry a).Bounds limits) ∧
          (done ++ list.map f).Pairwise apart) ∧ Loads limits (put (done ++ list.map f)) rest) := by
    intro list
    induction list with
    | nil =>
      intro done hroom hdone
      simp [hroom, hdone]
    | cons a list ih =>
      intro done hroom hdone
      rw [List.map_cons, List.cons_append, Loads, hfresh, henter, List.forall_mem_cons]
      have happend : done ++ List.map f (a :: list) = (done ++ [f a]) ++ list.map f := by
        rw [List.map_cons, List.append_assoc, List.singleton_append]
      have hsingle : (done ++ [f a]).Pairwise apart ↔ ∀ b ∈ done, apart b (f a) := by
        simp [List.pairwise_append, hdone]
      rw [happend]
      constructor
      · rintro ⟨⟨ha, hlt, hapart⟩, hrest⟩
        have hlength : (done ++ [f a]).length ≤ maximum := by
          rw [List.length_append]
          exact hlt
        obtain ⟨⟨hroom', hlist, hpairs⟩, hloads⟩ :=
          (ih (done ++ [f a]) hlength (hsingle.mpr hapart)).mp hrest
        rw [List.length_append] at hroom'
        refine ⟨⟨?_, ⟨ha, hlist⟩, hpairs⟩, hloads⟩
        simp only [List.length_cons, List.length_nil] at hroom' ⊢
        omega
      · rintro ⟨⟨hroom', ⟨ha, hlist⟩, hpairs⟩, hloads⟩
        rw [List.length_cons] at hroom'
        have hapart := hsingle.mp (List.pairwise_append.mp hpairs).1
        have hlength : (done ++ [f a]).length = done.length + 1 := by simp
        refine ⟨⟨ha, by omega, hapart⟩, ?_⟩
        exact (ih (done ++ [f a]) (by omega) (hsingle.mpr hapart)).mpr
          ⟨⟨by omega, hlist, hpairs⟩, hloads⟩
  have hstart := hfrom list [] (Nat.zero_le _) List.Pairwise.nil
  simp only [List.length_nil, Nat.zero_add, List.nil_append] at hstart
  exact hstart

theorem enterAll_table (entry : α → Entry R) (f : α → α) (put : List α → DurableState R)
    (henter : ∀ done a, (entry a).enter (put done) = put (done ++ [f a])) (list : List α)
    (rest : List (Entry R)) :
    enterAll (put []) (list.map entry ++ rest) = enterAll (put (list.map f)) rest := by
  have hfrom : ∀ (list done : List α),
      enterAll (put done) (list.map entry ++ rest) = enterAll (put (done ++ list.map f)) rest := by
    intro list
    induction list with
    | nil =>
      intro done
      rw [List.map_nil, List.map_nil, List.append_nil, List.nil_append]
    | cons a list ih =>
      intro done
      have hnext := ih (done ++ [f a])
      rw [List.append_assoc, List.singleton_append] at hnext
      rw [List.map_cons, List.cons_append, enterAll, List.foldl_cons, henter]
      exact hnext
  exact hfrom list []

end Loads

/-- A state as it comes back from a file. -/
def readBack (state : DurableState R) : DurableState R :=
  { state with
    couplings := state.couplings.map forgetExpiry
    actions := state.actions.map forgetInstants
    verifications := state.verifications.map forgetReasons }

/-- No table of a state repeats an identity. -/
structure UniqueIds (state : DurableState R) : Prop where
  policies : (state.policies.map PolicyOver.id).Nodup
  devices : (state.devices.map DeviceRegistration.device).Nodup
  domains : (state.domains.map ThermalDomainDefinition.id).Nodup
  couplings : (state.couplings.map CouplingRelation.id).Nodup
  actions : (state.actions.map ThermalAction.id).Nodup

/-- No table of a state holds more than its limit. -/
structure WithinCounts (limits : PersistenceLimits) (state : DurableState R) : Prop where
  policies : state.policies.length ≤ limits.maxPolicies
  devices : state.devices.length ≤ limits.maxDevices
  domains : state.domains.length ≤ limits.maxDomains
  couplings : state.couplings.length ≤ limits.maxCouplings
  transitions : state.transitions.length ≤ limits.maxTransitions
  actions : state.actions.length ≤ limits.maxActions
  verifications : state.verifications.length ≤ limits.maxVerifications

section State

variable (state : DurableState R)

/-! A file is read table by table: each of these holds what was read before it, and the table
that is being read. -/

def withVerifications (verifications : List (ActionVerification R)) : DurableState R :=
  { readBack state with verifications := verifications }

def withActions (actions : List (ThermalAction R)) : DurableState R :=
  { readBack state with actions := actions, verifications := [] }

def withTransitions (transitions : List (StateTransitionRecord R)) : DurableState R :=
  { readBack state with transitions := transitions, actions := [], verifications := [] }

def withCouplings (couplings : List (CouplingRelation R)) : DurableState R :=
  { readBack state with
    couplings := couplings, transitions := [], actions := [], verifications := [] }

def withDomains (domains : List (ThermalDomainDefinition R)) : DurableState R :=
  { readBack state with
    domains := domains, couplings := [], transitions := [], actions := [], verifications := [] }

def withDevices (devices : List DeviceRegistration) : DurableState R :=
  { withDomains state [] with devices := devices }

def withPolicies (policies : List (PolicyOver R)) : DurableState R :=
  { withDomains state [] with devices := [], policies := policies }

theorem withPolicies_all : withPolicies state state.policies = withDevices state [] := rfl

theorem withDevices_all : withDevices state state.devices = withDomains state [] := rfl

theorem withDomains_all : withDomains state state.domains = withCouplings state [] := rfl

theorem withCouplings_all :
    withCouplings state (state.couplings.map forgetExpiry) = withTransitions state [] := rfl

theorem withTransitions_all :
    withTransitions state state.transitions = withActions state [] := rfl

theorem withActions_all :
    withActions state (state.actions.map forgetInstants) = withVerifications state [] := rfl

/-- **The entries of a state enter one after the other and give the state back**, but for
what a file does not carry. -/
theorem enterAll_entries (version : Nat) :
    enterAll { formatVersion := version } (entries state) = readBack state := by
  have hpolicies := enterAll_table .policy id (withPolicies state) (fun _ _ => rfl) state.policies
  have hdevices := enterAll_table .device id (withDevices state) (fun _ _ => rfl) state.devices
  have hdomains := enterAll_table .domain id (withDomains state) (fun _ _ => rfl) state.domains
  have hcouplings := enterAll_table .coupling forgetExpiry (withCouplings state)
    (fun _ _ => rfl) state.couplings
  have htransitions := enterAll_table .transition id (withTransitions state) (fun _ _ => rfl)
    state.transitions
  have hactions := enterAll_table .action forgetInstants (withActions state) (fun _ _ => rfl)
    state.actions
  have hverifications := enterAll_table .verification forgetReasons (withVerifications state)
    (fun _ _ => rfl) state.verifications []
  simp only [List.map_id] at hpolicies hdevices hdomains htransitions
  rw [List.append_nil] at hverifications
  have hstart : (Entry.coordinator state).enter { formatVersion := version } =
      withPolicies state [] := rfl
  rw [entries, enterAll_cons, hstart, hpolicies, withPolicies_all, hdevices, withDevices_all,
    hdomains, withDomains_all, hcouplings, withCouplings_all, htransitions, withTransitions_all,
    hactions, withActions_all, hverifications]
  rfl

/-- **A state is admitted entry by entry exactly when every entry is within its bounds, every
table has room, and none repeats an identity.** -/
theorem loads_entries [Scalar R] {limits : PersistenceLimits} (version : Nat) :
    Loads limits { formatVersion := version } (entries state) ↔
      (∀ entry ∈ entries state, entry.Bounds limits) ∧ WithinCounts limits state ∧
        UniqueIds state := by
  have hpolicies := loads_table limits .policy id (withPolicies state) (fun q p => q.id ≠ p.id)
    (fun _ _ => Iff.rfl) (fun _ _ => rfl) state.policies
  have hdevices := loads_table limits .device id (withDevices state)
    (fun e d => e.device ≠ d.device) (fun _ _ => Iff.rfl) (fun _ _ => rfl) state.devices
  have hdomains := loads_table limits .domain id (withDomains state) (fun d e => d.id ≠ e.id)
    (fun _ _ => Iff.rfl) (fun _ _ => rfl) state.domains
  have hcouplings := loads_table limits .coupling forgetExpiry (withCouplings state)
    (fun r s => r.id ≠ s.id) (fun _ _ => Iff.rfl) (fun _ _ => rfl) state.couplings
  have htransitions := loads_table limits .transition id (withTransitions state) (fun _ _ => True)
    (fun _ _ => (and_iff_left fun _ _ => trivial).symm) (fun _ _ => rfl) state.transitions
  have hactions := loads_table limits .action forgetInstants (withActions state)
    (fun b a => b.id ≠ a.id) (fun _ _ => Iff.rfl) (fun _ _ => rfl) state.actions
  have hverifications := loads_table limits .verification forgetReasons (withVerifications state)
    (fun _ _ => True) (fun _ _ => (and_iff_left fun _ _ => trivial).symm) (fun _ _ => rfl)
    state.verifications []
  have hstart : (Entry.coordinator state).enter { formatVersion := version } =
      withPolicies state [] := rfl
  have hforgotten : ∀ list : List (CouplingRelation R),
      ((list.map forgetExpiry).Pairwise fun r s => r.id ≠ s.id) ↔
        (list.map CouplingRelation.id).Nodup := fun list => by
    rw [List.Nodup, List.pairwise_map, List.pairwise_map]
    rfl
  have hinstants : ∀ list : List (ThermalAction R),
      ((list.map forgetInstants).Pairwise fun b a => b.id ≠ a.id) ↔
        (list.map ThermalAction.id).Nodup := fun list => by
    rw [List.Nodup, List.pairwise_map, List.pairwise_map]
    rfl
  have hapart : ∀ {α : Type} (key : α → Nat) (list : List α),
      (list.Pairwise fun b a => key b ≠ key a) ↔ (list.map key).Nodup := fun key list =>
    List.pairwise_map.symm
  simp only [List.map_id, hapart] at hpolicies hdevices hdomains htransitions
  simp only [hforgotten] at hcouplings
  simp only [hinstants] at hactions
  rw [List.append_nil] at hverifications
  rw [entries, Loads, hstart, hpolicies, withPolicies_all, hdevices, withDevices_all,
    hdomains, withDomains_all, hcouplings, withCouplings_all, htransitions, withTransitions_all,
    hactions, withActions_all, hverifications]
  simp only [List.forall_mem_cons, List.forall_mem_append, List.forall_mem_map]
  constructor
  · rintro ⟨⟨hhead, -⟩, ⟨hp, hp', hp''⟩, ⟨hd, hd', hd''⟩, ⟨ht, ht', ht''⟩, ⟨hr, hr', hr''⟩,
      ⟨hs, hs', -⟩, ⟨ha, ha', ha''⟩, ⟨hv, hv', -⟩, -⟩
    exact ⟨⟨hhead, hp', hd', ht', hr', hs', ha', hv'⟩, ⟨hp, hd, ht, hr, hs, ha, hv⟩,
      ⟨hp'', hd'', ht'', hr'', ha''⟩⟩
  · rintro ⟨⟨hhead, hp', hd', ht', hr', hs', ha', hv'⟩, ⟨hp, hd, ht, hr, hs, ha, hv⟩,
      ⟨hp'', hd'', ht'', hr'', ha''⟩⟩
    exact ⟨⟨hhead, trivial⟩, ⟨hp, hp', hp''⟩, ⟨hd, hd', hd''⟩, ⟨ht, ht', ht''⟩,
      ⟨hr, hr', hr''⟩, ⟨hs, hs', List.pairwise_of_forall fun _ _ => trivial⟩, ⟨ha, ha', ha''⟩,
      ⟨hv, hv', List.pairwise_of_forall fun _ _ => trivial⟩, trivial⟩

end State

end Durable

end ThermalGovernor
