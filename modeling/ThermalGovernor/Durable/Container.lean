import ThermalGovernor.Durable.Entries

/-!
# The durable container

A container is a header and a list of records, one for each entry of the state.  Here it is
what was written, and its size is the one its bytes have; the bytes themselves, with the
magic number, the reserved words and the checksums around the records, follow in
`Durable.Bytes`.

`decodeDurableState_encode` : a state within the bounds of the reader that could be written
is read back, but for what a file does not carry (`readBack`).
-/

namespace ThermalGovernor

open Lib Lib.Decoder Lib.Input

namespace Durable

/-- A header of 8 bytes and a checksum of 4 stand around the payload. -/
def Record.byteSize {R : Type} (record : Record R) : Nat := 8 + record.payload.byteSize + 4

structure Container (R : Type := ℚ) where
  version : Nat
  records : List (Record R)

variable {R : Type}

def Container.bodySize (file : Container R) : Nat := (file.records.map Record.byteSize).sum

/-- A header of 36 bytes and a checksum of 4 stand around the body. -/
def Container.byteSize (file : Container R) : Nat := 36 + file.bodySize + 4

/-! ### Writing -/

/-- The container of a state. -/
def container (state : DurableState R) : Container R where
  version := persistenceFormatVersion
  records := (entries state).map Entry.record

/-- The bounds a state must meet to be written, in the order of the source. -/
def encodeChecks (state : DurableState R) (limits : PersistenceLimits) : List Check :=
  [ ⟨state.policies.length ≤ limits.maxPolicies, .resourceExhausted,
      "too many policies to persist"⟩,
    ⟨state.devices.length ≤ limits.maxDevices, .resourceExhausted,
      "too many devices to persist"⟩,
    ⟨state.domains.length ≤ limits.maxDomains, .resourceExhausted,
      "too many domains to persist"⟩,
    ⟨state.couplings.length ≤ limits.maxCouplings, .resourceExhausted,
      "too many couplings to persist"⟩,
    ⟨state.transitions.length ≤ limits.maxTransitions, .resourceExhausted,
      "too many transitions to persist"⟩,
    ⟨state.actions.length ≤ limits.maxActions, .resourceExhausted,
      "too many actions to persist"⟩,
    ⟨state.verifications.length ≤ limits.maxVerifications, .resourceExhausted,
      "too many verifications to persist"⟩,
    ⟨(container state).records.all fun record =>
        record.payload.byteSize ≤ limits.maxRecordBytes, .resourceExhausted,
      "record too large"⟩,
    ⟨(container state).bodySize ≤ limits.maxFileBytes, .resourceExhausted,
      "encoded durable state exceeds the file bound"⟩ ]

def encodeDurableState (state : DurableState R) (limits : PersistenceLimits) :
    Result (Container R) :=
  (runChecks (encodeChecks state limits)).map fun _ => container state

/-! ### Reading -/

/-- Read the records in turn; each must use up its payload. -/
def readRecords [Scalar R] [Zero R] (limits : PersistenceLimits) :
    DurableState R → List (Record R) → Result (DurableState R)
  | state, [] => .ok state
  | state, record :: rest =>
    if limits.maxRecordBytes < record.payload.byteSize then
      failure .persistenceCorrupt "durable container declares an absurd record length"
    else
      (takeRecord limits state record.type (put record.payload (empty : Cursor R))).bind
        fun state => readRecords limits state rest

def decodeDurableState [Scalar R] [Zero R] (file : Container R) (limits : PersistenceLimits) :
    Result (DurableState R) :=
  if limits.maxFileBytes < file.byteSize then
    failure .frameTooLarge "durable container exceeds the configured bound"
  else if file.version ≠ persistenceFormatVersion then
    failure .persistenceUnsupportedVersion "durable container version is not supported"
  else if limits.maxRecords < file.records.length then
    failure .persistenceCorrupt "durable container declares an absurd record count"
  else readRecords limits { formatVersion := file.version } file.records

/-! ### What is written is read -/

/-- The bounds of the reader on a state. -/
@[mk_iff] structure WithinBounds [Scalar R] (limits : PersistenceLimits)
    (state : DurableState R) : Prop where
  records : (container state).records.length ≤ limits.maxRecords
  file : (container state).byteSize ≤ limits.maxFileBytes
  policies : ∀ policy ∈ state.policies, PolicyBounds limits policy
  devices : ∀ device ∈ state.devices, DeviceBounds limits device
  domains : ∀ definition ∈ state.domains, DomainBounds limits definition
  couplings : ∀ relation ∈ state.couplings,
    relation.evidenceSource.length ≤ limits.maxStringBytes
  transitions : ∀ record ∈ state.transitions, Scalar.isReading record.temperature = true
  actions : ∀ action ∈ state.actions, ActionBounds limits action
  verifications : ∀ verification ∈ state.verifications, VerificationBounds verification

instance [Scalar R] (limits : PersistenceLimits) (state : DurableState R) :
    Decidable (WithinBounds limits state) :=
  decidable_of_iff' _ (withinBounds_iff limits state)

variable {limits : PersistenceLimits} {state : DurableState R}

/-- What a state that was written meets. -/
theorem encodeDurableState_eq_ok {file : Container R} :
    encodeDurableState state limits = .ok file ↔
      (∀ check ∈ encodeChecks state limits, check.holds = true) ∧ container state = file := by
  rw [encodeDurableState, ← runChecks_eq_ok]
  cases runChecks (encodeChecks state limits) with
  | error e => simp [Except.map]
  | ok => simp [Except.map]

/-- The checks of the writer: the tables have room, every record is short enough, and so is
the body. -/
theorem encodeChecks_holds :
    (∀ check ∈ encodeChecks state limits, check.holds = true) ↔
      WithinCounts limits state ∧
        (∀ entry ∈ entries state, entry.record.payload.byteSize ≤ limits.maxRecordBytes) ∧
        (container state).bodySize ≤ limits.maxFileBytes := by
  have hrecords : (container state).records = (entries state).map Entry.record := rfl
  simp only [encodeChecks, List.forall_mem_cons, List.not_mem_nil, false_implies, implies_true,
    and_true, decide_eq_true_eq, List.all_eq_true, hrecords, List.forall_mem_map]
  constructor
  · rintro ⟨hp, hd, ht, hr, hs, ha, hv, hsizes, hbody⟩
    exact ⟨⟨hp, hd, ht, hr, hs, ha, hv⟩, hsizes, hbody⟩
  · rintro ⟨⟨hp, hd, ht, hr, hs, ha, hv⟩, hsizes, hbody⟩
    exact ⟨hp, hd, ht, hr, hs, ha, hv, hsizes, hbody⟩

/-- The bounds on a state are those on its size and on its entries. -/
theorem withinBounds_iff_entries [Scalar R]
    (hversion : state.formatVersion = persistenceFormatVersion) :
    WithinBounds limits state ↔
      (entries state).length ≤ limits.maxRecords ∧
        (container state).byteSize ≤ limits.maxFileBytes ∧
        ∀ entry ∈ entries state, entry.Bounds limits := by
  have hlength : (container state).records.length = (entries state).length := List.length_map _
  rw [withinBounds_iff, hlength]
  simp only [entries, List.forall_mem_cons, List.forall_mem_append, List.forall_mem_map]
  exact and_congr_right fun _ => and_congr_right fun _ => (and_iff_right hversion).symm

/-- Records of entries are read exactly when the entries are admitted in turn. -/
theorem readRecords_entries [Scalar R] [Zero R] {state' : DurableState R}
    {list : List (Entry R)}
    (hsizes : ∀ entry ∈ list, entry.record.payload.byteSize ≤ limits.maxRecordBytes) :
    readRecords limits state (list.map Entry.record) = .ok state' ↔
      Loads limits state list ∧ state' = enterAll state list := by
  induction list generalizing state with
  | nil => simp [readRecords, Loads, enterAll, eq_comm]
  | cons entry list ih =>
    obtain ⟨hsize, hrest⟩ := List.forall_mem_cons.mp hsizes
    rw [List.map_cons, readRecords, if_neg (by omega), takeRecord_bind (Cursor.fitsAll _),
      ih hrest, ← and_assoc, Loads, enterAll_cons]

/-- **Whatever is written within the bounds of the reader is read back.** -/
theorem decodeDurableState_encode [Scalar R] [Zero R] {file : Container R}
    (hversion : state.formatVersion = persistenceFormatVersion)
    (hwritten : encodeDurableState state limits = .ok file) (hbounds : WithinBounds limits state)
    (hunique : UniqueIds state) : decodeDurableState file limits = .ok (readBack state) := by
  obtain ⟨hchecks, rfl⟩ := encodeDurableState_eq_ok.mp hwritten
  obtain ⟨hcounts, hsizes, -⟩ := encodeChecks_holds.mp hchecks
  obtain ⟨hrecords, hfile, hentries⟩ := (withinBounds_iff_entries hversion).mp hbounds
  rw [decodeDurableState, if_neg (by omega), if_neg (by simp [container]),
    if_neg (by rw [container, List.length_map]; omega)]
  refine (readRecords_entries hsizes).mpr ⟨?_, ?_⟩
  · exact (loads_entries state _).mpr ⟨hentries, hcounts, hunique⟩
  · exact (enterAll_entries state _).symm

end Durable

end ThermalGovernor
