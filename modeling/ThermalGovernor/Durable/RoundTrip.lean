import ThermalGovernor.Durable.Bytes

/-!
# What is written and what is accepted

Both directions between the bytes of a file and the entries they hold.  The bytes of the
entries of a state are read exactly when the entries are admitted in turn
(`readRecordBytes_entries`, `decodeDurableBytes_container`); and whatever is read is some list
of entries, each in the bytes it was read from (`exists_of_readRecordBytes`).
-/

namespace ThermalGovernor

open Lib Lib.Bytes Lib.Input

namespace Durable

variable {limits : PersistenceLimits}

/-! ### Sizes -/

theorem length_recordBytes (record : Record Double) : record.bytes.length = record.byteSize := by
  rw [Record.bytes, length_withChecksum, length_recordPart _ (length_word 2 0),
    Payload.length_bytes, Record.byteSize]

theorem length_body (file : Container Double) : file.body.length = file.bodySize := by
  have hrecords : ∀ records : List (Record Double),
      (records.flatMap Record.bytes).length = (records.map Record.byteSize).sum := by
    intro records
    induction records with
    | nil => rfl
    | cons record records ih =>
      rw [List.flatMap_cons, List.length_append, length_recordBytes, ih, List.map_cons,
        List.sum_cons]
  exact hrecords file.records

theorem length_containerBytes (file : Container Double) : file.bytes.length = file.byteSize := by
  rw [Container.bytes, List.length_append, length_withChecksum, length_withChecksum,
    length_containerHead _ (length_word 4 0), length_body, Container.byteSize]
  omega

theorem length_records_le (file : Container Double) : file.records.length ≤ file.bodySize := by
  have hrecords : ∀ records : List (Record Double),
      records.length ≤ (records.map Record.byteSize).sum := by
    intro records
    induction records with
    | nil => exact Nat.le_refl 0
    | cons record records ih =>
      rw [List.map_cons, List.sum_cons, List.length_cons, Record.byteSize]
      omega
  exact hrecords file.records

/-! ### Writing and reading back -/

/-- The fields have the widths of the machine, every record is short enough for its length
word, and the file for a buffer.  A text or a list that is too long for its own length word
is too long for that of its record. -/
@[mk_iff] structure Storable (state : DurableState Double) : Prop where
  fits : ∀ entry ∈ entries state, FitsAll Reader entry.record.payload
  lengths : ∀ entry ∈ entries state, entry.record.payload.byteSize < 2 ^ 32
  size : (container state).byteSize < 2 ^ 64

instance (f : Lib.Field Double) : Decidable f.Fits :=
  match f with
  | .u8 value => inferInstanceAs (Decidable (value < 2 ^ 8))
  | .u32 value => inferInstanceAs (Decidable (value < 2 ^ 32))
  | .u64 value => inferInstanceAs (Decidable (value < 2 ^ 64))
  | .i64 value => inferInstanceAs (Decidable (-2 ^ 63 ≤ value ∧ value < 2 ^ 63))
  | .text value =>
    have : Decidable (∀ c ∈ value.toList, c.toNat < 256) := List.decidableBAll _ _
    inferInstanceAs (Decidable (value.length < 2 ^ 32 ∧ ∀ c ∈ value.toList, c.toNat < 256))
  | .flag _ => inferInstanceAs (Decidable True)
  | .real _ => inferInstanceAs (Decidable True)

instance (payload : Payload Double) : Decidable (FitsAll Reader payload) :=
  inferInstanceAs (Decidable (∀ f ∈ payload, f.Fits))

instance (state : DurableState Double) : Decidable (Storable state) :=
  decidable_of_iff' _ (storable_iff state)

/-- A record is one record only. -/
theorem record_inj {type type' : PersistenceRecordType}
    {reserved reserved' payload payload' rest rest' : Bytes}
    (h : withChecksum (recordPart type reserved payload) ++ rest =
      withChecksum (recordPart type' reserved' payload') ++ rest')
    (hreserved : reserved.length = 2) (hreserved' : reserved'.length = 2)
    (hlt : payload.length < 2 ^ 32) (hlt' : payload'.length < 2 ^ 32) :
    type = type' ∧ payload = payload' ∧ rest = rest' := by
  obtain ⟨hle, hcode, hlength, -, -, hpayload, hrest⟩ := record_words rfl hreserved hlt
  obtain ⟨hle', hcode', hlength', -, -, hpayload', hrest'⟩ := record_words h hreserved' hlt'
  have hsame : payload.length = payload'.length := hlength.symm.trans hlength'
  refine ⟨?_, ?_, ?_⟩
  · have htype := PersistenceRecordType.ofCode_eq_some.mpr (hcode.symm.trans hcode')
    exact Option.some.inj ((PersistenceRecordType.ofCode_eq_some.mpr rfl).symm.trans htype)
  · simp only [← hsame] at hpayload'
    exact hpayload.symm.trans hpayload'
  · rw [← hsame] at hrest'
    exact hrest.symm.trans hrest'

/-- The bytes of an entry are taken exactly when it is admitted. -/
theorem readRecordBytes_entry {count : Nat} {result : PersistenceLoadResult} {rest : Bytes}
    {read : PersistenceLoadResult × Bytes} {entry : Entry Double}
    (hfits : FitsAll Reader entry.record.payload)
    (hlt : entry.record.payload.byteSize < 2 ^ 32)
    (hle : entry.record.payload.byteSize ≤ limits.maxRecordBytes) :
    readRecordBytes limits (count + 1) result (entry.record.bytes ++ rest) = .ok read ↔
      (entry.Bounds limits ∧ entry.Fresh limits result.state) ∧
        readRecordBytes limits count
          { result with
            state := entry.enter result.state, recordsRead := result.recordsRead + 1 } rest =
            .ok read := by
  have hput : (put entry.record.payload (empty : Reader)) = ⟨entry.record.payload.bytes, true⟩ := by
    rw [Reader.put_eq]
    exact congrArg (Reader.mk · true) (List.append_nil _)
  have hlength := Payload.length_bytes entry.record.payload
  rw [readRecordBytes_succ_eq_ok]
  constructor
  · rintro ⟨type, reserved, payload, rest', state, hreserved, hlt', -, hbytes, htake, h⟩
    obtain ⟨rfl, rfl, rfl⟩ := record_inj hbytes (length_word 2 0) hreserved (by omega) hlt'
    rw [← hput] at htake
    obtain ⟨hadmitted, rfl⟩ := (takeRecord_record hfits).mp htake
    exact ⟨hadmitted, h⟩
  · rintro ⟨hadmitted, h⟩
    refine ⟨entry.record.type, word 2 0, entry.record.payload.bytes, rest, _, length_word 2 0,
      by omega, by omega, rfl, ?_, h⟩
    rw [← hput]
    exact (takeRecord_record hfits).mpr ⟨hadmitted, rfl⟩

/-- **The bytes of some entries are read exactly when the entries are admitted in turn.** -/
theorem readRecordBytes_entries {list : List (Entry Double)} {result : PersistenceLoadResult}
    {read : PersistenceLoadResult × Bytes} {rest : Bytes}
    (hfits : ∀ entry ∈ list, FitsAll Reader entry.record.payload)
    (hlengths : ∀ entry ∈ list, entry.record.payload.byteSize < 2 ^ 32)
    (hsizes : ∀ entry ∈ list, entry.record.payload.byteSize ≤ limits.maxRecordBytes) :
    readRecordBytes limits list.length result
        ((list.map Entry.record).flatMap Record.bytes ++ rest) = .ok read ↔
      Loads limits result.state list ∧
        read = ({ result with
          state := enterAll result.state list
          recordsRead := result.recordsRead + list.length }, rest) := by
  induction list generalizing result with
  | nil => simp [readRecordBytes, Loads, enterAll, eq_comm]
  | cons entry list ih =>
    obtain ⟨hfit, hfits⟩ := List.forall_mem_cons.mp hfits
    obtain ⟨hlt, hlengths⟩ := List.forall_mem_cons.mp hlengths
    obtain ⟨hle, hsizes⟩ := List.forall_mem_cons.mp hsizes
    rw [List.map_cons, List.flatMap_cons, List.append_assoc, List.length_cons,
      readRecordBytes_entry hfit hlt hle, ih hfits hlengths hsizes, ← and_assoc, Loads,
      enterAll_cons]
    dsimp only
    rw [Nat.add_assoc, Nat.add_comm 1]

/-- A container is one container only. -/
theorem container_inj {version version' recordCount recordCount' : Nat}
    {reserved reserved' body body' : Bytes}
    (h : withChecksum (containerHead version reserved recordCount body.length) ++
        withChecksum body =
      withChecksum (containerHead version' reserved' recordCount' body'.length) ++
        withChecksum body')
    (hreserved : reserved.length = 4) (hreserved' : reserved'.length = 4)
    (hversion : version < 2 ^ 32) (hversion' : version' < 2 ^ 32)
    (hcount : recordCount < 2 ^ 64) (hcount' : recordCount' < 2 ^ 64) :
    version = version' ∧ recordCount = recordCount' ∧ body = body' := by
  have hhead := length_containerHead version hreserved recordCount body.length
  have hhead' := length_containerHead version' hreserved' recordCount' body'.length
  obtain ⟨hheads, hbodies⟩ := List.append_inj h (by
    rw [length_withChecksum, length_withChecksum, hhead, hhead'])
  have hsame := withChecksum_inj.mp hheads
  rw [containerHead, containerHead] at hsame
  obtain ⟨-, hsame⟩ := List.append_inj hsame rfl
  obtain ⟨hversions, hsame⟩ := List.append_inj hsame rfl
  obtain ⟨-, hsame⟩ := List.append_inj hsame (hreserved.trans hreserved'.symm)
  obtain ⟨hcounts, -⟩ := List.append_inj hsame rfl
  have hwords : ∀ {width value value' : Nat}, value < 256 ^ width → value' < 256 ^ width →
      word width value = word width value' → value = value' := by
    intro width value value' hlt hlt' hword
    rw [← ofWord_word_of_lt hlt, ← ofWord_word_of_lt hlt', hword]
  exact ⟨hwords hversion hversion' hversions, hwords hcount hcount' hcounts,
    withChecksum_inj.mp hbodies⟩

/-- **The container of a state is decoded exactly when it is short enough and the entries are
admitted in turn.** -/
theorem decodeDurableBytes_container {state : DurableState Double}
    {result : PersistenceLoadResult} (hstorable : Storable state)
    (hsizes : ∀ entry ∈ entries state, entry.record.payload.byteSize ≤ limits.maxRecordBytes) :
    decodeDurableBytes (container state).bytes limits = .ok result ↔
      ((entries state).length ≤ limits.maxRecords ∧
        (container state).byteSize ≤ limits.maxFileBytes ∧
        Loads limits { formatVersion := persistenceFormatVersion } (entries state)) ∧
      result =
        { state := enterAll { formatVersion := persistenceFormatVersion } (entries state)
          recordsRead := (entries state).length
          bytesRead := (container state).byteSize } := by
  have hrecords : (container state).records.length = (entries state).length := List.length_map _
  have hcount : (entries state).length < 2 ^ 64 := by
    have hle := length_records_le (container state)
    have hsize := hstorable.size
    rw [Container.byteSize] at hsize
    omega
  have hread : ∀ read, readRecordBytes limits (entries state).length
      { state := { formatVersion := persistenceFormatVersion } } ((container state).body ++ []) =
        .ok read ↔
      Loads limits { formatVersion := persistenceFormatVersion } (entries state) ∧
        read = ({
          state := enterAll { formatVersion := persistenceFormatVersion } (entries state)
          recordsRead := 0 + (entries state).length }, []) :=
    fun _ => readRecordBytes_entries hstorable.fits hstorable.lengths hsizes
  rw [List.append_nil, Nat.zero_add] at hread
  rw [decodeDurableBytes_eq_ok, length_containerBytes]
  constructor
  · rintro ⟨-, hfile, reserved, recordCount, body, read, hreserved, hlt, hle, hbytes, hrun, rfl⟩
    rw [Container.bytes, hrecords] at hbytes
    have hversion : persistenceFormatVersion < 2 ^ 32 := by decide
    obtain ⟨-, rfl, rfl⟩ :=
      container_inj hbytes (length_word 4 0) hreserved hversion hversion hcount hlt
    obtain ⟨hloads, hsame⟩ := (hread _).mp hrun
    obtain ⟨rfl, -⟩ := Prod.mk.inj hsame
    exact ⟨⟨hle, hfile, hloads⟩, rfl⟩
  · rintro ⟨⟨hle, hfile, hloads⟩, rfl⟩
    refine ⟨hstorable.size, hfile, word 4 0, (entries state).length, (container state).body, _,
      length_word 4 0, hcount, hle, ?_, (hread _).mpr ⟨hloads, rfl⟩, rfl⟩
    rw [Container.bytes, hrecords]
    rfl

/-- **A state that was encoded is decoded exactly when it is within the bounds of the
reader**, and then it is read back but for what a file does not carry. -/
theorem decode_of_encode {state : DurableState Double} {bytes : Bytes}
    {result : PersistenceLoadResult} (hstorable : Storable state)
    (hwritten : encodeDurableBytes state limits = .ok bytes) :
    decodeDurableBytes bytes limits = .ok result ↔
      ((entries state).length ≤ limits.maxRecords ∧
        (container state).byteSize ≤ limits.maxFileBytes ∧
        (∀ entry ∈ entries state, entry.Bounds limits) ∧ UniqueIds state) ∧
      result =
        { state := readBack state
          recordsRead := (entries state).length
          bytesRead := bytes.length } := by
  rw [encodeDurableBytes] at hwritten
  cases hencode : encodeDurableState state limits with
  | error e =>
    rw [hencode] at hwritten
    cases hwritten
  | ok file =>
    rw [hencode] at hwritten
    obtain rfl := Except.ok.inj hwritten
    obtain ⟨hchecks, rfl⟩ := encodeDurableState_eq_ok.mp hencode
    obtain ⟨hcounts, hsizes, -⟩ := encodeChecks_holds.mp hchecks
    rw [decodeDurableBytes_container hstorable hsizes, loads_entries, enterAll_entries,
      length_containerBytes]
    refine and_congr_left fun _ => and_congr_right fun _ => and_congr_right fun _ => ?_
    rw [and_iff_right hcounts]

/-! ### What was read -/

/-- The bytes are those of a record that is read as the entry: its payload is the one of the
entry, but that a flag may be any byte that is not zero. -/
def Carries (bytes : Bytes) (entry : Entry Double) : Prop :=
  ∃ reserved payload : Bytes, reserved.length = 2 ∧
    bytes = withChecksum (recordPart entry.record.type reserved payload) ∧
    Front (⟨payload, true⟩ : Reader) entry.record.payload empty

/-- **Records that are read are those of entries that are admitted in turn.** -/
theorem exists_of_readRecordBytes {count : Nat} {result : PersistenceLoadResult} {rest : Bytes}
    {read : PersistenceLoadResult × Bytes}
    (h : readRecordBytes limits count result rest = .ok read) :
    ∃ (list : List (Entry Double)) (parts : List Bytes), List.Forall₂ Carries parts list ∧
      parts.length = count ∧ rest = parts.flatten ++ read.2 ∧
      Loads limits result.state list ∧
      read.1 = { result with
        state := enterAll result.state list, recordsRead := result.recordsRead + count } := by
  induction count generalizing result rest with
  | zero =>
    obtain rfl := Except.ok.inj h
    exact ⟨[], [], .nil, rfl, rfl, trivial, rfl⟩
  | succ count ih =>
    obtain ⟨type, reserved, payload, rest', state, hreserved, -, -, rfl, htake, hread⟩ :=
      readRecordBytes_succ_eq_ok.mp h
    obtain ⟨entry, rfl, hfront, hadmitted, rfl⟩ := exists_of_takeRecord htake
    obtain ⟨list, parts, hcarries, rfl, rfl, hloads, hsame⟩ := ih hread
    refine ⟨entry :: list, _ :: parts, .cons ⟨reserved, payload, hreserved, rfl, hfront⟩ hcarries,
      rfl, ?_, ⟨hadmitted, hloads⟩, ?_⟩
    · rw [List.flatten_cons, List.append_assoc]
    · rw [hsame, enterAll_cons]
      dsimp only
      rw [Nat.add_assoc, Nat.add_comm 1]

end Durable

end ThermalGovernor
