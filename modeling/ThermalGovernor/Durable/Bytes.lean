import ThermalGovernor.Core.Checksum
import ThermalGovernor.Durable.Sound

/-!
# The bytes of a durable file

What a file really holds.  A container has a head of 32 bytes, the magic number, the version,
a reserved word, the number of records and the length of the body, and then the body; each
has its checksum behind it.  A record has a head of 8 bytes, its type, a reserved word and the
length of its payload, and a checksum over both.  The reserved words are not looked at.

`readRecordBytes_succ_eq_ok` and `decodeDurableBytes_eq_ok` say what a buffer is that the
decoder accepts, with its parts at their places; every other result is an error.  Whatever it
takes out of the buffer it takes with the proof that it is there.
-/

namespace ThermalGovernor

open Lib Lib.Bytes Lib.Input

instance : Scalar Double where
  ofRat := Double.ofRat
  lt := Double.lt
  le := Double.le
  sub := Double.sub

namespace Durable

/-- The source's `kPersistenceMagic`. -/
def persistenceMagic : Nat := 0x5352455056474F54

/-- The values of the source's enumeration. -/
def PersistenceRecordType.code : PersistenceRecordType → Nat
  | .coordinatorState => 1
  | .policy => 2
  | .domainDefinition => 3
  | .coupling => 4
  | .stateTransition => 5
  | .actionRecord => 6
  | .verificationRecord => 7
  | .operatorConfig => 8
  | .deviceRegistration => 9

/-- The type of a value from 1 to 9. -/
def PersistenceRecordType.ofCode : Nat → Option PersistenceRecordType
  | 1 => some .coordinatorState
  | 2 => some .policy
  | 3 => some .domainDefinition
  | 4 => some .coupling
  | 5 => some .stateTransition
  | 6 => some .actionRecord
  | 7 => some .verificationRecord
  | 8 => some .operatorConfig
  | 9 => some .deviceRegistration
  | _ => none

theorem PersistenceRecordType.ofCode_eq_some {code : Nat} {type : PersistenceRecordType} :
    PersistenceRecordType.ofCode code = some type ↔ code = type.code := by
  constructor
  · intro h
    unfold ofCode at h
    split at h <;> first | (cases h; rfl) | cases h
  · rintro rfl
    cases type <;> rfl

theorem PersistenceRecordType.code_lt (type : PersistenceRecordType) : type.code < 256 ^ 2 := by
  cases type <;> decide

/-! ### Writing -/

/-- A record without its checksum; the reserved word is written as zero. -/
def recordPart (type : PersistenceRecordType) (reserved payload : Bytes) : Bytes :=
  word 2 type.code ++ (reserved ++ (word 4 payload.length ++ payload))

def Record.bytes (record : Record Double) : Bytes :=
  withChecksum (recordPart record.type (word 2 0) record.payload.bytes)

/-- The head of a container without its checksum. -/
def containerHead (version : Nat) (reserved : Bytes) (recordCount bodyLength : Nat) : Bytes :=
  word 8 persistenceMagic ++ (word 4 version ++ (reserved ++
    (word 8 recordCount ++ word 8 bodyLength)))

def Container.body (file : Container Double) : Bytes := file.records.flatMap Record.bytes

def Container.bytes (file : Container Double) : Bytes :=
  withChecksum (containerHead file.version (word 4 0) file.records.length file.body.length) ++
    withChecksum file.body

/-- The source's `encode_durable_state`. -/
def encodeDurableBytes (state : DurableState Double) (limits : PersistenceLimits) :
    Result Bytes :=
  (encodeDurableState state limits).map Container.bytes

/-! ### Reading -/

structure PersistenceLoadResult where
  state : DurableState Double
  recordsRead : Nat := 0
  bytesRead : Nat := 0

/-- Read so many records off the body, each into the state before it. -/
def readRecordBytes (limits : PersistenceLimits) :
    Nat → PersistenceLoadResult → Bytes → Result (PersistenceLoadResult × Bytes)
  | 0, result, rest => .ok (result, rest)
  | count + 1, result, rest =>
    if hhead : rest.length < 8 then
      failure .persistenceTruncated "durable container ended inside a record header"
    else
      -- the head is there, so the source's second look at the reader finds it good
      let payloadLength := wordAt rest 4 4 (by omega)
      if limits.maxRecordBytes < payloadLength then
        failure .persistenceCorrupt "durable container declares an absurd record length"
      else
        match PersistenceRecordType.ofCode (wordAt rest 0 2 (by omega)) with
        | none => failure .persistenceCorrupt "durable container carries an unknown record type"
        | some type =>
          if hpayload : rest.length - 8 < payloadLength + 4 then
            failure .persistenceTruncated "durable container record payload is truncated"
          else if checksum (slice rest 0 (8 + payloadLength) (by omega)) ≠
              wordAt rest (8 + payloadLength) 4 (by omega) then
            failure .persistenceIntegrity "durable container record integrity check failed"
          else
            (takeRecord limits result.state type
                (⟨slice rest 8 payloadLength (by omega), true⟩ : Reader)).bind fun state =>
              readRecordBytes limits count
                { result with state := state, recordsRead := result.recordsRead + 1 }
                (rest.drop (8 + payloadLength + 4))

/-- The checks of the head, in the order of the source. -/
def headChecks (bytes : Bytes) (limits : PersistenceLimits) (h : 40 ≤ bytes.length) :
    List Check :=
  [ ⟨wordAt bytes 0 8 (by omega) = persistenceMagic, .persistenceCorrupt,
      "durable container magic mismatch"⟩,
    ⟨wordAt bytes 8 4 (by omega) = persistenceFormatVersion, .persistenceUnsupportedVersion,
      "durable container version is not supported"⟩,
    ⟨checksum (slice bytes 0 32 (by omega)) = wordAt bytes 32 4 (by omega),
      .persistenceIntegrity, "durable container header integrity check failed"⟩,
    ⟨wordAt bytes 16 8 (by omega) ≤ limits.maxRecords, .persistenceCorrupt,
      "durable container declares an absurd record count"⟩,
    ⟨wordAt bytes 24 8 (by omega) ≤ limits.maxFileBytes, .persistenceCorrupt,
      "durable container declares an absurd body length"⟩ ]

/-- The sum of 64 bits does not wrap when it is the size of a buffer with a head. -/
theorem body_inside {bytes : Bytes} (h : 40 ≤ bytes.length) {bodyLength : Nat}
    (hlt : bodyLength < 256 ^ 8) (hshort : ¬ bytes.length < (36 + bodyLength + 4) % 2 ^ 64)
    (hlong : ¬ (36 + bodyLength + 4) % 2 ^ 64 < bytes.length) :
    36 + bodyLength + 4 = bytes.length := by
  omega

/-- The source's `decode_durable_state`. -/
def decodeDurableBytes (bytes : Bytes) (limits : PersistenceLimits) :
    Result PersistenceLoadResult :=
  if limits.maxFileBytes < bytes.length then
    failure .frameTooLarge "durable container exceeds the configured bound"
  else if hsize : bytes.length < 36 + 4 then
    failure .persistenceTruncated "durable container is shorter than its header"
  else
    (runChecks (headChecks bytes limits (by omega))).bind fun _ =>
    let bodyLength := wordAt bytes 24 8 (by omega)
    let expected := (36 + bodyLength + 4) % 2 ^ 64
    if hshort : bytes.length < expected then
      failure .persistenceTruncated "durable container body is truncated"
    else if hlong : expected < bytes.length then
      failure .persistenceTrailingGarbage
        "durable container has trailing bytes after its declared extent"
    else
      have hinside := body_inside (by omega) (wordAt_lt _) hshort hlong
      let body := slice bytes 36 bodyLength (by omega)
      if checksum body ≠ wordAt bytes (36 + bodyLength) 4 (by omega) then
        failure .persistenceIntegrity "durable container body integrity check failed"
      else
        (readRecordBytes limits (wordAt bytes 16 8 (by omega))
            { state := { formatVersion := wordAt bytes 8 4 (by omega) } } body).bind fun read =>
          if read.2.isEmpty then .ok { read.1 with bytesRead := bytes.length }
          else failure .persistenceTrailingGarbage
            "durable container has unread bytes inside its declared body"

/-! ### What is accepted -/

variable {limits : PersistenceLimits}

theorem length_recordPart (type : PersistenceRecordType) {reserved : Bytes}
    (hreserved : reserved.length = 2) (payload : Bytes) :
    (recordPart type reserved payload).length = 8 + payload.length := by
  rw [recordPart, List.length_append, List.length_append, List.length_append, length_word,
    length_word, hreserved]
  omega

/-- A record whose words and checksum are in order stands in front. -/
theorem eq_record_append {rest : Bytes} {type : PersistenceRecordType} {length : Nat}
    (hhead : 8 ≤ rest.length) (hlength : wordAt rest 4 4 (by omega) = length)
    (hcode : wordAt rest 0 2 (by omega) = type.code) (hinside : 8 + length + 4 ≤ rest.length)
    (hsum : checksum (slice rest 0 (8 + length) (by omega)) =
      wordAt rest (8 + length) 4 (by omega)) :
    rest = withChecksum (recordPart type (slice rest 2 2 (by omega))
      (slice rest 8 length (by omega))) ++ rest.drop (8 + length + 4) := by
  have hpart : slice rest 0 (8 + length) (by omega) =
      recordPart type (slice rest 2 2 (by omega)) (slice rest 8 length (by omega)) := by
    have h₀ : slice rest 0 (8 + length) _ = slice rest 0 2 _ ++ slice rest 2 (6 + length) _ :=
      slice_split rfl (by omega) (by omega)
    have h₂ : slice rest 2 (6 + length) _ = slice rest 2 2 _ ++ slice rest 4 (4 + length) _ :=
      slice_split rfl (by omega) (by omega)
    have h₄ : slice rest 4 (4 + length) _ = slice rest 4 4 _ ++ slice rest 8 length _ :=
      slice_split rfl (by omega) (by omega)
    have htype : slice rest 0 2 _ = word 2 type.code :=
      (slice_eq_word (by omega)).trans (congrArg (word 2) hcode)
    have hsize : slice rest 4 4 _ = word 4 length :=
      (slice_eq_word (by omega)).trans (congrArg (word 4) hlength)
    rw [h₀, h₂, h₄, htype, hsize, recordPart, length_slice]
  have hsum' : checksum (slice rest 0 (8 + length) (by omega)) =
      wordAt rest (0 + (8 + length)) 4 (by omega) := by simpa only [Nat.zero_add] using hsum
  have hfront := drop_eq_withChecksum rest 0 (8 + length) (by omega) hsum'
  rw [List.drop_zero, hpart, Nat.zero_add] at hfront
  exact hfront

/-- The words and the parts of a record that stands in front. -/
theorem record_words {rest rest' reserved payload : Bytes} {type : PersistenceRecordType}
    (h : rest = withChecksum (recordPart type reserved payload) ++ rest')
    (hreserved : reserved.length = 2) (hlt : payload.length < 2 ^ 32) :
    ∃ hlength : 8 + payload.length + 4 ≤ rest.length,
      wordAt rest 0 2 (by omega) = type.code ∧ wordAt rest 4 4 (by omega) = payload.length ∧
      slice rest 0 (8 + payload.length) (by omega) = recordPart type reserved payload ∧
      wordAt rest (8 + payload.length) 4 hlength = checksum (recordPart type reserved payload) ∧
      slice rest 8 payload.length (by omega) = payload ∧
      rest.drop (8 + payload.length + 4) = rest' := by
  have hpart := length_recordPart type hreserved payload
  have hlength : rest.length = 8 + payload.length + 4 + rest'.length := by
    rw [h, List.length_append, length_withChecksum, hpart]
  have hfront : rest.drop 0 = recordPart type reserved payload ++
      (word 4 (checksum (recordPart type reserved payload)) ++ rest') := by
    rw [List.drop_zero, h, withChecksum, List.append_assoc]
  have hwords : rest.drop 0 = word 2 type.code ++ (reserved ++ (word 4 payload.length ++ (payload ++
      (word 4 (checksum (recordPart type reserved payload)) ++ rest')))) := by
    rw [hfront]
    simp only [recordPart, List.append_assoc]
  have h₂ := drop_append hwords (length_word 2 _)
  have h₄ := drop_append h₂ hreserved
  have h₈ := drop_append h₄ (length_word 4 _)
  have hsum := drop_append h₈ rfl
  refine ⟨by omega, ?_, ?_, ?_, ?_, ?_, ?_⟩
  · exact wordAt_of_drop hwords type.code_lt _
  · exact wordAt_of_drop h₄ hlt _
  · exact slice_of_drop hfront hpart _
  · exact wordAt_of_drop hsum (checksum_lt _) _
  · exact slice_of_drop h₈ rfl _
  · exact drop_append hsum (length_word 4 _)

/-- **A record is read exactly when it stands in front with its checksum and is taken.** -/
theorem readRecordBytes_succ_eq_ok {count : Nat} {result : PersistenceLoadResult} {rest : Bytes}
    {read : PersistenceLoadResult × Bytes} :
    readRecordBytes limits (count + 1) result rest = .ok read ↔
      ∃ type reserved payload rest' state, reserved.length = 2 ∧ payload.length < 2 ^ 32 ∧
        payload.length ≤ limits.maxRecordBytes ∧
        rest = withChecksum (recordPart type reserved payload) ++ rest' ∧
        takeRecord limits result.state type (⟨payload, true⟩ : Reader) = .ok state ∧
        readRecordBytes limits count
          { result with state := state, recordsRead := result.recordsRead + 1 } rest' =
            .ok read := by
  constructor
  · intro h
    unfold readRecordBytes at h
    split at h
    · cases h
    · rename_i hhead
      dsimp only at h
      split at h
      · cases h
      · rename_i hlength
        split at h
        · cases h
        · rename_i type hcode
          split at h
          · cases h
          · rename_i hpayload
            split at h
            · cases h
            · rename_i hsum
              obtain ⟨state, htake, h⟩ := bind_eq_ok.mp h
              have hlt : wordAt rest 4 4 (by omega) < 256 ^ 4 := wordAt_lt _
              refine ⟨type, _, _, _, state, ?_, ?_, ?_, eq_record_append (by omega) rfl
                (PersistenceRecordType.ofCode_eq_some.mp hcode) (by omega) (not_not.mp hsum),
                htake, h⟩
              · exact length_slice _
              · rw [length_slice]
                exact hlt
              · rw [length_slice]
                omega
  · rintro ⟨type, reserved, payload, rest', state, hreserved, hlt, hle, hrest, htake, h⟩
    obtain ⟨hinside, hcode, hlength, hpart, hsum, hpayload, hdrop⟩ :=
      record_words hrest hreserved hlt
    unfold readRecordBytes
    rw [dif_neg (by omega)]
    simp only [hlength, hcode, hpart, hsum, hpayload, hdrop]
    rw [if_neg (by omega), PersistenceRecordType.ofCode_eq_some.mpr rfl]
    dsimp only
    rw [dif_neg (by omega), if_neg (by simp)]
    exact bind_eq_ok.mpr ⟨state, htake, h⟩

theorem length_containerHead (version : Nat) {reserved : Bytes} (hreserved : reserved.length = 4)
    (recordCount bodyLength : Nat) :
    (containerHead version reserved recordCount bodyLength).length = 32 := by
  simp only [containerHead, List.length_append, length_word, hreserved]

/-- A buffer whose words and checksums are in order is a container. -/
theorem eq_container {bytes : Bytes} {bodyLength : Nat}
    (hinside : 36 + bodyLength + 4 = bytes.length)
    (hmagic : wordAt bytes 0 8 (by omega) = persistenceMagic)
    (hlength : wordAt bytes 24 8 (by omega) = bodyLength)
    (hhead : checksum (slice bytes 0 32 (by omega)) = wordAt bytes 32 4 (by omega))
    (hbody : checksum (slice bytes 36 bodyLength (by omega)) =
      wordAt bytes (36 + bodyLength) 4 (by omega)) :
    bytes = withChecksum (containerHead (wordAt bytes 8 4 (by omega))
        (slice bytes 12 4 (by omega)) (wordAt bytes 16 8 (by omega)) bodyLength) ++
      withChecksum (slice bytes 36 bodyLength (by omega)) := by
  have hwords : slice bytes 0 32 (by omega) = containerHead (wordAt bytes 8 4 (by omega))
      (slice bytes 12 4 (by omega)) (wordAt bytes 16 8 (by omega)) bodyLength := by
    have h₀ : slice bytes 0 32 _ = slice bytes 0 8 _ ++ slice bytes 8 24 _ :=
      slice_split rfl (by omega) (by omega)
    have h₈ : slice bytes 8 24 _ = slice bytes 8 4 _ ++ slice bytes 12 20 _ :=
      slice_split rfl (by omega) (by omega)
    have h₁₂ : slice bytes 12 20 _ = slice bytes 12 4 _ ++ slice bytes 16 16 _ :=
      slice_split rfl (by omega) (by omega)
    have h₁₆ : slice bytes 16 16 _ = slice bytes 16 8 _ ++ slice bytes 24 8 _ :=
      slice_split rfl (by omega) (by omega)
    have hfirst : slice bytes 0 8 _ = word 8 persistenceMagic :=
      (slice_eq_word (by omega)).trans (congrArg (word 8) hmagic)
    have hlast : slice bytes 24 8 _ = word 8 bodyLength :=
      (slice_eq_word (by omega)).trans (congrArg (word 8) hlength)
    have hversion : slice bytes 8 4 _ = word 4 (wordAt bytes 8 4 _) := slice_eq_word (by omega)
    have hcount : slice bytes 16 8 _ = word 8 (wordAt bytes 16 8 _) := slice_eq_word (by omega)
    rw [h₀, h₈, h₁₂, h₁₆, hfirst, hlast, hversion, hcount, containerHead]
  have hfront : bytes.drop 0 = withChecksum (slice bytes 0 32 _) ++ bytes.drop 36 :=
    drop_eq_withChecksum bytes 0 32 (by omega) hhead
  have hrest : bytes.drop 36 = withChecksum (slice bytes 36 bodyLength _) ++
      bytes.drop (36 + bodyLength + 4) := drop_eq_withChecksum bytes 36 bodyLength (by omega) hbody
  rw [List.drop_zero, hwords, hrest, List.drop_of_length_le (by omega), List.append_nil] at hfront
  exact hfront

/-- The words and the parts of a container. -/
theorem container_words {bytes reserved body : Bytes} {version recordCount : Nat}
    (h : bytes = withChecksum (containerHead version reserved recordCount body.length) ++
      withChecksum body)
    (hreserved : reserved.length = 4) (hversion : version < 2 ^ 32) (hcount : recordCount < 2 ^ 64)
    (hlt : body.length < 2 ^ 64) :
    ∃ hlength : 36 + body.length + 4 = bytes.length,
      wordAt bytes 0 8 (by omega) = persistenceMagic ∧ wordAt bytes 8 4 (by omega) = version ∧
      wordAt bytes 16 8 (by omega) = recordCount ∧
      wordAt bytes 24 8 (by omega) = body.length ∧
      checksum (slice bytes 0 32 (by omega)) = wordAt bytes 32 4 (by omega) ∧
      slice bytes 36 body.length (by omega) = body ∧
      wordAt bytes (36 + body.length) 4 (by omega) = checksum body := by
  have hhead := length_containerHead version hreserved recordCount body.length
  have hlength : bytes.length = 36 + (body.length + 4) := by
    rw [h, List.length_append, length_withChecksum, length_withChecksum, hhead]
  have hfront : bytes.drop 0 = containerHead version reserved recordCount body.length ++
      (word 4 (checksum (containerHead version reserved recordCount body.length)) ++
        withChecksum body) := by
    rw [List.drop_zero, h, withChecksum, List.append_assoc]
  have hwords : bytes.drop 0 = word 8 persistenceMagic ++ (word 4 version ++ (reserved ++
      (word 8 recordCount ++ (word 8 body.length ++
        (word 4 (checksum (containerHead version reserved recordCount body.length)) ++
          withChecksum body))))) := by
    rw [hfront]
    simp only [containerHead, List.append_assoc]
  have h₈ := drop_append hwords (length_word 8 _)
  have h₁₂ := drop_append h₈ (length_word 4 _)
  have h₁₆ := drop_append h₁₂ hreserved
  have h₂₄ := drop_append h₁₆ (length_word 8 _)
  have h₃₂ := drop_append hfront hhead
  have h₃₆ := drop_append h₃₂ (length_word 4 _)
  have hsum := drop_append h₃₆ rfl
  have hsum' := hsum.trans (List.append_nil _).symm
  refine ⟨by omega, ?_, ?_, ?_, ?_, ?_, ?_, ?_⟩
  · exact wordAt_of_drop hwords (by decide) _
  · exact wordAt_of_drop h₈ hversion _
  · exact wordAt_of_drop h₁₆ hcount _
  · exact wordAt_of_drop h₂₄ hlt _
  · rw [slice_of_drop hfront hhead (by omega)]
    exact (wordAt_of_drop h₃₂ (checksum_lt _) (by omega)).symm
  · exact slice_of_drop h₃₆ rfl _
  · exact wordAt_of_drop hsum' (checksum_lt _) _

/-- What the checks of the head ask for. -/
theorem headChecks_holds {bytes : Bytes} (h : 40 ≤ bytes.length) :
    (∀ check ∈ headChecks bytes limits h, check.holds = true) ↔
      wordAt bytes 0 8 (by omega) = persistenceMagic ∧
      wordAt bytes 8 4 (by omega) = persistenceFormatVersion ∧
      checksum (slice bytes 0 32 (by omega)) = wordAt bytes 32 4 (by omega) ∧
      wordAt bytes 16 8 (by omega) ≤ limits.maxRecords ∧
      wordAt bytes 24 8 (by omega) ≤ limits.maxFileBytes := by
  simp only [headChecks, List.forall_mem_cons, List.not_mem_nil, false_implies, implies_true,
    and_true, decide_eq_true_eq]

/-- **A buffer is decoded exactly when it is a container whose records use up its body.** -/
theorem decodeDurableBytes_eq_ok {bytes : Bytes} {result : PersistenceLoadResult} :
    decodeDurableBytes bytes limits = .ok result ↔
      bytes.length < 2 ^ 64 ∧ bytes.length ≤ limits.maxFileBytes ∧
        ∃ reserved recordCount body read, reserved.length = 4 ∧ recordCount < 2 ^ 64 ∧
          recordCount ≤ limits.maxRecords ∧
          bytes = withChecksum (containerHead persistenceFormatVersion reserved recordCount
            body.length) ++ withChecksum body ∧
          readRecordBytes limits recordCount
            { state := { formatVersion := persistenceFormatVersion } } body = .ok (read, []) ∧
          result = { read with bytesRead := bytes.length } := by
  constructor
  · intro h
    unfold decodeDurableBytes at h
    split at h
    · cases h
    · rename_i hfile
      split at h
      · cases h
      · rename_i hsize
        obtain ⟨⟨⟩, hchecks, h⟩ := bind_eq_ok.mp h
        obtain ⟨hmagic, hversion, hhead, hcount, -⟩ :=
          (headChecks_holds (by omega)).mp (runChecks_eq_ok.mp hchecks)
        dsimp only at h
        split at h
        · cases h
        · rename_i hshort
          split at h
          · cases h
          · rename_i hlong
            have hinside := body_inside (by omega) (wordAt_lt _) hshort hlong
            split at h
            · cases h
            · rename_i hbody
              obtain ⟨read, hread, h⟩ := bind_eq_ok.mp h
              split at h
              · rename_i hused
                have hbytes := eq_container hinside hmagic rfl hhead (not_not.mp hbody)
                rw [hversion] at hbytes hread
                refine ⟨by omega, by omega, slice bytes 12 4 (by omega),
                  wordAt bytes 16 8 (by omega),
                  slice bytes 36 (wordAt bytes 24 8 (by omega)) (by omega), read.1,
                  length_slice _, wordAt_lt _, hcount, ?_, ?_, ?_⟩
                · rw [length_slice]
                  exact hbytes
                · rw [hread, ← List.isEmpty_iff.mp hused]
                · exact (Except.ok.inj h).symm
              · cases h
  · rintro ⟨hsize, hfile, reserved, recordCount, body, read, hreserved, hlt, hcount, hbytes,
      hread, rfl⟩
    have hlt' : body.length < 2 ^ 64 := by
      rw [hbytes, List.length_append, length_withChecksum body] at hsize
      omega
    obtain ⟨hinside, hmagic, hversion, hrecords, hlength, hhead, hbody, hsum⟩ :=
      container_words hbytes hreserved (by decide) hlt hlt'
    have hchecks : runChecks (headChecks bytes limits (by omega)) = .ok () := by
      rw [runChecks_eq_ok, headChecks_holds]
      exact ⟨hmagic, hversion, hhead, by omega, by omega⟩
    unfold decodeDurableBytes
    rw [if_neg (by omega), dif_neg (by omega), hchecks]
    refine bind_eq_ok.mpr ⟨(), rfl, ?_⟩
    simp only [hlength, hrecords, hversion, hbody, hsum]
    rw [dif_neg (by omega), dif_neg (by omega), if_neg (by simp)]
    exact bind_eq_ok.mpr ⟨(read, []), hread, rfl⟩

end Durable

end ThermalGovernor
