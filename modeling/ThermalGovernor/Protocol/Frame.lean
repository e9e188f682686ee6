import ThermalGovernor.Core.Checksum
import ThermalGovernor.Core.Identity

/-!
# Frames

A frame has a head of 16 bytes, the magic number, the version, the kind, the flags and the
length of the payload, and then the payload; each has its checksum behind it.

`decodeFrame_eq_ok` : a buffer is decoded as a frame exactly when it is the encoding of it.
-/

namespace ThermalGovernor

open Lib Lib.Bytes

namespace Protocol

/-- The kinds of message, at the positions of their values. -/
inductive MessageKind
  | invalid | hello | helloAck | registerWorker | registerAck | publishEvidence | publishAck
  | evaluateRequest | evaluateResponse | dispatchIntent | intentAck | intentResult
  | snapshotRequest | snapshotResponse | heartbeat | shutdown | errorResponse
  | recoveryAuthorize | verificationReport | queryRequest | queryResponse | disconnect
  | responseEnd
  deriving DecidableEq

/-- Whether a value is that of a kind other than `invalid`. -/
def isKnownMessageKind (raw : Nat) : Bool := 1 ≤ raw && raw ≤ MessageKind.responseEnd.ctorIdx

theorem MessageKind.ctorIdx_ofNat :
    ∀ raw ≤ MessageKind.responseEnd.ctorIdx, (MessageKind.ofNat raw).ctorIdx = raw := by decide

theorem isKnownMessageKind_iff {kind : MessageKind} :
    isKnownMessageKind kind.ctorIdx = true ↔ kind ≠ .invalid := by
  cases kind <;> decide

/-- The source's `kFrameMagic`. -/
def frameMagic : Nat := 0x564F4754

/-- The source's `kProtocolVersion`. -/
def protocolVersion : Nat := 1

structure FrameLimits where
  maxPayloadBytes : Nat := 4 * 1024 * 1024

structure FrameHeader where
  version : Nat
  kind : MessageKind
  flags : UInt32
  payloadLength : Nat

structure Frame where
  kind : MessageKind
  flags : UInt32
  payload : Bytes
  deriving DecidableEq

/-! ### Writing -/

/-- The head of a frame without its checksum. -/
def frameHead (kind : MessageKind) (flags : UInt32) (payloadLength : Nat) : Bytes :=
  word 4 frameMagic ++ (word 2 protocolVersion ++ (word 2 kind.ctorIdx ++
    (word 4 flags.toNat ++ word 4 payloadLength)))

/-- The source's `encode_frame`. -/
def encodeFrame (kind : MessageKind) (flags : UInt32) (payload : Bytes) : Result Bytes :=
  if ! isKnownMessageKind kind.ctorIdx then
    failure .invalidArgument "cannot encode an unknown frame kind"
  else if 0xFFFFFFFF < payload.length then
    failure .frameTooLarge "payload length exceeds u32"
  else .ok (withChecksum (frameHead kind flags payload.length) ++ withChecksum payload)

/-! ### Reading -/

/-- The checks of a head, in the order of the source. -/
def headerChecks (header : Bytes) (limits : FrameLimits) (h : 20 ≤ header.length) :
    List Check :=
  [ ⟨wordAt header 0 4 (by omega) = frameMagic, .frameCorrupt, "frame magic mismatch"⟩,
    ⟨wordAt header 16 4 h = checksum (slice header 0 16 (by omega)), .frameCorrupt,
      "frame header checksum mismatch"⟩,
    ⟨wordAt header 4 2 (by omega) = protocolVersion, .protocolUnsupported,
      "unsupported protocol version"⟩,
    ⟨isKnownMessageKind (wordAt header 6 2 (by omega)), .frameCorrupt,
      "unrecognised message kind"⟩,
    ⟨wordAt header 12 4 (by omega) ≤ limits.maxPayloadBytes, .frameTooLarge,
      "declared payload length exceeds the configured bound"⟩ ]

/-- The source's `decode_frame_header`. -/
def decodeFrameHeader (header : Bytes) (limits : FrameLimits) : Result FrameHeader :=
  if h : header.length < 20 then
    failure .frameTruncated "header is shorter than 20 bytes"
  else
    (runChecks (headerChecks header limits (by omega))).map fun _ =>
      { version := wordAt header 4 2 (by omega)
        kind := .ofNat (wordAt header 6 2 (by omega))
        flags := .ofNat (wordAt header 8 4 (by omega))
        payloadLength := wordAt header 12 4 (by omega) }

/-- The source's `decode_frame`. -/
def decodeFrame (bytes : Bytes) (limits : FrameLimits) : Result Frame :=
  if bytes.length < 24 then
    failure .frameTruncated "frame shorter than the overhead"
  else
    (decodeFrameHeader bytes limits).bind fun header =>
    if hshort : bytes.length < 24 + header.payloadLength then
      failure .frameTruncated "frame payload truncated"
    else if 24 + header.payloadLength < bytes.length then
      failure .frameCorrupt "trailing bytes after the declared frame extent"
    else
      let payload := slice bytes 20 header.payloadLength (by omega)
      if wordAt bytes (20 + header.payloadLength) 4 (by omega) ≠ checksum payload then
        failure .frameCorrupt "frame payload checksum mismatch"
      else .ok { kind := header.kind, flags := header.flags, payload := payload }

/-! ### What is accepted -/

variable {limits : FrameLimits}

theorem length_frameHead (kind : MessageKind) (flags : UInt32) (payloadLength : Nat) :
    (frameHead kind flags payloadLength).length = 16 := by
  simp only [frameHead, List.length_append, length_word]

/-- Equal heads announce payloads of one length. -/
theorem payloadLength_inj {kind kind' : MessageKind} {flags flags' : UInt32} {n n' : Nat}
    (hlt : n < 2 ^ 32) (hlt' : n' < 2 ^ 32)
    (h : frameHead kind flags n = frameHead kind' flags' n') : n = n' := by
  have hlast : word 4 n = word 4 n' := by
    have h := congrArg (List.drop 12) h
    simpa only [frameHead, ← List.append_assoc, List.drop_left', List.length_append,
      length_word] using h
  have hvalue := congrArg ofWord hlast
  rwa [ofWord_word_of_lt hlt, ofWord_word_of_lt hlt'] at hvalue

/-- **A head is decoded exactly when it stands in front with its checksum.** -/
theorem decodeFrameHeader_eq_ok {bytes : Bytes} {header : FrameHeader} :
    decodeFrameHeader bytes limits = .ok header ↔
      (∃ rest, bytes =
        withChecksum (frameHead header.kind header.flags header.payloadLength) ++ rest) ∧
      header.version = protocolVersion ∧ header.kind ≠ .invalid ∧
      header.payloadLength ≤ limits.maxPayloadBytes ∧ header.payloadLength < 2 ^ 32 := by
  constructor
  · intro h
    unfold decodeFrameHeader at h
    split at h
    · cases h
    · rename_i hlength
      cases hchecks : runChecks (headerChecks bytes limits (by omega)) with
      | error e =>
        rw [hchecks] at h
        cases h
      | ok =>
        rw [hchecks] at h
        obtain rfl := Except.ok.inj h
        rw [runChecks_eq_ok] at hchecks
        simp only [headerChecks, List.forall_mem_cons, List.not_mem_nil, false_implies,
          implies_true, and_true, decide_eq_true_eq] at hchecks
        obtain ⟨hmagic, hsum, hversion, hknown, hle⟩ := hchecks
        have hkind : (MessageKind.ofNat (wordAt bytes 6 2 (by omega))).ctorIdx =
            wordAt bytes 6 2 (by omega) := by
          rw [isKnownMessageKind, Bool.and_eq_true, decide_eq_true_eq, decide_eq_true_eq] at hknown
          exact MessageKind.ctorIdx_ofNat _ hknown.2
        have hflags : (UInt32.ofNat (wordAt bytes 8 4 (by omega))).toNat =
            wordAt bytes 8 4 (by omega) := by
          have hlt : wordAt bytes 8 4 (by omega) < 256 ^ 4 := wordAt_lt _
          rw [UInt32.toNat_ofNat']
          omega
        refine ⟨⟨bytes.drop 20, ?_⟩, hversion, ?_, hle, wordAt_lt _⟩
        · have hwords : slice bytes 0 16 (by omega) = frameHead
              (.ofNat (wordAt bytes 6 2 (by omega))) (.ofNat (wordAt bytes 8 4 (by omega)))
              (wordAt bytes 12 4 (by omega)) := by
            have h₀ : slice bytes 0 16 _ = slice bytes 0 4 _ ++ slice bytes 4 12 _ :=
              slice_split rfl (by omega) (by omega)
            have h₄ : slice bytes 4 12 _ = slice bytes 4 2 _ ++ slice bytes 6 10 _ :=
              slice_split rfl (by omega) (by omega)
            have h₆ : slice bytes 6 10 _ = slice bytes 6 2 _ ++ slice bytes 8 8 _ :=
              slice_split rfl (by omega) (by omega)
            have h₈ : slice bytes 8 8 _ = slice bytes 8 4 _ ++ slice bytes 12 4 _ :=
              slice_split rfl (by omega) (by omega)
            have hfirst : slice bytes 0 4 _ = word 4 frameMagic :=
              (slice_eq_word (by omega)).trans (congrArg (word 4) hmagic)
            have hsecond : slice bytes 4 2 _ = word 2 protocolVersion :=
              (slice_eq_word (by omega)).trans (congrArg (word 2) hversion)
            have hthird : slice bytes 6 2 _ = word 2 (wordAt bytes 6 2 _) :=
              slice_eq_word (by omega)
            have hfourth : slice bytes 8 4 _ = word 4 (wordAt bytes 8 4 _) :=
              slice_eq_word (by omega)
            have hlast : slice bytes 12 4 _ = word 4 (wordAt bytes 12 4 _) :=
              slice_eq_word (by omega)
            rw [h₀, h₄, h₆, h₈, hfirst, hsecond, hthird, hfourth, hlast, frameHead, hkind, hflags]
          have hfront : bytes.drop 0 = withChecksum (slice bytes 0 16 _) ++ bytes.drop 20 :=
            drop_eq_withChecksum bytes 0 16 (by omega) hsum.symm
          rw [List.drop_zero, hwords] at hfront
          exact hfront
        · rw [← isKnownMessageKind_iff, hkind]
          exact hknown
  · rintro ⟨⟨rest, hbytes⟩, hversion, hkind, hle, hlt⟩
    obtain ⟨version, kind, flags, payloadLength⟩ := header
    dsimp only at hbytes hversion hkind hle hlt
    have hhead := length_frameHead kind flags payloadLength
    have hlength : bytes.length = 20 + rest.length := by
      rw [hbytes, List.length_append, length_withChecksum, hhead]
    have hfront : bytes.drop 0 = frameHead kind flags payloadLength ++
        (word 4 (checksum (frameHead kind flags payloadLength)) ++ rest) := by
      rw [List.drop_zero, hbytes, withChecksum, List.append_assoc]
    have hwords : bytes.drop 0 = word 4 frameMagic ++ (word 2 protocolVersion ++
        (word 2 kind.ctorIdx ++ (word 4 flags.toNat ++ (word 4 payloadLength ++
          (word 4 (checksum (frameHead kind flags payloadLength)) ++ rest))))) := by
      rw [hfront]
      simp only [frameHead, List.append_assoc]
    have h₄ := drop_append hwords (length_word 4 _)
    have h₆ := drop_append h₄ (length_word 2 _)
    have h₈ := drop_append h₆ (length_word 2 _)
    have h₁₂ := drop_append h₈ (length_word 4 _)
    have h₁₆ := drop_append hfront hhead
    have hcode : kind.ctorIdx < 256 ^ 2 := by cases kind <;> decide
    have hmagic' : wordAt bytes 0 4 (by omega) = frameMagic :=
      wordAt_of_drop hwords (by decide) _
    have hversion' : wordAt bytes 4 2 (by omega) = protocolVersion :=
      wordAt_of_drop h₄ (by decide) _
    have hkind' : wordAt bytes 6 2 (by omega) = kind.ctorIdx := wordAt_of_drop h₆ hcode _
    have hflags' : wordAt bytes 8 4 (by omega) = flags.toNat :=
      wordAt_of_drop h₈ flags.toNat_lt _
    have hlength' : wordAt bytes 12 4 (by omega) = payloadLength := wordAt_of_drop h₁₂ hlt _
    have hsum' : wordAt bytes 16 4 (by omega) = checksum (slice bytes 0 16 (by omega)) := by
      rw [slice_of_drop hfront hhead]
      exact wordAt_of_drop h₁₆ (checksum_lt _) _
    have hchecks : runChecks (headerChecks bytes limits (by omega)) = .ok () := by
      rw [runChecks_eq_ok]
      simp only [headerChecks, List.forall_mem_cons, List.not_mem_nil, false_implies,
        implies_true, and_true, decide_eq_true_eq]
      rw [hkind', hlength']
      exact ⟨hmagic', hsum', hversion', isKnownMessageKind_iff.mpr hkind, hle⟩
    unfold decodeFrameHeader
    rw [dif_neg (by omega), hchecks, Except.map]
    simp only [hversion', hkind', hflags', hlength', hversion, MessageKind.ofNat_ctorIdx,
      UInt32.ofNat_toNat]

theorem encodeFrame_eq_ok {kind : MessageKind} {flags : UInt32} {payload bytes : Bytes} :
    encodeFrame kind flags payload = .ok bytes ↔
      kind ≠ .invalid ∧ payload.length < 2 ^ 32 ∧
        withChecksum (frameHead kind flags payload.length) ++ withChecksum payload = bytes := by
  rw [← isKnownMessageKind_iff]
  unfold encodeFrame
  split
  · rename_i hunknown
    rw [Bool.not_eq_true'] at hunknown
    exact ⟨fun h => (by cases h), fun h => absurd (hunknown.symm.trans h.1) Bool.false_ne_true⟩
  · rename_i hknown
    rw [Bool.not_eq_true', Bool.not_eq_false] at hknown
    split
    · exact ⟨fun h => (by cases h), fun h => (by omega)⟩
    · exact ⟨fun h => ⟨hknown, by omega, Except.ok.inj h⟩, fun h => congrArg Except.ok h.2.2⟩

/-- **A buffer is decoded as a frame exactly when it is the encoding of it and the payload is
within the limit.** -/
theorem decodeFrame_eq_ok {bytes : Bytes} {frame : Frame} :
    decodeFrame bytes limits = .ok frame ↔
      frame.kind ≠ .invalid ∧ frame.payload.length ≤ limits.maxPayloadBytes ∧
        frame.payload.length < 2 ^ 32 ∧
        bytes = withChecksum (frameHead frame.kind frame.flags frame.payload.length) ++
          withChecksum frame.payload := by
  constructor
  · intro h
    unfold decodeFrame at h
    split at h
    · cases h
    · obtain ⟨header, hheader, h⟩ := bind_eq_ok.mp h
      obtain ⟨⟨rest, hrest⟩, -, hkind, hle, hlt⟩ := decodeFrameHeader_eq_ok.mp hheader
      split at h
      · cases h
      · rename_i hshort
        split at h
        · cases h
        · rename_i hlong
          dsimp only at h
          split at h
          · cases h
          · rename_i hsum
            obtain rfl := Except.ok.inj h
            dsimp only
            rw [length_slice]
            refine ⟨hkind, hle, hlt, ?_⟩
            have hhead := length_frameHead header.kind header.flags header.payloadLength
            have hbody : bytes.drop 20 = withChecksum (slice bytes 20 header.payloadLength _) ++
                bytes.drop (20 + header.payloadLength + 4) :=
              drop_eq_withChecksum bytes 20 header.payloadLength (by omega) (not_not.mp hsum).symm
            have hend : bytes.drop (20 + header.payloadLength + 4) = [] :=
              List.drop_of_length_le (by omega)
            rw [hend, List.append_nil] at hbody
            have hdrop : bytes.drop 20 = rest := by
              rw [hrest]
              exact List.drop_left' (by rw [length_withChecksum, hhead])
            rw [← hbody, hdrop]
            exact hrest
  · rintro ⟨hkind, hle, hlt, hbytes⟩
    obtain ⟨kind, flags, payload⟩ := frame
    dsimp only at hkind hle hlt hbytes
    have hhead := length_frameHead kind flags payload.length
    have hlength : bytes.length = 24 + payload.length := by
      rw [hbytes, List.length_append, length_withChecksum, length_withChecksum, hhead]
      omega
    have hheader : decodeFrameHeader bytes limits = .ok
        { version := protocolVersion, kind := kind, flags := flags,
          payloadLength := payload.length } :=
      decodeFrameHeader_eq_ok.mpr ⟨⟨_, hbytes⟩, rfl, hkind, hle, hlt⟩
    have hfront : bytes.drop 0 = withChecksum (frameHead kind flags payload.length) ++
        withChecksum payload := by
      rw [List.drop_zero, hbytes]
    have h₂₀ := drop_append hfront (by rw [length_withChecksum, hhead])
    have hsum := (drop_append h₂₀ rfl).trans (List.append_nil _).symm
    unfold decodeFrame
    rw [if_neg (by omega)]
    refine bind_eq_ok.mpr ⟨_, hheader, ?_⟩
    rw [dif_neg (by dsimp only; omega), if_neg (by dsimp only; omega)]
    dsimp only
    rw [slice_of_drop h₂₀ rfl, wordAt_of_drop hsum (checksum_lt _), if_neg (by simp)]

end Protocol

end ThermalGovernor
