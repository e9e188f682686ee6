import ThermalGovernor.Durable.Bytes
import ThermalGovernor.Protocol.Stream

/-!
# Laws of frames

`decodeFrame_exact` : a buffer is accepted as a frame exactly when it is its encoding.
`error_of_set` : no frame and no durable file is accepted with one byte changed.
`recvFrames_sendFrames` : frames that are sent are received, whatever the transport makes of
the stream.
-/

namespace ThermalGovernor

open Lib Lib.Bytes

namespace Protocol

/-! ### Accepted buffers -/

/-- **A buffer is accepted as a frame exactly when it is the encoding of a known kind with a
payload within the limit**; so no two buffers are the same frame, and nothing that is accepted
goes on behind a frame. -/
theorem decodeFrame_exact (limits : FrameLimits) :
    (∀ bytes frame, decodeFrame bytes limits = .ok frame ↔
      isKnownMessageKind frame.kind.ctorIdx = true ∧
        frame.payload.length ≤ limits.maxPayloadBytes ∧
        encodeFrame frame.kind frame.flags frame.payload = .ok bytes) ∧
    (∀ bytes bytes' frame, decodeFrame bytes limits = .ok frame →
      decodeFrame bytes' limits = .ok frame → bytes = bytes') ∧
    ∀ bytes rest frame frame', decodeFrame bytes limits = .ok frame →
      decodeFrame (bytes ++ rest) limits = .ok frame' → rest = [] := by
  have hexact : ∀ bytes frame, decodeFrame bytes limits = .ok frame ↔
      isKnownMessageKind frame.kind.ctorIdx = true ∧
        frame.payload.length ≤ limits.maxPayloadBytes ∧
        encodeFrame frame.kind frame.flags frame.payload = .ok bytes := by
    intro bytes frame
    rw [decodeFrame_eq_ok, encodeFrame_eq_ok, isKnownMessageKind_iff]
    constructor
    · rintro ⟨hkind, hle, hlt, hbytes⟩
      exact ⟨hkind, hle, hkind, hlt, hbytes.symm⟩
    · rintro ⟨hkind, hle, -, hlt, hbytes⟩
      exact ⟨hkind, hle, hlt, hbytes.symm⟩
  refine ⟨hexact, ?_, ?_⟩
  · intro bytes bytes' frame h h'
    exact Except.ok.inj (((hexact _ _).mp h).2.2.symm.trans ((hexact _ _).mp h').2.2)
  · intro bytes rest frame frame' h h'
    obtain ⟨-, -, hlt, hbytes⟩ := decodeFrame_eq_ok.mp h
    obtain ⟨-, -, hlt', hbytes'⟩ := decodeFrame_eq_ok.mp h'
    -- both heads are the first 20 bytes, and the length is in the head
    rw [hbytes, List.append_assoc] at hbytes'
    obtain ⟨hhead, htail⟩ := List.append_inj hbytes' (by
      rw [length_withChecksum, length_withChecksum, length_frameHead, length_frameHead])
    have hlength := payloadLength_inj hlt hlt' (withChecksum_inj.mp hhead)
    have hrest := congrArg List.length htail
    rw [List.length_append, length_withChecksum, length_withChecksum] at hrest
    exact List.length_eq_zero_iff.mp (by omega)

/-! ### A byte changed -/

theorem checked_of_decodeFrame {limits : FrameLimits} {bytes : Bytes} {frame : Frame}
    (h : decodeFrame bytes limits = .ok frame) : Checked 16 bytes := by
  obtain ⟨-, -, -, hbytes⟩ := decodeFrame_eq_ok.mp h
  exact ⟨_, _, length_frameHead _ _ _, hbytes⟩

theorem checked_of_decodeDurableBytes {limits : PersistenceLimits} {bytes : Bytes}
    {result : Durable.PersistenceLoadResult}
    (h : Durable.decodeDurableBytes bytes limits = .ok result) : Checked 32 bytes := by
  obtain ⟨-, -, reserved, recordCount, body, -, hreserved, -, -, hbytes, -⟩ :=
    Durable.decodeDurableBytes_eq_ok.mp h
  exact ⟨_, body, Durable.length_containerHead _ hreserved _ _, hbytes⟩

/-- What is never accepted is refused. -/
theorem exists_error {α : Type} {result : Result α} (h : ∀ a, result ≠ .ok a) :
    ∃ e, result = .error e := by
  cases result with
  | error e => exact ⟨e, rfl⟩
  | ok a => exact absurd rfl (h a)

/-- **A frame or a durable file with one byte changed is refused**, whichever byte it is and
whatever it becomes, and whatever limits it is read with. -/
theorem error_of_set :
    (∀ kind flags payload bytes, encodeFrame kind flags payload = .ok bytes →
      ∀ (i : Nat) (hi : i < bytes.length) (b : UInt8), b ≠ bytes[i] → ∀ limits,
        ∃ e, decodeFrame (bytes.set i b) limits = .error e) ∧
    ∀ state written bytes, Durable.encodeDurableBytes state written = .ok bytes →
      ∀ (i : Nat) (hi : i < bytes.length) (b : UInt8), b ≠ bytes[i] → ∀ limits,
        ∃ e, Durable.decodeDurableBytes (bytes.set i b) limits = .error e := by
  constructor
  · intro kind flags payload bytes hencode i hi b hb limits
    obtain ⟨-, -, hbytes⟩ := encodeFrame_eq_ok.mp hencode
    have hchecked : Checked 16 bytes := ⟨_, _, length_frameHead _ _ _, hbytes.symm⟩
    exact exists_error fun _ h => not_checked_set hchecked hi hb (checked_of_decodeFrame h)
  · intro state written bytes hencode i hi b hb limits
    obtain ⟨file, -, rfl⟩ := map_eq_ok.mp hencode
    have hchecked : Checked 32 file.bytes :=
      ⟨_, _, Durable.length_containerHead _ (length_word 4 0) _ _, rfl⟩
    exact exists_error fun _ h => not_checked_set hchecked hi hb (checked_of_decodeDurableBytes h)

/-! ### Streams -/

/-- **Frames that are sent are received, in order**, whatever each write takes (`accepts`) and
each read delivers (`splits`).  What stands behind them is left on the stream, and no read asks
across the end of a frame. -/
theorem recvFrames_sendFrames {limits : FrameLimits} {frames : List Frame} {parts : List Bytes}
    (h : List.Forall₂ (Encodes limits) frames parts) (accepts splits : Nat → Nat)
    (rest : Bytes) :
    ∃ sender : Sender, ({ accepts := accepts } : Sender).sendFrames frames = .ok sender ∧
      sender.wire = parts.flatten ∧
      ∃ socket : Socket, ({ pending := sender.wire ++ rest, splits := splits } : Socket).recvFrames
          limits frames.length = .ok (frames, socket) ∧
        socket.pending = rest ∧ ∀ ask ∈ socket.asked, Within 0 parts ask := by
  obtain ⟨sender, hsend, hwire⟩ := Sender.sendFrames_spec h { accepts := accepts } rfl
  rw [List.nil_append] at hwire
  refine ⟨sender, hsend, hwire, ?_⟩
  have hconnected : ({ pending := sender.wire ++ rest, splits := splits } : Socket).connected =
      true := rfl
  obtain ⟨socket, hrecv, hpending, asked, hasked, hwithin⟩ :=
    Socket.recvFrames_spec h hconnected (by rw [hwire])
  rw [List.nil_append] at hasked
  exact ⟨socket, hrecv, hpending, by rw [hasked]; exact hwithin⟩

/-- Two frames, one of them without a payload. -/
def greeting : List Frame := [⟨.hello, 0, [1, 2, 3]⟩, ⟨.heartbeat, 0, []⟩]

/-- The frames of `greeting` on the wire. -/
def greetingParts : List Bytes := greeting.map fun frame =>
  withChecksum (frameHead frame.kind frame.flags frame.payload.length) ++
    withChecksum frame.payload

theorem encodes_greeting : List.Forall₂ (Encodes {}) greeting greetingParts := by
  have hsmall : ∀ frame ∈ greeting, frame.kind ≠ .invalid ∧ frame.payload.length ≤ 3 := by decide
  refine List.forall₂_map_right_iff.mpr (List.forall₂_same.mpr fun frame hframe => ?_)
  obtain ⟨hkind, hlength⟩ := hsmall frame hframe
  exact ⟨encodeFrame_eq_ok.mpr ⟨hkind, by omega, rfl⟩, hlength.trans (by decide)⟩

theorem recvFrames_sendFrames_greeting :
    ∃ sender : Sender, ({ accepts := fun _ => 7 } : Sender).sendFrames greeting = .ok sender ∧
      sender.wire = greetingParts.flatten ∧
      ∃ socket : Socket, ({ pending := sender.wire ++ [0], splits := (· % 5) } : Socket).recvFrames
          {} 2 = .ok (greeting, socket) ∧
        socket.pending = [0] ∧ ∀ ask ∈ socket.asked, Within 0 greetingParts ask :=
  recvFrames_sendFrames encodes_greeting (fun _ => 7) (· % 5) [0]

end Protocol

end ThermalGovernor
