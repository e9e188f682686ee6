import ThermalGovernor.Protocol.Frame

/-!
# Frames on a stream

A connection carries bytes in order and takes and delivers them in parts: a `Sender` accepts
as many bytes of each write as `accepts` says, a `Socket` delivers as many to each read as
`splits` says, at least one and at most what was asked for and is there.  A socket keeps what
each read asked for, with the place in the stream it asked from (`asked`).

`Socket.recvFrame_spec` : a frame in front of the stream is received, whatever the parts, and
nothing beyond it is asked for.
-/

namespace ThermalGovernor

open Lib Lib.Bytes

namespace Protocol

/-- The most that one call of the transport is given. -/
def transferLimit : Nat := 2 ^ 20

/-! ### Sending -/

structure Sender where
  wire : Bytes := []
  accepts : Nat → Nat
  writes : Nat := 0
  connected : Bool := true

/-- What the transport takes of a chunk. -/
def Sender.count (sender : Sender) (chunk : Nat) : Nat :=
  min (max 1 (sender.accepts sender.writes)) chunk

/-- One call of `send`. -/
def Sender.send (sender : Sender) (data : Bytes) : Nat × Sender :=
  let count := sender.count (min data.length transferLimit)
  (count, { sender with wire := sender.wire ++ data.take count, writes := sender.writes + 1 })

theorem Sender.send_fst_pos (sender : Sender) {data : Bytes} (h : data ≠ []) :
    0 < (sender.send data).1 := by
  have hlength := List.length_pos_iff.mpr h
  simp only [send, count, transferLimit]
  omega

/-- The loop of the source's `send_all`. -/
def Sender.sendLoop (sender : Sender) (data : Bytes) : Sender :=
  if h : data = [] then sender
  else
    have := sender.send_fst_pos h
    have := List.length_pos_iff.mpr h
    (sender.send data).2.sendLoop (data.drop (sender.send data).1)
termination_by data.length
decreasing_by
  rw [List.length_drop]
  omega

/-- The source's `send_all`. -/
def Sender.sendAll (sender : Sender) (data : Bytes) : Result Sender :=
  if ! sender.connected then failure .transportClosed "socket is not connected"
  else .ok (sender.sendLoop data)

/-- The source's `send_frame`. -/
def Sender.sendFrame (sender : Sender) (frame : Frame) : Result Sender :=
  (encodeFrame frame.kind frame.flags frame.payload).bind sender.sendAll

def Sender.sendFrames : Sender → List Frame → Result Sender
  | sender, [] => .ok sender
  | sender, frame :: frames => (sender.sendFrame frame).bind fun sender => sender.sendFrames frames

/-! ### Receiving -/

structure Socket where
  pending : Bytes
  splits : Nat → Nat
  reads : Nat := 0
  position : Nat := 0
  asked : List (Nat × Nat) := []
  connected : Bool := true

/-- What the transport delivers of a chunk that is asked for; nothing once the peer has closed
and all is delivered. -/
def Socket.count (socket : Socket) (chunk : Nat) : Nat :=
  min (max 1 (socket.splits socket.reads)) (min chunk socket.pending.length)

/-- One call of `recv`. -/
def Socket.recv (socket : Socket) (chunk : Nat) : Bytes × Socket :=
  (socket.pending.take (socket.count chunk),
    { socket with
      pending := socket.pending.drop (socket.count chunk)
      reads := socket.reads + 1
      position := socket.position + socket.count chunk
      asked := socket.asked ++ [(socket.position, chunk)] })

/-- The source's `recv_some`. -/
def Socket.recvSome (socket : Socket) (length : Nat) : Result (Bytes × Socket) :=
  if ! socket.connected then failure .transportClosed "socket is not connected"
  else if length = 0 then .ok ([], socket)
  else .ok (socket.recv (min length transferLimit))

/-- The loops of `recv_frame`: read on until the buffer has its size. -/
def Socket.fill (closed : ThermalError) (socket : Socket) (buffer : Bytes) (size : Nat) :
    Result (Bytes × Socket) :=
  if size ≤ buffer.length then .ok (buffer, socket)
  else
    match socket.recvSome (size - buffer.length) with
    | .error e => .error e
    | .ok ([], _) => .error closed
    | .ok (b :: received, socket) => socket.fill closed (buffer ++ b :: received) size
termination_by size - buffer.length
decreasing_by
  simp only [List.length_append, List.length_cons]
  omega

/-- The source's `recv_frame`. -/
def Socket.recvFrame (limits : FrameLimits) (socket : Socket) : Result (Frame × Socket) :=
  (socket.fill ⟨.transportClosed, "peer closed while the frame header was in flight"⟩ [] 20).bind
    fun head =>
  (decodeFrameHeader head.1 limits).bind fun header =>
  (head.2.fill ⟨.frameTruncated, "peer closed while the frame payload was in flight"⟩ head.1
    (24 + header.payloadLength)).bind fun whole =>
  (decodeFrame whole.1 limits).map fun frame => (frame, whole.2)

/-- Receive so many frames, one after the other. -/
def Socket.recvFrames (limits : FrameLimits) : Nat → Socket → Result (List Frame × Socket)
  | 0, socket => .ok ([], socket)
  | count + 1, socket =>
    (socket.recvFrame limits).bind fun first =>
    (recvFrames limits count first.2).map fun rest => (first.1 :: rest.1, rest.2)

/-! ### What is sent -/

/-- **However many bytes each write takes, all are sent, in order.** -/
theorem Sender.sendLoop_spec (sender : Sender) (data : Bytes) :
    (sender.sendLoop data).wire = sender.wire ++ data ∧
      (sender.sendLoop data).connected = sender.connected := by
  induction hn : data.length using Nat.strong_induction_on generalizing sender data with
  | _ n ih =>
    rw [sendLoop]
    split
    · rename_i hdata
      rw [hdata, List.append_nil]
      exact ⟨rfl, rfl⟩
    · rename_i hdata
      have hpos := sender.send_fst_pos hdata
      have hlength := List.length_pos_iff.mpr hdata
      have hshort : (data.drop (sender.send data).1).length < n := by
        rw [List.length_drop]
        omega
      obtain ⟨hrest, hconnected⟩ := ih _ hshort (sender.send data).2 _ rfl
      have hwire : (sender.send data).2.wire = sender.wire ++ data.take (sender.send data).1 := rfl
      refine ⟨?_, hconnected⟩
      rw [hrest, hwire, List.append_assoc, List.take_append_drop]

/-- What a frame within the limit is on the wire. -/
def Encodes (limits : FrameLimits) (frame : Frame) (part : Bytes) : Prop :=
  encodeFrame frame.kind frame.flags frame.payload = .ok part ∧
    frame.payload.length ≤ limits.maxPayloadBytes

/-- Frames that can be encoded are all sent, one after the other. -/
theorem Sender.sendFrames_spec {limits : FrameLimits} {frames : List Frame}
    {parts : List Bytes} (h : List.Forall₂ (Encodes limits) frames parts) (sender : Sender)
    (hconnected : sender.connected = true) :
    ∃ sender', sender.sendFrames frames = .ok sender' ∧
      sender'.wire = sender.wire ++ parts.flatten := by
  induction h generalizing sender with
  | nil => exact ⟨sender, rfl, (List.append_nil _).symm⟩
  | @cons frame part frames parts hframe _ ih =>
    obtain ⟨hwire, hstill⟩ := sender.sendLoop_spec part
    obtain ⟨sender', hsend, hrest⟩ := ih (sender.sendLoop part) (hstill.trans hconnected)
    refine ⟨sender', ?_, ?_⟩
    · have hfirst : sender.sendFrame frame = .ok (sender.sendLoop part) := by
        refine bind_eq_ok.mpr ⟨part, hframe.1, ?_⟩
        rw [sendAll, hconnected]
        rfl
      exact bind_eq_ok.mpr ⟨_, hfirst, hsend⟩
    · rw [hrest, hwire, List.flatten_cons, List.append_assoc]

/-! ### What is received -/

/-- The socket has delivered a part of the stream, and nothing beyond a place in it was asked
for. -/
structure Took (finish : Nat) (socket : Socket) (part : Bytes) (socket' : Socket) : Prop where
  pending : socket.pending = part ++ socket'.pending
  position : socket'.position = socket.position + part.length
  connected : socket'.connected = socket.connected
  asked : ∃ asked, socket'.asked = socket.asked ++ asked ∧
    ∀ ask ∈ asked, socket.position ≤ ask.1 ∧ ask.1 + ask.2 ≤ finish

theorem Took.refl (finish : Nat) (socket : Socket) : Took finish socket [] socket :=
  ⟨rfl, rfl, rfl, [], (List.append_nil _).symm, fun _ h => (by cases h)⟩

theorem Took.trans {finish : Nat} {s₁ s₂ s₃ : Socket} {part part' : Bytes}
    (h : Took finish s₁ part s₂) (h' : Took finish s₂ part' s₃) :
    Took finish s₁ (part ++ part') s₃ := by
  obtain ⟨asked, hasked, hwithin⟩ := h.asked
  obtain ⟨asked', hasked', hwithin'⟩ := h'.asked
  have hposition := h.position
  refine ⟨?_, ?_, h'.connected.trans h.connected, asked ++ asked', ?_, ?_⟩
  · rw [h.pending, h'.pending, List.append_assoc]
  · rw [h'.position, hposition, List.length_append, Nat.add_assoc]
  · rw [hasked', hasked, List.append_assoc]
  · refine List.forall_mem_append.mpr ⟨hwithin, fun ask hask => ?_⟩
    obtain ⟨hfrom, hto⟩ := hwithin' ask hask
    exact ⟨by omega, hto⟩

theorem Took.mono {finish finish' : Nat} {s s' : Socket} {part : Bytes}
    (h : Took finish s part s') (hle : finish ≤ finish') : Took finish' s part s' := by
  obtain ⟨asked, hasked, hwithin⟩ := h.asked
  exact ⟨h.pending, h.position, h.connected, asked, hasked,
    fun ask hask => ⟨(hwithin ask hask).1, (hwithin ask hask).2.trans hle⟩⟩

/-- **A read delivers at least one byte and at most what was asked for.** -/
theorem Socket.recvSome_spec {socket : Socket} {length : Nat}
    (hconnected : socket.connected = true) (hpos : 0 < length)
    (hthere : length ≤ socket.pending.length) :
    ∃ b received socket', socket.recvSome length = .ok (b :: received, socket') ∧
      received.length + 1 ≤ length ∧
      Took (socket.position + length) socket (b :: received) socket' := by
  have hcount : 0 < socket.count (min length transferLimit) ∧
      socket.count (min length transferLimit) ≤ length := by
    simp only [count, transferLimit]
    omega
  have htook : Took (socket.position + length) socket
      (socket.recv (min length transferLimit)).1 (socket.recv (min length transferLimit)).2 := by
    refine ⟨(List.take_append_drop _ _).symm, ?_, rfl,
      [(socket.position, min length transferLimit)], rfl, fun ask hask => ?_⟩
    · simp only [recv, List.length_take]
      omega
    · rw [List.mem_singleton.mp hask]
      exact ⟨Nat.le_refl _, by dsimp only; omega⟩
  have hread : socket.recvSome length = .ok (socket.recv (min length transferLimit)) := by
    rw [recvSome, hconnected, Bool.not_true, if_neg Bool.false_ne_true, if_neg (by omega)]
  have hlength : (socket.recv (min length transferLimit)).1.length =
      socket.count (min length transferLimit) := by
    simp only [recv, List.length_take]
    omega
  cases hrecv : socket.recv (min length transferLimit) with
  | mk received socket' =>
    rw [hrecv] at htook hread hlength
    cases received with
    | nil =>
      rw [List.length_nil] at hlength
      omega
    | cons b received =>
      rw [List.length_cons] at hlength
      exact ⟨b, received, socket', hread, by omega, htook⟩

/-- **The loop fills the buffer with what is next**, whatever each read delivers. -/
theorem Socket.fill_spec (closed : ThermalError) {socket : Socket} {buffer : Bytes} {size : Nat}
    (hconnected : socket.connected = true) (hsize : buffer.length ≤ size)
    (hthere : size - buffer.length ≤ socket.pending.length) :
    ∃ part socket', socket.fill closed buffer size = .ok (buffer ++ part, socket') ∧
      buffer.length + part.length = size ∧
      Took (socket.position + (size - buffer.length)) socket part socket' := by
  induction hn : size - buffer.length using Nat.strong_induction_on
    generalizing socket buffer with
  | _ n ih =>
    rw [fill]
    split
    · refine ⟨[], socket, ?_, ?_, Took.refl _ _⟩
      · rw [List.append_nil]
      · rw [List.length_nil]
        omega
    · obtain ⟨b, received, socket₁, hread, hle, htook⟩ :=
        Socket.recvSome_spec hconnected (Nat.sub_pos_of_lt (by omega)) hthere
      have hlength : (buffer ++ b :: received).length = buffer.length + (received.length + 1) := by
        rw [List.length_append, List.length_cons]
      have hpending := congrArg List.length htook.pending
      rw [List.length_append, List.length_cons] at hpending
      obtain ⟨part, socket', hfill, htotal, htook'⟩ := ih (size - (buffer ++ b :: received).length)
        (by omega) (htook.connected.trans hconnected) (by omega) (by omega) rfl
      have hposition := htook.position
      rw [List.length_cons] at hposition
      refine ⟨b :: received ++ part, socket', ?_, ?_, ?_⟩
      · rw [hread]
        dsimp only
        rw [hfill, List.append_assoc]
      · rw [List.length_append, List.length_cons]
        omega
      · rw [hn] at htook
        exact htook.trans (htook'.mono (by omega))

/-- **A frame in front of the stream is received**, and nothing beyond it is asked for. -/
theorem Socket.recvFrame_spec {limits : FrameLimits} {socket : Socket} {frame : Frame}
    {part rest : Bytes} (hconnected : socket.connected = true)
    (hencodes : Encodes limits frame part) (hpending : socket.pending = part ++ rest) :
    ∃ socket', socket.recvFrame limits = .ok (frame, socket') ∧ socket'.pending = rest ∧
      Took (socket.position + part.length) socket part socket' := by
  obtain ⟨hencode, hle⟩ := hencodes
  obtain ⟨hkind, hlt, hpart⟩ := encodeFrame_eq_ok.mp hencode
  have hhead : (withChecksum (frameHead frame.kind frame.flags frame.payload.length)).length =
      20 := by rw [length_withChecksum, length_frameHead]
  have hlength : part.length = 24 + frame.payload.length := by
    rw [← hpart, List.length_append, hhead, length_withChecksum]
    omega
  have hstream := congrArg List.length hpending
  rw [List.length_append] at hstream
  have hstart : ([] : Bytes).length ≤ 20 := Nat.zero_le 20
  obtain ⟨head, socket₁, hfill, hsize, htook⟩ := Socket.fill_spec
    ⟨.transportClosed, "peer closed while the frame header was in flight"⟩
    hconnected hstart (by omega)
  rw [List.length_nil, Nat.zero_add] at hsize
  -- the first 20 bytes are the head and its checksum
  have hfirst := htook.pending
  rw [hpending, ← hpart, List.append_assoc] at hfirst
  obtain ⟨hsame, hrest⟩ := List.append_inj hfirst (hhead.trans hsize.symm)
  have hheader : decodeFrameHeader head limits = .ok
      { version := protocolVersion, kind := frame.kind, flags := frame.flags,
        payloadLength := frame.payload.length } :=
    decodeFrameHeader_eq_ok.mpr ⟨⟨[], by rw [List.append_nil, hsame]⟩, rfl, hkind, hle, hlt⟩
  have hpending₁ := congrArg List.length hrest
  rw [List.length_append, length_withChecksum] at hpending₁
  have hlonger : head.length ≤ 24 + frame.payload.length := by omega
  obtain ⟨body, socket', hfill', hsize', htook'⟩ := Socket.fill_spec
    ⟨.frameTruncated, "peer closed while the frame payload was in flight"⟩
    (htook.connected.trans hconnected) hlonger (by omega)
  have hlast := htook'.pending
  rw [← hrest] at hlast
  obtain ⟨rfl, hrest'⟩ := List.append_inj hlast (by rw [length_withChecksum]; omega)
  have hwhole : head ++ withChecksum frame.payload = part := by rw [← hsame, hpart]
  have hframe : decodeFrame part limits = .ok frame :=
    decodeFrame_eq_ok.mpr ⟨hkind, hle, hlt, hpart.symm⟩
  have hposition := htook.position
  refine ⟨socket', ?_, hrest'.symm, ?_⟩
  · rw [List.nil_append] at hfill
    refine bind_eq_ok.mpr ⟨_, hfill, bind_eq_ok.mpr ⟨_, hheader, bind_eq_ok.mpr ⟨_, hfill', ?_⟩⟩⟩
    dsimp only
    rw [hwhole, hframe]
    rfl
  · rw [← hwhole]
    have hbody : (head ++ withChecksum frame.payload).length = 24 + frame.payload.length := by
      rw [hwhole, hlength]
    rw [hbody]
    exact (htook.mono (by omega)).trans (htook'.mono (by omega))

/-- What was asked for from a place in the stream lies within one of the parts. -/
def Within : Nat → List Bytes → Nat × Nat → Prop
  | _, [], _ => False
  | start, part :: parts, ask =>
    (start ≤ ask.1 ∧ ask.1 + ask.2 ≤ start + part.length) ∨
      Within (start + part.length) parts ask

/-- **Frames in front of the stream are received one after the other**, and nothing is asked
for across the end of a frame. -/
theorem Socket.recvFrames_spec {limits : FrameLimits} {frames : List Frame} {parts : List Bytes}
    (h : List.Forall₂ (Encodes limits) frames parts) {socket : Socket} {rest : Bytes}
    (hconnected : socket.connected = true) (hpending : socket.pending = parts.flatten ++ rest) :
    ∃ socket', socket.recvFrames limits frames.length = .ok (frames, socket') ∧
      socket'.pending = rest ∧ ∃ asked, socket'.asked = socket.asked ++ asked ∧
      ∀ ask ∈ asked, Within socket.position parts ask := by
  induction h generalizing socket with
  | nil => exact ⟨socket, rfl, hpending, [], (List.append_nil _).symm, fun _ h => (by cases h)⟩
  | @cons frame part frames parts hframe _ ih =>
    rw [List.flatten_cons, List.append_assoc] at hpending
    obtain ⟨socket₁, hfirst, hpending₁, htook⟩ := recvFrame_spec hconnected hframe hpending
    obtain ⟨socket', hrest, hpending', asked', hasked', hwithin'⟩ :=
      ih (htook.connected.trans hconnected) hpending₁
    obtain ⟨asked, hasked, hwithin⟩ := htook.asked
    refine ⟨socket', ?_, hpending', asked ++ asked', ?_, ?_⟩
    · refine bind_eq_ok.mpr ⟨_, hfirst, ?_⟩
      dsimp only
      rw [hrest]
      rfl
    · rw [hasked', hasked, List.append_assoc]
    · refine List.forall_mem_append.mpr ⟨fun ask hask => .inl (hwithin ask hask), ?_⟩
      intro ask hask
      have hlater := hwithin' ask hask
      rw [htook.position] at hlater
      exact .inr hlater

end Protocol

end ThermalGovernor
