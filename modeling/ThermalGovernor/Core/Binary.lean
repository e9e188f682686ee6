import ThermalGovernor.Lib.Bytes

/-!
# The binary writer and reader

`BinaryWriter` appends words, the lowest byte first, and texts behind their length.
`BinaryReader` walks a buffer with a position: it asks whether so many bytes are left (`need`)
before it takes any, and from the first read that fails on it is not `ok`.  The buffer is
memory from some address on, of which only the first `size` bytes belong to it; the reader
notes in `touched` which ones it has loaded.
-/

namespace ThermalGovernor

open Lib Lib.Bytes

/-! ### The writer -/

/-- The bytes written so far. -/
abbrev BinaryWriter := Bytes

namespace BinaryWriter

/-- Push the bytes of a number, each shifted down and masked. -/
def pushWord (w : BinaryWriter) (width value : Nat) : BinaryWriter :=
  (List.range width).foldl (fun w i => w ++ [.ofNat ((value >>> (8 * i)) &&& 0xFF)]) w

def u8 (w : BinaryWriter) (value : Nat) : BinaryWriter := w ++ [.ofNat value]

def u16 (w : BinaryWriter) (value : Nat) : BinaryWriter := w.pushWord 2 value

def u32 (w : BinaryWriter) (value : Nat) : BinaryWriter := w.pushWord 4 value

def u64 (w : BinaryWriter) (value : Nat) : BinaryWriter := w.pushWord 8 value

def i64 (w : BinaryWriter) (value : Int) : BinaryWriter := w.u64 (unsigned value)

def real (w : BinaryWriter) (value : Double) : BinaryWriter := w.u64 value.bits.toNat

/-- The length, which is cut to 32 bits, and the bytes. -/
def text (w : BinaryWriter) (value : Bytes) : BinaryWriter :=
  w.u32 (value.length % 2 ^ 32) ++ value

def bytes (w : BinaryWriter) (value : Bytes) : BinaryWriter :=
  w.u32 (value.length % 2 ^ 32) ++ value

/-- A tag, and what is written of the value if there is one. -/
def optional {A : Type} (w : BinaryWriter) (value : Option A)
    (encode : BinaryWriter → A → BinaryWriter) : BinaryWriter :=
  match value with
  | none => w.u8 0
  | some a => encode (w.u8 1) a

end BinaryWriter

/-! ### The reader -/

structure BinaryReader where
  data : Nat → UInt8
  size : Nat
  position : Nat := 0
  ok : Bool := true
  touched : List Nat := []

namespace BinaryReader

/-- Whether so many bytes are left.  The difference is one of unsigned numbers of 64 bits. -/
def need (r : BinaryReader) (count : Nat) : Bool × BinaryReader :=
  if ! r.ok then (false, r)
  else if (r.size + 2 ^ 64 - r.position) % 2 ^ 64 < count then (false, { r with ok := false })
  else (true, r)

/-- Load so many bytes and move on behind them. -/
def load (r : BinaryReader) (count : Nat) : Bytes × BinaryReader :=
  ((List.range count).map fun i => r.data (r.position + i),
   { r with
     position := (r.position + count) % 2 ^ 64
     touched := r.touched ++ (List.range count).map (r.position + ·) })

/-- The number that bytes are put together to, each shifted to its place. -/
def assemble (bytes : Bytes) : Nat :=
  bytes.zipIdx.foldl (fun value b => value ||| b.1.toNat <<< (8 * b.2)) 0

/-- A number of so many bytes. -/
def word (r : BinaryReader) (width : Nat) : Nat × BinaryReader :=
  let (there, r) := r.need width
  if ! there then (0, r)
  else
    let (bytes, r) := r.load width
    (assemble bytes, r)

def u8 (r : BinaryReader) : Nat × BinaryReader := r.word 1

def u16 (r : BinaryReader) : Nat × BinaryReader := r.word 2

def u32 (r : BinaryReader) : Nat × BinaryReader := r.word 4

def u64 (r : BinaryReader) : Nat × BinaryReader := r.word 8

def i64 (r : BinaryReader) : Int × BinaryReader :=
  let (value, r) := r.u64
  (signed value, r)

def real (r : BinaryReader) : Double × BinaryReader :=
  let (value, r) := r.u64
  (⟨.ofNat value⟩, r)

/-- Bytes behind their length, which must be within a limit. -/
def bytes (r : BinaryReader) (limit : Nat) : Bytes × BinaryReader :=
  let (length, r) := r.u32
  if ! r.ok || limit < length then ([], { r with ok := false })
  else
    let (there, r) := r.need length
    if ! there then ([], { r with ok := false })
    else r.load length

/-- The source's `text` reads as its `bytes` does. -/
def text (r : BinaryReader) (limit : Nat) : Bytes × BinaryReader := r.bytes limit

/-- Bytes without a length before them. -/
def rawBytes (r : BinaryReader) (count : Nat) : Bytes × BinaryReader :=
  let (there, r) := r.need count
  if ! there then ([], { r with ok := false })
  else r.load count

def presence (r : BinaryReader) : Bool × BinaryReader :=
  let (flag, r) := r.u8
  if 1 < flag then (false, { r with ok := false })
  else (flag = 1, r)

end BinaryReader

/-! ### Sequences of writes and reads -/

/-- What one call writes or one read returns. -/
inductive BinaryValue where
  | u8 (value : Nat)
  | u16 (value : Nat)
  | u32 (value : Nat)
  | u64 (value : Nat)
  | i64 (value : Int)
  | real (value : Double)
  | text (value : Bytes)
  | bytes (value : Bytes)
  | rawBytes (value : Bytes)
  | presence (value : Bool)

/-- Write a value.  Raw bytes are pushed one at a time, and `presence` is the tag of an
`optional`. -/
def BinaryWriter.write (w : BinaryWriter) : BinaryValue → BinaryWriter
  | .u8 value => w.u8 value
  | .u16 value => w.u16 value
  | .u32 value => w.u32 value
  | .u64 value => w.u64 value
  | .i64 value => w.i64 value
  | .real value => w.real value
  | .text value => w.text value
  | .bytes value => w.bytes value
  | .rawBytes value => value.foldl (fun w b => w.u8 b.toNat) w
  | .presence value => w.u8 (if value then 1 else 0)

/-- A read operation, with its limit. -/
inductive ReadOp where
  | u8 | u16 | u32 | u64 | i64 | real
  | text (limit : Nat)
  | bytes (limit : Nat)
  | rawBytes (count : Nat)
  | presence

/-- The zero or empty value of an operation. -/
def ReadOp.zero : ReadOp → BinaryValue
  | u8 => .u8 0
  | u16 => .u16 0
  | u32 => .u32 0
  | u64 => .u64 0
  | i64 => .i64 0
  | real => .real 0
  | text _ => .text []
  | bytes _ => .bytes []
  | rawBytes _ => .rawBytes []
  | presence => .presence false

def BinaryReader.read (r : BinaryReader) : ReadOp → BinaryValue × BinaryReader
  | .u8 => r.u8.map .u8 id
  | .u16 => r.u16.map .u16 id
  | .u32 => r.u32.map .u32 id
  | .u64 => r.u64.map .u64 id
  | .i64 => r.i64.map .i64 id
  | .real => r.real.map .real id
  | .text limit => (r.text limit).map .text id
  | .bytes limit => (r.bytes limit).map .bytes id
  | .rawBytes count => (r.rawBytes count).map .rawBytes id
  | .presence => r.presence.map .presence id

/-- Read one value after the other. -/
def BinaryReader.readAll (r : BinaryReader) : List ReadOp → List BinaryValue × BinaryReader
  | [] => ([], r)
  | op :: ops =>
    let (value, r) := r.read op
    let (values, r) := r.readAll ops
    (value :: values, r)

end ThermalGovernor
