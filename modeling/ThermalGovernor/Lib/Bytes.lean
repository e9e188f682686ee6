import ThermalGovernor.Lib.Double
import ThermalGovernor.Lib.Fields

/-!
# Bytes

Words of so many bytes, the lowest first, and texts whose characters are bytes.  A `Reader`
reads fields off a buffer: it latches where a field is longer than what is left.  Whatever
takes bytes out of a buffer asks for the proof that they are there (`slice`), so that nothing
reads outside it.

`word_ofWord` and `ofWord_word` : a word and its bytes determine each other.
-/

namespace ThermalGovernor.Lib

abbrev Bytes := List UInt8

namespace Bytes

/-! ### Words -/

/-- The lowest bytes of a number. -/
def word : Nat → Nat → Bytes
  | 0, _ => []
  | width + 1, value => .ofNat value :: word width (value / 256)

/-- The number that some bytes are. -/
def ofWord : Bytes → Nat
  | [] => 0
  | b :: rest => b.toNat + 256 * ofWord rest

@[simp] theorem length_word (width value : Nat) : (word width value).length = width := by
  induction width generalizing value with
  | zero => rfl
  | succ width ih => rw [word, List.length_cons, ih]

theorem ofWord_word (width value : Nat) : ofWord (word width value) = value % 256 ^ width := by
  induction width generalizing value with
  | zero => rw [word, ofWord, Nat.pow_zero, Nat.mod_one]
  | succ width ih =>
    rw [word, ofWord, ih, Nat.pow_succ', Nat.mod_mul]
    rfl

theorem ofWord_word_of_lt {width value : Nat} (h : value < 256 ^ width) :
    ofWord (word width value) = value := by
  rw [ofWord_word, Nat.mod_eq_of_lt h]

theorem ofWord_lt (bytes : Bytes) : ofWord bytes < 256 ^ bytes.length := by
  induction bytes with
  | nil => decide
  | cons b bytes ih =>
    have hb := b.toNat_lt
    rw [ofWord, List.length_cons, Nat.pow_succ]
    omega

theorem word_ofWord (bytes : Bytes) : word bytes.length (ofWord bytes) = bytes := by
  induction bytes with
  | nil => rfl
  | cons b bytes ih =>
    have hb := b.toNat_lt
    have hhigh : (b.toNat + 256 * ofWord bytes) / 256 = ofWord bytes := by omega
    have hlow : UInt8.ofNat (b.toNat + 256 * ofWord bytes) = b := by
      rw [← UInt8.toNat_inj, UInt8.toNat_ofNat']
      omega
    rw [ofWord, List.length_cons, word, hlow, hhigh, ih]

/-- A signed number as a word of 64 bits. -/
def unsigned (value : Int) : Nat := (value % 2 ^ 64).toNat

/-- A word of 64 bits as a signed number. -/
def signed (value : Nat) : Int := if value < 2 ^ 63 then value else value - 2 ^ 64

theorem unsigned_lt (value : Int) : unsigned value < 256 ^ 8 := by
  rw [unsigned]
  omega

theorem signed_unsigned {value : Int} (hlow : -2 ^ 63 ≤ value) (hhigh : value < 2 ^ 63) :
    signed (unsigned value) = value := by
  rw [signed, unsigned]
  split <;> omega

theorem unsigned_signed {value : Nat} (h : value < 2 ^ 64) : unsigned (signed value) = value := by
  rw [unsigned, signed]
  split <;> omega

/-! ### Texts -/

/-- The bytes of a text, one for each character. -/
def ofText (text : String) : Bytes := text.toList.map fun c => .ofNat c.toNat

def toText (bytes : Bytes) : String := .ofList (bytes.map fun b => .ofNat b.toNat)

@[simp] theorem length_ofText (text : String) : (ofText text).length = text.length := by
  rw [ofText, List.length_map, String.length_toList]

@[simp] theorem length_toText (bytes : Bytes) : (toText bytes).length = bytes.length := by
  rw [toText, String.length_ofList, List.length_map]

theorem toText_ofText {text : String} (h : ∀ c ∈ text.toList, c.toNat < 256) :
    toText (ofText text) = text := by
  have hchars : (text.toList.map fun c => UInt8.ofNat c.toNat).map
      (fun b => Char.ofNat b.toNat) = text.toList.map id := by
    rw [List.map_map]
    refine List.map_congr_left fun c hc => ?_
    have hbyte : (UInt8.ofNat c.toNat).toNat = c.toNat := by
      rw [UInt8.toNat_ofNat', Nat.mod_eq_of_lt (h c hc)]
    rw [Function.comp_apply, hbyte, Char.ofNat_toNat, id]
  rw [toText, ofText, hchars, List.map_id, String.ofList_toList]

theorem ofText_toText (bytes : Bytes) : ofText (toText bytes) = bytes := by
  have hbyte : ∀ b : UInt8, UInt8.ofNat (Char.ofNat b.toNat).toNat = b := by
    intro b
    have hvalid : b.toNat.isValidChar := .inl (Nat.lt_trans b.toNat_lt (by decide))
    have hchar : (Char.ofNat b.toNat).toNat = b.toNat := by
      rw [Char.ofNat, dif_pos hvalid]
      rfl
    rw [hchar, UInt8.ofNat_toNat]
  rw [ofText, toText, String.toList_ofList, List.map_map]
  exact (List.map_congr_left fun b _ => hbyte b).trans (List.map_id _)

/-! ### Parts of a buffer -/

/-- So many bytes from a place on, that are inside the buffer. -/
def slice (bytes : Bytes) (start count : Nat) (_ : start + count ≤ bytes.length) : Bytes :=
  (bytes.drop start).take count

@[simp] theorem length_slice {bytes : Bytes} {start count : Nat}
    (h : start + count ≤ bytes.length) : (slice bytes start count h).length = count := by
  rw [slice, List.length_take, List.length_drop]
  omega

/-- The word at a place. -/
def wordAt (bytes : Bytes) (start width : Nat) (h : start + width ≤ bytes.length) : Nat :=
  ofWord (slice bytes start width h)

theorem wordAt_lt {bytes : Bytes} {start width : Nat} (h : start + width ≤ bytes.length) :
    wordAt bytes start width h < 256 ^ width := by
  have hlt := ofWord_lt (slice bytes start width h)
  rwa [length_slice] at hlt

theorem drop_eq_slice (bytes : Bytes) (start count : Nat) (h : start + count ≤ bytes.length) :
    bytes.drop start = slice bytes start count h ++ bytes.drop (start + count) := by
  rw [slice, ← List.drop_drop, List.take_append_drop]

/-- A part is the parts that it is made of. -/
theorem slice_split {bytes : Bytes} {start middle first second count : Nat}
    (hmiddle : start + first = middle) (hcount : first + second = count)
    (h : start + count ≤ bytes.length) :
    slice bytes start count h =
      slice bytes start first (by omega) ++ slice bytes middle second (by omega) := by
  subst hmiddle hcount
  rw [slice, slice, slice, List.take_add, List.drop_drop]

theorem slice_eq_word {bytes : Bytes} {start width : Nat} (h : start + width ≤ bytes.length) :
    slice bytes start width h = word width (wordAt bytes start width h) := by
  have hword := word_ofWord (slice bytes start width h)
  rw [length_slice] at hword
  exact hword.symm

/-! The parts that a buffer is put together from are at their places. -/

theorem drop_append {bytes part rest : Bytes} {start count : Nat}
    (h : bytes.drop start = part ++ rest) (hcount : part.length = count) :
    bytes.drop (start + count) = rest := by
  rw [← List.drop_drop, h, List.drop_left' hcount]

theorem slice_of_drop {bytes part rest : Bytes} {start count : Nat}
    (h : bytes.drop start = part ++ rest) (hcount : part.length = count)
    (hle : start + count ≤ bytes.length) : slice bytes start count hle = part := by
  rw [slice, h, List.take_left' hcount]

theorem wordAt_of_drop {bytes rest : Bytes} {start width value : Nat}
    (h : bytes.drop start = word width value ++ rest) (hvalue : value < 256 ^ width)
    (hle : start + width ≤ bytes.length) : wordAt bytes start width hle = value := by
  rw [wordAt, slice_of_drop h (length_word _ _), ofWord_word_of_lt hvalue]

end Bytes

open Bytes

/-! ### Fields as bytes -/

/-- The bytes a field is written as. -/
def Field.bytes : Field Double → Bytes
  | .u8 value => word 1 value
  | .flag value => word 1 (if value then 1 else 0)
  | .u32 value => word 4 value
  | .u64 value => word 8 value
  | .i64 value => word 8 (unsigned value)
  | .real value => word 8 value.bits.toNat
  | .text value => word 4 value.length ++ ofText value

/-- The field has the width that it is written in. -/
def Field.Fits : Field Double → Prop
  | .u8 value => value < 2 ^ 8
  | .u32 value => value < 2 ^ 32
  | .u64 value => value < 2 ^ 64
  | .i64 value => -2 ^ 63 ≤ value ∧ value < 2 ^ 63
  | .text value => value.length < 2 ^ 32 ∧ ∀ c ∈ value.toList, c.toNat < 256
  | .flag _ | .real _ => True

/-- The bytes are read as the field.  A flag may be any byte that is not zero. -/
def Field.Encodes : Field Double → Bytes → Prop
  | .u8 value, bytes => bytes.length = 1 ∧ ofWord bytes = value
  | .flag value, bytes => bytes.length = 1 ∧ decide (ofWord bytes ≠ 0) = value
  | .u32 value, bytes => bytes.length = 4 ∧ ofWord bytes = value
  | .u64 value, bytes => bytes.length = 8 ∧ ofWord bytes = value
  | .i64 value, bytes => bytes.length = 8 ∧ signed (ofWord bytes) = value
  | .real value, bytes => bytes.length = 8 ∧ ⟨.ofNat (ofWord bytes)⟩ = value
  | .text value, bytes => ∃ text : Bytes, bytes = word 4 text.length ++ text ∧
      text.length < 2 ^ 32 ∧ toText text = value

theorem Field.length_bytes (f : Field Double) : f.bytes.length = f.byteSize := by
  cases f with
  | text value => rw [bytes, List.length_append, length_word, length_ofText, byteSize]
  | _ => exact length_word _ _

/-- A field that fits is read as it was written. -/
theorem Field.encodes_bytes {f : Field Double} (h : f.Fits) : f.Encodes f.bytes := by
  cases f with
  | u8 value => exact ⟨rfl, ofWord_word_of_lt h⟩
  | flag value => cases value <;> exact ⟨rfl, rfl⟩
  | u32 value => exact ⟨rfl, ofWord_word_of_lt h⟩
  | u64 value => exact ⟨rfl, ofWord_word_of_lt h⟩
  | i64 value =>
    refine ⟨rfl, ?_⟩
    rw [bytes, ofWord_word_of_lt (unsigned_lt value), signed_unsigned h.1 h.2]
  | real value =>
    refine ⟨rfl, ?_⟩
    rw [bytes, ofWord_word_of_lt value.bits.toNat_lt, UInt64.ofNat_toNat]
  | text value =>
    refine ⟨ofText value, ?_, ?_, toText_ofText h.2⟩
    · rw [bytes, length_ofText]
    · rw [length_ofText]
      exact h.1

/-- There is one way to write the field.  A flag that is set may be any byte but zero. -/
def Field.Canonical : Field Double → Prop
  | .flag _ => False
  | _ => True

/-- A field that is read in one way only is written with the bytes it was read from. -/
theorem Field.bytes_of_encodes {f : Field Double} {bytes : Bytes} (hcanonical : f.Canonical)
    (h : f.Encodes bytes) : f.bytes = bytes := by
  have hword : ∀ {width : Nat}, bytes.length = width → word width (ofWord bytes) = bytes := by
    rintro width rfl
    exact word_ofWord bytes
  cases f with
  | flag value => exact hcanonical.elim
  | u8 value | u32 value | u64 value =>
    obtain ⟨hlength, rfl⟩ := h
    exact hword hlength
  | i64 value =>
    obtain ⟨hlength, rfl⟩ := h
    have hlt := ofWord_lt bytes
    rw [hlength] at hlt
    rw [Field.bytes, unsigned_signed hlt]
    exact hword hlength
  | real value =>
    obtain ⟨hlength, rfl⟩ := h
    have hlt := ofWord_lt bytes
    rw [hlength] at hlt
    rw [Field.bytes, UInt64.toNat_ofNat_of_lt' hlt]
    exact hword hlength
  | text value =>
    obtain ⟨text, rfl, hlt, rfl⟩ := h
    rw [Field.bytes, length_toText, ofText_toText]

/-- Write the fields of a payload one after the other. -/
def Payload.bytes (p : Payload Double) : Bytes := p.flatMap Field.bytes

theorem Payload.length_bytes (p : Payload Double) : p.bytes.length = p.byteSize := by
  induction p with
  | nil => rfl
  | cons f p ih =>
    have hcons : Payload.bytes (f :: p) = f.bytes ++ Payload.bytes p := List.flatMap_cons
    rw [hcons, List.length_append, ih, f.length_bytes, Payload.byteSize]

/-! ### Reading fields off a buffer -/

/-- What is left of the buffer, and whether every read so far was good. -/
structure Reader where
  rest : Bytes
  ok : Bool := true

namespace Reader

variable {α : Type}

/-- Take so many bytes off the front and answer with the value that they have; where they are
not there the reader latches. -/
def fixed (width : Nat) (value : Bytes → α) (zero : α) (reader : Reader) : α × Reader :=
  if h : reader.ok = true ∧ width ≤ reader.rest.length then
    (value (slice reader.rest 0 width (by omega)), ⟨reader.rest.drop width, true⟩)
  else (zero, ⟨reader.rest, false⟩)

/-- Read the length of a text and then the text, of at most so many bytes. -/
def text (limit : Nat) (reader : Reader) : String × Reader :=
  let length := fixed 4 ofWord 0 reader
  if length.1 ≤ limit then fixed length.1 toText "" length.2
  else ("", ⟨length.2.rest, false⟩)

def read : {α : Type} → Kind Double α → Reader → α × Reader
  | _, .u8, reader => fixed 1 ofWord 0 reader
  | _, .flag, reader => fixed 1 (fun bytes => decide (ofWord bytes ≠ 0)) false reader
  | _, .u32, reader => fixed 4 ofWord 0 reader
  | _, .u64, reader => fixed 8 ofWord 0 reader
  | _, .i64, reader => fixed 8 (fun bytes => signed (ofWord bytes)) 0 reader
  | _, .real, reader => fixed 8 (fun bytes => ⟨.ofNat (ofWord bytes)⟩) 0 reader
  | _, .text limit, reader => text limit reader

/-- The field stands in front of what is left. -/
def Shows (reader : Reader) (f : Field Double) (reader' : Reader) : Prop :=
  ∃ bytes, f.Encodes bytes ∧ reader = ⟨bytes ++ reader'.rest, reader'.ok⟩

theorem fixed_iff {width : Nat} {value : Bytes → α} {zero : α} {reader reader' : Reader}
    {a : α} : (fixed width value zero reader = (a, reader') ∧ reader'.ok = true) ↔
      (∃ bytes : Bytes, (bytes.length = width ∧ value bytes = a) ∧
        reader = ⟨bytes ++ reader'.rest, reader'.ok⟩) ∧ reader'.ok = true := by
  obtain ⟨rest, ok⟩ := reader
  obtain ⟨rest', ok'⟩ := reader'
  refine and_congr_left fun hok => ?_
  dsimp only at hok
  subst hok
  rw [fixed]
  constructor
  · intro h
    split at h
    · rename_i hthere
      obtain ⟨ha, hreader⟩ := Prod.mk.inj h
      obtain rfl := congrArg Reader.rest hreader
      obtain rfl : ok = true := hthere.1
      refine ⟨slice rest 0 width _, ⟨length_slice _, ha⟩, ?_⟩
      rw [slice, List.drop_zero, List.take_append_drop]
    · exact absurd (congrArg (fun read => read.2.ok) h) Bool.false_ne_true
  · rintro ⟨bytes, ⟨rfl, rfl⟩, h⟩
    obtain ⟨rfl, rfl⟩ := Reader.mk.inj h
    rw [dif_pos ⟨rfl, by rw [List.length_append]; omega⟩]
    simp only [slice, List.drop_zero, List.take_left, List.drop_left]

theorem ok_fixed {width : Nat} {value : Bytes → α} {zero : α} {reader : Reader}
    (h : (fixed width value zero reader).2.ok = true) : reader.ok = true := by
  rw [fixed] at h
  split at h
  · rename_i hthere
    exact hthere.1
  · cases h

theorem fixed_append {width : Nat} {value : Bytes → α} {zero : α} {bytes rest : Bytes}
    (hlength : bytes.length = width) :
    fixed width value zero ⟨bytes ++ rest, true⟩ = (value bytes, ⟨rest, true⟩) := by
  have hread : fixed width value zero ⟨bytes ++ rest, true⟩ = (value bytes, ⟨rest, true⟩) ∧
      (⟨rest, true⟩ : Reader).ok = true := fixed_iff.mpr ⟨⟨bytes, ⟨hlength, rfl⟩, rfl⟩, rfl⟩
  exact hread.1

theorem text_iff {limit : Nat} {reader reader' : Reader} {a : String} :
    (text limit reader = (a, reader') ∧ reader'.ok = true) ↔
      Shows reader (.text a) reader' ∧ a.length ≤ limit ∧ reader'.ok = true := by
  obtain ⟨rest', ok'⟩ := reader'
  constructor
  · rintro ⟨h, hok⟩
    rw [text] at h
    cases hhead : fixed 4 ofWord 0 reader with
    | mk length after =>
    rw [hhead] at h
    dsimp only at h
    split at h
    · rename_i hlimit
      obtain ⟨⟨bytes, ⟨hlength, rfl⟩, rfl⟩, -⟩ := fixed_iff.mp ⟨h, hok⟩
      obtain ⟨⟨head, ⟨hfour, rfl⟩, rfl⟩, -⟩ := fixed_iff.mp ⟨hhead, hok⟩
      have hlt := ofWord_lt head
      rw [hfour, ← hlength] at hlt
      refine ⟨⟨head ++ bytes, ⟨bytes, ?_, hlt, rfl⟩, ?_⟩, ?_, hok⟩
      · rw [hlength, ← hfour, word_ofWord]
      · rw [List.append_assoc]
      · rw [length_toText, hlength]
        exact hlimit
    · obtain ⟨-, hlatched⟩ := Prod.mk.inj h
      rw [← hlatched] at hok
      cases hok
  · rintro ⟨⟨_, ⟨bytes, rfl, hlt, rfl⟩, rfl⟩, hlimit, hok⟩
    dsimp only at hok
    subst hok
    refine ⟨?_, rfl⟩
    rw [length_toText] at hlimit
    rw [text, List.append_assoc, fixed_append (length_word _ _), ofWord_word_of_lt hlt,
      if_pos hlimit, fixed_append rfl]

theorem ok_read (k : Kind Double α) (reader : Reader) (h : (read k reader).2.ok = true) :
    reader.ok = true := by
  cases k with
  | text limit =>
    rw [read, text] at h
    split at h
    · exact ok_fixed (ok_fixed h)
    · cases h
  | _ => exact ok_fixed h

theorem read_iff (k : Kind Double α) (reader : Reader) (a : α) (reader' : Reader) :
    (read k reader = (a, reader') ∧ reader'.ok = true) ↔
      Shows reader (k.field a) reader' ∧ k.Accepts a ∧ reader'.ok = true := by
  cases k with
  | text limit => exact text_iff
  | _ =>
    rw [read, fixed_iff]
    exact and_congr_right fun _ => (true_and _).symm.to_iff

theorem exhausted_iff (reader : Reader) :
    (reader.ok = true ∧ reader.rest.isEmpty = true) ↔ reader = ⟨[], true⟩ := by
  obtain ⟨rest, ok⟩ := reader
  rw [Reader.mk.injEq, List.isEmpty_iff, and_comm]

instance : Input Double Reader where
  ok := Reader.ok
  write f reader := ⟨f.bytes ++ reader.rest, reader.ok⟩
  Fits := Field.Fits
  Shows := Reader.Shows
  latch reader := ⟨reader.rest, false⟩
  read := Reader.read
  empty := ⟨[], true⟩
  exhausted reader := reader.rest.isEmpty
  ok_write _ _ := rfl
  ok_shows := by
    rintro _ _ _ ⟨_, -, rfl⟩
    rfl
  ok_latch _ := rfl
  ok_read := Reader.ok_read
  shows_write _ h := ⟨_, Field.encodes_bytes h, rfl⟩
  read_iff := Reader.read_iff
  exhausted_iff := Reader.exhausted_iff

/-- What is read in one way only can be written again. -/
theorem eq_of_front {p : Payload Double} {reader reader' : Reader}
    (hcanonical : ∀ f ∈ p, f.Canonical) (h : Input.Front reader p reader') :
    reader = ⟨p.bytes ++ reader'.rest, reader'.ok⟩ := by
  induction p generalizing reader with
  | nil => exact h.symm
  | cons f p ih =>
    obtain ⟨hfirst, hrest⟩ := List.forall_mem_cons.mp hcanonical
    obtain ⟨middle, ⟨bytes, hencodes, rfl⟩, hfront⟩ := h
    have hcons : Payload.bytes (f :: p) = f.bytes ++ Payload.bytes p := List.flatMap_cons
    rw [hcons, List.append_assoc, Field.bytes_of_encodes hfirst hencodes, ih hrest hfront]

theorem put_eq (p : Payload Double) (reader : Reader) :
    Input.put p reader = ⟨p.bytes ++ reader.rest, reader.ok⟩ := by
  induction p with
  | nil => rfl
  | cons f p ih =>
    have hcons : Payload.bytes (f :: p) = f.bytes ++ Payload.bytes p := List.flatMap_cons
    rw [Input.put_cons, ih, hcons, List.append_assoc]
    rfl

end Reader

end ThermalGovernor.Lib
