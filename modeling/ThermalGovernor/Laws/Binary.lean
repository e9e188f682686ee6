import Mathlib.Data.List.Induction
import ThermalGovernor.Core.Binary

/-!
# What the binary reader does with any buffer

A `Safe` reader stands inside its buffer and has loaded nothing from outside.  To the bytes
that are `left` it does what a reader of the front of a buffer does (`Simulates`), so every
read keeps it safe (`Safe.read`).  A reader that is not ok returns nothing and stays where it
is (`read_of_not_ok`).

What was written is read back by reads of the same kinds (`ReadsBack`), one value after the
other, up to the end.
-/

namespace ThermalGovernor

open Lib Lib.Bytes

/-! ### Words -/

/-- One more byte at the high end. -/
theorem ofWord_concat (bytes : Bytes) (b : UInt8) :
    ofWord (bytes ++ [b]) = ofWord bytes + 256 ^ bytes.length * b.toNat := by
  induction bytes with
  | nil => simp [ofWord]
  | cons first bytes ih =>
    rw [List.cons_append, ofWord, ofWord, ih, List.length_cons, Nat.pow_succ']
    ring

theorem word_eq_map (width value : Nat) : word width value =
    (List.range width).map fun i => UInt8.ofNat ((value >>> (8 * i)) &&& 0xFF) := by
  induction width generalizing value with
  | zero => rfl
  | succ width ih =>
    have hmask : ∀ n : Nat, UInt8.ofNat (n &&& 0xFF) = UInt8.ofNat n := by
      intro n
      rw [← UInt8.toNat_inj, UInt8.toNat_ofNat', UInt8.toNat_ofNat',
        show n &&& 0xFF = n % 2 ^ 8 from Nat.and_two_pow_sub_one_eq_mod n 8, Nat.mod_mod]
    have hshift : ∀ i, (value / 256) >>> (8 * i) = value >>> (8 * (i + 1)) := by
      intro i
      rw [Nat.mul_add, Nat.add_comm, Nat.shiftRight_add, Nat.shiftRight_eq_div_pow value]
    rw [word, ih, List.range_succ_eq_map, List.map_cons, List.map_map, hmask]
    refine congrArg (UInt8.ofNat value :: ·) (List.map_congr_left fun i _ => ?_)
    rw [hshift]
    rfl

namespace BinaryWriter

theorem pushWord_eq (w : BinaryWriter) (width value : Nat) :
    w.pushWord width value = w ++ word width value := by
  rw [word_eq_map, pushWord]
  induction List.range width generalizing w with
  | nil => exact (List.append_nil w).symm
  | cons i rest ih => rw [List.foldl_cons, ih, List.append_assoc]; rfl

theorem u8_eq (w : BinaryWriter) (value : Nat) : w.u8 value = w.pushWord 1 value := by
  rw [pushWord_eq]
  rfl

/-- What is written goes behind what was there. -/
theorem write_eq (w : BinaryWriter) (value : BinaryValue) :
    w.write value = w ++ write [] value := by
  have hword : ∀ width n, w.pushWord width n = w ++ pushWord [] width n := by
    intro width n
    rw [pushWord_eq, pushWord_eq, List.nil_append]
  cases value with
  | u8 value | presence value => rfl
  | u16 value | u32 value | u64 value | i64 value | real value => exact hword _ _
  | text value | bytes value =>
    show w.pushWord 4 _ ++ value = w ++ (pushWord [] 4 _ ++ value)
    rw [hword, List.append_assoc]
  | rawBytes value =>
    show value.foldl (fun w b => u8 w b.toNat) w = w ++ value.foldl (fun w b => u8 w b.toNat) []
    induction value using List.reverseRecOn with
    | nil => exact (List.append_nil w).symm
    | append_singleton value b ih =>
      rw [List.foldl_concat, List.foldl_concat, ih]
      exact List.append_assoc _ _ _

theorem write_rawBytes (value : Bytes) : write [] (.rawBytes value) = value := by
  show value.foldl (fun w b => u8 w b.toNat) [] = value
  induction value using List.reverseRecOn with
  | nil => rfl
  | append_singleton value b ih =>
    rw [List.foldl_concat, ih, u8, UInt8.ofNat_toNat]

/-- An optional value is its tag, and the value. -/
theorem optional_eq {A : Type} (w : BinaryWriter) (value : Option A)
    (encode : BinaryWriter → A → BinaryWriter) :
    w.optional value encode = value.elim (w.write (.presence false))
      (encode (w.write (.presence true))) := by
  cases value <;> rfl

end BinaryWriter

namespace BinaryReader

variable {r : BinaryReader} {size : Nat} {α : Type}

theorem assemble_eq_ofWord (bytes : Bytes) : assemble bytes = ofWord bytes := by
  induction bytes using List.reverseRecOn with
  | nil => rfl
  | append_singleton bytes b ih =>
    have hlt : assemble bytes < 2 ^ (8 * bytes.length) := by
      rw [ih, Nat.pow_mul]
      exact ofWord_lt bytes
    have hconcat : assemble (bytes ++ [b]) = assemble bytes ||| b.toNat <<< (8 * bytes.length) := by
      rw [assemble, List.zipIdx_append, List.foldl_append, Nat.zero_add]
      rfl
    rw [hconcat, Nat.or_comm, ← Nat.shiftLeft_add_eq_or_of_lt hlt, ih, ofWord_concat,
      Nat.shiftLeft_eq, Nat.pow_mul]
    ring

/-! ### What a read takes from the buffer -/

/-- The position is inside a buffer of this size, and so is every byte that was loaded. -/
structure Safe (r : BinaryReader) (size : Nat) : Prop where
  size_eq : r.size = size
  size_lt : r.size < 2 ^ 64
  position_le : r.position ≤ r.size
  touched_lt : ∀ i ∈ r.touched, i < r.size

/-- The bytes from the position on. -/
def left (r : BinaryReader) : Bytes :=
  (List.range (r.size - r.position)).map fun i => r.data (r.position + i)

/-- What is left, as the front of a buffer. -/
def view (r : BinaryReader) : Reader := ⟨r.left, r.ok⟩

/-- A safe read that returns what a reader of the front of a buffer returns. -/
structure Simulates (size : Nat) (result : α × BinaryReader) (front : α × Reader) : Prop where
  safe : result.2.Safe size
  value : result.1 = front.1
  view : result.2.view = front.2

theorem length_left (r : BinaryReader) : r.left.length = r.size - r.position := by
  rw [left, List.length_map, List.length_range]

theorem latched_eq (hok : r.ok = false) : { r with ok := false } = r := by
  obtain ⟨data, size, position, ok, touched⟩ := r
  cases hok
  rfl

theorem Safe.latch (h : r.Safe size) : Safe { r with ok := false } size :=
  ⟨h.size_eq, h.size_lt, h.position_le, h.touched_lt⟩

theorem need_of_not_ok (hok : r.ok = false) (count : Nat) : r.need count = (false, r) := by
  rw [need, hok]
  rfl

/-- Inside the buffer the difference does not wrap around. -/
theorem need_eq (h : r.Safe size) (count : Nat) :
    r.need count = if r.ok = true ∧ count ≤ r.left.length then (true, r)
      else (false, { r with ok := false }) := by
  have hsize := h.size_lt
  have hposition := h.position_le
  cases hok : r.ok with
  | false =>
    rw [need_of_not_ok hok, if_neg fun hboth => Bool.false_ne_true hboth.1]
    exact congrArg (false, ·) (latched_eq hok).symm
  | true =>
    have hleft : (r.size + 2 ^ 64 - r.position) % 2 ^ 64 = r.left.length := by
      rw [length_left]
      omega
    rw [need, hok, hleft]
    by_cases hcount : r.left.length < count
    · rw [if_neg (by decide), if_pos hcount, if_neg fun hboth => Nat.not_lt.mpr hboth.2 hcount]
    · rw [if_neg (by decide), if_neg hcount, if_pos ⟨rfl, Nat.not_lt.mp hcount⟩]

/-- Bytes that are left may be loaded. -/
theorem load_simulates (h : r.Safe size) (hok : r.ok = true) {count : Nat}
    (hcount : count ≤ r.left.length) :
    Simulates size (r.load count) (r.left.take count, ⟨r.left.drop count, true⟩) := by
  have hsize := h.size_lt
  have hposition := h.position_le
  rw [length_left] at hcount
  have hmoved : (r.load count).2.position = r.position + count :=
    Nat.mod_eq_of_lt (by omega)
  refine ⟨⟨h.size_eq, hsize, ?_, fun i hi => ?_⟩, ?_, ?_⟩
  · rw [hmoved]
    show r.position + count ≤ r.size
    omega
  · rcases List.mem_append.mp hi with hold | hnew
    · exact h.touched_lt i hold
    · obtain ⟨k, hk, rfl⟩ := List.mem_map.mp hnew
      have hlt := List.mem_range.mp hk
      show r.position + k < r.size
      omega
  · show (List.range count).map _ = r.left.take count
    rw [left, ← List.map_take, List.take_range, Nat.min_eq_left hcount]
  · have hdropped : (r.load count).2.left = r.left.drop count := by
      refine List.ext_getElem ?_ fun i _ _ => ?_
      · rw [length_left, List.length_drop, length_left, hmoved]
        exact (Nat.sub_sub _ _ _).symm
      · simp only [left, List.getElem_map, List.getElem_range, List.getElem_drop, hmoved,
          Nat.add_assoc]
        rfl
    rw [view, hdropped]
    exact congrArg _ hok

theorem fixed_view (count : Nat) (value : Bytes → α) (zero : α) :
    Reader.fixed count value zero r.view =
      if r.ok = true ∧ count ≤ r.left.length then
        (value (r.left.take count), ⟨r.left.drop count, true⟩)
      else (zero, ⟨r.left, false⟩) := rfl

theorem rawBytes_simulates (h : r.Safe size) (count : Nat) :
    Simulates size (r.rawBytes count) (Reader.fixed count id [] r.view) := by
  rw [rawBytes, need_eq h, fixed_view]
  by_cases hthere : r.ok = true ∧ count ≤ r.left.length
  · rw [if_pos hthere, if_pos hthere]
    exact load_simulates h hthere.1 hthere.2
  · rw [if_neg hthere, if_neg hthere]
    exact ⟨h.latch, rfl, rfl⟩

theorem word_simulates (h : r.Safe size) (width : Nat) :
    Simulates size (r.word width) (Reader.fixed width ofWord 0 r.view) := by
  rw [word, need_eq h, fixed_view]
  by_cases hthere : r.ok = true ∧ width ≤ r.left.length
  · have hload := load_simulates h hthere.1 hthere.2
    rw [if_pos hthere, if_pos hthere]
    refine ⟨hload.safe, ?_, hload.view⟩
    show assemble (r.load width).1 = _
    rw [assemble_eq_ofWord, hload.value]
  · rw [if_neg hthere, if_neg hthere]
    exact ⟨h.latch, rfl, rfl⟩

/-- The value of a word may be converted. -/
theorem Simulates.word (h : r.Safe size) (width : Nat) (convert : Nat → α) :
    Simulates size ((r.word width).map convert id)
      (Reader.fixed width (fun bytes => convert (ofWord bytes)) (convert 0) r.view) := by
  have hword := word_simulates h width
  have hfixed : Reader.fixed width (fun bytes => convert (ofWord bytes)) (convert 0) r.view =
      (Reader.fixed width ofWord 0 r.view).map convert id := by
    rw [Reader.fixed, Reader.fixed]
    split <;> rfl
  rw [hfixed]
  exact ⟨hword.safe, congrArg convert hword.value, hword.view⟩

/-- Bytes behind their length, off the front of a buffer. -/
def frontBytes (limit : Nat) (convert : Bytes → α) (reader : Reader) : α × Reader :=
  let length := Reader.fixed 4 ofWord 0 reader
  if length.1 ≤ limit then Reader.fixed length.1 convert (convert []) length.2
  else (convert [], ⟨length.2.rest, false⟩)

theorem ok_of_view {reader : Reader} (h : r.view = reader) : r.ok = reader.ok :=
  congrArg Reader.ok h

theorem left_of_view {reader : Reader} (h : r.view = reader) : r.left = reader.rest :=
  congrArg Reader.rest h

/-- Once the length is known and within the limit, the bytes are raw ones. -/
theorem bytes_eq (r : BinaryReader) (limit : Nat) : r.bytes limit =
    if ! (r.word 4).2.ok || limit < (r.word 4).1 then ([], { (r.word 4).2 with ok := false })
    else (r.word 4).2.rawBytes (r.word 4).1 := rfl

theorem Simulates.bytes (h : r.Safe size) (limit : Nat) (convert : Bytes → α) :
    Simulates size ((r.bytes limit).map convert id) (frontBytes limit convert r.view) := by
  have hlength := word_simulates h 4
  rw [bytes_eq, frontBytes, ← hlength.value, ← hlength.view]
  by_cases hlimit : (r.word 4).1 ≤ limit
  · have hraw := rawBytes_simulates hlength.safe (r.word 4).1
    rw [if_pos hlimit]
    cases hok : (r.word 4).2.ok with
    | true =>
      rw [if_neg (by simpa using hlimit)]
      refine ⟨hraw.safe, ?_, ?_⟩
      · show convert ((r.word 4).2.rawBytes (r.word 4).1).1 = _
        rw [hraw.value, fixed_view, fixed_view]
        split <;> rfl
      · refine hraw.view.trans ?_
        rw [fixed_view, fixed_view]
        split <;> rfl
    | false =>
      have hnot : ¬ ((r.word 4).2.ok = true ∧ (r.word 4).1 ≤ (r.word 4).2.left.length) :=
        fun hboth => Bool.false_ne_true (hok.symm.trans hboth.1)
      rw [if_pos (by simp), fixed_view, if_neg hnot]
      exact ⟨hlength.safe.latch, rfl, rfl⟩
  · rw [if_neg hlimit, if_pos (by simpa using Or.inr (Nat.lt_of_not_le hlimit))]
    exact ⟨hlength.safe.latch, rfl, rfl⟩

theorem Safe.presence (h : r.Safe size) : r.presence.2.Safe size := by
  have hflag := (word_simulates h 1).safe
  have hpresence : r.presence =
      if 1 < (r.word 1).1 then (false, { (r.word 1).2 with ok := false })
      else (decide ((r.word 1).1 = 1), (r.word 1).2) := rfl
  rw [hpresence]
  split
  · exact hflag.latch
  · exact hflag

/-- **No read leaves the buffer.** -/
theorem Safe.read (h : r.Safe size) (op : ReadOp) : (r.read op).2.Safe size := by
  cases op with
  | u8 | u16 | u32 | u64 | i64 | real => exact (word_simulates h _).safe
  | text limit | bytes limit => exact (Simulates.bytes h limit BinaryValue.bytes).safe
  | rawBytes count => exact (rawBytes_simulates h count).safe
  | presence => exact h.presence

theorem Safe.readAll (ops : List ReadOp) :
    ∀ {r : BinaryReader}, r.Safe size → (r.readAll ops).2.Safe size := by
  induction ops with
  | nil => exact fun h => h
  | cons op ops ih => exact fun h => ih (h.read op)

/-! ### A reader that is not ok -/

theorem word_of_not_ok (hok : r.ok = false) (width : Nat) : r.word width = (0, r) := by
  rw [word, need_of_not_ok hok]
  rfl

theorem bytes_of_not_ok (hok : r.ok = false) (limit : Nat) : r.bytes limit = ([], r) := by
  rw [bytes_eq, word_of_not_ok hok, if_pos (by rw [hok]; rfl)]
  exact congrArg ([], ·) (latched_eq hok)

theorem rawBytes_of_not_ok (hok : r.ok = false) (count : Nat) : r.rawBytes count = ([], r) := by
  rw [rawBytes, need_of_not_ok hok]
  exact congrArg ([], ·) (latched_eq hok)

/-- **It returns nothing and does not move.** -/
theorem read_of_not_ok (hok : r.ok = false) (op : ReadOp) : r.read op = (op.zero, r) := by
  have hword : ∀ {α : Type} (width : Nat) (convert : Nat → α),
      (r.word width).map convert id = (convert 0, r) := by
    intro α width convert
    rw [word_of_not_ok hok]
    rfl
  cases op with
  | u8 => exact hword 1 BinaryValue.u8
  | u16 => exact hword 2 BinaryValue.u16
  | u32 => exact hword 4 BinaryValue.u32
  | u64 => exact hword 8 BinaryValue.u64
  | i64 => exact hword 8 fun value => BinaryValue.i64 (signed value)
  | real => exact hword 8 fun value => BinaryValue.real ⟨.ofNat value⟩
  | text limit => exact congrArg (Prod.map BinaryValue.text id) (bytes_of_not_ok hok limit)
  | bytes limit => exact congrArg (Prod.map BinaryValue.bytes id) (bytes_of_not_ok hok limit)
  | rawBytes count =>
    exact congrArg (Prod.map BinaryValue.rawBytes id) (rawBytes_of_not_ok hok count)
  | presence =>
    rw [read, presence, u8, word_of_not_ok hok]
    rfl

theorem readAll_cons (r : BinaryReader) (op : ReadOp) (ops : List ReadOp) :
    r.readAll (op :: ops) =
      ((r.read op).1 :: ((r.read op).2.readAll ops).1, ((r.read op).2.readAll ops).2) := rfl

theorem readAll_of_not_ok (hok : r.ok = false) (ops : List ReadOp) :
    r.readAll ops = (ops.map ReadOp.zero, r) := by
  induction ops with
  | nil => rfl
  | cons op ops ih =>
    rw [readAll_cons, read_of_not_ok hok, ih]
    rfl

theorem readAll_append (ops later : List ReadOp) : ∀ r : BinaryReader,
    r.readAll (ops ++ later) = ((r.readAll ops).1 ++ ((r.readAll ops).2.readAll later).1,
      ((r.readAll ops).2.readAll later).2) := by
  induction ops with
  | nil => exact fun _ => rfl
  | cons op ops ih =>
    intro r
    rw [List.cons_append, readAll_cons, readAll_cons, ih, List.cons_append]

/-! ### Fields of payloads -/

/-- Read a value of a kind, as the decoders do. -/
def readKind : {A : Type} → Kind Double A → BinaryReader → A × BinaryReader
  | _, .u8, r => r.u8
  | _, .flag, r => r.u8.map (decide <| · ≠ 0) id
  | _, .u32, r => r.u32
  | _, .u64, r => r.u64
  | _, .i64, r => r.i64
  | _, .real, r => r.real
  | _, .text limit, r => (r.text limit).map toText id

/-- **Payloads are read off what is left**: the reader of the decoders abstracts this one. -/
theorem readKind_simulates {A : Type} (kind : Kind Double A) (h : r.Safe size) :
    Simulates size (readKind kind r) (Reader.read kind r.view) := by
  cases kind with
  | u8 | u32 | u64 => exact word_simulates h _
  | flag => exact Simulates.word h _ fun value => decide (value ≠ 0)
  | i64 => exact Simulates.word h _ signed
  | real => exact Simulates.word h _ fun value => (⟨.ofNat value⟩ : Double)
  | text limit => exact Simulates.bytes h limit toText

/-! ### Reading back -/

/-- The operation reads the value back: it is of the same kind and within the width of the kind
and the limit of the operation. -/
inductive ReadsBack : BinaryValue → ReadOp → Prop
  | u8 {value : Nat} (h : value < 2 ^ 8) : ReadsBack (.u8 value) .u8
  | u16 {value : Nat} (h : value < 2 ^ 16) : ReadsBack (.u16 value) .u16
  | u32 {value : Nat} (h : value < 2 ^ 32) : ReadsBack (.u32 value) .u32
  | u64 {value : Nat} (h : value < 2 ^ 64) : ReadsBack (.u64 value) .u64
  | i64 {value : Int} (hlow : -2 ^ 63 ≤ value) (hhigh : value < 2 ^ 63) :
      ReadsBack (.i64 value) .i64
  | real {value : Double} : ReadsBack (.real value) .real
  | text {value : Bytes} {limit : Nat} (h : value.length < 2 ^ 32) (hlimit : value.length ≤ limit) :
      ReadsBack (.text value) (.text limit)
  | bytes {value : Bytes} {limit : Nat} (h : value.length < 2 ^ 32)
      (hlimit : value.length ≤ limit) : ReadsBack (.bytes value) (.bytes limit)
  | rawBytes {value : Bytes} : ReadsBack (.rawBytes value) (.rawBytes value.length)
  | presence {value : Bool} : ReadsBack (.presence value) .presence

theorem word_back {rest : Bytes} (width : Nat) {value : Nat} (h : r.Safe size)
    (hview : r.view = ⟨BinaryWriter.pushWord [] width value ++ rest, true⟩)
    (hvalue : value < 256 ^ width) (convert : Nat → α) :
    Simulates size ((r.word width).map convert id) (convert value, ⟨rest, true⟩) := by
  rw [BinaryWriter.pushWord_eq, List.nil_append] at hview
  have hword := Simulates.word h width convert
  rwa [hview, Reader.fixed_append (length_word _ _), ofWord_word_of_lt hvalue] at hword

theorem rawBytes_back {value rest : Bytes} (h : r.Safe size)
    (hview : r.view = ⟨value ++ rest, true⟩) :
    Simulates size (r.rawBytes value.length) (value, ⟨rest, true⟩) := by
  have hraw := rawBytes_simulates h value.length
  rwa [hview, Reader.fixed_append rfl] at hraw

theorem bytes_back {limit : Nat} {value rest : Bytes} (h : r.Safe size)
    (hview : r.view = ⟨BinaryWriter.text [] value ++ rest, true⟩)
    (hlength : value.length < 2 ^ 32) (hlimit : value.length ≤ limit) (convert : Bytes → α) :
    Simulates size ((r.bytes limit).map convert id) (convert value, ⟨rest, true⟩) := by
  have hbytes := Simulates.bytes h limit convert
  rw [BinaryWriter.text, BinaryWriter.u32, BinaryWriter.pushWord_eq, Nat.mod_eq_of_lt hlength,
    List.nil_append, List.append_assoc] at hview
  rwa [hview, frontBytes, Reader.fixed_append (length_word _ _), ofWord_word_of_lt hlength,
    if_pos hlimit, Reader.fixed_append rfl] at hbytes

theorem presence_back {value : Bool} {rest : Bytes} (h : r.Safe size)
    (hview : r.view = ⟨BinaryWriter.u8 [] (if value then 1 else 0) ++ rest, true⟩) :
    Simulates size (r.presence.map BinaryValue.presence id) (.presence value, ⟨rest, true⟩) := by
  rw [BinaryWriter.u8_eq] at hview
  have hflag := word_back 1 h hview (by cases value <;> decide) id
  have hpresence : r.presence =
      if 1 < (r.word 1).1 then (false, { (r.word 1).2 with ok := false })
      else (decide ((r.word 1).1 = 1), (r.word 1).2) := rfl
  have hvalue : (r.word 1).1 = if value then 1 else 0 := hflag.value
  rw [hpresence, hvalue, if_neg (by cases value <;> decide)]
  refine ⟨hflag.safe, ?_, hflag.view⟩
  cases value <;> rfl

/-- **What was written is read back.** -/
theorem read_back {value : BinaryValue} {op : ReadOp} {rest : Bytes} (hback : ReadsBack value op)
    (h : r.Safe size) (hview : r.view = ⟨BinaryWriter.write [] value ++ rest, true⟩) :
    Simulates size (r.read op) (value, ⟨rest, true⟩) := by
  cases hback with
  | u8 hvalue =>
    rw [BinaryWriter.write, BinaryWriter.u8_eq] at hview
    exact word_back 1 h hview hvalue BinaryValue.u8
  | u16 hvalue => exact word_back 2 h hview hvalue BinaryValue.u16
  | u32 hvalue => exact word_back 4 h hview hvalue BinaryValue.u32
  | u64 hvalue => exact word_back 8 h hview hvalue BinaryValue.u64
  | @i64 value hlow hhigh =>
    have hword := word_back 8 h hview (unsigned_lt value) fun n => BinaryValue.i64 (signed n)
    rwa [signed_unsigned hlow hhigh] at hword
  | @real value =>
    have hword := word_back 8 h hview value.bits.toNat_lt fun n =>
      BinaryValue.real ⟨.ofNat n⟩
    rwa [UInt64.ofNat_toNat] at hword
  | text hwidth hlimit => exact bytes_back h hview hwidth hlimit BinaryValue.text
  | bytes hwidth hlimit => exact bytes_back h hview hwidth hlimit BinaryValue.bytes
  | @rawBytes value =>
    rw [BinaryWriter.write_rawBytes] at hview
    have hraw := rawBytes_back h hview
    exact ⟨hraw.safe, congrArg BinaryValue.rawBytes hraw.value, hraw.view⟩
  | presence => exact presence_back h hview

theorem readAll_back {values : List BinaryValue} {ops : List ReadOp}
    (hback : List.Forall₂ ReadsBack values ops) : ∀ {r : BinaryReader} {rest : Bytes}, r.Safe size →
      r.view = ⟨values.flatMap (BinaryWriter.write []) ++ rest, true⟩ →
      Simulates size (r.readAll ops) (values, ⟨rest, true⟩) := by
  induction hback with
  | nil => exact fun h hview => ⟨h, rfl, hview⟩
  | cons hfirst _ ih =>
    intro r rest h hview
    rw [List.flatMap_cons, List.append_assoc] at hview
    have hread := read_back hfirst h hview
    have hrest := ih hread.safe hread.view
    rw [readAll_cons]
    exact ⟨hrest.safe, by rw [hread.value, hrest.value], hrest.view⟩

/-! ### A whole buffer -/

/-- A reader at the start of a buffer of some size. -/
def ofBuffer (data : Nat → UInt8) (size : Nat) : BinaryReader := { data := data, size := size }

/-- The bytes of the buffer. -/
def buffer (data : Nat → UInt8) (size : Nat) : Bytes := (List.range size).map data

theorem safe_ofBuffer (data : Nat → UInt8) {size : Nat} (hsize : size < 2 ^ 64) :
    (ofBuffer data size).Safe size :=
  ⟨rfl, hsize, Nat.zero_le _, fun _ hi => absurd hi List.not_mem_nil⟩

theorem view_ofBuffer (data : Nat → UInt8) (size : Nat) :
    (ofBuffer data size).view = ⟨buffer data size, true⟩ := by
  have hleft : (ofBuffer data size).left = buffer data size :=
    List.map_congr_left fun i _ => congrArg data (Nat.zero_add i)
  rw [view, hleft]
  rfl

theorem foldl_write (values : List BinaryValue) : ∀ w : BinaryWriter,
    values.foldl BinaryWriter.write w = w ++ values.flatMap (BinaryWriter.write []) := by
  induction values with
  | nil => exact fun w => (List.append_nil w).symm
  | cons value values ih =>
    intro w
    rw [List.foldl_cons, ih, BinaryWriter.write_eq, List.append_assoc, List.flatMap_cons]

/-- The position of a reader whose buffer is used up is the end. -/
theorem position_of_view {ok : Bool} (h : r.Safe size) (hview : r.view = ⟨[], ok⟩) :
    r.position = size := by
  have hlength := length_left r
  rw [left_of_view hview] at hlength
  have hposition := h.position_le
  exact (Nat.le_antisymm hposition (Nat.le_of_sub_eq_zero hlength.symm)).trans h.size_eq

/-- Whatever is read of whatever buffer, the position stays inside and nothing outside is
loaded; after a read that failed all others return nothing and change nothing; and the values
that a writer wrote are read back, up to the end and no further. -/
theorem reads_safely :
    (∀ (data : Nat → UInt8) (size : Nat) (ops : List ReadOp), size < 2 ^ 64 →
      ((ofBuffer data size).readAll ops).2.position ≤ size ∧
      ∀ i ∈ ((ofBuffer data size).readAll ops).2.touched, i < size) ∧
    (∀ (data : Nat → UInt8) (size : Nat) (ops later : List ReadOp), size < 2 ^ 64 →
      ((ofBuffer data size).readAll ops).2.ok = false →
      (ofBuffer data size).readAll (ops ++ later) =
        (((ofBuffer data size).readAll ops).1 ++ later.map ReadOp.zero,
          ((ofBuffer data size).readAll ops).2)) ∧
    ∀ (data : Nat → UInt8) (values : List BinaryValue) (ops : List ReadOp) (size : Nat),
      size < 2 ^ 64 → List.Forall₂ ReadsBack values ops →
      buffer data size = values.foldl BinaryWriter.write [] →
      ((ofBuffer data size).readAll ops).1 = values ∧
      ((ofBuffer data size).readAll ops).2.ok = true ∧
      ((ofBuffer data size).readAll ops).2.position = size := by
  refine ⟨fun data size ops hsize => ?_, fun data size ops later _ hok => ?_,
    fun data values ops size hsize hback hbuffer => ?_⟩
  · have hsafe := (safe_ofBuffer data hsize).readAll ops
    exact ⟨le_of_le_of_eq hsafe.position_le hsafe.size_eq,
      fun i hi => lt_of_lt_of_eq (hsafe.touched_lt i hi) hsafe.size_eq⟩
  · rw [readAll_append, readAll_of_not_ok hok]
  · have hview := view_ofBuffer data size
    rw [hbuffer, foldl_write, List.nil_append, ← List.append_nil (values.flatMap _)] at hview
    have hread := readAll_back hback (safe_ofBuffer data hsize) hview
    exact ⟨hread.value, ok_of_view hread.view, position_of_view hread.safe hread.view⟩

/-- A number, a text and a tag that is set, in a buffer of nine bytes. -/
theorem reads_safely_nine :
    let data : Nat → UInt8 := fun i => ([1, 2, 2, 0, 0, 0, 104, 105, 1] : Bytes).getD i 0
    let ops : List ReadOp := [.u16, .text 64, .presence]
    (((ofBuffer data 9).readAll ops).2.position ≤ 9 ∧
      ∀ i ∈ ((ofBuffer data 9).readAll ops).2.touched, i < 9) ∧
    (ofBuffer data 9).readAll ([.bytes 2] ++ ops) =
      (((ofBuffer data 9).readAll [.bytes 2]).1 ++ ops.map ReadOp.zero,
        ((ofBuffer data 9).readAll [.bytes 2]).2) ∧
    ((ofBuffer data 9).readAll ops).1 = [.u16 513, .text [104, 105], .presence true] ∧
    ((ofBuffer data 9).readAll ops).2.ok = true ∧ ((ofBuffer data 9).readAll ops).2.position = 9 :=
  ⟨reads_safely.1 _ 9 _ (by decide),
    reads_safely.2.1 _ 9 [.bytes 2] _ (by decide) (by decide),
    reads_safely.2.2 _ _ _ 9 (by decide)
      (.cons (.u16 (by decide)) (.cons (.text (by decide) (by decide)) (.cons .presence .nil)))
      (by decide)⟩

end BinaryReader

end ThermalGovernor
