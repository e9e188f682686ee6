import ThermalGovernor.Lib.Crc

/-!
# Checksums

The source's `crc32c`, and a part of a buffer with its checksum behind it (`withChecksum`).
Frames and durable files are two such parts, a head of a fixed length and what it announces
(`Checked`); `not_checked_set` says that no such buffer is another one with a byte changed.
-/

namespace ThermalGovernor

open Lib Lib.Bytes

/-- The source's `polynomial`. -/
def crcPolynomial : BitVec 32 := 0x82F63B78

/-- The source's `crc32c`. -/
def crc32c (bytes : Bytes) (seed : BitVec 32) : BitVec 32 :=
  ~~~ Crc.run crcPolynomial (~~~ seed) bytes

/-- The check without a table: the bits of the message one at a time, between complements. -/
def crc32cByBit (bytes : Bytes) (seed : BitVec 32) : BitVec 32 :=
  ~~~ (bytes.flatMap Crc.bits).foldl (Crc.feed crcPolynomial) (~~~ seed)

/-- The table gives the check that the bits define, and a message may be checked in parts, each
seeded with the check of what was before it. -/
theorem crc32c_eq_byBit (bytes more : Bytes) (seed : BitVec 32) :
    crc32c bytes seed = crc32cByBit bytes seed ∧
    crc32c (bytes ++ more) seed = crc32c more (crc32c bytes seed) := by
  constructor
  · rw [crc32c, Crc.run_eq_foldl_feed, crc32cByBit]
  · rw [crc32c, crc32c, crc32c, BitVec.not_not, Crc.run_append]

/-- The checksum as it is stored. -/
def checksum (bytes : Bytes) : Nat := (crc32c bytes 0).toNat

example : checksum [0x31, 0x32, 0x33, 0x34, 0x35, 0x36, 0x37, 0x38, 0x39] = 0xE3069283 := by
  decide +kernel

theorem checksum_lt (bytes : Bytes) : checksum bytes < 256 ^ 4 := (crc32c bytes 0).isLt

theorem checksum_set_ne {bytes : Bytes} {i : Nat} (hi : i < bytes.length) {b : UInt8}
    (hb : b ≠ bytes[i]) : checksum (bytes.set i b) ≠ checksum bytes := by
  intro h
  have hpolynomial : crcPolynomial.msb = true := by decide
  have hrun := BitVec.not_inj.mp (BitVec.toNat_inj.mp h)
  exact Crc.run_set_ne hpolynomial _ hi hb hrun

/-! ### Parts with a checksum -/

def withChecksum (part : Bytes) : Bytes := part ++ word 4 (checksum part)

@[simp] theorem length_withChecksum (part : Bytes) :
    (withChecksum part).length = part.length + 4 := by
  rw [withChecksum, List.length_append, length_word]

theorem withChecksum_inj {part part' : Bytes} :
    withChecksum part = withChecksum part' ↔ part = part' := by
  refine ⟨fun h => ?_, congrArg withChecksum⟩
  have hlength := congrArg List.length h
  rw [length_withChecksum, length_withChecksum] at hlength
  exact (List.append_inj h (by omega)).1

/-- A part whose checksum is behind it. -/
theorem drop_eq_withChecksum (bytes : Bytes) (start count : Nat)
    (h : start + count + 4 ≤ bytes.length)
    (hsum : checksum (slice bytes start count (by omega)) = wordAt bytes (start + count) 4 h) :
    bytes.drop start =
      withChecksum (slice bytes start count (by omega)) ++ bytes.drop (start + count + 4) := by
  rw [withChecksum, hsum, ← slice_eq_word, List.append_assoc, ← drop_eq_slice, ← drop_eq_slice]

/-- **A part with its checksum is no other one with a byte changed.** -/
theorem withChecksum_ne_set (part part' : Bytes) {i : Nat} (hi : i < (withChecksum part).length)
    {b : UInt8} (hb : b ≠ (withChecksum part)[i]) :
    withChecksum part' ≠ (withChecksum part).set i b := by
  intro h
  have hlength := congrArg List.length h
  rw [List.length_set, length_withChecksum, length_withChecksum] at hlength
  by_cases hpart : i < part.length
  · rw [withChecksum, withChecksum, List.set_append_left _ _ hpart] at h
    obtain ⟨rfl, hword⟩ := List.append_inj h (by rw [List.length_set]; omega)
    have hvalue := congrArg ofWord hword
    rw [ofWord_word_of_lt (checksum_lt _), ofWord_word_of_lt (checksum_lt _)] at hvalue
    refine checksum_set_ne hpart ?_ hvalue
    simpa only [withChecksum, List.getElem_append_left hpart] using hb
  · have hword : (withChecksum part).set i b =
        part ++ (word 4 (checksum part)).set (i - part.length) b := by
      rw [withChecksum, List.set_append_right _ _ (by omega)]
    rw [hword, withChecksum] at h
    obtain ⟨rfl, hsame⟩ := List.append_inj h (by omega)
    rw [← hsame] at hword
    refine hb ?_
    have hat := congrArg (·[i]?) hword
    rw [List.getElem?_set_self hi] at hat
    exact Option.some.inj (hat.trans (List.getElem?_eq_getElem hi))

/-- A head of so many bytes and a body, each with its checksum. -/
def Checked (size : Nat) (bytes : Bytes) : Prop :=
  ∃ head body : Bytes, head.length = size ∧ bytes = withChecksum head ++ withChecksum body

/-- **A checked buffer is no other one with a byte changed**, wherever the byte is. -/
theorem not_checked_set {size : Nat} {bytes : Bytes} (h : Checked size bytes) {i : Nat}
    (hi : i < bytes.length) {b : UInt8} (hb : b ≠ bytes[i]) : ¬ Checked size (bytes.set i b) := by
  obtain ⟨head, body, hsize, rfl⟩ := h
  rintro ⟨head', body', hsize', hset⟩
  have hlength : (withChecksum head').length = (withChecksum head).length := by
    rw [length_withChecksum, length_withChecksum, hsize, hsize']
  by_cases hhead : i < (withChecksum head).length
  · rw [List.set_append_left _ _ hhead] at hset
    obtain ⟨hset, -⟩ := List.append_inj hset (by rw [List.length_set, hlength])
    refine withChecksum_ne_set head head' hhead ?_ hset.symm
    rwa [List.getElem_append_left hhead] at hb
  · rw [List.set_append_right _ _ (by omega)] at hset
    obtain ⟨-, hset⟩ := List.append_inj hset hlength.symm
    rw [List.length_append] at hi
    refine withChecksum_ne_set body body' (by omega) ?_ hset.symm
    rwa [List.getElem_append_right (by omega)] at hb

end ThermalGovernor
