import ThermalGovernor.Lib.Bytes
import Mathlib.Logic.Function.Iterate

/-!
# Cyclic redundancy checks

A reflected check of 32 bits over a polynomial, by the byte, with the table that holds what
eight steps by the bit make of each byte.

`step_eq` says that a step by the byte is eight steps by the bit, since those are linear; so a
run is what comes of the bits of the message one after the other (`run_eq_foldl_feed`).  A step
by the bit loses nothing when the polynomial has its top bit (`bitStep_injective`), and
neither does a step by the byte, in the check and in the byte.  So one byte that changes
changes the check (`run_set_ne`).
-/

namespace ThermalGovernor.Lib.Crc

variable (polynomial : BitVec 32)

/-- Shift one bit out. -/
def bitStep (crc : BitVec 32) : BitVec 32 :=
  if crc &&& 1 ≠ 0 then (crc >>> 1) ^^^ polynomial else crc >>> 1

/-- What a byte becomes when it is shifted out. -/
def table (i : BitVec 8) : BitVec 32 := (bitStep polynomial)^[8] (i.setWidth 32)

/-- Shift one byte in. -/
def step (crc : BitVec 32) (b : UInt8) : BitVec 32 :=
  table polynomial ((crc ^^^ b.toBitVec.setWidth 32).setWidth 8) ^^^ (crc >>> 8)

/-- Shift all bytes in. -/
def run (crc : BitVec 32) (bytes : Bytes) : BitVec 32 := bytes.foldl (step polynomial) crc

/-- Divide on with one more bit of the message. -/
def feed (crc : BitVec 32) (bit : Bool) : BitVec 32 :=
  (crc >>> 1) ^^^ if crc.getLsbD 0 ^^ bit then polynomial else 0

/-- The bits of a byte, lowest first. -/
def bits (b : UInt8) : List Bool := (List.range 8).map b.toBitVec.getLsbD

variable {polynomial}

/-! ### By the bit -/

theorem bitStep_eq (x : BitVec 32) :
    bitStep polynomial x = (x >>> 1) ^^^ if x.getLsbD 0 then polynomial else 0 := by
  have hbit : x &&& 1 = (BitVec.ofBool (x.getLsbD 0)).setWidth 32 :=
    BitVec.and_one_eq_setWidth_ofBool_getLsbD
  rw [bitStep, hbit]
  cases x.getLsbD 0
  · exact BitVec.xor_zero.symm
  · rfl

/-- A step is linear. -/
theorem bitStep_xor (x y : BitVec 32) :
    bitStep polynomial (x ^^^ y) = bitStep polynomial x ^^^ bitStep polynomial y := by
  have hswap : ∀ a b c d : BitVec 32, (a ^^^ c) ^^^ (b ^^^ d) = (a ^^^ b) ^^^ (c ^^^ d) := by
    intro a b c d
    ac_rfl
  rw [bitStep_eq, bitStep_eq, bitStep_eq, BitVec.ushiftRight_xor_distrib, hswap,
    BitVec.getLsbD_xor]
  cases x.getLsbD 0 <;> cases y.getLsbD 0 <;> simp

theorem bitStep_iterate_xor (n : Nat) (x y : BitVec 32) :
    (bitStep polynomial)^[n] (x ^^^ y) =
      (bitStep polynomial)^[n] x ^^^ (bitStep polynomial)^[n] y := by
  induction n generalizing x y with
  | zero => rfl
  | succ n ih => rw [Function.iterate_succ_apply, bitStep_xor, ih]; rfl

/-- Nothing but zero is shifted to zero, as the top bit of the polynomial shows a bit that was
shifted out. -/
theorem eq_zero_of_bitStep (hpolynomial : polynomial.msb = true) {x : BitVec 32}
    (h : bitStep polynomial x = 0) : x = 0 := by
  rw [bitStep_eq] at h
  have hbits : ∀ i, (x >>> 1).getLsbD i = (if x.getLsbD 0 then polynomial else 0).getLsbD i :=
    fun i => congrArg (BitVec.getLsbD · i) (BitVec.xor_eq_zero_iff.mp h)
  have hlow : x.getLsbD 0 = false := by
    have htop := hbits 31
    rw [BitVec.msb_eq_getLsbD_last] at hpolynomial
    cases hx : x.getLsbD 0 with
    | false => rfl
    | true =>
      rw [hx, if_pos rfl, hpolynomial, BitVec.getLsbD_ushiftRight,
        BitVec.getLsbD_of_ge x (1 + 31) (by omega)] at htop
      cases htop
  refine BitVec.eq_of_getLsbD_eq fun i hi => ?_
  cases i with
  | zero => simpa using hlow
  | succ i =>
    have hbit := hbits i
    rw [hlow, if_neg Bool.false_ne_true, BitVec.getLsbD_ushiftRight, Nat.add_comm] at hbit
    rw [hbit]
    simp

theorem bitStep_injective (hpolynomial : polynomial.msb = true) :
    Function.Injective (bitStep polynomial) := by
  intro x y h
  have hzero : bitStep polynomial (x ^^^ y) = 0 := by
    rw [bitStep_xor, h, BitVec.xor_self]
    rfl
  exact BitVec.xor_eq_zero_iff.mp (eq_zero_of_bitStep hpolynomial hzero)

/-- Zeros are shifted out without a trace. -/
theorem bitStep_iterate_of_low {x : BitVec 32} {n : Nat} (h : ∀ i < n, x.getLsbD i = false) :
    (bitStep polynomial)^[n] x = x >>> n := by
  induction n with
  | zero => exact (BitVec.ushiftRight_zero x).symm
  | succ n ih =>
    have hbit : (x >>> n).getLsbD 0 = false := by
      rw [BitVec.getLsbD_ushiftRight]
      exact h n (Nat.lt_succ_self n)
    rw [Function.iterate_succ_apply', ih fun i hi => h i (Nat.lt_succ_of_lt hi), bitStep_eq, hbit,
      if_neg Bool.false_ne_true, BitVec.shiftRight_add]
    exact BitVec.xor_zero

/-! ### By the byte -/

/-- A byte and the bits above it. -/
theorem low_xor_high (x : BitVec 32) : (x.setWidth 8).setWidth 32 ^^^ ((x >>> 8) <<< 8) = x := by
  refine BitVec.eq_of_getLsbD_eq fun i hi => ?_
  rw [BitVec.getLsbD_xor, BitVec.getLsbD_setWidth, BitVec.getLsbD_setWidth,
    BitVec.getLsbD_shiftLeft, BitVec.getLsbD_ushiftRight]
  by_cases hlow : i < 8
  · simp [hi, hlow]
  · simp [hi, hlow, Nat.add_sub_cancel' (Nat.le_of_not_lt hlow)]

theorem byte_ushiftRight (b : UInt8) : (b.toBitVec.setWidth 32 : BitVec 32) >>> 8 = 0 := by
  refine BitVec.eq_of_getLsbD_eq fun i _ => ?_
  rw [BitVec.getLsbD_ushiftRight, BitVec.getLsbD_setWidth,
    BitVec.getLsbD_of_ge b.toBitVec (8 + i) (by omega)]
  simp

/-- **A step by the byte is eight steps by the bit.** -/
theorem step_eq (crc : BitVec 32) (b : UInt8) :
    step polynomial crc b = (bitStep polynomial)^[8] (crc ^^^ b.toBitVec.setWidth 32) := by
  have hhigh : (crc ^^^ b.toBitVec.setWidth 32) >>> 8 = crc >>> 8 := by
    rw [BitVec.ushiftRight_xor_distrib, byte_ushiftRight]
    exact BitVec.xor_zero
  generalize hx : crc ^^^ b.toBitVec.setWidth 32 = x at hhigh
  have hshifted : (bitStep polynomial)^[8] ((x >>> 8) <<< 8) = x >>> 8 := by
    rw [bitStep_iterate_of_low fun i hi => by rw [BitVec.getLsbD_shiftLeft]; simp [hi]]
    refine BitVec.eq_of_getLsbD_eq fun i _ => ?_
    simp only [BitVec.getLsbD_ushiftRight, BitVec.getLsbD_shiftLeft]
    by_cases hi : 8 + i < 32
    · simp [hi]
    · simp [hi, BitVec.getLsbD_of_ge x (8 + i) (by omega)]
  rw [step, hx, ← hhigh, table]
  conv_rhs => rw [← low_xor_high x, bitStep_iterate_xor, hshifted]

/-- A bit of the message counts as the bit that is shifted out does. -/
theorem feed_eq (crc : BitVec 32) (bit : Bool) :
    feed polynomial crc bit = bitStep polynomial crc ^^^ if bit then polynomial else 0 := by
  rw [feed, bitStep_eq]
  cases crc.getLsbD 0 <;> cases bit <;> simp [BitVec.xor_assoc]

/-- The bits fed in so far are those below `n`; the others are still to be shifted out. -/
theorem foldl_feed_range (crc x : BitVec 32) (n : Nat) :
    (bitStep polynomial)^[n] (crc ^^^ x) =
      ((List.range n).map x.getLsbD).foldl (feed polynomial) crc ^^^ (x >>> n) := by
  induction n with
  | zero => rw [BitVec.ushiftRight_zero]; rfl
  | succ n ih =>
    have hbit : (x >>> n).getLsbD 0 = x.getLsbD n := by
      rw [BitVec.getLsbD_ushiftRight, Nat.add_zero]
    rw [Function.iterate_succ_apply', ih, List.range_succ, List.map_append, List.foldl_append]
    generalize ((List.range n).map x.getLsbD).foldl (feed polynomial) crc = fed
    show bitStep polynomial (fed ^^^ x >>> n) = feed polynomial fed (x.getLsbD n) ^^^ x >>> (n + 1)
    rw [bitStep_xor, bitStep_eq (x >>> n), hbit, BitVec.shiftRight_add, feed_eq]
    ac_rfl

/-- **A step by the byte feeds its bits in, the lowest first.** -/
theorem step_eq_foldl_feed (crc : BitVec 32) (b : UInt8) :
    step polynomial crc b = (bits b).foldl (feed polynomial) crc := by
  have hbits : (List.range 8).map (b.toBitVec.setWidth 32 : BitVec 32).getLsbD = bits b :=
    List.map_congr_left fun i hi => by
      have hwide : i < 32 := Nat.lt_of_lt_of_le (List.mem_range.mp hi) (by decide)
      rw [BitVec.getLsbD_setWidth, decide_eq_true hwide, Bool.true_and]
  rw [step_eq, foldl_feed_range, hbits, byte_ushiftRight]
  exact BitVec.xor_zero

theorem step_injective (hpolynomial : polynomial.msb = true) {crc crc' : BitVec 32}
    {b b' : UInt8} (h : step polynomial crc b = step polynomial crc' b') :
    crc ^^^ b.toBitVec.setWidth 32 = crc' ^^^ b'.toBitVec.setWidth 32 := by
  rw [step_eq, step_eq] at h
  exact (bitStep_injective hpolynomial).iterate 8 h

/-- A step loses nothing of the check. -/
theorem step_inj_left (hpolynomial : polynomial.msb = true) {crc crc' : BitVec 32} {b : UInt8} :
    step polynomial crc b = step polynomial crc' b ↔ crc = crc' :=
  ⟨fun h => (BitVec.xor_left_inj _).mp (step_injective hpolynomial h), fun h => by rw [h]⟩

/-- A step loses nothing of the byte. -/
theorem step_inj_right (hpolynomial : polynomial.msb = true) {crc : BitVec 32} {b b' : UInt8} :
    step polynomial crc b = step polynomial crc b' ↔ b = b' := by
  refine ⟨fun h => ?_, fun h => by rw [h]⟩
  have hwide := congrArg BitVec.toNat ((BitVec.xor_right_inj _).mp (step_injective hpolynomial h))
  have hb := b.toNat_lt
  have hb' := b'.toNat_lt
  rw [BitVec.toNat_setWidth, BitVec.toNat_setWidth, UInt8.toNat_toBitVec,
    UInt8.toNat_toBitVec] at hwide
  rw [← UInt8.toNat_inj]
  omega

/-! ### Whole buffers -/

/-- **A run feeds in all bits of the message.** -/
theorem run_eq_foldl_feed (crc : BitVec 32) (bytes : Bytes) :
    run polynomial crc bytes = (bytes.flatMap bits).foldl (feed polynomial) crc := by
  induction bytes generalizing crc with
  | nil => rfl
  | cons b bytes ih =>
    rw [List.flatMap_cons, List.foldl_append, ← step_eq_foldl_feed, ← ih]
    rfl

theorem run_append (crc : BitVec 32) (bytes more : Bytes) :
    run polynomial crc (bytes ++ more) = run polynomial (run polynomial crc bytes) more :=
  List.foldl_append

theorem run_inj_left (hpolynomial : polynomial.msb = true) {crc crc' : BitVec 32}
    {bytes : Bytes} : run polynomial crc bytes = run polynomial crc' bytes ↔ crc = crc' := by
  induction bytes generalizing crc crc' with
  | nil => exact Iff.rfl
  | cons b bytes ih => exact ih.trans (step_inj_left hpolynomial)

/-- **One byte that changes changes the check.** -/
theorem run_set_ne (hpolynomial : polynomial.msb = true) (crc : BitVec 32) {bytes : Bytes}
    {i : Nat} (hi : i < bytes.length) {b : UInt8} (hb : b ≠ bytes[i]) :
    run polynomial crc (bytes.set i b) ≠ run polynomial crc bytes := by
  induction bytes generalizing crc i with
  | nil => cases hi
  | cons first bytes ih =>
    cases i with
    | zero =>
      intro h
      exact hb ((step_inj_right hpolynomial).mp ((run_inj_left hpolynomial).mp h))
    | succ i => exact ih _ (Nat.lt_of_succ_lt_succ hi) hb

end ThermalGovernor.Lib.Crc
