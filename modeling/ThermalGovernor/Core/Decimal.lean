import Mathlib.Tactic.Linarith
import Mathlib.Tactic.NormNum
import Mathlib.Tactic.Ring
import ThermalGovernor.Core.Format

/-!
# What a rendered number says

`decimalText` writes a number of thousandths with a sign, and every text of `number` is of
this form (`exists_decimalText`), for thousandths that are the value to within half of one.
Such a text gives the sign and the thousandths back (`decimalText_inj`).  So two values with
one text are within a thousandth of each other (`abs_sub_le_of_number_eq`).  All of its
characters are those of `isNumeral`, so a text of numbers can be taken apart at any other.
-/

namespace ThermalGovernor.Format

/-! ### Digits -/

theorem isDigit_of_mem_toDigits {n : Nat} {c : Char} (h : c ∈ Nat.toDigits 10 n) :
    c.isDigit = true :=
  Nat.isDigit_of_mem_toDigits (by decide) (by decide) h

theorem toDigits_inj {m n : Nat} (h : Nat.toDigits 10 m = Nat.toDigits 10 n) : m = n := by
  rw [← Nat.ofDigitChars_ten_toDigits (n := m), h, Nat.ofDigitChars_ten_toDigits]

theorem toList_unsignedDecimal (n : Nat) : (unsignedDecimal n).toList = Nat.toDigits 10 n :=
  Nat.toList_repr

theorem unsignedDecimal_inj {m n : Nat} (h : unsignedDecimal m = unsignedDecimal n) : m = n := by
  refine toDigits_inj ?_
  rw [← toList_unsignedDecimal, h, toList_unsignedDecimal]

/-! ### Thousandths -/

/-- The point and the digits after it, without trailing zeros. -/
def fraction (n : Nat) : List Char :=
  if n = 0 then []
  else if n % 100 = 0 then ['.', (n / 100).digitChar]
  else if n % 10 = 0 then ['.', (n / 100).digitChar, (n / 10 % 10).digitChar]
  else ['.', (n / 100).digitChar, (n / 10 % 10).digitChar, (n % 10).digitChar]

/-- The text of a number of thousandths. -/
def decimalText (negative : Bool) (n : Nat) : List Char :=
  (if negative then ['-'] else []) ++ (Nat.toDigits 10 (n / 1000) ++ fraction (n % 1000))

/-- The thousandths that a fraction was written from. -/
def readFraction : List Char → Nat
  | ['.', a] => 100 * (a.toNat - 48)
  | ['.', a, b] => 100 * (a.toNat - 48) + 10 * (b.toNat - 48)
  | ['.', a, b, c] => 100 * (a.toNat - 48) + 10 * (b.toNat - 48) + (c.toNat - 48)
  | _ => 0

theorem readFraction_fraction {n : Nat} (h : n < 1000) : readFraction (fraction n) = n := by
  have ha : n / 100 < 10 := by omega
  have hb : n / 10 % 10 < 10 := by omega
  have hc : n % 10 < 10 := by omega
  unfold fraction
  split
  · rename_i hzero
    rw [hzero]
    rfl
  split
  · rw [readFraction, Nat.toNat_digitChar_sub_48_of_lt_ten ha]
    omega
  split
  · rw [readFraction, Nat.toNat_digitChar_sub_48_of_lt_ten ha,
      Nat.toNat_digitChar_sub_48_of_lt_ten hb]
    omega
  · rw [readFraction, Nat.toNat_digitChar_sub_48_of_lt_ten ha,
      Nat.toNat_digitChar_sub_48_of_lt_ten hb, Nat.toNat_digitChar_sub_48_of_lt_ten hc]
    omega

/-- Digits before a text that does not begin with one. -/
theorem digits_append_inj {a a' b b' : List Char} (ha : ∀ c ∈ a, c.isDigit = true)
    (ha' : ∀ c ∈ a', c.isDigit = true) (hb : ∀ c ∈ b.head?, c.isDigit = false)
    (hb' : ∀ c ∈ b'.head?, c.isDigit = false) (h : a ++ b = a' ++ b') : a = a' ∧ b = b' := by
  have htake : ∀ {rest : List Char}, (∀ c ∈ rest.head?, c.isDigit = false) →
      rest.takeWhile Char.isDigit = [] := by
    intro rest hrest
    cases rest with
    | nil => rfl
    | cons c rest => rw [List.takeWhile_cons_of_neg (by rw [hrest c rfl]; decide)]
  have hleft : a = a' := by
    have heq := congrArg (List.takeWhile Char.isDigit) h
    rwa [List.takeWhile_append_of_pos ha, List.takeWhile_append_of_pos ha', htake hb, htake hb',
      List.append_nil, List.append_nil] at heq
  subst hleft
  exact ⟨rfl, List.append_cancel_left h⟩

theorem head?_fraction {n : Nat} {c : Char} (h : c ∈ (fraction n).head?) : c.isDigit = false := by
  unfold fraction at h
  split at h
  · cases h
  all_goals
    split_ifs at h
    all_goals
      cases h
      rfl

/-- The first character after the sign is a digit. -/
theorem toDigits_append_ne_minus (n : Nat) (more rest : List Char) :
    Nat.toDigits 10 n ++ more ≠ '-' :: rest := by
  intro h
  cases hdigits : Nat.toDigits 10 n with
  | nil => exact Nat.toDigits_ne_nil hdigits
  | cons c digits =>
    rw [hdigits] at h
    have hdigit := isDigit_of_mem_toDigits (n := n) (c := c) (hdigits ▸ List.mem_cons_self)
    rw [(List.cons.inj h).1] at hdigit
    exact absurd hdigit (by decide)

/-- **The text of a number of thousandths gives the sign and the thousandths back.** -/
theorem decimalText_inj {s s' : Bool} {n n' : Nat} (h : decimalText s n = decimalText s' n') :
    s = s' ∧ n = n' := by
  have hbody : ∀ {m m' : Nat}, Nat.toDigits 10 (m / 1000) ++ fraction (m % 1000) =
      Nat.toDigits 10 (m' / 1000) ++ fraction (m' % 1000) → m = m' := by
    intro m m' heq
    obtain ⟨hdigits, hfraction⟩ := digits_append_inj (fun _ => isDigit_of_mem_toDigits)
      (fun _ => isDigit_of_mem_toDigits) (fun _ => head?_fraction) (fun _ => head?_fraction) heq
    have hhigh := toDigits_inj hdigits
    have hlow := congrArg readFraction hfraction
    rw [readFraction_fraction (Nat.mod_lt _ (by decide)),
      readFraction_fraction (Nat.mod_lt _ (by decide))] at hlow
    omega
  cases s <;> cases s'
  · exact ⟨rfl, hbody h⟩
  · exact absurd h (toDigits_append_ne_minus _ _ _)
  · exact absurd h.symm (toDigits_append_ne_minus _ _ _)
  · exact ⟨rfl, hbody (List.cons.inj h).2⟩

/-! ### Texts of numbers -/

theorem toList_trim_of_point {text : String} {rest : List Char}
    (h : text.toList.reverse.dropWhile (· == '0') = '.' :: rest) :
    (trim text).toList = rest.reverse := by
  rw [trim, h]
  exact String.toList_ofList

theorem toList_trim_of_ne {text : String} {c : Char} {rest : List Char} (hc : c ≠ '.')
    (h : text.toList.reverse.dropWhile (· == '0') = c :: rest) :
    (trim text).toList = rest.reverse ++ [c] := by
  have hne : ∀ more, c :: rest = '.' :: more → False := fun more heq => hc (List.cons.inj heq).1
  rw [trim, h]
  split
  · rename_i heq
    exact (hne _ heq).elim
  · rw [String.toList_ofList, List.reverse_cons]

theorem toList_digit {d : Nat} (h : d < 10) : (toString d).toList = [d.digitChar] := by
  rw [show (toString d).toList = Nat.toDigits 10 d from Nat.toList_repr, Nat.toDigits_of_lt_base h]

theorem digitChar_ne_point {d : Nat} (h : d < 10) : d.digitChar ≠ '.' := by
  intro heq
  have hdigit : d.digitChar.isDigit = true := by
    rw [Nat.isDigit_digitChar]
    exact decide_eq_true h
  rw [heq] at hdigit
  exact absurd hdigit (by decide)

theorem toList_thousandths {n : Nat} (h : n < 1000) : (thousandths n).toList =
    [(n / 100).digitChar, (n / 10 % 10).digitChar, (n % 10).digitChar] := by
  have hhigh : n / 100 % 10 = n / 100 := Nat.mod_eq_of_lt (by omega)
  rw [thousandths, String.toList_append, String.toList_append, hhigh, toList_digit (by omega),
    toList_digit (Nat.mod_lt _ (by decide)), toList_digit (Nat.mod_lt _ (by decide))]
  rfl

theorem dropWhile_zero {d : Nat} (h : d = 0) (rest : List Char) :
    (d.digitChar :: rest).dropWhile (· == '0') = rest.dropWhile (· == '0') := by
  rw [h]
  rfl

theorem dropWhile_digit {d : Nat} (h : d ≠ 0) (rest : List Char) :
    (d.digitChar :: rest).dropWhile (· == '0') = d.digitChar :: rest :=
  List.dropWhile_cons_of_neg fun heq => h (Nat.digitChar_eq_zero.mp (eq_of_beq heq))

/-- Trailing zeros, and the point with them, are what `trim` takes off. -/
theorem toList_trim_thousandths (text : String) {n : Nat} (h : n < 1000) :
    (trim (text ++ "." ++ thousandths n)).toList = text.toList ++ fraction n := by
  have hdrop : (text ++ "." ++ thousandths n).toList.reverse.dropWhile (· == '0') =
      ((n % 10).digitChar :: (n / 10 % 10).digitChar :: (n / 100).digitChar :: '.' ::
        text.toList.reverse).dropWhile (· == '0') := by
    rw [String.toList_append, String.toList_append, toList_thousandths h, List.reverse_append,
      List.reverse_append]
    rfl
  -- the last digit that is not zero decides where the dropping stops
  by_cases hunit : n % 10 = 0
  · rw [dropWhile_zero hunit] at hdrop
    by_cases hten : n / 10 % 10 = 0
    · rw [dropWhile_zero hten] at hdrop
      by_cases hhundred : n / 100 = 0
      · rw [dropWhile_zero hhundred] at hdrop
        have hn : n = 0 := by omega
        rw [toList_trim_of_point hdrop, List.reverse_reverse, hn]
        exact (List.append_nil _).symm
      · rw [dropWhile_digit hhundred] at hdrop
        rw [toList_trim_of_ne (digitChar_ne_point (by omega)) hdrop, fraction, if_neg (by omega),
          if_pos (by omega), List.reverse_cons, List.reverse_reverse, List.append_assoc]
        rfl
    · rw [dropWhile_digit hten] at hdrop
      rw [toList_trim_of_ne (digitChar_ne_point (by omega)) hdrop, fraction, if_neg (by omega),
        if_neg (by omega), if_pos hunit, List.reverse_cons, List.reverse_cons,
        List.reverse_reverse, List.append_assoc, List.append_assoc]
      rfl
  · rw [dropWhile_digit hunit] at hdrop
    rw [toList_trim_of_ne (digitChar_ne_point (by omega)) hdrop, fraction, if_neg (by omega),
      if_neg (by omega), if_neg hunit, List.reverse_cons, List.reverse_cons, List.reverse_cons,
      List.reverse_reverse, List.append_assoc, List.append_assoc, List.append_assoc]
    rfl

/-- The value a sign and a number of thousandths stand for. -/
def signed (negative : Bool) (n : Nat) : ℚ := (if negative then -1 else 1) * n / 1000

theorem toList_sign (value : ℚ) :
    (sign value).toList = if decide (value < 0) then ['-'] else [] := by
  unfold sign
  by_cases h : value < 0
  · rw [if_pos h, if_pos (decide_eq_true h)]
    rfl
  · rw [if_neg h, if_neg fun heq => h (of_decide_eq_true heq)]
    rfl

theorem decimalText_whole (negative : Bool) (n : Nat) : decimalText negative (1000 * n) =
    (if negative then ['-'] else []) ++ Nat.toDigits 10 n := by
  have hhigh : 1000 * n / 1000 = n := by omega
  have hlow : 1000 * n % 1000 = 0 := by omega
  rw [decimalText, hhigh, hlow, show fraction 0 = [] from rfl, List.append_nil]

theorem signed_zero (negative : Bool) : signed negative 0 = 0 := by
  rw [signed, Nat.cast_zero, mul_zero, zero_div]

theorem signed_thousand (negative : Bool) (n : Nat) :
    signed negative (1000 * n) = 1000 * signed negative n := by
  rw [signed, signed, Nat.cast_mul, Nat.cast_ofNat]
  ring

/-- An integer on the side of zero that the value is on. -/
theorem signed_natAbs {value : ℚ} {n : Int} (hneg : value < 0 → n ≤ 0) (hpos : 0 ≤ value → 0 ≤ n) :
    signed (decide (value < 0)) n.natAbs = n / 1000 := by
  have habs : ((n.natAbs : Nat) : ℚ) = ((|n| : Int) : ℚ) := by
    rw [← Int.natCast_natAbs, Int.cast_natCast]
  rw [signed, habs]
  by_cases h : value < 0
  · rw [if_pos (decide_eq_true h), abs_of_nonpos (hneg h), Int.cast_neg, neg_one_mul, neg_neg]
  · rw [if_neg fun heq => h (of_decide_eq_true heq), abs_of_nonneg (hpos (not_lt.mp h)), one_mul]

/-- Three decimals and the sign of the value, unless that were a negative zero. -/
theorem toList_fixed (value : ℚ) : ∃ negative,
    (fixed value).toList = decimalText negative (roundEven (value * 1000)).natAbs ∧
    signed negative (roundEven (value * 1000)).natAbs =
      signed (decide (value < 0)) (roundEven (value * 1000)).natAbs := by
  set n := (roundEven (value * 1000)).natAbs with hn
  have htext : (trim (sign value ++ toString (n / 1000) ++ "." ++ thousandths (n % 1000))).toList =
      decimalText (decide (value < 0)) n := by
    rw [toList_trim_thousandths _ (Nat.mod_lt _ (by decide)), String.toList_append, toList_sign,
      show (toString (n / 1000)).toList = Nat.toDigits 10 (n / 1000) from Nat.toList_repr,
      List.append_assoc]
    rfl
  have hfixed : fixed value =
      if trim (sign value ++ toString (n / 1000) ++ "." ++ thousandths (n % 1000)) = "-0" then "0"
      else trim (sign value ++ toString (n / 1000) ++ "." ++ thousandths (n % 1000)) := rfl
  rw [hfixed]
  split
  · rename_i hzero
    rw [hzero] at htext
    have hnone : n = 0 := (decimalText_inj (htext.symm.trans (rfl : _ = decimalText true 0))).2
    refine ⟨false, ?_, ?_⟩
    · rw [hnone]
      rfl
    · rw [hnone, signed_zero, signed_zero]
  · exact ⟨_, htext, rfl⟩

/-! ### Rounding -/

theorem roundEven_near (value : ℚ) : |value - roundEven value| ≤ 1 / 2 := by
  have hfloor : (value.floor : ℚ) ≤ value := Rat.floor_le value
  have hbelow : value < ((value.floor + 1 : Int) : ℚ) := Rat.lt_floor_add_one value
  rw [Int.cast_add, Int.cast_one] at hbelow
  rw [abs_le, roundEven]
  split_ifs
  all_goals
    try rw [Int.cast_add, Int.cast_one]
    constructor <;> linarith

theorem roundEven_nonneg {value : ℚ} (h : 0 ≤ value) : 0 ≤ roundEven value := by
  have hfloor : 0 ≤ value.floor := Rat.le_floor_iff.mpr (by exact_mod_cast h)
  rw [roundEven]
  split_ifs <;> omega

theorem roundEven_nonpos {value : ℚ} (h : value < 0) : roundEven value ≤ 0 := by
  have hfloor : value.floor < 0 := Rat.floor_lt_iff.mpr (by exact_mod_cast h)
  rw [roundEven]
  split_ifs <;> omega

theorem round_nonneg {value : ℚ} (h : 0 ≤ value) : 0 ≤ round value := by
  rw [round, if_pos h]
  exact Rat.le_floor_iff.mpr (by rw [Int.cast_zero]; linarith)

theorem round_nonpos {value : ℚ} (h : value < 0) : round value ≤ 0 := by
  rw [round, if_neg (not_le.mpr h)]
  have hfloor : 0 ≤ (-value + 1 / 2).floor :=
    Rat.le_floor_iff.mpr (by rw [Int.cast_zero]; linarith)
  omega

/-- **Every text of a number is one of thousandths near its value.** -/
theorem exists_decimalText (value : ℚ) : ∃ negative n,
    (number value).toList = decimalText negative n ∧ |value - signed negative n| ≤ 1 / 2000 := by
  unfold number
  dsimp only
  split_ifs with hwhole
  · refine ⟨decide (value < 0), 1000 * (round value).natAbs, ?_, ?_⟩
    · rw [String.toList_append, toList_sign, decimalText_whole,
        show (toString (round value).natAbs).toList = Nat.toDigits 10 (round value).natAbs
          from Nat.toList_repr]
    · have hsigned : signed (decide (value < 0)) (round value).natAbs = round value / 1000 :=
        signed_natAbs round_nonpos round_nonneg
      have hnear := abs_lt.mp hwhole.1
      rw [signed_thousand, hsigned, abs_le]
      constructor <;> linarith
  · obtain ⟨negative, htext, hsame⟩ := toList_fixed value
    refine ⟨negative, _, htext, ?_⟩
    have hnear := abs_le.mp (roundEven_near (value * 1000))
    rw [hsame, signed_natAbs (fun h => roundEven_nonpos (by linarith))
      fun h => roundEven_nonneg (by linarith), abs_le]
    constructor <;> linarith

/-- **Two values with one text are within a thousandth of each other.** -/
theorem abs_sub_le_of_number_eq {a b : ℚ} (h : number a = number b) : |a - b| ≤ 1 / 1000 := by
  obtain ⟨s, n, htext, hnear⟩ := exists_decimalText a
  obtain ⟨s', n', htext', hnear'⟩ := exists_decimalText b
  rw [h, htext'] at htext
  obtain ⟨rfl, rfl⟩ := decimalText_inj htext
  rw [abs_le] at hnear hnear' ⊢
  constructor <;> linarith

/-! ### Characters of a text -/

/-- The characters a number is written with. -/
def isNumeral (c : Char) : Bool := c.isDigit || c == '.' || c == '-'

theorem isNumeral_of_mem_number {value : ℚ} {c : Char} (h : c ∈ (number value).toList) :
    isNumeral c = true := by
  obtain ⟨negative, n, htext, -⟩ := exists_decimalText value
  have hdigit : ∀ {d : Nat}, d < 10 → isNumeral d.digitChar = true := by
    intro d hd
    rw [isNumeral, Nat.isDigit_digitChar, decide_eq_true hd]
    rfl
  rw [htext, decimalText, List.mem_append, List.mem_append] at h
  rcases h with hsign | hdigits | hfraction
  · cases negative
    · cases hsign
    · rw [List.mem_singleton.mp hsign]
      rfl
  · rw [isNumeral, isDigit_of_mem_toDigits hdigits]
    rfl
  · have hlow : n % 1000 < 1000 := Nat.mod_lt _ (by decide)
    unfold fraction at hfraction
    split_ifs at hfraction
    · cases hfraction
    all_goals
      simp only [List.mem_cons, List.not_mem_nil, or_false] at hfraction
      rcases hfraction with rfl | hrest
      · rfl
    · rw [hrest]
      exact hdigit (by omega)
    · rcases hrest with rfl | rfl <;> exact hdigit (by omega)
    · rcases hrest with rfl | rfl | rfl <;> exact hdigit (by omega)

theorem number_ne_empty (value : ℚ) : number value ≠ "" := by
  obtain ⟨negative, n, htext, -⟩ := exists_decimalText value
  intro h
  rw [h, decimalText] at htext
  have hbody := (List.append_eq_nil_iff.mp htext.symm).2
  exact Nat.toDigits_ne_nil (List.append_eq_nil_iff.mp hbody).1

theorem unsignedDecimal_ne_empty (n : Nat) : unsignedDecimal n ≠ "" := by
  intro h
  have htext := toList_unsignedDecimal n
  rw [h] at htext
  exact Nat.toDigits_ne_nil htext.symm

theorem isNumeral_of_mem_unsignedDecimal {n : Nat} {c : Char}
    (h : c ∈ (unsignedDecimal n).toList) : isNumeral c = true := by
  rw [toList_unsignedDecimal] at h
  rw [isNumeral, isDigit_of_mem_toDigits h]
  rfl

end ThermalGovernor.Format
