import Mathlib.Algebra.GroupWithZero.Nat
import Mathlib.Algebra.Order.BigOperators.Group.List
import Mathlib.Data.Nat.Log
import ThermalGovernor.Core.Format

/-!
# What the coordinator prints

The answers of the coordinator are texts: numbers, and lines of a key and a value (`sheet`).
Here the numbers are those of the machine.  A counter is a word, a number is printed into a
buffer of 64 bytes, and `std::to_string` prints what is no double as infinite.  So each of them
is short (`Brief`), and the length of a sheet is the sum of its lines.
-/

namespace ThermalGovernor

namespace Format

/-! ### Numbers -/

/-- The decimal digits of a word. -/
def decimal (value : Nat) : String := unsignedDecimal (value % wordSize)

/-- A span of time in milliseconds. -/
def printedMillis (value : Milliseconds) : String := millis (wrap64 value)

/-- A number, as far as the buffer of the source holds it. -/
def printed (value : ℚ) : String := String.ofList ((number value).toList.take 63)

/-- The same with a sign, which is put in front of what the buffer held. -/
def printedSigned (value : ℚ) : String :=
  match (printed value).toList with
  | [] => printed value
  | c :: _ => if c = '-' then printed value else "+" ++ printed value

/-- The six digits after the point. -/
def millionths (n : Nat) : String :=
  String.join ([100000, 10000, 1000, 100, 10, 1].map fun place => toString (n / place % 10))

/-- `std::to_string` of a double. -/
def sixDecimals (value : ℚ) : String :=
  let scaled := (roundEven (value * 1000000)).natAbs
  if 2 ^ 1024 ≤ scaled / 1000000 then sign value ++ "inf"
  else sign value ++ toString (scaled / 1000000) ++ "." ++ millionths (scaled % 1000000)

/-! ### Lines -/

/-- A line of a key and a value. -/
def entry (key value : String) : String := key ++ ": " ++ value ++ "\n"

def sheet (lines : List (String × String)) : String :=
  String.join (lines.map fun line => entry line.1 line.2)

/-- A key with a list of items, each on a line of its own. -/
def itemized (key : String) (items : List String) : String :=
  key ++ ":" ++ (if items.isEmpty then " <none>" else "") ++ "\n" ++
    String.join (items.map fun item => "  " ++ item ++ "\n")

end Format

open Format

/-! ### The lengths of numbers -/

theorem length_repr_le {n k : Nat} (hk : 0 < k) (h : n < 10 ^ k) : (toString n).length ≤ k :=
  (Nat.length_repr_le_iff hk).mpr h

/-- The number of digits of a word. -/
def digits (value : Nat) : Nat := Nat.log 10 (value % wordSize) + 1

theorem length_decimal (value : Nat) : (decimal value).length = digits value := by
  refine le_antisymm (length_repr_le (Nat.succ_pos _) (Nat.lt_pow_succ_log_self (by decide) _)) ?_
  have hpositive : 0 < (decimal value).length := Nat.length_repr_pos
  exact Nat.log_lt_of_lt_pow' (Nat.ne_of_gt hpositive)
    ((Nat.length_repr_le_iff hpositive).mp le_rfl)

/-- A word has at most twenty digits. -/
theorem length_decimal_le (value : Nat) : (decimal value).length ≤ 20 := by
  have hword : value % wordSize < wordSize := Nat.mod_lt _ (by decide)
  exact length_repr_le (by decide) (hword.trans (by decide))

theorem length_printed_le (value : ℚ) : (printed value).length ≤ 63 := by
  rw [printed, String.length_ofList]
  exact List.length_take_le _ _

theorem length_printedSigned_le (value : ℚ) : (printedSigned value).length ≤ 64 := by
  have hprinted := length_printed_le value
  unfold printedSigned
  split
  · omega
  · split
    · omega
    · have hplus : "+".length = 1 := rfl
      rw [String.length_append]
      omega

theorem length_sign_le (value : ℚ) : (sign value).length ≤ 1 := by
  unfold sign
  split <;> decide

theorem length_millionths (n : Nat) : (millionths n).length ≤ 6 := by
  have hdigit : ∀ place, (toString (n / place % 10)).length ≤ 1 := fun place =>
    length_repr_le (by decide) (Nat.mod_lt _ (by decide))
  rw [millionths, String.length_join]
  simp only [List.map_cons, List.map_nil, List.sum_cons, List.sum_nil]
  have h₁ := hdigit 100000
  have h₂ := hdigit 10000
  have h₃ := hdigit 1000
  have h₄ := hdigit 100
  have h₅ := hdigit 10
  have h₆ := hdigit 1
  omega

theorem length_sixDecimals_le (value : ℚ) : (sixDecimals value).length ≤ 317 := by
  have hsign := length_sign_le value
  unfold sixDecimals
  dsimp only
  split
  · rw [String.length_append]
    have hinf : "inf".length = 3 := rfl
    omega
  · rename_i hfinite
    have hwhole := length_repr_le (n := (roundEven (value * 1000000)).natAbs / 1000000) (k := 309)
      (by decide) (lt_of_lt_of_le (not_le.mp hfinite) (by decide +kernel))
    have hrest := length_millionths ((roundEven (value * 1000000)).natAbs % 1000000)
    have hpoint : ".".length = 1 := rfl
    simp only [String.length_append]
    omega

/-! ### The lengths of lines -/

theorem length_sheet (lines : List (String × String)) :
    (sheet lines).length = (lines.map fun line => line.1.length + line.2.length + 3).sum := by
  have hentry : ∀ line : String × String,
      (entry line.1 line.2).length = line.1.length + line.2.length + 3 := by
    intro line
    have hcolon : ": ".length = 2 := rfl
    have hline : "\n".length = 1 := rfl
    simp only [entry, String.length_append]
    omega
  rw [sheet, String.length_join, List.map_map]
  exact congrArg List.sum (List.map_congr_left fun line _ => hentry line)

theorem length_items (items : List String) :
    (String.join (items.map fun item => "  " ++ item ++ "\n")).length =
      (items.map fun item => item.length + 3).sum := by
  have hitem : ∀ item : String, ("  " ++ item ++ "\n").length = item.length + 3 := by
    intro item
    have hindent : "  ".length = 2 := rfl
    have hline : "\n".length = 1 := rfl
    simp only [String.length_append]
    omega
  rw [String.length_join, List.map_map]
  exact congrArg List.sum (List.map_congr_left fun item _ => hitem item)

/-- A sum of so many terms, each within a bound. -/
theorem sum_map_le {α : Type} {list : List α} {f : α → Nat} {n : Nat}
    (h : ∀ a ∈ list, f a ≤ n) : (list.map f).sum ≤ list.length * n := by
  have hle : ∀ k ∈ list.map f, k ≤ n := by
    intro k hk
    obtain ⟨a, ha, rfl⟩ := List.mem_map.mp hk
    exact h a ha
  simpa using List.sum_le_card_nsmul _ n hle

theorem le_sum_map {α : Type} {list : List α} {f : α → Nat} {n : Nat}
    (h : ∀ a ∈ list, n ≤ f a) : list.length * n ≤ (list.map f).sum := by
  have hle : ∀ k ∈ list.map f, n ≤ k := by
    intro k hk
    obtain ⟨a, ha, rfl⟩ := List.mem_map.mp hk
    exact h a ha
  simpa using List.card_nsmul_le_sum _ n hle

/-- A text of no more than four thousand characters. -/
def Brief (text : String) : Prop := text.length ≤ 4096

/-- A text that is written out is as long as the list of its characters. -/
theorem length_ofList_le {list : List Char} {n : Nat} (h : list.length ≤ n) :
    (String.ofList list).length ≤ n := by
  rw [String.length_ofList]
  exact h

theorem brief_ofList {list : List Char} (h : list.length ≤ 4096) : Brief (String.ofList list) :=
  length_ofList_le h

theorem length_sheet_le {lines : List (String × String)}
    (h : ∀ line ∈ lines, line.1.length ≤ 64 ∧ Brief line.2) :
    (sheet lines).length ≤ lines.length * 4163 := by
  rw [length_sheet]
  refine sum_map_le fun line hline => ?_
  obtain ⟨hkey, hvalue⟩ := h line hline
  unfold Brief at hvalue
  omega

theorem length_itemized_le {key : String} {items : List String} (hkey : key.length ≤ 64)
    (h : ∀ item ∈ items, Brief item) :
    (itemized key items).length ≤ 73 + items.length * 4099 := by
  have hitems : (items.map fun item => item.length + 3).sum ≤ items.length * 4099 :=
    sum_map_le fun item hitem => Nat.add_le_add_right (h item hitem) 3
  have hnone : (if items.isEmpty then " <none>" else "").length ≤ 7 := by
    split <;> decide
  have hcolon : ":".length = 1 := rfl
  have hline : "\n".length = 1 := rfl
  simp only [itemized, String.length_append, length_items]
  omega

@[simp] theorem brief_decimal (value : Nat) : Brief (decimal value) :=
  (length_decimal_le value).trans (by decide)

@[simp] theorem brief_printed (value : ℚ) : Brief (printed value) :=
  (length_printed_le value).trans (by decide)

@[simp] theorem brief_printedSigned (value : ℚ) : Brief (printedSigned value) :=
  (length_printedSigned_le value).trans (by decide)

@[simp] theorem brief_sixDecimals (value : ℚ) : Brief (sixDecimals value) :=
  (length_sixDecimals_le value).trans (by decide)

end ThermalGovernor
