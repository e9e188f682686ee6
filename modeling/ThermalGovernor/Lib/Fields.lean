import Mathlib.Algebra.BigOperators.Group.List.Basic
import Mathlib.Data.Rat.Defs

/-!
# Records of typed fields

A record is written field after field and read back in the same order.  A field is a value
with the width it is written in; what its bytes are is left to the input it is written to
(`Input`), and so is the type of its reals.

A reader latches: after the first read that is not good every read answers zero and moves
nowhere, so a decoder runs on and asks once, at its end, whether the reader is still good.
That a good reader was good all along is a field of every `Decoder`.  `Yields d c a c'` says
that `d` takes the reader from `c` to `c'`, good to the end, and answers `a`;
`Exact d p bounds a` says that in front of the fields `p` it does so exactly within some
bounds.  Each primitive has the rule that takes its field off the front.
-/

namespace ThermalGovernor.Lib

/-- A value as it is written.  A flag is written as zero or one, and read as zero or not. -/
inductive Field (R : Type := ℚ)
  | u8 (value : Nat)
  | flag (value : Bool)
  | u32 (value : Nat)
  | u64 (value : Nat)
  | i64 (value : Int)
  | real (value : R)
  | text (value : String)

abbrev Payload (R : Type := ℚ) := List (Field R)

/-- The bytes a field takes; a text has its length in front. -/
def Field.byteSize {R : Type} : Field R → Nat
  | u8 _ | flag _ => 1
  | u32 _ => 4
  | u64 _ | i64 _ | real _ => 8
  | text value => 4 + value.length

def Payload.byteSize {R : Type} : Payload R → Nat
  | [] => 0
  | field :: rest => field.byteSize + byteSize rest

/-- An optional value has a presence byte in front. -/
def optionalField {R α : Type} (field : α → Field R) : Option α → Payload R
  | none => [.u8 0]
  | some a => [.u8 1, field a]

/-- Likewise an optional record. -/
def optionalPayload {R α : Type} (write : α → Payload R) : Option α → Payload R
  | none => [.u8 0]
  | some a => .u8 1 :: write a

theorem optionalField_eq {R α : Type} (field : α → Field R) :
    optionalField field = optionalPayload fun a => [field a] := by
  funext value
  cases value <;> rfl

/-- What a read asks for, and the type of what it answers. -/
inductive Kind (R : Type) : Type → Type 1
  | u8 : Kind R Nat
  | flag : Kind R Bool
  | u32 : Kind R Nat
  | u64 : Kind R Nat
  | i64 : Kind R Int
  | real : Kind R R
  | text (limit : Nat) : Kind R String

namespace Kind

variable {R α : Type}

/-- The field a value is written as. -/
def field : Kind R α → α → Field R
  | u8, value => .u8 value
  | flag, value => .flag value
  | u32, value => .u32 value
  | u64, value => .u64 value
  | i64, value => .i64 value
  | real, value => .real value
  | text _, value => .text value

/-- A text is read up to a limit. -/
def Accepts : Kind R α → α → Prop
  | text limit, value => value.length ≤ limit
  | _, _ => True

/-- What a read answers that is not good. -/
def zero [Zero R] : Kind R α → α
  | u8 | u32 | u64 => (0 : Nat)
  | flag => false
  | i64 => (0 : Int)
  | real => (0 : R)
  | text _ => ""

/-- Any two values are accepted under some limit. -/
theorem exists_accepts (k : Kind R α) (v w : α) :
    ∃ k' : Kind R α, k'.field = k.field ∧ k'.Accepts v ∧ k'.Accepts w := by
  cases k with
  | text limit => exact ⟨text (max v.length w.length), rfl, le_max_left _ _, le_max_right _ _⟩
  | u8 => exact ⟨u8, rfl, trivial, trivial⟩
  | flag => exact ⟨flag, rfl, trivial, trivial⟩
  | u32 => exact ⟨u32, rfl, trivial, trivial⟩
  | u64 => exact ⟨u64, rfl, trivial, trivial⟩
  | i64 => exact ⟨i64, rfl, trivial, trivial⟩
  | real => exact ⟨real, rfl, trivial, trivial⟩

end Kind

/-- What fields are written in front of and read off.  `Shows c f c'` says that the field
stands in front of `c'` in `c`, in any of the ways it may be written.  A good read has taken
one field of its kind off the front; a good reader is exhausted when it is `empty`. -/
class Input (R : outParam Type) (C : Type) where
  ok : C → Bool
  write : Field R → C → C
  Fits : Field R → Prop
  Shows : C → Field R → C → Prop
  latch : C → C
  read : {α : Type} → Kind R α → C → α × C
  empty : C
  exhausted : C → Bool
  ok_write : ∀ f c, ok (write f c) = ok c
  ok_shows : ∀ {c f c'}, Shows c f c' → ok c = ok c'
  ok_latch : ∀ c, ok (latch c) = false
  ok_read : ∀ {α : Type} (k : Kind R α) c, ok (read k c).2 = true → ok c = true
  shows_write : ∀ {f} c, Fits f → Shows (write f c) f c
  read_iff : ∀ {α : Type} (k : Kind R α) c v c', (read k c = (v, c') ∧ ok c' = true) ↔
    Shows c (k.field v) c' ∧ k.Accepts v ∧ ok c' = true
  exhausted_iff : ∀ c, (ok c = true ∧ exhausted c = true) ↔ c = empty

namespace Input

variable {R C : Type} [Input R C]

/-- Write some fields in front. -/
def put (p : Payload R) (c : C) : C := p.foldr write c

@[simp] theorem put_nil (c : C) : put [] c = c := rfl

@[simp] theorem put_cons (f : Field R) (p : Payload R) (c : C) :
    put (f :: p) c = write f (put p c) := rfl

@[simp] theorem put_append (p q : Payload R) (c : C) : put (p ++ q) c = put p (put q c) :=
  List.foldr_append

@[simp] theorem ok_put (p : Payload R) (c : C) : ok (put p c) = ok c := by
  induction p with
  | nil => rfl
  | cons f p ih => rw [put_cons, ok_write, ih]

/-- What stands in front of a good reader can be told apart. -/
theorem shows_inj {α : Type} {k : Kind R α} {v w : α} {c c₁ c₂ : C} (hok : ok c = true)
    (hv : Shows c (k.field v) c₁) (hw : Shows c (k.field w) c₂) : v = w ∧ c₁ = c₂ := by
  obtain ⟨k', hfield, hacceptsv, hacceptsw⟩ := k.exists_accepts v w
  rw [← hfield] at hv hw
  have hread := ((read_iff k' c v c₁).mpr ⟨hv, hacceptsv, (ok_shows hv).symm.trans hok⟩).1
  have hread' := ((read_iff k' c w c₂).mpr ⟨hw, hacceptsw, (ok_shows hw).symm.trans hok⟩).1
  rw [hread'] at hread
  exact ⟨(Prod.mk.inj hread).1.symm, (Prod.mk.inj hread).2.symm⟩

/-- The fields stand in front of `c'` in `c`. -/
def Front : C → Payload R → C → Prop
  | c, [], c' => c' = c
  | c, f :: p, c' => ∃ c₁, Shows c f c₁ ∧ Front c₁ p c'

theorem front_append {p q : Payload R} {c c' : C} :
    Front c (p ++ q) c' ↔ ∃ c₁, Front c p c₁ ∧ Front c₁ q c' := by
  induction p generalizing c with
  | nil => simp [Front]
  | cons f p ih =>
    simp only [List.cons_append, Front, ih]
    constructor
    · rintro ⟨c₁, hshows, c₂, hp, hq⟩
      exact ⟨c₂, ⟨c₁, hshows, hp⟩, hq⟩
    · rintro ⟨c₂, ⟨c₁, hshows, hp⟩, hq⟩
      exact ⟨c₁, hshows, c₂, hp, hq⟩

/-- Every field of the payload fits. -/
def FitsAll (C : Type) [Input R C] (p : Payload R) : Prop := ∀ f ∈ p, Fits C f

end Input

open Input

/-- A decoder takes a reader to an answer, or stops with an error.  A reader that it leaves
good was good before. -/
structure Decoder (C : Type) {R : Type} [Input R C] (ε α : Type) where
  run : C → Except ε (α × C)
  good : ∀ {c a c'}, run c = .ok (a, c') → ok c' = true → ok c = true

namespace Decoder

variable {R C ε α β : Type} [Input R C]

protected def pure (a : α) : Decoder C ε α where
  run c := .ok (a, c)
  good h hok := by
    obtain ⟨rfl, rfl⟩ := Prod.mk.inj (Except.ok.inj h)
    exact hok

protected def bind (d : Decoder C ε α) (f : α → Decoder C ε β) : Decoder C ε β where
  run c := (d.run c).bind fun read => (f read.1).run read.2
  good {c b c'} h hok := by
    cases hd : d.run c with
    | error e =>
      rw [hd] at h
      cases h
    | ok read =>
      rw [hd] at h
      exact d.good hd ((f read.1).good h hok)

instance : Monad (Decoder C ε) where
  pure := Decoder.pure
  bind := Decoder.bind

theorem ext_run {d d' : Decoder C ε α} (h : ∀ c, d.run c = d'.run c) : d = d' := by
  obtain ⟨run, good⟩ := d
  obtain rfl : run = d'.run := funext h
  rfl

theorem run_bind (d : Decoder C ε α) (f : α → Decoder C ε β) (c : C) :
    (d >>= f).run c = (d.run c).bind fun read => (f read.1).run read.2 := rfl

instance : LawfulMonad (Decoder C ε) := by
  refine LawfulMonad.mk' _ (fun d => ext_run fun c => ?_) (fun _ _ => rfl)
    fun d f g => ext_run fun c => ?_
  · show (d.run c).bind (fun read => .ok (read.1, read.2)) = d.run c
    cases d.run c <;> rfl
  · rw [run_bind, run_bind, run_bind]
    cases d.run c <;> rfl

/-- Read one field. -/
def field (k : Kind R α) : Decoder C ε α where
  run c := .ok (read k c)
  good {c a c'} h hok := by
    have hread : (read k c).2 = c' := congrArg Prod.snd (Except.ok.inj h)
    exact ok_read k c (by rw [hread]; exact hok)

def u8 : Decoder C ε Nat := field .u8

/-- A byte that is zero or not. -/
def flag : Decoder C ε Bool := field .flag

def u32 : Decoder C ε Nat := field .u32

def u64 : Decoder C ε Nat := field .u64

def i64 : Decoder C ε Int := field .i64

def real : Decoder C ε R := field .real

/-- A text of at most so many bytes. -/
def text (limit : Nat) : Decoder C ε String := field (.text limit)

/-- Run on with a reader that is not good. -/
def spoil : Decoder C ε Unit where
  run c := .ok ((), latch c)
  good {c a c'} h hok := by
    obtain ⟨-, rfl⟩ := Prod.mk.inj (Except.ok.inj h)
    rw [ok_latch] at hok
    cases hok

/-- The byte in front of an optional value. -/
def presence : Decoder C ε Bool := do
  let value ← u8
  if 1 < value then
    spoil
    pure false
  else pure (decide (value = 1))

def optional (d : Decoder C ε α) : Decoder C ε (Option α) := do
  let present ← presence
  if present then
    let a ← d
    pure (some a)
  else pure none

/-- Stop with an error. -/
def stop (e : ε) : Decoder C ε α where
  run _ := .error e
  good h := by cases h

/-- Stop unless the condition holds. -/
def require (condition : Bool) (e : ε) : Decoder C ε Unit :=
  if condition then pure () else stop e

/-- Stop unless every read was good. -/
def requireOk (e : ε) : Decoder C ε Unit where
  run c := if ok c then .ok ((), c) else .error e
  good {c a c'} h hok := by
    split at h
    · assumption
    · cases h

/-- Whether every read was good. -/
def isOk : Decoder C ε Bool where
  run c := .ok (ok c, c)
  good h hok := by
    obtain ⟨-, rfl⟩ := Prod.mk.inj (Except.ok.inj h)
    exact hok

/-- Stop with another error wherever the decoder stops. -/
def refuse {ε' : Type} (e : ε') (d : Decoder C ε α) : Decoder C ε' α where
  run c := (d.run c).mapError fun _ => e
  good {c a c'} h hok := by
    cases hd : d.run c with
    | error e =>
      rw [hd] at h
      cases h
    | ok read =>
      rw [hd] at h
      exact d.good hd (Except.ok.inj h ▸ hok)

/-- Read so many values. -/
def many (d : Decoder C ε α) : Nat → Decoder C ε (List α)
  | 0 => pure []
  | count + 1 => do
    let a ← d
    let rest ← many d count
    pure (a :: rest)

/-! ### What a decoder yields -/

/-- The decoder answers, and leaves a good reader. -/
def Yields (d : Decoder C ε α) (c : C) (a : α) (c' : C) : Prop :=
  d.run c = .ok (a, c') ∧ ok c' = true

variable {d : Decoder C ε α} {f : α → Decoder C ε β} {a : α} {b : β} {c c' : C} {e : ε}

theorem Yields.ok (h : Yields d c a c') : ok c = true := d.good h.1 h.2

@[simp] theorem yields_pure {a' : α} :
    Yields (pure a : Decoder C ε α) c a' c' ↔ a' = a ∧ c' = c ∧ Input.ok c = true := by
  constructor
  · rintro ⟨hrun, hok⟩
    obtain ⟨rfl, rfl⟩ := Prod.mk.inj (Except.ok.inj hrun)
    exact ⟨rfl, rfl, hok⟩
  · rintro ⟨rfl, rfl, hok⟩
    exact ⟨rfl, hok⟩

/-- **Two decoders run one after the other.** -/
theorem yields_bind :
    Yields (d >>= f) c b c' ↔ ∃ a c₁, Yields d c a c₁ ∧ Yields (f a) c₁ b c' := by
  constructor
  · rintro ⟨h, hok⟩
    rw [run_bind] at h
    cases hd : d.run c with
    | error e =>
      rw [hd] at h
      cases h
    | ok read =>
      rw [hd] at h
      exact ⟨read.1, read.2, ⟨hd, (f read.1).good h hok⟩, h, hok⟩
  · rintro ⟨a, c₁, ⟨hd, -⟩, h, hok⟩
    refine ⟨?_, hok⟩
    rw [run_bind, hd]
    exact h

theorem yields_field {k : Kind R α} : Yields (field k : Decoder C ε α) c a c' ↔
    Shows c (k.field a) c' ∧ k.Accepts a ∧ Input.ok c' = true := by
  rw [← read_iff]
  exact and_congr_left fun _ => ⟨Except.ok.inj, congrArg Except.ok⟩

@[simp] theorem not_yields_stop : ¬ Yields (stop e : Decoder C ε α) c a c' := by
  rintro ⟨h, -⟩
  cases h

@[simp] theorem not_yields_spoil {a : Unit} : ¬ Yields (spoil : Decoder C ε Unit) c a c' := by
  rintro ⟨h, hok⟩
  obtain ⟨-, rfl⟩ := Prod.mk.inj (Except.ok.inj h)
  rw [ok_latch] at hok
  cases hok

theorem yields_require {condition : Bool} {a : Unit} :
    Yields (require condition e : Decoder C ε Unit) c a c' ↔
      condition = true ∧ c' = c ∧ Input.ok c = true := by
  cases condition <;> simp [require]

theorem yields_requireOk {a : Unit} :
    Yields (requireOk e : Decoder C ε Unit) c a c' ↔ c' = c ∧ Input.ok c = true := by
  have hrun : (requireOk e : Decoder C ε Unit).run c =
      if Input.ok c then .ok ((), c) else .error e := rfl
  constructor
  · rintro ⟨h, hok⟩
    rw [hrun] at h
    split at h
    · obtain ⟨-, rfl⟩ := Prod.mk.inj (Except.ok.inj h)
      exact ⟨rfl, hok⟩
    · cases h
  · rintro ⟨rfl, hok⟩
    rw [Yields, hrun, if_pos hok]
    exact ⟨rfl, hok⟩

theorem yields_isOk {good : Bool} :
    Yields (isOk : Decoder C ε Bool) c good c' ↔ good = true ∧ c' = c ∧ Input.ok c = true := by
  constructor
  · rintro ⟨hrun, hok⟩
    obtain ⟨rfl, rfl⟩ := Prod.mk.inj (Except.ok.inj hrun)
    exact ⟨hok, rfl, hok⟩
  · rintro ⟨rfl, rfl, hok⟩
    exact ⟨congrArg (fun good => Except.ok (good, _)) hok, hok⟩

/-- A decoder that leaves a good reader has found it good all along. -/
@[simp] theorem yields_isOk_bind {f : Bool → Decoder C ε β} :
    Yields (isOk >>= f) c b c' ↔ Yields (f true) c b c' := by
  rw [yields_bind]
  constructor
  · rintro ⟨good, c₁, hgood, h⟩
    obtain ⟨rfl, rfl, -⟩ := yields_isOk.mp hgood
    exact h
  · intro h
    exact ⟨true, c, yields_isOk.mpr ⟨rfl, rfl, h.ok⟩, h⟩

@[simp] theorem yields_refuse {ε' : Type} {e : ε'} :
    Yields (refuse e d) c a c' ↔ Yields d c a c' := by
  refine and_congr_left fun _ => ?_
  show (d.run c).mapError _ = .ok (a, c') ↔ d.run c = .ok (a, c')
  cases d.run c with
  | error e => exact ⟨fun h => (by cases h), fun h => (by cases h)⟩
  | ok read => exact ⟨fun h => congrArg _ (Except.ok.inj h), fun h => congrArg _ (Except.ok.inj h)⟩

@[simp] theorem yields_require_bind {condition : Bool} {f : Unit → Decoder C ε β} :
    Yields (require condition e >>= f) c b c' ↔ condition = true ∧ Yields (f ()) c b c' := by
  rw [yields_bind]
  constructor
  · rintro ⟨a, c₁, hrequire, h⟩
    obtain ⟨hcondition, rfl, -⟩ := yields_require.mp hrequire
    exact ⟨hcondition, h⟩
  · rintro ⟨hcondition, h⟩
    exact ⟨(), c, yields_require.mpr ⟨hcondition, rfl, h.ok⟩, h⟩

@[simp] theorem yields_requireOk_bind {f : Unit → Decoder C ε β} :
    Yields (requireOk e >>= f) c b c' ↔ Yields (f ()) c b c' := by
  rw [yields_bind]
  constructor
  · rintro ⟨a, c₁, hrequire, h⟩
    obtain ⟨rfl, -⟩ := yields_requireOk.mp hrequire
    exact h
  · intro h
    exact ⟨(), c, yields_requireOk.mpr ⟨rfl, h.ok⟩, h⟩

/-! ### One field off the front -/

/-- A field is read as it was written. -/
theorem yields_field_write {k : Kind R α} {v : α} (h : Fits C (k.field v)) :
    Yields (field k : Decoder C ε α) (write (k.field v) c) a c' ↔
      k.Accepts v ∧ a = v ∧ c' = c ∧ Input.ok c = true := by
  rw [yields_field]
  constructor
  · rintro ⟨hshows, haccepts, hok⟩
    obtain ⟨rfl, rfl⟩ := shows_inj ((ok_shows hshows).trans hok) (shows_write c h) hshows
    exact ⟨haccepts, rfl, rfl, hok⟩
  · rintro ⟨haccepts, rfl, rfl, hok⟩
    exact ⟨shows_write _ h, haccepts, hok⟩

theorem yields_field_bind {k : Kind R α} {v : α} (h : Fits C (k.field v)) :
    Yields (field k >>= f) (write (k.field v) c) b c' ↔
      k.Accepts v ∧ Yields (f v) c b c' := by
  rw [yields_bind]
  constructor
  · rintro ⟨a, c₁, hfield, hyields⟩
    obtain ⟨haccepts, rfl, rfl, -⟩ := (yields_field_write h).mp hfield
    exact ⟨haccepts, hyields⟩
  · rintro ⟨haccepts, hyields⟩
    exact ⟨v, c, (yields_field_write h).mpr ⟨haccepts, rfl, rfl, hyields.ok⟩, hyields⟩

@[simp] theorem yields_u8_bind {f : Nat → Decoder C ε β} {v : Nat} (h : Fits C (.u8 v)) :
    Yields (u8 >>= f) (write (.u8 v) c) b c' ↔ Yields (f v) c b c' :=
  (yields_field_bind (k := .u8) h).trans (iff_of_eq (true_and _))

@[simp] theorem yields_flag_bind {f : Bool → Decoder C ε β} {v : Bool} (h : Fits C (.flag v)) :
    Yields (flag >>= f) (write (.flag v) c) b c' ↔ Yields (f v) c b c' :=
  (yields_field_bind (k := .flag) h).trans (iff_of_eq (true_and _))

@[simp] theorem yields_u32_bind {f : Nat → Decoder C ε β} {v : Nat} (h : Fits C (.u32 v)) :
    Yields (u32 >>= f) (write (.u32 v) c) b c' ↔ Yields (f v) c b c' :=
  (yields_field_bind (k := .u32) h).trans (iff_of_eq (true_and _))

@[simp] theorem yields_u64_bind {f : Nat → Decoder C ε β} {v : Nat} (h : Fits C (.u64 v)) :
    Yields (u64 >>= f) (write (.u64 v) c) b c' ↔ Yields (f v) c b c' :=
  (yields_field_bind (k := .u64) h).trans (iff_of_eq (true_and _))

@[simp] theorem yields_i64_bind {f : Int → Decoder C ε β} {v : Int} (h : Fits C (.i64 v)) :
    Yields (i64 >>= f) (write (.i64 v) c) b c' ↔ Yields (f v) c b c' :=
  (yields_field_bind (k := .i64) h).trans (iff_of_eq (true_and _))

@[simp] theorem yields_real_bind {f : R → Decoder C ε β} {v : R} (h : Fits C (.real v)) :
    Yields (real >>= f) (write (.real v) c) b c' ↔ Yields (f v) c b c' :=
  (yields_field_bind (k := .real) h).trans (iff_of_eq (true_and _))

@[simp] theorem yields_text_bind {limit : Nat} {f : String → Decoder C ε β} {v : String}
    (h : Fits C (.text v)) :
    Yields (text limit >>= f) (write (.text v) c) b c' ↔
      v.length ≤ limit ∧ Yields (f v) c b c' :=
  yields_field_bind (k := .text limit) h

/-- A decoder that yields one answer at most is followed by the next with that answer. -/
theorem yields_bind_of_iff {bounds : Prop} {v : α} {c₀ : C}
    (h : ∀ a c₁, Yields d c₀ a c₁ ↔ bounds ∧ a = v ∧ c₁ = c ∧ Input.ok c = true) :
    Yields (d >>= f) c₀ b c' ↔ bounds ∧ Yields (f v) c b c' := by
  rw [yields_bind]
  constructor
  · rintro ⟨a, c₁, hd, hyields⟩
    obtain ⟨hbounds, rfl, rfl, -⟩ := (h a c₁).mp hd
    exact ⟨hbounds, hyields⟩
  · rintro ⟨hbounds, hyields⟩
    exact ⟨v, c, (h v c).mpr ⟨hbounds, rfl, rfl, hyields.ok⟩, hyields⟩

theorem yields_presence_bind {f : Bool → Decoder C ε β} {present : Bool}
    (h : Fits C (.u8 (if present then 1 else 0))) :
    Yields (presence >>= f) (write (.u8 (if present then 1 else 0)) c) b c' ↔
      Yields (f present) c b c' := by
  have hpresence : ∀ a c₁, Yields (presence : Decoder C ε Bool)
      (write (.u8 (if present then 1 else 0)) c) a c₁ ↔
      True ∧ a = present ∧ c₁ = c ∧ Input.ok c = true := by
    intro a c₁
    rw [presence, yields_u8_bind h, true_and, ← yields_pure (ε := ε)]
    cases present <;> rfl
  rw [yields_bind_of_iff hpresence, true_and]

/-! ### Whole records -/

/-- In front of the fields the decoder yields exactly within the bounds, and then takes all of
them and answers with the value. -/
def Exact (d : Decoder C ε α) (p : Payload R) (bounds : Prop) (v : α) : Prop :=
  ∀ c a c', Yields d (put p c) a c' ↔ bounds ∧ a = v ∧ c' = c ∧ Input.ok c = true

variable {bounds : Prop} {v : α} {p : Payload R}

theorem Exact.bind_iff (h : Exact d p bounds v) :
    Yields (d >>= f) (put p c) b c' ↔ bounds ∧ Yields (f v) c b c' :=
  yields_bind_of_iff (h c)

theorem Exact.congr {bounds' : Prop} (h : Exact d p bounds v) (hbounds : bounds ↔ bounds') :
    Exact d p bounds' v := by
  intro c a c'
  rw [h c a c', hbounds]

theorem exact_field {k : Kind R α} {v : α} (h : Fits C (k.field v)) :
    Exact (field k : Decoder C ε α) [k.field v] (k.Accepts v) v :=
  fun _ _ _ => yields_field_write h

theorem Exact.refuse {ε' : Type} {e : ε'} (h : Exact d p bounds v) :
    Exact (refuse e d) p bounds v := fun c a c' => yields_refuse.trans (h c a c')

theorem exact_optionalPayload {write : α → Payload R} {value : Option α} {bounds : α → Prop}
    (hfits : FitsAll C (optionalPayload write value))
    (h : ∀ a, FitsAll C (write a) → Exact d (write a) (bounds a) a) :
    Exact (optional d) (optionalPayload write value) (∀ a ∈ value, bounds a) value := by
  intro c a c'
  cases value with
  | none =>
    have habsent : Fits C (.u8 (if false then 1 else 0) : Field R) := hfits _ List.mem_cons_self
    refine (yields_presence_bind habsent).trans ?_
    simp
  | some v =>
    have hpresent : Fits C (.u8 (if true then 1 else 0) : Field R) := hfits _ List.mem_cons_self
    have hv : FitsAll C (write v) := fun f hf => hfits f (List.mem_cons_of_mem _ hf)
    refine (yields_presence_bind hpresent).trans ?_
    refine (Exact.bind_iff (h v hv)).trans ?_
    rw [yields_pure]
    simp

theorem exact_optional {write : α → Field R} {value : Option α} {bounds : α → Prop}
    (hfits : FitsAll C (optionalField write value))
    (h : ∀ a, Fits C (write a) → Exact d [write a] (bounds a) a) :
    Exact (optional d) (optionalField write value) (∀ a ∈ value, bounds a) value := by
  rw [optionalField_eq] at hfits ⊢
  exact exact_optionalPayload hfits fun a ha => h a (ha _ (List.mem_singleton_self _))

/-- An optional value of a kind that has no limit. -/
theorem exact_optional_field {k : Kind R α} {value : Option α} (haccepts : ∀ a, k.Accepts a)
    (hfits : FitsAll C (optionalField k.field value)) :
    Exact (optional (field k) : Decoder C ε (Option α)) (optionalField k.field value) True value :=
  (exact_optional hfits fun _ h => exact_field h).congr (iff_true_intro fun a _ => haccepts a)

theorem exact_optional_u32 {value : Option Nat} (hfits : FitsAll C (optionalField .u32 value)) :
    Exact (optional u32 : Decoder C ε (Option Nat)) (optionalField .u32 value) True value :=
  exact_optional_field (k := .u32) (fun _ => trivial) hfits

theorem exact_optional_u64 {value : Option Nat} (hfits : FitsAll C (optionalField .u64 value)) :
    Exact (optional u64 : Decoder C ε (Option Nat)) (optionalField .u64 value) True value :=
  exact_optional_field (k := .u64) (fun _ => trivial) hfits

theorem exact_optional_real {value : Option R} (hfits : FitsAll C (optionalField .real value)) :
    Exact (optional real : Decoder C ε (Option R)) (optionalField .real value) True value :=
  exact_optional_field (k := .real) (fun _ => trivial) hfits

theorem exact_many {write : α → Payload R} {list : List α} {bounds : α → Prop}
    (hfits : FitsAll C (list.flatMap write))
    (h : ∀ a, FitsAll C (write a) → Exact d (write a) (bounds a) a) :
    Exact (many d list.length) (list.flatMap write) (∀ a ∈ list, bounds a) list := by
  induction list with
  | nil =>
    intro c a c'
    refine yields_pure.trans ?_
    simp
  | cons first list ih =>
    intro c a c'
    rw [FitsAll, List.flatMap_cons, List.forall_mem_append] at hfits
    rw [List.flatMap_cons, put_append]
    refine (h first hfits.1).bind_iff.trans ?_
    rw [(ih hfits.2).bind_iff, yields_pure, List.forall_mem_cons, and_assoc]

/-! ### What was read -/

/-- What a decoder takes off the front. -/
theorem yields_field_iff {k : Kind R α} : Yields (field k >>= f) c b c' ↔
    ∃ v c₁, Shows c (k.field v) c₁ ∧ k.Accepts v ∧ Yields (f v) c₁ b c' := by
  rw [yields_bind]
  constructor
  · rintro ⟨v, c₁, hfield, h⟩
    obtain ⟨hshows, haccepts, -⟩ := yields_field.mp hfield
    exact ⟨v, c₁, hshows, haccepts, h⟩
  · rintro ⟨v, c₁, hshows, haccepts, h⟩
    exact ⟨v, c₁, yields_field.mpr ⟨hshows, haccepts, h.ok⟩, h⟩

/-- What the decoder answers is written in front, and within the bounds. -/
def Sound (d : Decoder C ε α) (write : α → Payload R) (bounds : α → Prop) : Prop :=
  ∀ {c a c'}, Yields d c a c' → Front c (write a) c' ∧ bounds a

theorem sound_field {k : Kind R α} :
    Sound (field k : Decoder C ε α) (fun v => [k.field v]) k.Accepts := by
  intro c v c' h
  obtain ⟨hshows, haccepts, -⟩ := yields_field.mp h
  exact ⟨⟨c', hshows, rfl⟩, haccepts⟩

theorem sound_presence :
    Sound (presence : Decoder C ε Bool) (fun present => [.u8 (if present then 1 else 0)])
      fun _ => True := by
  intro c present c' h
  rw [presence, u8, yields_field_iff] at h
  obtain ⟨v, c₁, hshows, -, h⟩ := h
  split at h
  · rw [yields_bind] at h
    obtain ⟨_, _, hspoil, -⟩ := h
    exact absurd hspoil not_yields_spoil
  · rename_i hv
    obtain ⟨rfl, rfl, -⟩ := yields_pure.mp h
    have hbyte : (if decide (v = 1) then 1 else 0) = v := by
      by_cases hone : v = 1
      · simp [hone]
      · simp [hone]
        omega
    refine ⟨⟨c', ?_, rfl⟩, trivial⟩
    rw [hbyte]
    exact hshows

theorem Sound.refuse {ε' : Type} {e : ε'} {write : α → Payload R} {bounds : α → Prop}
    (h : Sound d write bounds) : Sound (refuse e d) write bounds :=
  fun hread => h (yields_refuse.mp hread)

theorem sound_optionalPayload {write : α → Payload R} {bounds : α → Prop}
    (h : Sound d write bounds) :
    Sound (optional d) (optionalPayload write) fun value => ∀ a ∈ value, bounds a := by
  intro c value c' hread
  rw [optional, yields_bind] at hread
  obtain ⟨present, c₁, hpresence, hread⟩ := hread
  obtain ⟨⟨c₂, hshows, rfl⟩, -⟩ := sound_presence hpresence
  cases present with
  | false =>
    obtain ⟨rfl, rfl, -⟩ := yields_pure.mp hread
    exact ⟨⟨c', hshows, rfl⟩, fun a ha => (by cases ha)⟩
  | true =>
    rw [if_pos rfl, yields_bind] at hread
    obtain ⟨a, c₃, ha, hread⟩ := hread
    obtain ⟨rfl, rfl, -⟩ := yields_pure.mp hread
    obtain ⟨hfront, hbounds⟩ := h ha
    refine ⟨⟨c₁, hshows, hfront⟩, fun a' ha' => ?_⟩
    obtain rfl := Option.some.inj ha'
    exact hbounds

theorem sound_optional {write : α → Field R} {bounds : α → Prop}
    (h : Sound d (fun a => [write a]) bounds) :
    Sound (optional d) (optionalField write) fun value => ∀ a ∈ value, bounds a := by
  rw [optionalField_eq]
  exact sound_optionalPayload h

theorem sound_many {write : α → Payload R} {bounds : α → Prop} (h : Sound d write bounds)
    (count : Nat) :
    Sound (many d count) (fun list => list.flatMap write) fun list =>
      list.length = count ∧ ∀ a ∈ list, bounds a := by
  induction count with
  | zero =>
    intro c list c' hread
    obtain ⟨rfl, rfl, -⟩ := yields_pure.mp hread
    exact ⟨rfl, rfl, fun a ha => (by cases ha)⟩
  | succ count ih =>
    intro c list c' hread
    rw [many, yields_bind] at hread
    obtain ⟨a, c₁, ha, hread⟩ := hread
    rw [yields_bind] at hread
    obtain ⟨rest, c₂, hrest, hread⟩ := hread
    obtain ⟨rfl, rfl, -⟩ := yields_pure.mp hread
    obtain ⟨hfront, hbounds⟩ := h ha
    obtain ⟨hfronts, hlength, hall⟩ := ih hrest
    refine ⟨?_, by rw [List.length_cons, hlength], List.forall_mem_cons.mpr ⟨hbounds, hall⟩⟩
    dsimp only
    rw [List.flatMap_cons, front_append]
    exact ⟨c₁, hfront, hfronts⟩

end Decoder

/-! ### Reading the fields themselves -/

/-- What is left to read, and whether every read so far was good. -/
structure Cursor (R : Type := ℚ) where
  rest : Payload R
  ok : Bool := true

namespace Cursor

variable {R α : Type}

/-- A field as a value of a kind. -/
def value : Kind R α → Field R → Option α
  | .u8, .u8 v => some v
  | .flag, .flag v => some v
  | .u32, .u32 v => some v
  | .u64, .u64 v => some v
  | .i64, .i64 v => some v
  | .real, .real v => some v
  | .text limit, .text v => if v.length ≤ limit then some v else none
  | _, _ => none

theorem value_eq_some {k : Kind R α} {f : Field R} {v : α} :
    value k f = some v ↔ f = k.field v ∧ k.Accepts v := by
  cases k with
  | text limit =>
    cases f with
    | text w =>
      simp only [value, Kind.field, Kind.Accepts, Option.ite_none_right_eq_some,
        Option.some.injEq, Field.text.injEq]
      exact ⟨fun h => ⟨h.2, h.2 ▸ h.1⟩, fun h => ⟨h.1 ▸ h.2, h.1⟩⟩
    | _ => simp [value, Kind.field]
  | _ => cases f <;> simp [value, Kind.field, Kind.Accepts]

variable [Zero R]

/-- Read one field; a read that is not good latches and answers zero. -/
def read (k : Kind R α) (cursor : Cursor R) : α × Cursor R :=
  match cursor with
  | ⟨f :: rest, true⟩ =>
    match value k f with
    | some v => (v, ⟨rest, true⟩)
    | none => (k.zero, ⟨f :: rest, false⟩)
  | ⟨rest, _⟩ => (k.zero, ⟨rest, false⟩)

theorem ok_read (k : Kind R α) (cursor : Cursor R) (h : (read k cursor).2.ok = true) :
    cursor.ok = true := by
  obtain ⟨rest, ok⟩ := cursor
  cases ok with
  | true => rfl
  | false => cases rest <;> exact h

theorem read_iff (k : Kind R α) (cursor : Cursor R) (v : α) (cursor' : Cursor R) :
    (read k cursor = (v, cursor') ∧ cursor'.ok = true) ↔
      cursor = ⟨k.field v :: cursor'.rest, cursor'.ok⟩ ∧ k.Accepts v ∧ cursor'.ok = true := by
  obtain ⟨rest', ok'⟩ := cursor'
  constructor
  · rintro ⟨h, hok⟩
    dsimp only at hok
    subst hok
    unfold read at h
    split at h
    · split at h
      · rename_i f rest w hvalue
        obtain ⟨rfl, hrest⟩ := Prod.mk.inj h
        obtain ⟨rfl, haccepts⟩ := value_eq_some.mp hvalue
        obtain rfl := congrArg Cursor.rest hrest
        exact ⟨rfl, haccepts, rfl⟩
      · cases h
    · cases h
  · rintro ⟨rfl, haccepts, hok⟩
    dsimp only at hok
    subst hok
    have hvalue : value k (k.field v) = some v := value_eq_some.mpr ⟨rfl, haccepts⟩
    refine ⟨?_, rfl⟩
    unfold read
    dsimp only
    rw [hvalue]

omit [Zero R] in
theorem exhausted_iff (cursor : Cursor R) :
    (cursor.ok = true ∧ cursor.rest.isEmpty = true) ↔ cursor = ⟨[], true⟩ := by
  obtain ⟨rest, ok⟩ := cursor
  rw [Cursor.mk.injEq, List.isEmpty_iff, and_comm]

instance : Input R (Cursor R) where
  ok := Cursor.ok
  write f cursor := ⟨f :: cursor.rest, cursor.ok⟩
  Fits _ := True
  Shows cursor f cursor' := cursor = ⟨f :: cursor'.rest, cursor'.ok⟩
  latch cursor := ⟨cursor.rest, false⟩
  read := Cursor.read
  empty := ⟨[], true⟩
  exhausted cursor := cursor.rest.isEmpty
  ok_write _ _ := rfl
  ok_shows h := by rw [h]
  ok_latch _ := rfl
  ok_read := Cursor.ok_read
  shows_write _ _ := rfl
  read_iff := Cursor.read_iff
  exhausted_iff := Cursor.exhausted_iff

theorem put_eq (p : Payload R) (cursor : Cursor R) :
    Input.put p cursor = ⟨p ++ cursor.rest, cursor.ok⟩ := by
  induction p with
  | nil => rfl
  | cons f p ih => rw [Input.put_cons, ih]; rfl

theorem fitsAll (p : Payload R) : Input.FitsAll (Cursor R) p := fun _ _ => trivial

end Cursor

end ThermalGovernor.Lib
