import Mathlib.Order.Defs.Unbundled

/-!
# Programs that share a state

A program takes the state it shares one critical section at a time: `step change rest` turns
the state `s` into `change s` and goes on as `rest s`.  Between two sections others may change
the state.

`alone` runs a program with nobody between its sections.  `Outcome R p s t a` says that `p`,
started in `s`, can end with `a` and leave `t`, when what the others do between its sections
stays in the relation `R`.  Such outcomes compose (`outcome_bind_iff`), and a program whose
sections stay in `R` as well goes from `s` to `t` by `R` (`Within.rel`).
-/

namespace ThermalGovernor.Lib

/-- A program over states `σ` that ends with a value. -/
inductive Steps (σ α : Type)
  | done (a : α)
  | step (change : σ → σ) (rest : σ → Steps σ α)

namespace Steps

variable {σ α β : Type}

/-- The one program, and then the other. -/
def bind : Steps σ α → (α → Steps σ β) → Steps σ β
  | done a, next => next a
  | step change rest, next => step change fun s => (rest s).bind next

instance : Monad (Steps σ) where
  pure := done
  bind := bind

/-- One critical section. -/
def atomic (act : σ → σ × α) : Steps σ α :=
  step (fun s => (act s).1) fun s => done (act s).2

/-- A section that only reads. -/
def look (read : σ → α) : Steps σ α := step id fun s => done (read s)

@[simp] theorem done_bind (a : α) (next : α → Steps σ β) : (done a).bind next = next a := rfl

theorem map_eq (f : α → β) (p : Steps σ α) : f <$> p = p.bind fun a => done (f a) := rfl

/-! ### Alone -/

/-- The state and the value that a program ends with when nobody comes between. -/
def alone : Steps σ α → σ → σ × α
  | done a, s => (s, a)
  | step change rest, s => (rest s).alone (change s)

@[simp] theorem alone_done (a : α) (s : σ) : (done a).alone s = (s, a) := rfl

@[simp] theorem alone_pure (a : α) (s : σ) : (pure a : Steps σ α).alone s = (s, a) := rfl

@[simp] theorem alone_atomic (f : σ → σ × α) (s : σ) : (atomic f).alone s = f s := rfl

@[simp] theorem alone_look (f : σ → α) (s : σ) : (look f).alone s = (s, f s) := rfl

@[simp] theorem alone_bind (p : Steps σ α) (next : α → Steps σ β) (s : σ) :
    (p.bind next).alone s = (next (p.alone s).2).alone (p.alone s).1 := by
  induction p generalizing s with
  | done a => rfl
  | step change rest ih => exact ih s (change s)

@[simp] theorem alone_monad_bind (p : Steps σ α) (next : α → Steps σ β) (s : σ) :
    (p >>= next).alone s = (next (p.alone s).2).alone (p.alone s).1 := alone_bind p next s

@[simp] theorem alone_map (f : α → β) (p : Steps σ α) (s : σ) :
    (f <$> p).alone s = ((p.alone s).1, f (p.alone s).2) := alone_bind p _ s

/-! ### Among others -/

/-- What a program can end with, from a state, when others move the state along `R`. -/
inductive Outcome (R : σ → σ → Prop) : Steps σ α → σ → σ → α → Prop
  | done {s t : σ} (a : α) : R s t → Outcome R (.done a) s t a
  | step {change : σ → σ} {rest : σ → Steps σ α} {s t u : σ} {a : α} :
      R s t → Outcome R (rest t) (change t) u a → Outcome R (.step change rest) s u a

variable {R : σ → σ → Prop} {p : Steps σ α} {s t u : σ} {a : α} {b : β}

theorem outcome_done_iff {a' : α} : Outcome R (.done a') s t a ↔ R s t ∧ a' = a := by
  constructor
  · intro h
    cases h with
    | done _ hmove => exact ⟨hmove, rfl⟩
  · rintro ⟨hmove, rfl⟩
    exact .done a' hmove

theorem outcome_step_iff {change : σ → σ} {rest : σ → Steps σ α} :
    Outcome R (.step change rest) s u a ↔
      ∃ t, R s t ∧ Outcome R (rest t) (change t) u a := by
  constructor
  · intro h
    cases h with
    | step hmove hrest => exact ⟨_, hmove, hrest⟩
  · rintro ⟨t, hmove, hrest⟩
    exact .step hmove hrest

theorem outcome_atomic_iff {f : σ → σ × α} :
    Outcome R (atomic f) s u a ↔ ∃ t, R s t ∧ R (f t).1 u ∧ (f t).2 = a := by
  simp only [atomic, outcome_step_iff, outcome_done_iff]

theorem outcome_look_iff {f : σ → α} :
    Outcome R (look f) s u a ↔ ∃ t, R s t ∧ R t u ∧ f t = a := by
  simp only [look, outcome_step_iff, outcome_done_iff, id_eq]

/-- What `p` can still end with from `s` is an outcome of `origin` from `start`. -/
def Follows (R : σ → σ → Prop) (origin : Steps σ α) (start : σ) (p : Steps σ α) (s : σ) : Prop :=
  ∀ t a, Outcome R p s t a → Outcome R origin start t a

/-- Nobody has moved yet. -/
theorem follows_self (p : Steps σ α) (s : σ) : Follows R p s p s := fun _ _ h => h

section Preorder

variable [IsPreorder σ R]

/-- What others do before a program begins is one of the things they may do. -/
theorem Outcome.of_rel (hmove : R s t) (h : Outcome R p t u a) : Outcome R p s u a := by
  cases h with
  | done _ hend => exact .done _ (Trans.trans hmove hend)
  | step hnext hrest => exact .step (Trans.trans hmove hnext) hrest

/-- **The outcomes of two programs, one after the other.** -/
theorem outcome_bind_iff {next : α → Steps σ β} :
    Outcome R (p.bind next) s u b ↔
      ∃ t a, Outcome R p s t a ∧ Outcome R (next a) t u b := by
  induction p generalizing s with
  | done a =>
    constructor
    · exact fun h => ⟨s, a, .done a (refl s), h⟩
    · rintro ⟨t, a', h, hnext⟩
      obtain ⟨hmove, rfl⟩ := outcome_done_iff.mp h
      exact hnext.of_rel hmove
  | step change rest ih =>
    constructor
    · intro h
      obtain ⟨t, hmove, hrest⟩ := outcome_step_iff.mp h
      obtain ⟨v, a, hfirst, hnext⟩ := (ih t).mp hrest
      exact ⟨v, a, .step hmove hfirst, hnext⟩
    · rintro ⟨v, a, hfirst, hnext⟩
      obtain ⟨t, hmove, hrest⟩ := outcome_step_iff.mp hfirst
      exact .step hmove ((ih t).mpr ⟨v, a, hrest, hnext⟩)

/-- What others do after a program has ended is one of the things they may do. -/
theorem Outcome.and_then (h : Outcome R p s t a) (hmove : R t u) : Outcome R p s u a := by
  induction h with
  | done a hend => exact .done a (Trans.trans hend hmove)
  | step hnext _ ih => exact .step hnext (ih hmove)

theorem outcome_map_iff {f : α → β} :
    Outcome R (f <$> p) s u b ↔ ∃ a, Outcome R p s u a ∧ f a = b := by
  rw [map_eq, outcome_bind_iff]
  constructor
  · rintro ⟨t, a, h, hdone⟩
    obtain ⟨hmove, rfl⟩ := outcome_done_iff.mp hdone
    exact ⟨a, h.and_then hmove, rfl⟩
  · rintro ⟨a, h, rfl⟩
    exact ⟨u, a, h, .done _ (refl u)⟩

/-- Running alone is one of the outcomes. -/
theorem outcome_alone (p : Steps σ α) (s : σ) :
    Outcome R p s (p.alone s).1 (p.alone s).2 := by
  induction p generalizing s with
  | done a => exact .done a (refl s)
  | step change rest ih => exact .step (refl s) (ih s (change s))

/-! ### Part of the way -/

variable {origin : Steps σ α} {start : σ}

/-- The others move. -/
theorem Follows.others (h : Follows R origin start p s) (hmove : R s t) :
    Follows R origin start p t := fun u a ha => h u a (ha.of_rel hmove)

/-- The program takes its next section. -/
theorem Follows.section {change : σ → σ} {rest : σ → Steps σ α}
    (h : Follows R origin start (.step change rest) s) :
    Follows R origin start (rest s) (change s) :=
  fun u a ha => h u a (.step (refl s) ha)

/-- **A program that has ended has ended with an outcome.** -/
theorem Follows.outcome (h : Follows R origin start (.done a) s) :
    Outcome R origin start s a := h s a (.done a (refl s))

end Preorder

/-! ### Sections -/

/-- Every section of the program changes the state along `R`. -/
def Within (R : σ → σ → Prop) : Steps σ α → Prop
  | done _ => True
  | step change rest => ∀ s, R s (change s) ∧ (rest s).Within R

theorem within_atomic {f : σ → σ × α} (h : ∀ s, R s (f s).1) : (atomic f).Within R :=
  fun s => ⟨h s, trivial⟩

theorem within_look [IsPreorder σ R] (f : σ → α) : (look f).Within R := fun s => ⟨refl s, trivial⟩

theorem Within.bind {next : α → Steps σ β} (hp : p.Within R) (hnext : ∀ a, (next a).Within R) :
    (p.bind next).Within R := by
  induction p with
  | done a => exact hnext a
  | step change rest ih => exact fun s => ⟨(hp s).1, ih s (hp s).2⟩

theorem Within.map {f : α → β} (hp : p.Within R) : (f <$> p).Within R :=
  hp.bind fun _ => trivial

/-- **A program whose sections stay in the relation stays in it as a whole.** -/
theorem Within.rel [IsPreorder σ R] (hp : p.Within R) (h : Outcome R p s t a) : R s t := by
  induction h with
  | done a hmove => exact hmove
  | step hmove _ ih => exact Trans.trans (Trans.trans hmove (hp _).1) (ih (hp _).2)

/-! ### Values -/

/-- Whatever the states are, the program ends with a value of `Q`. -/
def Ends (Q : α → Prop) : Steps σ α → Prop
  | done a => Q a
  | step _ rest => ∀ s, (rest s).Ends Q

theorem Outcome.ends {Q : α → Prop} (h : Outcome R p s t a) (hp : p.Ends Q) : Q a := by
  induction h with
  | done a _ => exact hp
  | step _ _ ih => exact ih (hp _)

theorem Ends.mono {Q Q' : α → Prop} (hp : p.Ends Q) (h : ∀ a, Q a → Q' a) : p.Ends Q' := by
  induction p with
  | done a => exact h a hp
  | step change rest ih => exact fun s => ih s (hp s)

theorem Ends.bind {Q : α → Prop} {Q' : β → Prop} {next : α → Steps σ β} (hp : p.Ends Q)
    (hnext : ∀ a, Q a → (next a).Ends Q') : (p.bind next).Ends Q' := by
  induction p with
  | done a => exact hnext a hp
  | step change rest ih => exact fun s => ih s (hp s)

theorem ends_true (p : Steps σ α) : p.Ends fun _ => True := by
  induction p with
  | done a => trivial
  | step change rest ih => exact fun s => ih s

/-- What a function makes of every value. -/
theorem ends_map {Q : β → Prop} {f : α → β} (p : Steps σ α) (h : ∀ a, Q (f a)) :
    (f <$> p).Ends Q := p.ends_true.bind fun a _ => h a

/-! ### What is left of a program -/

/-- The program that is left after one section of another. -/
inductive Left : Steps σ α → Steps σ α → Prop
  | intro (change : σ → σ) (rest : σ → Steps σ α) (s : σ) : Left (rest s) (step change rest)

/-- **Every program ends**: what is left of it cannot be taken apart for ever. -/
theorem wellFounded_left : WellFounded (Left : Steps σ α → Steps σ α → Prop) := by
  constructor
  intro p
  induction p with
  | done a =>
    constructor
    intro q hq
    cases hq
  | step change rest ih =>
    constructor
    intro q hq
    cases hq with
    | intro _ _ s => exact ih s

end Steps

end ThermalGovernor.Lib
