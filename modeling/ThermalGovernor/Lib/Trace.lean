import Mathlib.Data.List.Induction
import Mathlib.Logic.Relation

/-!
# Runs and traces

A program that takes one operation after another is a function
`step : σ → α → σ`, and `RunUnder step ok s₀` is the set of states it reaches
from `s₀` by operations that satisfy `ok` in the state they are applied to.
`RunUnder.invariant` is the induction rule for such runs; an operation that is
itself a sequence of smaller moves is handled by `preserved_of_reflTransGen`.

The second half is about what a run leaves behind.  A trace is a list of events
with the newest one first.  `Released p q r` is the law that a `q` event never
follows a `p` event without an `r` event in between, and `Pending p r` says that
the last `p` event is still waiting for its `r`.  `released_cons` reduces the law
to one question about each new event, so it is proved by induction along a run
although it speaks about all pairs of events.
-/

namespace ThermalGovernor.Lib

variable {σ α ε : Type}

/-- The states reached from `s₀` by operations allowed in the state they are applied to. -/
inductive RunUnder (step : σ → α → σ) (ok : σ → α → Prop) (s₀ : σ) : σ → Prop
  | refl : RunUnder step ok s₀ s₀
  | tail {s : σ} (a : α) : RunUnder step ok s₀ s → ok s a → RunUnder step ok s₀ (step s a)

namespace RunUnder

variable {step : σ → α → σ} {ok ok' : σ → α → Prop} {s₀ s : σ}

/-- **The invariant rule.** -/
theorem invariant {I : σ → Prop} (h : RunUnder step ok s₀ s) (h₀ : I s₀)
    (hs : ∀ s a, I s → ok s a → I (step s a)) : I s := by
  induction h with
  | refl => exact h₀
  | tail a _ ha ih => exact hs _ a ih ha

theorem trans {s' : σ} (h : RunUnder step ok s₀ s) (h' : RunUnder step ok s s') :
    RunUnder step ok s₀ s' := by
  induction h' with
  | refl => exact h
  | tail a _ ha ih => exact .tail a ih ha

/-- A list of operations is a run, under any condition they all meet. -/
theorem of_foldl (operations : List α) (h : ∀ a ∈ operations, ∀ s, ok s a) (s : σ) :
    RunUnder step ok s (operations.foldl step s) := by
  induction operations using List.reverseRecOn with
  | nil => exact .refl
  | append_singleton operations a ih =>
    rw [List.foldl_append]
    refine .tail a (ih fun b hb => h b ?_) (h a ?_ _)
    · exact List.mem_append_left _ hb
    · exact List.mem_append_right _ List.mem_cons_self

/-- Allowing more operations keeps every run. -/
theorem mono (h : RunUnder step ok s₀ s) (hok : ∀ s a, ok s a → ok' s a) :
    RunUnder step ok' s₀ s := by
  induction h with
  | refl => exact .refl
  | tail a _ ha ih => exact .tail a ih (hok _ a ha)

end RunUnder

/-- **A property that each step keeps on one condition holds throughout a run exactly when every
step meets it.** -/
theorem throughout_iff {step : σ → α → σ} {ok : σ → α → Prop} {I J : σ → Prop} {s₀ : σ}
    (hJ₀ : J s₀) (hJ : ∀ s a, J s → J (step s a)) (hI₀ : I s₀)
    (hI : ∀ s a, J s → I s → (I (step s a) ↔ ok s a)) (operations : List α) :
    (∀ earlier later, operations = earlier ++ later → I (earlier.foldl step s₀)) ↔
      ∀ earlier a later, operations = earlier ++ a :: later → ok (earlier.foldl step s₀) a := by
  have hreached : ∀ list : List α, J (list.foldl step s₀) := by
    intro list
    induction list using List.reverseRecOn with
    | nil => exact hJ₀
    | append_singleton list a ih =>
      rw [List.foldl_append]
      exact hJ _ a ih
  have hlast : ∀ (earlier : List α) (a : α), (earlier ++ [a]).foldl step s₀ =
      step (earlier.foldl step s₀) a := by
    intro earlier a
    rw [List.foldl_append]
    rfl
  constructor
  · intro h earlier a later hoperations
    refine (hI _ a (hreached earlier) (h earlier (a :: later) hoperations)).mp ?_
    rw [← hlast]
    exact h (earlier ++ [a]) later (by rw [hoperations, List.append_assoc]; rfl)
  · intro h earlier
    induction earlier using List.reverseRecOn with
    | nil => exact fun _ _ => hI₀
    | append_singleton earlier a ih =>
      intro later hoperations
      have hoperations' : operations = earlier ++ a :: later := by
        rw [hoperations, List.append_assoc]
        rfl
      rw [hlast]
      exact (hI _ a (hreached earlier) (ih _ hoperations')).mpr (h earlier a later hoperations')

/-- What no step of a loop changes, the loop does not change. -/
theorem foldl_unchanged {β : Type} {f : σ → α → σ} {p : σ → β} (hf : ∀ s a, p (f s a) = p s)
    (list : List α) (s : σ) : p (list.foldl f s) = p s := by
  induction list generalizing s with
  | nil => rfl
  | cons a rest ih =>
    rw [List.foldl_cons, ih]
    exact hf s a

/-- What one move preserves, a sequence of moves preserves. -/
theorem preserved_of_reflTransGen {R : σ → σ → Prop} {I : σ → Prop} {s s' : σ}
    (hR : ∀ a b, R a b → I a → I b) (h : Relation.ReflTransGen R s s') : I s → I s' := by
  intro hs
  induction h with
  | refl => exact hs
  | tail _ hbc ih => exact hR _ _ hbc ih

/-! ### Laws about traces -/

variable {p q r : ε → Prop} {e : ε} {t : List ε}

/-- Some `p` event of the trace has no `r` event after it. -/
def Pending (p r : ε → Prop) : List ε → Prop
  | [] => False
  | e :: t => p e ∨ (¬ r e ∧ Pending p r t)

@[simp] theorem not_pending_nil : ¬ Pending p r [] := id

@[simp] theorem pending_cons : Pending p r (e :: t) ↔ p e ∨ (¬ r e ∧ Pending p r t) := Iff.rfl

theorem pending_iff : Pending p r t ↔
    ∃ mid e₀ older, t = mid ++ e₀ :: older ∧ p e₀ ∧ ∀ x ∈ mid, ¬ r x := by
  induction t with
  | nil => simp
  | cons e t ih =>
    rw [pending_cons, ih]
    constructor
    · rintro (he | ⟨hr, mid, e₀, older, rfl, hp, hmid⟩)
      · exact ⟨[], e, t, rfl, he, by simp⟩
      · exact ⟨e :: mid, e₀, older, rfl, hp, by simpa [hr] using hmid⟩
    · rintro ⟨mid, e₀, older, ht, hp, hmid⟩
      cases mid with
      | nil =>
        obtain ⟨rfl, rfl⟩ := List.cons.inj ht
        exact .inl hp
      | cons x mid =>
        obtain ⟨rfl, rfl⟩ := List.cons.inj ht
        exact .inr ⟨hmid e (by simp), mid, e₀, older, rfl, hp,
          fun y hy => hmid y (by simp [hy])⟩

/-- Between a `p` event and a later `q` event there is an `r` event, the `q` event
itself included. -/
def Released (p q r : ε → Prop) (t : List ε) : Prop :=
  ∀ newer e mid e₀ older, t = newer ++ e :: (mid ++ e₀ :: older) → p e₀ → q e →
    ∃ x ∈ e :: mid, r x

/-- **The law is one question about each `q` event**: whether something was pending
when it came. -/
theorem released_iff : Released p q r t ↔
    ∀ newer e older, t = newer ++ e :: older → q e → Pending p r older → r e := by
  constructor
  · intro h newer e older ht hq hpend
    obtain ⟨mid, e₀, rest, rfl, hp, hmid⟩ := pending_iff.mp hpend
    obtain ⟨x, hx, hr⟩ := h newer e mid e₀ rest ht hp hq
    rcases List.mem_cons.mp hx with rfl | hx
    · exact hr
    · exact absurd hr (hmid x hx)
  · intro h newer e mid e₀ older ht hp hq
    by_cases hmid : ∃ x ∈ mid, r x
    · obtain ⟨x, hx, hr⟩ := hmid
      exact ⟨x, by simp [hx], hr⟩
    · have hpend : Pending p r (mid ++ e₀ :: older) :=
        pending_iff.mpr ⟨mid, e₀, older, rfl, hp, fun x hx hr => hmid ⟨x, hx, hr⟩⟩
      exact ⟨e, by simp, h newer e _ ht hq hpend⟩

@[simp] theorem released_nil : Released p q r [] := by
  intro newer e mid e₀ older ht
  simp at ht

theorem released_cons :
    Released p q r (e :: t) ↔ Released p q r t ∧ (q e → Pending p r t → r e) := by
  simp only [released_iff]
  constructor
  · intro h
    refine ⟨fun newer x older ht => h (e :: newer) x older (by rw [ht]; rfl), ?_⟩
    exact h [] e t rfl
  · rintro ⟨ht, he⟩ newer x older heq
    cases newer with
    | nil =>
      obtain ⟨rfl, rfl⟩ := List.cons.inj heq
      exact he
    | cons y newer =>
      obtain ⟨rfl, rfl⟩ := List.cons.inj heq
      exact ht newer x older rfl

/-! ### Deciding a law of a trace -/

instance decidablePending [DecidablePred p] [DecidablePred r] : DecidablePred (Pending p r)
  | [] => inferInstanceAs (Decidable False)
  | e :: t =>
    have : Decidable (Pending p r t) := decidablePending t
    inferInstanceAs (Decidable (p e ∨ (¬ r e ∧ Pending p r t)))

instance decidableReleased [DecidablePred p] [DecidablePred q] [DecidablePred r] :
    DecidablePred (Released p q r)
  | [] => .isTrue released_nil
  | e :: t =>
    have : Decidable (Released p q r t) := decidableReleased t
    decidable_of_iff (Released p q r t ∧ (q e → Pending p r t → r e)) released_cons.symm

end ThermalGovernor.Lib
