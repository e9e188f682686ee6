import Mathlib.Logic.Relation

/-!
# Redirecting the edges of one vertex

A relation is read as a graph.  `AgreesOff v r s` says that two graphs have the same edges
but for those out of `v`.  A path that ends in `v` has reached it before it takes any of
these, so what reaches `v` is the same in both (`reaches_iff`).

So a graph without cycles stays without them when the edges out of one vertex are redirected,
as long as no new neighbour reaches the vertex, and only then (`acyclic_iff_of_agreesOff`).
-/

namespace ThermalGovernor.Lib

open Relation

variable {α : Type} {r s : α → α → Prop} {v a b : α}

/-- No path leads back to where it began. -/
def Acyclic (r : α → α → Prop) : Prop := ∀ a, ¬ TransGen r a a

/-- The edges are the same but for those out of one vertex. -/
def AgreesOff (v : α) (r s : α → α → Prop) : Prop := ∀ a b, a ≠ v → (s a b ↔ r a b)

theorem AgreesOff.symm (h : AgreesOff v r s) : AgreesOff v s r := fun a b ha => (h a b ha).symm

/-- A path to the vertex does not need its edges. -/
theorem reaches_of_agreesOff (h : AgreesOff v r s) (hpath : ReflTransGen s a v) :
    ReflTransGen r a v := by
  induction hpath using ReflTransGen.head_induction_on with
  | refl => exact .refl
  | @head a b hstep _ ih =>
    by_cases hv : a = v
    · rw [hv]
    · exact .head ((h a b hv).mp hstep) ih

theorem reaches_iff (h : AgreesOff v r s) : ReflTransGen s a v ↔ ReflTransGen r a v :=
  ⟨reaches_of_agreesOff h, reaches_of_agreesOff h.symm⟩

/-- A path avoids the edges of the vertex, or it leaves the vertex. -/
theorem transGen_or_of_agreesOff (h : AgreesOff v r s) (hpath : TransGen s a b) :
    TransGen r a b ∨ (ReflTransGen s a v ∧ TransGen s v b) := by
  induction hpath with
  | single hstep =>
    by_cases hv : a = v
    · subst hv
      exact .inr ⟨.refl, .single hstep⟩
    · exact .inl (.single ((h _ _ hv).mp hstep))
  | @tail b c hpath hstep ih =>
    rcases ih with hold | ⟨hreach, hleave⟩
    · by_cases hv : b = v
      · subst hv
        exact .inr ⟨hpath.to_reflTransGen, .single hstep⟩
      · exact .inl (.tail hold ((h _ _ hv).mp hstep))
    · exact .inr ⟨hreach, .tail hleave hstep⟩

/-- **Redirected edges close no cycle exactly when no new neighbour reaches the vertex.** -/
theorem acyclic_iff_of_agreesOff (h : AgreesOff v r s) (hr : Acyclic r) :
    Acyclic s ↔ ∀ b, s v b → ¬ ReflTransGen r b v := by
  constructor
  · intro hs b hstep hreach
    exact hs v (.head' hstep ((reaches_iff h).mpr hreach))
  · intro hfree a hcycle
    have hreturns : TransGen s v v := by
      rcases transGen_or_of_agreesOff h hcycle with hold | ⟨hreach, hleave⟩
      · exact absurd hold (hr a)
      · exact hleave.trans_left hreach
    obtain ⟨b, hstep, hreach⟩ := TransGen.head'_iff.mp hreturns
    exact hfree b hstep ((reaches_iff h).mp hreach)

/-- A graph with fewer edges has no more cycles. -/
theorem Acyclic.mono (h : Acyclic r) (hsub : ∀ a b, s a b → r a b) : Acyclic s :=
  fun a hcycle => h a (TransGen.mono hsub a a hcycle)

end ThermalGovernor.Lib
