import ThermalGovernor.Ledger.Run
import ThermalGovernor.Policy.Requirements

/-!
# The arithmetic of freshness

Evidence is fresh when its age does not exceed the maximum of the policy.  The age is a
difference of two words and the maximum a word of milliseconds, and both are brought to
nanoseconds in the signed word.  A number is its value in the word and whole turns of it
(`wrap64_eq`), so the comparison is right when both have the same turns, and otherwise only if
the age has fewer of them and still comes out no greater (`comparison_iff`).
-/

namespace ThermalGovernor

open Lib

/-- The number is one of the signed 64-bit word. -/
def InWord (x : Int) : Prop := -2 ^ 63 ≤ x ∧ x < 2 ^ 63

instance (x : Int) : Decidable (InWord x) := inferInstanceAs (Decidable (_ ∧ _))

/-- How often a number has passed the end of the signed 64-bit word. -/
def turns (x : Int) : Int := (x + 2 ^ 63) / 2 ^ 64

theorem wrap64_eq (x : Int) : wrap64 x = x - 2 ^ 64 * turns x := by
  have hsize : (wordSize : Int) = 2 ^ 64 := by decide
  unfold wrap64 turns Int.bmod
  rw [hsize]
  dsimp only
  split
  · omega
  · omega

theorem inWord_wrap64 (x : Int) : InWord (wrap64 x) := by
  rw [wrap64_eq]
  unfold InWord turns
  omega

/-- The comparison of the values in the word comes out as that of the numbers. -/
def ComparesAs (age limit : Int) : Prop :=
  turns age = turns limit ∨ (turns age < turns limit ∧ wrap64 age ≤ wrap64 limit)

/-- **Values in the word compare as the numbers do, for the difference of two words and a limit
that is not negative, exactly when no turn is lost between them.** -/
theorem comparison_iff {now since limit : Int} (hnow : InWord now) (hsince : InWord since)
    (hlimit : 0 ≤ limit) :
    (wrap64 (now - since) ≤ wrap64 limit ↔ now - since ≤ limit) ↔
      ComparesAs (now - since) limit := by
  have hage := wrap64_eq (now - since)
  have hbound := wrap64_eq limit
  obtain ⟨hage₁, hage₂⟩ := inWord_wrap64 (now - since)
  obtain ⟨hbound₁, hbound₂⟩ := inWord_wrap64 limit
  obtain ⟨hnow₁, hnow₂⟩ := hnow
  obtain ⟨hsince₁, hsince₂⟩ := hsince
  unfold ComparesAs
  rcases lt_trichotomy (turns (now - since)) (turns limit) with hfewer | hsame | hmore
  · omega
  · omega
  · -- the age is one turn ahead of a limit within the word, and comes out negative
    have hone : turns (now - since) = 1 ∧ turns limit = 0 := by
      unfold turns at hmore ⊢
      omega
    omega

/-- Numbers of the word compare as they are. -/
theorem comparesAs_of_inWord {age limit : Int} (hage : InWord age) (hlimit : InWord limit) :
    ComparesAs age limit := by
  have hzero : ∀ x, InWord x → turns x = 0 := by
    intro x hx
    obtain ⟨hlow, hhigh⟩ := hx
    unfold turns
    omega
  exact .inl ((hzero age hage).trans (hzero limit hlimit).symm)

namespace Governor

variable {g : Governor} {policy : ThermalPolicy} {e : ThermalEvidence}

/-- The maximum age of a policy in nanoseconds, as a number. -/
def maximumAge (policy : ThermalPolicy) : Int := policy.freshness.maxAge * 1000000

/-- The evidence is classified by its exact age. -/
def ClassifiedByAge (g : Governor) (policy : ThermalPolicy) (e : ThermalEvidence) : Prop :=
  g.classifyFreshness policy e = .fresh ↔ g.now - e.measuredAt ≤ maximumAge policy

theorem fresh_iff (hcurrent : e.subject.key ∉ g.invalidatedEvidence) :
    g.classifyFreshness policy e = .fresh ↔
      wrap64 (g.now - e.measuredAt) ≤ wrap64 (maximumAge policy) := by
  rw [classifyFreshness, if_neg hcurrent, ← not_lt]
  unfold nanoseconds elapsed maximumAge
  split
  · rename_i hlt
    exact ⟨fun h => (nomatch h), fun h => absurd hlt h⟩
  · rename_i hle
    exact ⟨fun _ => hle, fun _ => rfl⟩

/-- A policy that is accepted has a maximum age that is not negative. -/
theorem maximumAge_nonneg (h : validatePolicy policy = .ok ()) : 0 ≤ maximumAge policy :=
  Int.mul_nonneg (of_decide_eq_true (holds_of_valid h (i := 10) rfl)) (by decide)

/-- **Evidence is classified by its exact age exactly when no turn of the word is lost between
the age and the maximum.** -/
theorem classifiedByAge_iff (hnow : InWord g.now) (hmeasured : InWord e.measuredAt)
    (hpolicy : validatePolicy policy = .ok ())
    (hcurrent : e.subject.key ∉ g.invalidatedEvidence) :
    g.ClassifiedByAge policy e ↔ ComparesAs (g.now - e.measuredAt) (maximumAge policy) := by
  unfold ClassifiedByAge
  rw [fresh_iff hcurrent]
  exact comparison_iff hnow hmeasured (maximumAge_nonneg hpolicy)

section Deployment

open Deployment

/-- A reading of the present is classified by its age. -/
theorem classifiedByAge_present :
    ClassifiedByAge (after [.publishTemperature (reading 50 1 0)]) .makeDefault
      (reading 50 1 0) :=
  (classifiedByAge_iff (by decide +kernel) (by decide +kernel) validatePolicy_makeDefault
    (by decide +kernel)).mpr (comparesAs_of_inWord (by decide +kernel) (by decide +kernel))

/-- A reading of the earliest time that the word has. -/
def earliestReading : ThermalEvidence := reading 50 1 (-2 ^ 63)

/-- **The reading is accepted, is older than any maximum age, and is fresh.** -/
theorem not_classifiedByAge :
    ¬ ∀ (g : Governor) (policy : ThermalPolicy) (e : ThermalEvidence), g.Reachable →
      g.accepts e = true → InWord g.now → InWord e.measuredAt → validatePolicy policy = .ok () →
        (g.publishTemperature e).1.ClassifiedByAge policy e := by
  intro h
  have hclassified := h (after []) .makeDefault earliestReading (reachable_after _)
    (by decide +kernel) (by decide +kernel) (by decide +kernel) validatePolicy_makeDefault
  have hfresh : ((after []).publishTemperature earliestReading).1.classifyFreshness .makeDefault
      earliestReading = .fresh := by decide +kernel
  exact absurd (hclassified.mp hfresh) (by decide +kernel)

end Deployment

end Governor

end ThermalGovernor
