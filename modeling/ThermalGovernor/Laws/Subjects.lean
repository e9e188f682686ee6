import ThermalGovernor.Governed.Members
import ThermalGovernor.Laws.Duplicates

/-!
# What the key of a subject says

Evidence, invalidations and memberships are kept under `SubjectRef.key`, a text.  It says of
what kind the subject is and gives the numbers of the identity family of that kind, and no
other family has a part in it (`SubjectRef.key_eq_key_iff`).
-/

namespace ThermalGovernor.SubjectRef

open Format Lib

variable {a b : SubjectRef}

/-- The identity that the kind selects: an id, and the generation of it where there is one. -/
def identity (s : SubjectRef) : Nat × Option Nat :=
  match s.kind with
  | .device => (s.device, some s.deviceGeneration)
  | .node => (s.node, some s.nodeGeneration)
  | .rack => (s.rack, some s.rackGeneration)
  | .coolingZone => (s.coolingZone, none)
  | .chassis => (s.chassis, none)
  | .thermalDomain => (s.domain, some s.domainGeneration)

/-- The text of an identity. -/
def identityText : Nat × Option Nat → String
  | (id, none) => unsignedDecimal id
  | (id, some generation) => unsignedDecimal id ++ ":" ++ unsignedDecimal generation

theorem key_eq_text (s : SubjectRef) : s.key = s.kind.text ++ ":" ++ identityText s.identity := by
  unfold key identity
  cases s.kind <;> rfl

/-- The kind decides whether there is a generation. -/
theorem isSome_generation_of_kind (h : a.kind = b.kind) :
    a.identity.2.isSome = b.identity.2.isSome := by
  unfold identity
  rw [h]
  cases b.kind <;> rfl

theorem identityText_inj {i j : Nat × Option Nat} (hsome : i.2.isSome = j.2.isSome)
    (h : identityText i = identityText j) : i = j := by
  obtain ⟨id, generation⟩ := i
  obtain ⟨id', generation'⟩ := j
  cases generation with
  | none =>
    cases generation' with
    | none => exact congrArg (·, none) (unsignedDecimal_inj h)
    | some _ => cases hsome
  | some generation =>
    cases generation' with
    | none => cases hsome
    | some generation' =>
      have hlists := congrArg String.toList h
      simp only [identityText, String.toList_append, List.append_assoc] at hlists
      have hcolon : ∀ n, ':' ∉ (Format.unsignedDecimal n).toList := fun n =>
        notMem_unsignedDecimal rfl n
      obtain ⟨hid, hgeneration⟩ := pair_inj (hcolon _) (hcolon _) hlists
      rw [unsignedDecimal_inj (String.toList_inj.mp hid),
        unsignedDecimal_inj (String.toList_inj.mp hgeneration)]

/-- **Two subjects have one key exactly if they are of one kind and have the identity that the
kind selects in common**, whatever their other identities are. -/
theorem key_eq_key_iff (a b : SubjectRef) :
    a.key = b.key ↔ a.kind = b.kind ∧ a.identity = b.identity := by
  constructor
  · intro h
    have hkind := kind_of_key h
    rw [key_eq_text, key_eq_text, hkind] at h
    refine ⟨hkind, identityText_inj (isSome_generation_of_kind hkind) ?_⟩
    exact (String.append_right_inj _).mp h
  · rintro ⟨hkind, hidentity⟩
    rw [key_eq_text, key_eq_text, hkind, hidentity]

end ThermalGovernor.SubjectRef
