import ThermalGovernor.Governed.Members
import ThermalGovernor.Governed.Registered

/-!
# The domain registry over any run

A registry begins empty and is asked to add, replace and remove definitions.  A call that is
refused leaves it as it was; `next_cases` says what a call that succeeds has checked and
stored.

Every state of a run is `Sound` (each definition under its own id, with registered parent
and children) and `Indexed` (the membership index answers with the sorted ids of the domains
that have a member of the key), and a domain does not go back in its generation while it
stays registered (`integrity_of_run`).
-/

namespace ThermalGovernor

open Lib

/-- What a registry is asked to do. -/
inductive RegistryOperation
  | add (definition : ThermalDomainDefinition)
  | update (definition : ThermalDomainDefinition)
  | remove (id : ThermalDomainId)

namespace DomainRegistry

variable {r r' : DomainRegistry} {d : ThermalDomainDefinition} {id : ThermalDomainId}

/-- One call, with the registry it leaves. -/
def call (r : DomainRegistry) : RegistryOperation → DomainRegistry × Status
  | .add definition => r.add definition
  | .update definition => r.update definition
  | .remove id => r.remove id

/-- The registry after a call, successful or not. -/
def next (r : DomainRegistry) (operation : RegistryOperation) : DomainRegistry :=
  (r.call operation).1

/-- A new registry. -/
def empty (limits : DomainLimits) : DomainRegistry := { limits := limits }

/-! ### What a call does -/

/-- A refused call leaves the registry as it was. -/
theorem call_error {operation : RegistryOperation} {e : ThermalError}
    (h : (r.call operation).2 = .error e) : (r.call operation).1 = r := by
  cases operation with
  | add definition => exact add_error h
  | update definition => exact update_error h
  | remove id => exact remove_error h

/-- What the registry asks of a replacement. -/
structure Replaces (r : DomainRegistry) (d held : ThermalDomainDefinition) : Prop where
  registered : r.find d.id = some held
  later : held.generation < d.generation
  checked : r.checkUpdate d = .ok ()

theorem exists_replaces (h : r.checkUpdate d = .ok ()) : ∃ held, r.Replaces d held := by
  have hchecked := h
  unfold checkUpdate at hchecked
  split at hchecked
  · cases hchecked
  · rename_i held hheld
    exact ⟨held, hheld, not_le.mp (ite_failure_eq_ok.mp hchecked).1, h⟩

/-- What the registry asks of a removal. -/
structure Releases (r : DomainRegistry) (id : ThermalDomainId) : Prop where
  registered : (r.find id).isSome = true
  unreferenced : ∀ other d, r.find other = some d → other ≠ id →
    d.parent ≠ some id ∧ id ∉ d.children

theorem referenceTo_eq_none {other : ThermalDomainId} :
    referenceTo id ⟨other, d⟩ = none ↔ (other ≠ id → d.parent ≠ some id ∧ id ∉ d.children) := by
  unfold referenceTo
  dsimp only
  split_ifs with hid hparent hchild
  · exact ⟨fun _ hother => absurd hid hother, fun _ => rfl⟩
  · exact ⟨fun h => (by cases h), fun h => absurd hparent (h hid).1⟩
  · exact ⟨fun h => (by cases h), fun h => absurd hchild (h hid).2⟩
  · exact ⟨fun _ _ => ⟨hparent, hchild⟩, fun _ => rfl⟩

/-- **A removal is refused exactly when another definition still points at the domain.** -/
theorem checkRemove_eq_ok : r.checkRemove id = .ok () ↔ r.Releases id := by
  have hsearch : r.definitions.entries.findSome? (referenceTo id) = none ↔
      ∀ other d, r.find other = some d → other ≠ id → d.parent ≠ some id ∧ id ∉ d.children := by
    rw [List.findSome?_eq_none_iff]
    constructor
    · intro h other d hfind
      exact referenceTo_eq_none.mp (h ⟨other, d⟩ (AList.mem_lookup_iff.mp hfind))
    · rintro h ⟨other, d⟩ hmem
      exact referenceTo_eq_none.mpr (h other d (AList.mem_lookup_iff.mpr hmem))
  unfold checkRemove
  rw [ite_failure_eq_ok]
  constructor
  · rintro ⟨hregistered, hfree⟩
    refine ⟨by simpa [Option.isSome_iff_ne_none] using hregistered, hsearch.mp ?_⟩
    split at hfree
    · cases hfree
    · assumption
  · intro h
    refine ⟨by simpa [Option.isSome_iff_ne_none] using h.registered, ?_⟩
    rw [hsearch.mpr h.unreferenced]

/-- **What one call can do**: nothing, or enter, replace or forget one definition. -/
theorem next_cases (r : DomainRegistry) (operation : RegistryOperation) :
    (∃ e, r.call operation = (r, .error e)) ∨
    (∃ d, operation = .add d ∧ r.Admits d ∧ r.next operation = r.store d) ∨
    (∃ d held, operation = .update d ∧ r.Replaces d held ∧ r.next operation = r.store d) ∨
    (∃ id, operation = .remove id ∧ r.Releases id ∧ r.next operation = r.drop id) := by
  cases operation with
  | add d =>
    cases hcheck : r.checkAdd d with
    | error e => exact .inl ⟨e, by rw [call, add, hcheck]⟩
    | ok =>
      exact .inr (.inl ⟨d, rfl, checkAdd_eq_ok.mp hcheck, by rw [next, call, add, hcheck]⟩)
  | update d =>
    cases hcheck : r.checkUpdate d with
    | error e => exact .inl ⟨e, by rw [call, update, hcheck]⟩
    | ok =>
      obtain ⟨held, hreplaces⟩ := exists_replaces hcheck
      exact .inr (.inr (.inl ⟨d, held, rfl, hreplaces, by rw [next, call, update, hcheck]⟩))
  | remove id =>
    cases hcheck : r.checkRemove id with
    | error e => exact .inl ⟨e, by rw [call, remove, hcheck]⟩
    | ok =>
      exact .inr (.inr (.inr ⟨id, rfl, checkRemove_eq_ok.mp hcheck,
        by rw [next, call, remove, hcheck]⟩))

/-! ### Removal -/

@[simp] theorem find_drop (r : DomainRegistry) (id k : ThermalDomainId) :
    (r.drop id).find k = if k = id then none else r.find k := by
  by_cases h : k = id
  · rw [if_pos h, h]
    exact AList.lookup_erase id r.definitions
  · rw [if_neg h]
    exact AList.lookup_erase_ne h

@[simp] theorem limits_drop : (r.drop id).limits = r.limits := rfl

theorem size_drop_le : (r.drop id).size ≤ r.size := (List.kerase_sublist id _).length_le

/-- What a domain that stays was checked for does not involve the one removed. -/
theorem Sound.drop (h : r.Sound) (hreleases : r.Releases id) : (r.drop id).Sound := by
  refine ⟨size_drop_le.trans h.room, fun k d hfind => ?_, fun k d hfind => ?_⟩
  · rw [find_drop] at hfind
    split at hfind
    · cases hfind
    · exact h.keyed k d hfind
  · rw [find_drop] at hfind
    split at hfind
    · cases hfind
    · rename_i hk
      have hheld := h.governable k d hfind
      obtain ⟨hparent, hchild⟩ := hreleases.unreferenced k d hfind hk
      have hstays : ∀ other, other ≠ id → (r.find other).isSome = true →
          ((r.drop id).find other).isSome = true := by
        intro other hne hsome
        rwa [find_drop, if_neg hne]
      refine ⟨hheld.id, hheld.generation, hheld.declared, hheld.governed, hheld.members,
        hheld.children, fun p hp => hstays p ?_ (hheld.parent p hp),
        fun c hc => hstays c ?_ (hheld.child c hc)⟩
      · rintro rfl
        exact hparent hp
      · rintro rfl
        exact hchild hc

/-! ### What a run keeps -/

theorem Sound.next (h : r.Sound) (operation : RegistryOperation) : (r.next operation).Sound := by
  rcases r.next_cases operation with ⟨e, hrefused⟩ | ⟨d, -, hadmits, hstored⟩ |
    ⟨d, held, -, hreplaces, hstored⟩ | ⟨id, -, hreleases, hdropped⟩
  · rw [DomainRegistry.next, hrefused]
    exact h
  · rw [hstored]
    exact h.store hadmits.governable fun _ => hadmits.room
  · have hid : d.id ≠ 0 := by
      rw [← h.keyed d.id held hreplaces.registered]
      exact (h.governable d.id held hreplaces.registered).id
    rw [hstored]
    refine h.store (governable_of_checkUpdate hreplaces.registered hid hreplaces.checked) ?_
    intro hnone
    rw [hreplaces.registered] at hnone
    cases hnone
  · rw [hdropped]
    exact h.drop hreleases

theorem sound_empty (limits : DomainLimits) : (empty limits).Sound := by
  refine ⟨Nat.zero_le _, fun id d hfind => ?_, fun id d hfind => ?_⟩
  · cases hfind
  · cases hfind

/-- The index answers with the ids of the domains that have a member of the key, sorted and
without repetition. -/
def Indexed (r : DomainRegistry) : Prop :=
  ∀ subject, (r.domainsForSubject subject).Pairwise (· < ·) ∧
    ∀ id, id ∈ r.domainsForSubject subject ↔
      ∃ d, r.find id = some d ∧ ∃ m ∈ d.members, m.subject.key = subject.key

theorem indexed_rebuild (hkeyed : ∀ id d, r.find id = some d → d.id = id) :
    r.rebuildMembership.Indexed := fun _ =>
  ⟨pairwise_domainsForSubject_rebuild r, fun _ => mem_domainsForSubject_keyed hkeyed⟩

/-- Every call rebuilds the index or leaves the registry as it was. -/
theorem Indexed.next (h : r.Indexed) (hsound : r.Sound) (operation : RegistryOperation) :
    (r.next operation).Indexed := by
  have hkeyed := (hsound.next operation).keyed
  rcases r.next_cases operation with ⟨e, hrefused⟩ | ⟨d, -, -, hstored⟩ |
    ⟨d, held, -, -, hstored⟩ | ⟨id, -, -, hdropped⟩
  · rw [DomainRegistry.next, hrefused]
    exact h
  · rw [hstored] at hkeyed ⊢
    exact indexed_rebuild hkeyed
  · rw [hstored] at hkeyed ⊢
    exact indexed_rebuild hkeyed
  · rw [hdropped] at hkeyed ⊢
    exact indexed_rebuild hkeyed

/-- A definition that a call leaves registered is of no earlier generation. -/
theorem generation_next {before after : ThermalDomainDefinition} {operation : RegistryOperation}
    (hbefore : r.find id = some before) (hafter : (r.next operation).find id = some after) :
    before.generation ≤ after.generation := by
  have hkept : some before = some after → before.generation ≤ after.generation := by
    intro hsame
    rw [Option.some.inj hsame]
  rcases r.next_cases operation with ⟨e, hrefused⟩ | ⟨d, -, hadmits, hstored⟩ |
    ⟨d, held, -, hreplaces, hstored⟩ | ⟨other, -, -, hdropped⟩
  · rw [next, hrefused] at hafter
    exact hkept (hbefore.symm.trans hafter)
  · rw [hstored, find_store] at hafter
    split at hafter
    · rename_i hid
      rw [hid, hadmits.new] at hbefore
      cases hbefore
    · exact hkept (hbefore.symm.trans hafter)
  · rw [hstored, find_store] at hafter
    split at hafter
    · rename_i hid
      rw [hid, hreplaces.registered] at hbefore
      rw [← Option.some.inj hbefore, ← Option.some.inj hafter]
      exact le_of_lt hreplaces.later
    · exact hkept (hbefore.symm.trans hafter)
  · rw [hdropped, find_drop] at hafter
    split at hafter
    · cases hafter
    · exact hkept (hbefore.symm.trans hafter)

/-- While a domain stays registered its generation does not decrease. -/
theorem generation_run {before after : ThermalDomainDefinition} :
    ∀ operations : List RegistryOperation, r.find id = some before →
      (∀ earlier later, operations = earlier ++ later →
        ((earlier.foldl next r).find id).isSome = true) →
      (operations.foldl next r).find id = some after → before.generation ≤ after.generation := by
  intro operations
  induction operations generalizing r before with
  | nil =>
    intro hbefore _ hafter
    rw [Option.some.inj (hbefore.symm.trans hafter)]
  | cons operation rest ih =>
    intro hbefore hstays hafter
    obtain ⟨middle, hmiddle⟩ := Option.isSome_iff_exists.mp (hstays [operation] rest rfl)
    have hstays' : ∀ earlier later, rest = earlier ++ later →
        ((earlier.foldl next (r.next operation)).find id).isSome = true := by
      intro earlier later hrest
      exact hstays (operation :: earlier) later (by rw [hrest]; rfl)
    exact (generation_next hbefore hmiddle).trans (ih hmiddle hstays' hafter)

/-- The states of a run. -/
theorem sound_run (limits : DomainLimits) (operations : List RegistryOperation) :
    (operations.foldl next (empty limits)).Sound ∧
      (operations.foldl next (empty limits)).Indexed := by
  have hrun : RunUnder next (fun _ _ => True) (empty limits)
      (operations.foldl next (empty limits)) :=
    .of_foldl operations (fun _ _ _ => trivial) _
  refine hrun.invariant (I := fun r => r.Sound ∧ r.Indexed) ⟨sound_empty limits, ?_⟩
    fun r operation h _ => ⟨h.1.next operation, h.2.next h.1 operation⟩
  refine fun subject => ⟨.nil, fun id => ⟨fun h => (by cases h), fun ⟨d, hfind, _⟩ => ?_⟩⟩
  cases hfind

/-- What holds of a registry and of every run that goes on from it. -/
structure Integrity (r : DomainRegistry) : Prop where
  parent : ∀ id d, r.find id = some d → ∀ p ∈ d.parent, (r.find p).isSome = true
  child : ∀ id d, r.find id = some d → ∀ c ∈ d.children, (r.find c).isSome = true
  refused : ∀ operation e, (r.call operation).2 = .error e → (r.call operation).1 = r
  generation : ∀ id before after (operations : List RegistryOperation),
    r.find id = some before → (∀ earlier later, operations = earlier ++ later →
      ((earlier.foldl next r).find id).isSome = true) →
    (operations.foldl next r).find id = some after → before.generation ≤ after.generation
  indexed : r.Indexed

/-- **The registry keeps its integrity** over every run of calls, successful or not. -/
theorem integrity_of_run (limits : DomainLimits) (operations : List RegistryOperation) :
    (operations.foldl next (empty limits)).Integrity := by
  obtain ⟨hsound, hindexed⟩ := sound_run limits operations
  exact {
    parent := fun id d hfind => (hsound.governable id d hfind).parent
    child := fun id d hfind => (hsound.governable id d hfind).child
    refused := fun operation e => call_error
    generation := fun id before after later => generation_run later
    indexed := hindexed }

end DomainRegistry

end ThermalGovernor
