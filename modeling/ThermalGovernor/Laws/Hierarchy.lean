import ThermalGovernor.Laws.Registry
import ThermalGovernor.Lib.Acyclic

/-!
# The hierarchy of domains

A new definition can only name domains that are registered before it, so it closes no cycle.
A replacement is kept from naming itself and may name any other registered domain, one below
it included: the parents, and the children, of a registry stay free of cycles exactly as long
as no replacement names a domain from which the links lead back to it (`hierarchical_iff`).
-/

namespace ThermalGovernor

open Lib Relation

namespace DomainRegistry

variable {names : ThermalDomainDefinition → ThermalDomainId → Prop} {r : DomainRegistry}
  {d : ThermalDomainDefinition} {id : ThermalDomainId}

/-- The definition of the one domain names the other. -/
def Linked (names : ThermalDomainDefinition → ThermalDomainId → Prop) (r : DomainRegistry)
    (a b : ThermalDomainId) : Prop :=
  ∃ d, r.find a = some d ∧ names d b

/-- The second domain is the parent of the first. -/
def ParentOf : DomainRegistry → ThermalDomainId → ThermalDomainId → Prop :=
  Linked fun d p => p ∈ d.parent

/-- The second domain is a child of the first. -/
def ChildOf : DomainRegistry → ThermalDomainId → ThermalDomainId → Prop :=
  Linked fun d c => c ∈ d.children

/-- Neither the parents nor the children of a domain lead back to it. -/
structure Hierarchical (r : DomainRegistry) : Prop where
  parents : Acyclic r.ParentOf
  children : Acyclic r.ChildOf

/-- No domain a replacement names leads back to the one replaced. -/
def ClosesNoCycle (r : DomainRegistry) : RegistryOperation → Prop
  | .update d => r.checkUpdate d = .ok () →
      (∀ p ∈ d.parent, ¬ ReflTransGen r.ParentOf p d.id) ∧
      ∀ c ∈ d.children, ¬ ReflTransGen r.ChildOf c d.id
  | .add _ | .remove _ => True

/-! ### One kind of link -/

/-- Storing a definition redirects the links of one domain. -/
theorem agreesOff_store : AgreesOff d.id (Linked names r) (Linked names (r.store d)) := by
  intro a b ha
  unfold Linked
  rw [find_store, if_neg ha]

theorem linked_store {b : ThermalDomainId} : Linked names (r.store d) d.id b ↔ names d b := by
  unfold Linked
  rw [find_store, if_pos rfl]
  constructor
  · rintro ⟨d', hd', hnames⟩
    rwa [Option.some.inj hd']
  · exact fun hnames => ⟨d, rfl, hnames⟩

theorem acyclic_store_iff (hr : Acyclic (Linked names r)) :
    Acyclic (Linked names (r.store d)) ↔
      ∀ b, names d b → ¬ ReflTransGen (Linked names r) b d.id := by
  rw [acyclic_iff_of_agreesOff agreesOff_store hr]
  simp only [linked_store]

/-- No link leads to a domain that is not registered. -/
theorem eq_of_reaches_new (hclosed : ∀ a b, Linked names r a b → (r.find b).isSome = true)
    (hnew : r.find id = none) {b : ThermalDomainId} (h : ReflTransGen (Linked names r) b id) :
    b = id := by
  rcases ReflTransGen.cases_tail h with hsame | ⟨c, -, hlast⟩
  · exact hsame.symm
  · have hregistered := hclosed c id hlast
    rw [hnew] at hregistered
    cases hregistered

/-- A new definition closes no cycle. -/
theorem acyclic_store_of_new (hr : Acyclic (Linked names r))
    (hclosed : ∀ a b, Linked names r a b → (r.find b).isSome = true)
    (hnew : r.find d.id = none) (hnamed : ∀ b, names d b → (r.find b).isSome = true) :
    Acyclic (Linked names (r.store d)) := by
  refine (acyclic_store_iff hr).mpr fun b hb hreach => ?_
  have hregistered := hnamed b hb
  rw [eq_of_reaches_new hclosed hnew hreach, hnew] at hregistered
  cases hregistered

theorem acyclic_drop (hr : Acyclic (Linked names r)) : Acyclic (Linked names (r.drop id)) := by
  refine hr.mono ?_
  rintro a b ⟨d, hfind, hnames⟩
  rw [find_drop] at hfind
  split at hfind
  · cases hfind
  · exact ⟨d, hfind, hnames⟩

/-! ### Parents and children -/

theorem Sound.parent_closed (h : r.Sound) {a b : ThermalDomainId} (hlink : r.ParentOf a b) :
    (r.find b).isSome = true := by
  obtain ⟨d, hfind, hnames⟩ := hlink
  exact (h.governable a d hfind).parent b hnames

theorem Sound.child_closed (h : r.Sound) {a b : ThermalDomainId} (hlink : r.ChildOf a b) :
    (r.find b).isSome = true := by
  obtain ⟨d, hfind, hnames⟩ := hlink
  exact (h.governable a d hfind).child b hnames

/-- **What a call makes of a hierarchy.** -/
theorem hierarchical_next (hsound : r.Sound) (hr : r.Hierarchical)
    (operation : RegistryOperation) :
    (r.next operation).Hierarchical ↔ r.ClosesNoCycle operation := by
  rcases r.next_cases operation with ⟨e, hrefused⟩ | ⟨d, rfl, hadmits, hstored⟩ |
    ⟨d, held, rfl, hreplaces, hstored⟩ | ⟨id, rfl, -, hdropped⟩
  · have hcloses : r.ClosesNoCycle operation := by
      cases operation with
      | add d => trivial
      | remove id => trivial
      | update d =>
        intro hcheck
        rw [call, update, hcheck] at hrefused
        cases (Prod.mk.inj hrefused).2
    rw [next, hrefused]
    exact iff_of_true hr hcloses
  · rw [hstored]
    refine iff_of_true ⟨?_, ?_⟩ trivial
    · exact acyclic_store_of_new hr.parents (fun _ _ => hsound.parent_closed) hadmits.new
        hadmits.parent
    · exact acyclic_store_of_new hr.children (fun _ _ => hsound.child_closed) hadmits.new
        hadmits.child
  · rw [hstored]
    constructor
    · intro h _
      exact ⟨(acyclic_store_iff hr.parents).mp h.parents,
        (acyclic_store_iff hr.children).mp h.children⟩
    · intro h
      obtain ⟨hparents, hchildren⟩ := h hreplaces.checked
      exact ⟨(acyclic_store_iff hr.parents).mpr hparents,
        (acyclic_store_iff hr.children).mpr hchildren⟩
  · rw [hdropped]
    exact iff_of_true ⟨acyclic_drop hr.parents, acyclic_drop hr.children⟩ trivial

theorem hierarchical_empty (limits : DomainLimits) : (empty limits).Hierarchical := by
  have hnone : ∀ {names : ThermalDomainDefinition → ThermalDomainId → Prop},
      Acyclic (Linked names (empty limits)) := by
    intro names a hcycle
    obtain ⟨b, ⟨d, hfind, -⟩, -⟩ := TransGen.head'_iff.mp hcycle
    cases hfind
  exact ⟨hnone, hnone⟩

/-- **The hierarchy has no cycles throughout a run exactly when no replacement closes one.** -/
theorem hierarchical_iff (limits : DomainLimits) (operations : List RegistryOperation) :
    (∀ earlier later, operations = earlier ++ later →
      (earlier.foldl next (empty limits)).Hierarchical) ↔
    ∀ earlier operation later, operations = earlier ++ operation :: later →
      (earlier.foldl next (empty limits)).ClosesNoCycle operation :=
  throughout_iff (sound_empty limits) (fun _ operation hsound => hsound.next operation)
    (hierarchical_empty limits)
    (fun _ operation hsound hr => hierarchical_next hsound hr operation) operations

/-- A domain, one below it, and a replacement that puts the first below the second. -/
def loop : List RegistryOperation :=
  [.add { id := 1, generation := 1, provenance := .real },
    .add { id := 2, generation := 1, provenance := .real, parent := some 1 },
    .update { id := 1, generation := 2, provenance := .real, parent := some 2 }]

/-- Each call of a run succeeds. -/
def Successful : DomainRegistry → List RegistryOperation → Prop
  | _, [] => True
  | r, operation :: rest => (r.call operation).2 = .ok () ∧ Successful (r.next operation) rest

/-- **A replacement can close a cycle**: each of the two domains is above the other. -/
theorem not_hierarchical : ¬ ∀ (limits : DomainLimits) (operations : List RegistryOperation),
    Successful (empty limits) operations →
      (operations.foldl next (empty limits)).Hierarchical := by
  intro h
  have hsuccessful : Successful (empty {}) loop := ⟨rfl, rfl, rfl, trivial⟩
  have hup : (loop.foldl next (empty {})).ParentOf 1 2 :=
    exists_of_any ((loop.foldl next (empty {})).find 1) (fun d => 2 ∈ d.parent) (by decide +kernel)
  have hdown : (loop.foldl next (empty {})).ParentOf 2 1 :=
    exists_of_any ((loop.foldl next (empty {})).find 2) (fun d => 1 ∈ d.parent) (by decide +kernel)
  exact (h {} loop hsuccessful).parents 1 (.tail (.single hup) hdown)

end DomainRegistry

end ThermalGovernor
