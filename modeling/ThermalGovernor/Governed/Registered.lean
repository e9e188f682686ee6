import ThermalGovernor.Governed.Rounds

/-!
# What the registry has made sure of

A definition passes its checks when it enters the registry or replaces another, and the
registry forgets no domain, so what was checked of every definition it holds still is so
(`Governable`).  Two conditions are checked at the entry only, and a replacement need not
meet them: weights are positive, and the node sensor that governs has a member.

The graph of couplings is canonical: sorted, with one edge an id.
-/

namespace ThermalGovernor

open Lib

namespace DomainRegistry

variable {r : DomainRegistry} {d : ThermalDomainDefinition}

/-- What is checked of a definition whether it is new or replaces another. -/
structure Governable (r : DomainRegistry) (d : ThermalDomainDefinition) : Prop where
  id : d.id ≠ 0
  generation : d.generation ≠ 0
  declared : d.provenance ≠ .unknown
  governed : d.provenance ≠ .unsupported
  members : d.members.length ≤ r.limits.maxMembersPerDomain
  children : d.children.length ≤ r.limits.maxChildrenPerDomain
  parent : ∀ p ∈ d.parent, (r.find p).isSome = true
  child : ∀ c ∈ d.children, (r.find c).isSome = true

theorem Admits.governable (h : r.Admits d) : r.Governable d :=
  ⟨isValid_eq_true.mp h.id, isValid_eq_true.mp h.generation, h.declared, h.governed, h.members,
    h.children, h.parent, h.child⟩

/-- All children of a replacement are registered. -/
theorem isSome_of_checkChild {id : ThermalDomainId} {children : List ThermalDomainId}
    (h : children.foldl (fun status c => status.bind fun _ => r.checkChild id c)
      (.ok () : Status) = .ok ()) : ∀ c ∈ children, (r.find c).isSome = true := by
  have hfailed : ∀ (list : List ThermalDomainId) (e : ThermalError),
      list.foldl (fun status c => status.bind fun _ => r.checkChild id c) (.error e : Status) =
        .error e := by
    intro list e
    induction list with
    | nil => rfl
    | cons c rest ih => exact ih
  induction children with
  | nil =>
    intro c hc
    cases hc
  | cons first rest ih =>
    rw [List.foldl_cons] at h
    have hbind : (Except.ok () : Status).bind (fun _ => r.checkChild id first) =
        r.checkChild id first := rfl
    rw [hbind] at h
    cases hfirst : r.checkChild id first with
    | error e =>
      rw [hfirst, hfailed] at h
      cases h
    | ok =>
      rw [hfirst] at h
      intro c hc
      rcases List.mem_cons.mp hc with rfl | hrest
      · rw [checkChild, ite_failure_eq_ok, ite_failure_eq_ok] at hfirst
        exact Option.isSome_iff_ne_none.mpr (by simpa using hfirst.2.1)
      · exact ih h c hrest

theorem governable_of_checkUpdate {held : ThermalDomainDefinition}
    (hheld : r.find d.id = some held) (hid : d.id ≠ 0) (h : r.checkUpdate d = .ok ()) :
    r.Governable d := by
  rw [checkUpdate, hheld] at h
  simp only [ite_failure_eq_ok] at h
  obtain ⟨hgeneration, hprovenance, hmembers, hchildren, -, hparent, hchild⟩ := h
  rw [Bool.or_eq_true, not_or] at hprovenance
  have hlater : held.generation < d.generation := not_le.mp hgeneration
  refine ⟨hid, Nat.ne_zero_of_lt hlater, by simpa using hprovenance.1, by simpa using hprovenance.2,
    not_lt.mp hmembers, not_lt.mp hchildren, fun p hp => ?_, isSome_of_checkChild hchild⟩
  rw [Option.mem_def.mp hp] at hparent
  simpa [Option.isSome_iff_ne_none] using hparent

/-- Nothing that was registered is missing from the later registry. -/
theorem Governable.of_isSome {r' : DomainRegistry} (h : r.Governable d)
    (hlimits : r'.limits = r.limits)
    (hfind : ∀ id, (r.find id).isSome = true → (r'.find id).isSome = true) : r'.Governable d :=
  ⟨h.id, h.generation, h.declared, h.governed, hlimits ▸ h.members, hlimits ▸ h.children,
    fun p hp => hfind p (h.parent p hp), fun c hc => hfind c (h.child c hc)⟩

@[simp] theorem limits_store : (r.store d).limits = r.limits := rfl

theorem isSome_find_store {id : ThermalDomainId} (h : (r.find id).isSome = true) :
    ((r.store d).find id).isSome = true := by
  rw [find_store]
  split
  · rfl
  · exact h

theorem size_store_of_isSome (h : (r.find d.id).isSome = true) : (r.store d).size = r.size :=
  Table.size_insert_of_mem (AList.lookup_isSome.mp h)

theorem size_store_of_none (h : r.find d.id = none) : (r.store d).size = r.size + 1 :=
  Table.size_insert_of_notMem (AList.lookup_eq_none.mp h)

/-- Every definition stands under its own id and meets what was checked, and the registry
has not outgrown its bound. -/
structure Sound (r : DomainRegistry) : Prop where
  room : r.size ≤ r.limits.maxDomains
  keyed : ∀ id d, r.find id = some d → d.id = id
  governable : ∀ id d, r.find id = some d → r.Governable d

theorem Sound.store (h : r.Sound) (hnew : r.Governable d)
    (hroom : r.find d.id = none → r.size < r.limits.maxDomains) : (r.store d).Sound := by
  refine ⟨?_, fun id d' hfind => ?_, fun id d' hfind => ?_⟩
  · rw [limits_store]
    cases hheld : r.find d.id with
    | none =>
      rw [size_store_of_none hheld]
      exact hroom hheld
    | some held =>
      rw [size_store_of_isSome (by rw [hheld]; rfl)]
      exact h.room
  · rw [find_store] at hfind
    split at hfind
    · rename_i hid
      obtain rfl := Option.some.inj hfind
      exact hid.symm
    · exact h.keyed id d' hfind
  · have hkept : r.Governable d' := by
      rw [find_store] at hfind
      split at hfind
      · obtain rfl := Option.some.inj hfind
        exact hnew
      · exact h.governable id d' hfind
    exact hkept.of_isSome limits_store fun id hid => isSome_find_store hid

end DomainRegistry

namespace Governor

variable {put : ThermalPolicy → Prop} {g g' : Governor}

/-- The registry is sound and has the bounds of a new one, and the couplings are canonical. -/
structure WellRegistered (g : Governor) : Prop where
  sound : g.domains.Sound
  limits : g.domains.limits = {}
  couplings : g.couplings.Canonical

theorem wellRegistered_write (h : Write put g g') (hg : g.WellRegistered) : g'.WellRegistered := by
  obtain ⟨hsound, hlimits, hcanonical⟩ := hg
  have hcouplings : g'.couplings.Canonical := by
    rcases h.couplings with hsame | ⟨relation, -, -, hadded⟩ | ⟨id, hremoved⟩
    · rw [hsame]
      exact hcanonical
    · rw [hadded]
      exact CouplingGraph.canonical_add hcanonical relation
    · exact CouplingGraph.canonical_remove hcanonical hremoved
  rcases h.domains with hsame | ⟨definition, hcheck, hstored⟩
  · rw [← hsame] at hsound hlimits
    exact ⟨hsound, hlimits, hcouplings⟩
  · refine ⟨?_, by rw [hstored, DomainRegistry.limits_store, hlimits], hcouplings⟩
    rw [hstored]
    rcases hcheck with hadd | hupdate
    · have hadmits := DomainRegistry.checkAdd_eq_ok.mp hadd
      exact hsound.store hadmits.governable fun _ => hadmits.room
    · cases hheld : g.domains.find definition.id with
      | none =>
        rw [DomainRegistry.checkUpdate, hheld] at hupdate
        cases hupdate
      | some held =>
        have hid : definition.id ≠ 0 := by
          rw [← hsound.keyed definition.id held hheld]
          exact (hsound.governable definition.id held hheld).id
        exact hsound.store (DomainRegistry.governable_of_checkUpdate hheld hid hupdate)
          fun hnone => by rw [hheld] at hnone; cases hnone

/-- **The registry is sound and the couplings canonical in every state.** -/
theorem wellRegistered_of_reachable (hg : g.Reachable) : g.WellRegistered := by
  obtain ⟨config, now, hrun⟩ := hg
  refine invariant_of_writes hrun (fun _ _ => wellRegistered_write) ⟨⟨?_, ?_, ?_⟩, rfl, ?_⟩
  · exact Nat.zero_le _
  · intro id d hfind
    cases hfind
  · intro id d hfind
    cases hfind
  · exact CouplingGraph.canonical_nil

end Governor

end ThermalGovernor
