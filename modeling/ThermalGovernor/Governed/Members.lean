import ThermalGovernor.Governed.Rests

/-!
# The evidence that governs a domain

A domain is governed by the record held for the domain itself, else by those held for its
members.  So a record that is accepted changes what governs a domain only if its subject is
the domain or one of the members, and in the second case the membership index lists the
domain under the key of the subject (`indexedMembers_of_reachable`): it is among those that
the publication recomputes.
-/

namespace ThermalGovernor

open Lib

/-! ### The membership index -/

namespace DomainRegistry

/-- Indexing one membership lists its domain under the key of its subject, and no other. -/
theorem mem_lookup_indexMember {index : Table String (List ThermalDomainId)}
    {owner id : ThermalDomainId} {member : DomainMember} {key : String} :
    id ∈ ((indexMember owner index member).lookup key).getD [] ↔
      id ∈ (index.lookup key).getD [] ∨ (id = owner ∧ member.subject.key = key) := by
  unfold indexMember
  rw [Table.lookup_insert_eq_ite]
  split
  · rename_i hkey
    rw [Option.getD_some, hkey, List.mem_append, List.mem_singleton]
    simp only [and_true]
  · rename_i hkey
    rw [or_iff_left fun h => hkey h.2.symm]

theorem mem_lookup_foldl_indexMember {owner id : ThermalDomainId} {key : String}
    (members : List DomainMember) {index : Table String (List ThermalDomainId)} :
    id ∈ ((members.foldl (indexMember owner) index).lookup key).getD [] ↔
      id ∈ (index.lookup key).getD [] ∨ (id = owner ∧ ∃ m ∈ members, m.subject.key = key) := by
  induction members generalizing index with
  | nil => simp
  | cons first rest ih =>
    rw [List.foldl_cons, ih, mem_lookup_indexMember]
    simp only [List.exists_mem_cons_iff]
    tauto

/-- The index over a list of definitions. -/
def indexDefinitions (definitions : List ThermalDomainDefinition)
    (index : Table String (List ThermalDomainId)) : Table String (List ThermalDomainId) :=
  definitions.foldl (fun index d => d.members.foldl (indexMember d.id) index) index

theorem mem_lookup_indexDefinitions {id : ThermalDomainId} {key : String}
    (definitions : List ThermalDomainDefinition) {index : Table String (List ThermalDomainId)} :
    id ∈ ((indexDefinitions definitions index).lookup key).getD [] ↔
      id ∈ (index.lookup key).getD [] ∨
        ∃ d ∈ definitions, id = d.id ∧ ∃ m ∈ d.members, m.subject.key = key := by
  induction definitions generalizing index with
  | nil => simp [indexDefinitions]
  | cons first rest ih =>
    rw [indexDefinitions, List.foldl_cons, ← indexDefinitions, ih, mem_lookup_foldl_indexMember]
    simp only [List.exists_mem_cons_iff]
    exact or_assoc

theorem domainsForSubject_rebuild (r : DomainRegistry) (subject : SubjectRef) :
    r.rebuildMembership.domainsForSubject subject =
      (((indexDefinitions (Table.values r.definitions) ∅).lookup subject.key).map
        fun ids => (ids.insertionSort (· ≤ ·)).dedup).getD [] :=
  congrArg (fun listed => Option.getD listed []) (Table.lookup_mapValues _ _ _)

/-- **A rebuilt index lists the definitions that have a member of the key, and no others.** -/
theorem mem_domainsForSubject_rebuild (r : DomainRegistry) {id : ThermalDomainId}
    {subject : SubjectRef} :
    id ∈ r.rebuildMembership.domainsForSubject subject ↔
      ∃ d ∈ Table.values r.definitions, id = d.id ∧
        ∃ m ∈ d.members, m.subject.key = subject.key := by
  have hindexed := @mem_lookup_indexDefinitions id subject.key (Table.values r.definitions) ∅
  have hempty : id ∉ ((∅ : Table String (List ThermalDomainId)).lookup subject.key).getD [] :=
    List.not_mem_nil
  rw [or_iff_right hempty] at hindexed
  rw [domainsForSubject_rebuild, ← hindexed]
  cases (indexDefinitions (Table.values r.definitions) ∅).lookup subject.key with
  | none => exact Iff.rfl
  | some ids =>
    rw [Option.map_some, Option.getD_some, Option.getD_some, List.mem_dedup,
      List.mem_insertionSort]

/-- The same for definitions that stand under their own ids. -/
theorem mem_domainsForSubject_keyed {r : DomainRegistry} {id : ThermalDomainId}
    {subject : SubjectRef} (hkeyed : ∀ id d, r.find id = some d → d.id = id) :
    id ∈ r.rebuildMembership.domainsForSubject subject ↔
      ∃ d, r.find id = some d ∧ ∃ m ∈ d.members, m.subject.key = subject.key := by
  rw [mem_domainsForSubject_rebuild]
  constructor
  · rintro ⟨d, hd, rfl, hmember⟩
    obtain ⟨id, hfind⟩ := Table.mem_values.mp hd
    rw [hkeyed id d hfind]
    exact ⟨d, hfind, hmember⟩
  · rintro ⟨d, hfind, hmember⟩
    exact ⟨d, Table.mem_values.mpr ⟨id, hfind⟩, (hkeyed id d hfind).symm, hmember⟩

/-- The ids it lists are in order, each once. -/
theorem pairwise_domainsForSubject_rebuild (r : DomainRegistry) {subject : SubjectRef} :
    (r.rebuildMembership.domainsForSubject subject).Pairwise (· < ·) := by
  rw [domainsForSubject_rebuild]
  cases (indexDefinitions (Table.values r.definitions) ∅).lookup subject.key with
  | none => exact .nil
  | some ids =>
    have hsorted : (ids.insertionSort (· ≤ ·)).dedup.Pairwise (· ≤ ·) :=
      (List.pairwise_insertionSort _ _).sublist (List.dedup_sublist _)
    exact (hsorted.and (List.nodup_dedup _)).imp fun h => lt_of_le_of_ne h.1 h.2

end DomainRegistry

/-- The key of a subject tells its kind. -/
theorem SubjectRef.kind_of_key {a b : SubjectRef} (h : a.key = b.key) : a.kind = b.kind := by
  have hstart : ∀ s : SubjectRef, s.key.toList.take 2 = s.kind.text.toList.take 2 := by
    intro s
    have hkey : ∃ rest : String, s.key = s.kind.text ++ rest :=
      ⟨":" ++ _, by rw [key, String.append_assoc]⟩
    obtain ⟨rest, hkey⟩ := hkey
    rw [hkey, String.toList_append, List.take_append_of_le_length]
    cases s.kind <;> decide
  have htext : a.kind.text.toList.take 2 = b.kind.text.toList.take 2 := by
    rw [← hstart a, h, hstart b]
  revert htext
  cases a.kind <;> cases b.kind <;> decide

namespace Governor

variable {put : ThermalPolicy → Prop} {g g' : Governor} {id : ThermalDomainId}

/-- Every domain is indexed under each of its members. -/
def IndexedMembers (g : Governor) : Prop :=
  ∀ id definition, g.domains.find id = some definition → ∀ member ∈ definition.members,
    id ∈ g.domains.domainsForSubject member.subject

/-- The index lists under a subject the domains with a member of its key, and no others. -/
def IndexesMembers (g : Governor) : Prop :=
  ∀ id subject, id ∈ g.domains.domainsForSubject subject ↔
    ∃ definition, g.domains.find id = some definition ∧
      ∃ m ∈ definition.members, m.subject.key = subject.key

theorem indexesMembers_write (h : Write put g g') (hkeyed : g.KeyedDomains)
    (hg : g.IndexesMembers) : g'.IndexesMembers := by
  intro id subject
  have hkeyed' := keyedDomains_write h hkeyed
  rcases h.domains with hsame | ⟨stored, -, hstored⟩
  · rw [hsame]
    exact hg id subject
  · rw [hstored]
    rw [KeyedDomains, hstored] at hkeyed'
    exact DomainRegistry.mem_domainsForSubject_keyed hkeyed'

theorem indexesMembers_of_reachable (hg : g.Reachable) : g.IndexesMembers := by
  obtain ⟨config, now, hrun⟩ := hg
  have hinv : g.KeyedDomains ∧ g.IndexesMembers := by
    refine invariant_of_writes (I := fun g => g.KeyedDomains ∧ g.IndexesMembers) hrun
      (fun g g' hwrite hg => ?_) ⟨fun id definition hfind => (by cases hfind),
        fun id subject => ⟨fun h => (by cases h), fun ⟨_, h, _⟩ => (by cases h)⟩⟩
    exact ⟨keyedDomains_write hwrite hg.1, indexesMembers_write hwrite hg.1 hg.2⟩
  exact hinv.2

theorem indexedMembers_of_reachable (hg : g.Reachable) : g.IndexedMembers :=
  fun id definition hfind member hmember =>
    (indexesMembers_of_reachable hg id member.subject).mpr ⟨definition, hfind, member, hmember, rfl⟩

/-! ### Governing evidence -/

/-- The record that governs a domain. -/
def governing (g : Governor) (id : ThermalDomainId) : Option ThermalEvidence :=
  (g.domains.find id).bind fun definition =>
    (gatherDomainEvidence definition g.evidence).map DomainEvidence.evidence

theorem governing_congr (hdomains : g'.domains.find id = g.domains.find id)
    (hevidence : g'.evidence = g.evidence) : g'.governing id = g.governing id := by
  rw [governing, hdomains, hevidence, governing]

/-- Records of subjects that the domain has nothing to do with do not change what governs it. -/
theorem gatherDomainEvidence_insert {definition : ThermalDomainDefinition}
    {evidence : Table String ThermalEvidence} {key : String} (e : ThermalEvidence)
    (hdirect : key ≠ (SubjectRef.forDomain definition.id definition.generation).key)
    (hmembers : ∀ member ∈ definition.members, member.subject.key ≠ key) :
    gatherDomainEvidence definition (evidence.insert key e) =
      gatherDomainEvidence definition evidence := by
  have hevidence : memberEvidence definition (evidence.insert key e) =
      memberEvidence definition evidence :=
    List.filterMap_congr fun member hmember => AList.lookup_insert_ne (hmembers member hmember)
  unfold gatherDomainEvidence
  rw [AList.lookup_insert_ne hdirect.symm, hevidence]

/-- **What an accepted record changes**: a domain that the index does not list under its
subject is governed by what governed it before, or now by no device. -/
theorem governing_accept (hindexed : g.IndexedMembers) (e : ThermalEvidence)
    (hdomains : g'.domains = g.domains)
    (hevidence : g'.evidence = g.evidence.insert e.subject.key e)
    (hid : id ∉ g.domains.domainsForSubject e.subject) :
    g'.governing id = g.governing id ∨
      ∀ e', g'.governing id = some e' → e'.subject.kind ≠ .device := by
  unfold governing
  rw [hdomains, hevidence]
  cases hfind : g.domains.find id with
  | none => exact .inl rfl
  | some definition =>
    rw [Option.bind_some, Option.bind_some]
    by_cases hdirect :
        e.subject.key = (SubjectRef.forDomain definition.id definition.generation).key
    · right
      intro e' he'
      have hgathered : gatherDomainEvidence definition (g.evidence.insert e.subject.key e) =
          some { evidence := e } := by
        unfold gatherDomainEvidence
        rw [← hdirect, AList.lookup_insert]
      rw [hgathered] at he'
      obtain rfl := Option.some.inj he'
      rw [SubjectRef.kind_of_key hdirect]
      show SubjectKind.thermalDomain ≠ .device
      decide
    · left
      rw [gatherDomainEvidence_insert e hdirect]
      intro member hmember hkey
      refine hid ?_
      have hlisted := hindexed id definition hfind member hmember
      unfold DomainRegistry.domainsForSubject at hlisted ⊢
      rw [← hkey]
      exact hlisted

end Governor

end ThermalGovernor
