import ThermalGovernor.Governed.Members
import ThermalGovernor.Ledger.Memory

/-!
# Where the samples of a domain come from

A recovery sample does not say which subject it was taken from.  The records that were
accepted, each with the domains of its moment, are carried along a run beside the state
(`applyLogged`); a history holds some of the samples they left (`sampled_of_logged`).

A record leaves a sample in every domain its subject is a member of, and in the domain it
names.  So all samples come from the subjects of their domains in the runs in which every
record names such a domain, if any, and in no others (`sampledByMembers_iff`).
-/

namespace ThermalGovernor

open Lib

/-- An accepted record, with the domains as they were then. -/
structure Acceptance where
  evidence : ThermalEvidence
  domains : DomainRegistry

/-- The subject of the record is a member of the domain, or the domain itself. -/
def ThermalEvidence.BelongsTo (e : ThermalEvidence) (definition : ThermalDomainDefinition) :
    Prop :=
  (∃ m ∈ definition.members, m.subject.key = e.subject.key) ∨
    e.subject.key = (SubjectRef.forDomain definition.id definition.generation).key

namespace Acceptance

/-- The sample the record left in a domain. -/
def leaves (a : Acceptance) (domain : ThermalDomainId) : Option RecoverySample :=
  a.domains.sampleIn a.evidence domain

/-- The domain that the record names, if it names one, is one it belongs to. -/
def NamesOwn (a : Acceptance) : Prop :=
  isValid a.evidence.domain = true → ∀ definition,
    a.domains.find a.evidence.domain = some definition → a.evidence.BelongsTo definition

end Acceptance

namespace Governor

variable {s : Governor × List Acceptance} {op : Operation} {config : GovernorConfig}
  {now : SteadyTimePoint}

/-- One operation, with the records accepted so far carried along. -/
def applyLogged (s : Governor × List Acceptance) (op : Operation) :
    Governor × List Acceptance :=
  (s.1.apply op, s.2 ++ ((s.1.acceptedBy op).map fun e => ⟨e, s.1.domains⟩).toList)

/-- The states of a coordinator, with the records accepted on the way. -/
abbrev Logged (config : GovernorConfig) (now : SteadyTimePoint)
    (s : Governor × List Acceptance) : Prop :=
  RunUnder applyLogged (fun _ _ => True) (create config now, []) s

/-- The samples of every domain were left there by accepted records of its own subjects. -/
structure SampledByMembers (s : Governor × List Acceptance) : Prop where
  sampled : ∀ domain, (s.1.recoveryHistories domain).samples.Sublist
    (s.2.filterMap fun a => a.leaves domain)
  belongs : ∀ a ∈ s.2, ∀ domain sample, a.leaves domain = some sample →
    ∃ definition, a.domains.find domain = some definition ∧ a.evidence.BelongsTo definition

/-! ### Histories -/

theorem sublist_pushAll (h : RecoveryHistory) (sample : Option RecoverySample) :
    (h.pushAll sample).samples.Sublist (h.samples ++ sample.toList) := by
  cases sample with
  | none =>
    rw [Option.toList_none, List.append_nil]
    exact List.Sublist.refl _
  | some s => exact List.drop_sublist _ _

/-- Entering a domain adds no sample. -/
theorem sublist_enter (m : Memory) (capacity : Nat) (definition : ThermalDomainDefinition)
    (domain : ThermalDomainId) :
    ((m.enter capacity definition).histories domain).samples.Sublist
      (m.histories domain).samples := by
  show (Function.update m.histories definition.id _ domain).samples.Sublist _
  by_cases hsame : domain = definition.id
  · subst hsame
    rw [Function.update_self]
    exact List.drop_sublist _ _
  · rw [Function.update_of_ne hsame]

theorem sublist_enters {capacity : Nat} {m m' : Memory} (h : Memory.Enters capacity m m')
    (domain : ThermalDomainId) :
    (m'.histories domain).samples.Sublist (m.histories domain).samples := by
  refine preserved_of_reflTransGen
    (I := fun m' => (m'.histories domain).samples.Sublist (m.histories domain).samples)
    ?_ h (List.Sublist.refl _)
  rintro m₁ m₂ ⟨definition, -, rfl⟩ h₁
  exact (sublist_enter m₁ capacity definition domain).trans h₁

/-- **An operation adds no sample but the one of the record it gets accepted.** -/
theorem sublist_memoryStep {g : Governor} {m : Memory} (hstep : MemoryStep g op m)
    (domain : ThermalDomainId) :
    (m.histories domain).samples.Sublist
      ((g.recoveryHistories domain).samples ++
        ((g.acceptedBy op).bind fun e => g.domains.sampleIn e domain).toList) := by
  have hkept := List.sublist_append_left (g.recoveryHistories domain).samples
    ((g.acceptedBy op).bind fun e => g.domains.sampleIn e domain).toList
  cases hstep with
  | kept => exact hkept
  | entered definition => exact (sublist_enter _ _ definition domain).trans hkept
  | updated => exact hkept
  | accepted _ e h =>
    rw [h, Option.bind_some]
    exact sublist_pushAll _ _
  | retired => exact List.filter_sublist.trans hkept
  | loaded _ _ h => exact (sublist_enters h domain).trans hkept
  | restarted => exact List.nil_sublist _

/-- **Every history holds some of the samples that accepted records left in it.** -/
theorem sampled_of_logged (h : Logged config now s) (domain : ThermalDomainId) :
    (s.1.recoveryHistories domain).samples.Sublist
      (s.2.filterMap fun a => a.leaves domain) := by
  refine RunUnder.invariant (I := fun s => (s.1.recoveryHistories domain).samples.Sublist
    (s.2.filterMap fun a => a.leaves domain)) h (List.nil_sublist _) fun s op hs _ => ?_
  have hleft : ((s.1.acceptedBy op).bind fun e => s.1.domains.sampleIn e domain).toList =
      ((s.1.acceptedBy op).map fun e => (⟨e, s.1.domains⟩ : Acceptance)).toList.filterMap
        fun a => a.leaves domain := by
    cases s.1.acceptedBy op with
    | none => rfl
    | some e =>
      rw [Option.bind_some, Option.map_some, Option.toList_some, List.filterMap_cons,
        Acceptance.leaves]
      cases s.1.domains.sampleIn e domain <;> rfl
  have hstep := sublist_memoryStep (s.1.memoryStep_apply op) domain
  rw [hleft] at hstep
  rw [applyLogged, List.filterMap_append]
  exact hstep.trans (hs.append_right _)

/-! ### Subjects -/

/-- **A record leaves samples only in domains it belongs to, exactly when the domain it names is
one of them.** -/
theorem belongs_iff (a : Acceptance)
    (hindexed : ∀ id subject, id ∈ a.domains.domainsForSubject subject ↔
      ∃ definition, a.domains.find id = some definition ∧
        ∃ m ∈ definition.members, m.subject.key = subject.key) :
    (∀ domain sample, a.leaves domain = some sample →
      ∃ definition, a.domains.find domain = some definition ∧
        a.evidence.BelongsTo definition) ↔ a.NamesOwn := by
  constructor
  · intro h hvalid definition hfind
    have hleaves : a.leaves a.evidence.domain =
        some (recoverySample a.evidence definition) := by
      rw [Acceptance.leaves, DomainRegistry.sampleIn, if_pos (.inr ⟨hvalid, rfl⟩), hfind,
        Option.map_some]
    obtain ⟨found, hfound, hbelongs⟩ := h _ _ hleaves
    rw [hfind] at hfound
    obtain rfl := Option.some.inj hfound
    exact hbelongs
  · intro h domain sample hleaves
    rw [Acceptance.leaves, DomainRegistry.sampleIn] at hleaves
    split at hleaves
    · rename_i hconcerned
      obtain ⟨definition, hfind, -⟩ := Option.map_eq_some_iff.mp hleaves
      rcases hconcerned with hlisted | ⟨hvalid, rfl⟩
      · obtain ⟨listed, hlisted, hmember⟩ := (hindexed domain _).mp hlisted
        exact ⟨listed, hlisted, .inl hmember⟩
      · exact ⟨definition, hfind, h hvalid definition hfind⟩
    · cases hleaves

/-- The domains of every accepted record were indexed by their members. -/
theorem indexed_of_logged (h : Logged config now s) : ∀ a ∈ s.2, ∀ id subject,
    id ∈ a.domains.domainsForSubject subject ↔
      ∃ definition, a.domains.find id = some definition ∧
        ∃ m ∈ definition.members, m.subject.key = subject.key := by
  have hinv : s.1.Reachable ∧ ∀ a ∈ s.2, ∀ id subject,
      id ∈ a.domains.domainsForSubject subject ↔
        ∃ definition, a.domains.find id = some definition ∧
          ∃ m ∈ definition.members, m.subject.key = subject.key := by
    refine RunUnder.invariant (I := fun s : Governor × List Acceptance => s.1.Reachable ∧
      ∀ a ∈ s.2, ∀ id subject, id ∈ a.domains.domainsForSubject subject ↔
        ∃ definition, a.domains.find id = some definition ∧
          ∃ m ∈ definition.members, m.subject.key = subject.key) h
      ⟨⟨config, now, .refl⟩, fun a ha => (by cases ha)⟩ fun s op hs _ => ?_
    refine ⟨hs.1.apply op, fun a ha => ?_⟩
    rcases List.mem_append.mp ha with hold | hnew
    · exact hs.2 a hold
    · obtain ⟨e, -, rfl⟩ := Option.map_eq_some_iff.mp (Option.mem_toList.mp hnew)
      exact indexesMembers_of_reachable hs.1
  exact hinv.2

/-- **In every run the samples of every domain come from its own subjects exactly when every
accepted record that names a domain belongs to it.** -/
theorem sampledByMembers_iff (h : Logged config now s) :
    SampledByMembers s ↔ ∀ a ∈ s.2, a.NamesOwn := by
  have hindexed := indexed_of_logged h
  constructor
  · intro hs a ha
    exact (belongs_iff a (hindexed a ha)).mp (hs.belongs a ha)
  · intro hnames
    exact ⟨sampled_of_logged h, fun a ha => (belongs_iff a (hindexed a ha)).mpr (hnames a ha)⟩

section Deployment

open Deployment

/-- The state after some operations, with the records accepted on the way. -/
def loggedAfter (operations : List Operation) : Governor × List Acceptance :=
  (setUp ++ operations).foldl applyLogged (create Deployment.config 0, [])

theorem logged_loggedAfter (operations : List Operation) :
    Logged Deployment.config 0 (loggedAfter operations) :=
  RunUnder.of_foldl (setUp ++ operations) (fun _ _ _ => trivial) _

/-- A reading of the device of the domain. -/
def readOnce : List Operation := [.publishTemperature (reading 40 1 0)]

theorem sampledByMembers_readOnce :
    SampledByMembers (loggedAfter readOnce) ↔ ∀ a ∈ (loggedAfter readOnce).2, a.NamesOwn :=
  sampledByMembers_iff (logged_loggedAfter _)

/-- A cool reading of the second device that names the domain of the first. -/
def foreignReading (sequence : Nat) (time : SteadyTimePoint) : ThermalEvidence :=
  { secondReading 40 sequence time with domain := 1, domainGeneration := 1 }

/-- A domain at 90 degrees, two readings of a foreign device, one of its own device. -/
def namedByForeigner : List Operation :=
  [.registerDevice secondDevice, .publishTemperature (reading 90 1 0),
    .tick 3000000000, .publishTemperature (foreignReading 1 1000000000),
    .publishTemperature (foreignReading 2 2000000000),
    .publishTemperature (reading 40 2 3000000000)]

/-- The foreign readings count, and the domain recovers on the first cool reading of its own. -/
theorem not_sampledByMembers :
    Logged Deployment.config 0 (loggedAfter namedByForeigner) ∧
    ((loggedAfter namedByForeigner).1.evaluations.lookup 1).any (fun e =>
      e.recovery.allowed && e.recovery.qualifyingSamples = 3) = true ∧
    ¬ SampledByMembers (loggedAfter namedByForeigner) := by
  refine ⟨logged_loggedAfter _, by decide +kernel, fun h => ?_⟩
  obtain ⟨a, ha, hleaves, hfind⟩ := exists_of_any
    (loggedAfter namedByForeigner).2[1]?
    (fun a => (a.leaves 1).isSome = true ∧ (a.domains.find 1).all (fun d =>
      d.members.all (fun m => m.subject.key ≠ a.evidence.subject.key) &&
        a.evidence.subject.key ≠ (SubjectRef.forDomain d.id d.generation).key) = true)
    (by decide +kernel)
  obtain ⟨sample, hsample⟩ := Option.isSome_iff_exists.mp hleaves
  obtain ⟨definition, hdefinition, hbelongs⟩ :=
    h.belongs a (List.mem_of_getElem? ha) 1 sample hsample
  rw [hdefinition, Option.all_some, Bool.and_eq_true, List.all_eq_true, decide_eq_true_eq]
    at hfind
  rcases hbelongs with ⟨m, hm, hkey⟩ | hkey
  · exact absurd hkey (of_decide_eq_true (hfind.1 m hm))
  · exact hfind.2 hkey

end Deployment

end Governor

end ThermalGovernor
