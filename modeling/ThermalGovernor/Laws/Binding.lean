import ThermalGovernor.Laws.Hysteresis
import ThermalGovernor.Laws.Samples
import ThermalGovernor.Lib.Journal
import ThermalGovernor.Policy.Requirements

/-!
# What recovery evidence is bound to

A recovery sample carries the generation of its domain and the incarnation it was taken by,
and the walk over the samples compares the boot, the epoch and the device generation, but
neither the domain generation nor the worker.  An update of a domain keeps its history, and
of the records it invalidates those that name the domain.

So recovery evidence belongs to the current configuration (`CurrentEvidence`) in the runs in
which a domain is updated only while it has no admissible sample and rests on no record that
stays valid, and no record is accepted after which a boot number stands for two workers in
one domain (`currentEvidence_of_logged`).
-/

namespace ThermalGovernor

open Lib

/-- The record held for the key is one the domain is evaluated from. -/
def ReadBy (definition : ThermalDomainDefinition) (evidence : Table String ThermalEvidence)
    (key : String) : Prop :=
  (evidence.lookup key).isSome = true ∧
    (key = (SubjectRef.forDomain definition.id definition.generation).key ∨
      ((evidence.lookup
          (SubjectRef.forDomain definition.id definition.generation).key).isNone = true ∧
        ∃ m ∈ definition.members, m.subject.key = key))

/-- No admissible sample has the boot number of the governing record and another worker. -/
def OneWorker (samples : List RecoverySample) (governing : ThermalEvidence) : Prop :=
  ∀ s ∈ samples, s.admissible = true → s.workerBoot = governing.workerBoot →
    s.worker = governing.worker

/-- The key of the subject of an accepted record. -/
def Acceptance.key (a : Acceptance) : String := a.evidence.subject.key

/-- What is remembered is bound to the current definitions. -/
structure Memory.Bound (m : Memory) (log : List Acceptance) : Prop where
  unregistered : ∀ id, m.domains.find id = none → (m.histories id).samples = []
  known : ∀ a ∈ log, ∀ id, m.domains.find id = none → a.domains.find id = none
  generation : ∀ id definition, m.domains.find id = some definition →
    ∀ s ∈ (m.histories id).samples, s.admissible = true →
      s.domainGeneration = definition.generation
  worker : ∀ id definition d, m.domains.find id = some definition →
    gatherDomainEvidence definition m.evidence = some d →
      OneWorker (m.histories id).samples d.evidence
  invalidated : ∀ id definition key a before, m.domains.find id = some definition →
    ReadBy definition m.evidence key → newest Acceptance.key key log = some a →
      a.domains.find id = some before → before.generation ≠ definition.generation →
        key ∈ m.invalidated

namespace Governor

variable {g : Governor} {s : Governor × List Acceptance} {op : Operation}
  {config : GovernorConfig} {now : SteadyTimePoint}

/-- The samples that an evaluation of the domain counts towards recovery. -/
def countedSamples (g : Governor) (definition : ThermalDomainDefinition)
    (policy : ThermalPolicy) : List RecoverySample :=
  let input := (g.evaluation definition policy).1
  match resolvedEvidence input with
  | some e => qualifyingRun policy
      (recoveryInputFor input (computeHeadroom (headroomInputFor input e)))
  | none => []

/-- Recovery evidence belongs to the current configuration. -/
structure CurrentEvidence (s : Governor × List Acceptance) : Prop where
  counted : ∀ id definition policy e, s.1.domains.find id = some definition →
    s.1.policyFor definition = some policy → s.1.governing id = some e →
    ∀ sample ∈ s.1.countedSamples definition policy,
      sample.domainGeneration = definition.generation ∧
      (policy.recovery.requireSameWorkerBoot = true →
        sample.worker = e.worker ∧ sample.workerBoot = e.workerBoot)
  fresh : ∀ id definition key a before, s.1.domains.find id = some definition →
    ReadBy definition s.1.evidence key → newest Acceptance.key key s.2 = some a →
    a.domains.find id = some before → before.generation ≠ definition.generation →
    ∀ policy (e : ThermalEvidence), e.subject.key = key →
      s.1.classifyFreshness policy e ≠ .fresh

/-- An operation that leaves nothing of an earlier configuration behind. -/
structure KeepsBound (g : Governor) (op : Operation) : Prop where
  update : ∀ definition, op = .updateThermalDomain definition →
    g.domains.checkUpdate definition = .ok () →
    (∀ s ∈ (g.recoveryHistories definition.id).samples, s.admissible = false) ∧
    ∀ key, ReadBy definition g.evidence key →
      key ∈ g.invalidatedEvidence ∪ g.supersededKeys definition
  publication : ∀ e, g.acceptedBy op = some e → ∀ id definition d,
    g.domains.find id = some definition →
    gatherDomainEvidence definition (g.evidence.insert e.subject.key e) = some d →
      OneWorker ((g.recoveryHistories id).pushAll (g.domains.sampleIn e id)).samples d.evidence

/-! ### One step -/

variable {m m' : Memory} {log : List Acceptance}

/-- Fewer samples and more invalidated records keep the memory bound. -/
theorem bound_of_less (h : m.Bound log) (hdomains : m'.domains = m.domains)
    (hevidence : m'.evidence = m.evidence) (hinvalidated : m.invalidated ⊆ m'.invalidated)
    (hhistories : ∀ id, (m'.histories id).samples.Sublist (m.histories id).samples) :
    m'.Bound log := by
  refine ⟨fun id hnone => ?_, fun a ha id hnone => ?_, fun id definition hfind s hs => ?_,
    fun id definition d hfind hgather s hs => ?_, fun id definition key a before hfind hread => ?_⟩
  · rw [hdomains] at hnone
    exact List.sublist_nil.mp (h.unregistered id hnone ▸ hhistories id)
  · rw [hdomains] at hnone
    exact h.known a ha id hnone
  · rw [hdomains] at hfind
    exact h.generation id definition hfind s ((hhistories id).subset hs)
  · rw [hdomains] at hfind
    rw [hevidence] at hgather
    exact h.worker id definition d hfind hgather s ((hhistories id).subset hs)
  · rw [hdomains] at hfind
    rw [hevidence] at hread
    intro hnewest hbefore hother
    exact hinvalidated (h.invalidated id definition key a before hfind hread hnewest hbefore hother)

/-- A new domain starts with nothing to be bound. -/
theorem bound_enter (h : m.Bound log) (capacity : Nat) {definition : ThermalDomainDefinition}
    (hnew : m.domains.find definition.id = none) : (m.enter capacity definition).Bound log := by
  have hsub := sublist_enter m capacity definition
  have hempty : ((m.enter capacity definition).histories definition.id).samples = [] :=
    List.sublist_nil.mp (h.unregistered definition.id hnew ▸ hsub definition.id)
  have hfind : ∀ id, (m.enter capacity definition).domains.find id =
      if id = definition.id then some definition else m.domains.find id :=
    DomainRegistry.find_store _ _
  refine ⟨fun id hnone => ?_, fun a ha id hnone => ?_, fun id d hd s hs => ?_,
    fun id d gathered hd hgather s hs => ?_, fun id d key a before hd hread hnewest hbefore => ?_⟩
  · rw [hfind] at hnone
    split at hnone
    · cases hnone
    · exact List.sublist_nil.mp (h.unregistered id hnone ▸ hsub id)
  · rw [hfind] at hnone
    split at hnone
    · cases hnone
    · exact h.known a ha id hnone
  · rw [hfind] at hd
    split at hd
    · rename_i hid
      rw [hid, hempty] at hs
      cases hs
    · exact h.generation id d hd s ((hsub id).subset hs)
  · rw [hfind] at hd
    split at hd
    · rename_i hid
      rw [hid, hempty] at hs
      cases hs
    · exact h.worker id d gathered hd hgather s ((hsub id).subset hs)
  · rw [hfind] at hd
    split at hd
    · rename_i hid
      have ha : a ∈ log := List.mem_reverse.mp (List.mem_of_find?_eq_some hnewest)
      rw [hid, h.known a ha definition.id hnew] at hbefore
      cases hbefore
    · exact h.invalidated id d key a before hd hread hnewest hbefore

theorem bound_enters {capacity : Nat} (hentered : Memory.Enters capacity m m')
    (h : m.Bound log) : m'.Bound log := by
  refine preserved_of_reflTransGen (I := fun m' : Memory => m'.Bound log) ?_ hentered h
  rintro m₁ m₂ ⟨definition, hcheck, rfl⟩ h₁
  exact bound_enter h₁ capacity (DomainRegistry.checkAdd_eq_ok.mp hcheck).new

/-- What is forgotten is bound. -/
theorem bound_forget (h : m.Bound log) : m.forget.Bound log := by
  refine ⟨fun id _ => rfl, fun a ha id hnone => h.known a ha id hnone,
    fun id definition _ s hs => (by cases hs), fun id definition d _ _ s hs => (by cases hs),
    fun id definition key a before _ hread => ?_⟩
  have hgone := hread.1
  cases hgone

/-- A record of another subject is read after the acceptance only if it was before. -/
theorem readBy_of_insert {definition : ThermalDomainDefinition}
    {evidence : Table String ThermalEvidence} {e : ThermalEvidence} {key : String}
    (hother : key ≠ e.subject.key)
    (h : ReadBy definition (evidence.insert e.subject.key e) key) :
    ReadBy definition evidence key := by
  obtain ⟨hheld, hreads⟩ := h
  rw [Table.lookup_insert_eq_ite, if_neg hother] at hheld
  refine ⟨hheld, hreads.imp_right fun ⟨hdirect, hmember⟩ => ⟨?_, hmember⟩⟩
  rw [Table.lookup_insert_eq_ite] at hdirect
  split at hdirect
  · cases hdirect
  · exact hdirect

/-- An accepted record is bound to the domains of its moment. -/
theorem bound_accept {e : ThermalEvidence} (h : g.memory.Bound log)
    (hworker : ∀ id definition d, g.domains.find id = some definition →
      gatherDomainEvidence definition (g.evidence.insert e.subject.key e) = some d →
        OneWorker ((g.recoveryHistories id).pushAll (g.domains.sampleIn e id)).samples
          d.evidence) :
    (g.memory.accept e).Bound (log ++ [⟨e, g.domains⟩]) := by
  have hsub : ∀ id, ((g.memory.accept e).histories id).samples.Sublist
      ((g.recoveryHistories id).samples ++ (g.domains.sampleIn e id).toList) :=
    fun id => sublist_pushAll _ _
  refine ⟨fun id hnone => ?_, fun a ha id hnone => ?_, fun id definition hfind s hs => ?_,
    fun id definition d hfind hgather => hworker id definition d hfind hgather,
    fun id definition key a before hfind hread hnewest hbefore hother => ?_⟩
  · have hunsampled : g.domains.sampleIn e id = none := by
      unfold DomainRegistry.sampleIn
      rw [show g.domains.find id = none from hnone, Option.map_none, ite_self]
    have hold : (g.recoveryHistories id).samples = [] := h.unregistered id hnone
    have hempty := hsub id
    rw [hunsampled, Option.toList_none, List.append_nil, hold] at hempty
    exact List.sublist_nil.mp hempty
  · rcases List.mem_append.mp ha with hold | hnew
    · exact h.known a hold id hnone
    · obtain rfl := List.mem_singleton.mp hnew
      exact hnone
  · intro hadmissible
    rcases List.mem_append.mp ((hsub id).subset hs) with hold | hnew
    · exact h.generation id definition hfind s hold hadmissible
    · -- the sample of the record carries the generation of now
      have hsample := Option.mem_toList.mp hnew
      unfold DomainRegistry.sampleIn at hsample
      rw [show g.domains.find id = some definition from hfind] at hsample
      split at hsample
      · obtain rfl := Option.some.inj hsample
        rfl
      · cases hsample
  · have hlog : newest Acceptance.key key (log ++ [⟨e, g.domains⟩]) =
        if e.subject.key = key then some ⟨e, g.domains⟩ else newest Acceptance.key key log :=
      newest_concat log _
    rw [hlog] at hnewest
    split at hnewest
    · -- the record itself was accepted under the definition of now
      obtain rfl := Option.some.inj hnewest
      have hsame : before = definition :=
        Option.some.inj (hbefore.symm.trans hfind)
      exact absurd (congrArg ThermalDomainDefinition.generation hsame) hother
    · rename_i hkey
      have hkey' : key ≠ e.subject.key := fun hsame => hkey hsame.symm
      exact Finset.mem_erase.mpr ⟨hkey', h.invalidated id definition key a before hfind
        (readBy_of_insert hkey' hread) hnewest hbefore hother⟩

/-- A domain that is updated with nothing of the old generation left is bound to the new one. -/
theorem bound_update {definition : ThermalDomainDefinition} (h : g.memory.Bound log)
    (hsamples : ∀ s ∈ (g.recoveryHistories definition.id).samples, s.admissible = false)
    (hrecords : ∀ key, ReadBy definition g.evidence key →
      key ∈ g.invalidatedEvidence ∪ g.supersededKeys definition) :
    ({ g.memory with
        domains := g.domains.store definition
        invalidated := g.invalidatedEvidence ∪ g.supersededKeys definition } : Memory).Bound
      log := by
  have hfind : ∀ id, (g.domains.store definition).find id =
      if id = definition.id then some definition else g.domains.find id :=
    DomainRegistry.find_store _ _
  refine ⟨fun id hnone => ?_, fun a ha id hnone => ?_, fun id d hd s hs hadmissible => ?_,
    fun id d gathered hd hgather s hs hadmissible => ?_,
    fun id d key a before hd hread hnewest hbefore hother => ?_⟩
  · rw [hfind] at hnone
    split at hnone
    · cases hnone
    · exact h.unregistered id hnone
  · rw [hfind] at hnone
    split at hnone
    · cases hnone
    · exact h.known a ha id hnone
  · rw [hfind] at hd
    split at hd
    · rename_i hid
      rw [hsamples s (hid ▸ hs)] at hadmissible
      cases hadmissible
    · exact h.generation id d hd s hs hadmissible
  · rw [hfind] at hd
    split at hd
    · rename_i hid
      rw [hsamples s (hid ▸ hs)] at hadmissible
      cases hadmissible
    · exact h.worker id d gathered hd hgather s hs hadmissible
  · rw [hfind] at hd
    split at hd
    · obtain rfl := Option.some.inj hd
      exact hrecords key hread
    · exact Finset.mem_union_left _
        (h.invalidated id d key a before hd hread hnewest hbefore hother)

/-- An operation that retires an incarnation publishes nothing. -/
theorem acceptedBy_of_retires {worker : WorkerId} {boot : WorkerBootId}
    (h : g.retires op = some (worker, boot)) : g.acceptedBy op = none := by
  cases op with
  | registerWorker | noteWorkerDeath => rfl
  | _ => cases h

/-- **An operation that leaves nothing behind keeps the memory bound.** -/
theorem bound_memoryStep (hstep : MemoryStep g op m) (hop : g.KeepsBound op)
    (h : g.memory.Bound log) :
    m.Bound (log ++ ((g.acceptedBy op).map fun e => ⟨e, g.domains⟩).toList) := by
  have hquiet : ∀ m : Memory, g.acceptedBy op = none → m.Bound log →
      m.Bound (log ++ ((g.acceptedBy op).map fun e => ⟨e, g.domains⟩).toList) := by
    intro m hnone hm
    rw [hnone, Option.map_none, Option.toList_none, List.append_nil]
    exact hm
  cases hstep with
  | accepted _ e haccepted =>
    rw [haccepted]
    exact bound_accept h (hop.publication e haccepted)
  | kept _ hnone => exact hquiet _ hnone h
  | entered definition hcheck =>
    exact hquiet _ rfl (bound_enter h _ (DomainRegistry.checkAdd_eq_ok.mp hcheck).new)
  | updated definition hcheck =>
    obtain ⟨hsamples, hrecords⟩ := hop.update definition rfl hcheck
    exact hquiet _ rfl (bound_update h hsamples hrecords)
  | retired _ worker boot hretires =>
    exact hquiet _ (acceptedBy_of_retires hretires)
      (bound_of_less h rfl rfl Finset.subset_union_left fun id => List.filter_sublist)
  | loaded _ _ hentered => exact hquiet _ rfl (bound_enters hentered h)
  | restarted _ _ hentered => exact hquiet _ rfl (bound_forget (bound_enters hentered h))

/-! ### Runs -/

/-- The states of a coordinator under a condition, with the records accepted on the way. -/
abbrev LoggedUnder (allowed : Governor → Operation → Prop) (config : GovernorConfig)
    (now : SteadyTimePoint) (s : Governor × List Acceptance) : Prop :=
  RunUnder applyLogged (fun s op => allowed s.1 op) (create config now, []) s

theorem bound_of_loggedUnder (h : LoggedUnder KeepsBound config now s) :
    s.1.memory.Bound s.2 := by
  refine RunUnder.invariant (I := fun s : Governor × List Acceptance => s.1.memory.Bound s.2) h
    ?_ fun s op hs hop => bound_memoryStep (s.1.memoryStep_apply op) hop hs
  exact ⟨fun id _ => rfl, fun a ha => (by cases ha), fun id definition hfind => (by cases hfind),
    fun id definition d hfind => (by cases hfind),
    fun id definition key a before hfind => (by cases hfind)⟩

theorem reachable_of_loggedUnder {allowed : Governor → Operation → Prop}
    (h : LoggedUnder allowed config now s) : s.1.Reachable :=
  RunUnder.invariant (I := fun s : Governor × List Acceptance => s.1.Reachable) h
    ⟨config, now, .refl⟩ fun _ op hs _ => hs.apply op

/-- A sample that counts is in the history of the domain, admissible, and of the boot of the
governing record if the policy asks for that. -/
theorem mem_countedSamples {definition : ThermalDomainDefinition} {policy : ThermalPolicy}
    {sample : RecoverySample} (h : sample ∈ g.countedSamples definition policy) :
    sample ∈ (g.recoveryHistories definition.id).samples ∧ sample.admissible = true ∧
      (policy.recovery.requireSameWorkerBoot = true →
        ∀ d, gatherDomainEvidence definition g.evidence = some d →
          sample.workerBoot = d.evidence.workerBoot) := by
  unfold countedSamples at h
  dsimp only at h
  split at h
  · have hqualifies := List.mem_takeWhile_imp h
    have hhistory := (List.takeWhile_sublist _).subset h
    simp only [qualifies, withinGate, bindingBroken, Bool.and_eq_true, Bool.not_eq_true',
      Bool.or_eq_false_iff] at hqualifies
    refine ⟨List.mem_reverse.mp hhistory, hqualifies.1.1.1, fun hsame d hd => ?_⟩
    have hboot := hqualifies.1.1.2.1.1
    rw [hsame, Bool.true_and, bne_eq_false_iff_eq] at hboot
    rw [hboot]
    show ((((gatherDomainEvidence definition g.evidence).map DomainEvidence.evidence).map
      ThermalEvidence.workerBoot).getD 0) = _
    rw [hd]
    rfl
  · cases h

/-- **Recovery evidence belongs to the current configuration** in every run in which no update
leaves samples or valid records of the old generation behind, and no accepted record brings two
workers of one boot number together. -/
theorem currentEvidence_of_logged (h : LoggedUnder KeepsBound config now s) :
    CurrentEvidence s := by
  have hbound := bound_of_loggedUnder h
  have hkeyed := keyedDomains_of_reachable (reachable_of_loggedUnder h)
  refine ⟨fun id definition policy e hfind hpolicy hgoverning sample hsample => ?_,
    fun id definition key a before hfind hread hnewest hbefore hother policy e hkey => ?_⟩
  · obtain ⟨hmem, hadmissible, hboot⟩ := mem_countedSamples hsample
    rw [hkeyed id definition hfind] at hmem
    refine ⟨hbound.generation id definition hfind sample hmem hadmissible, fun hsame => ?_⟩
    unfold governing at hgoverning
    rw [hfind, Option.bind_some] at hgoverning
    obtain ⟨d, hd, rfl⟩ := Option.map_eq_some_iff.mp hgoverning
    have hsameBoot := hboot hsame d hd
    exact ⟨hbound.worker id definition d hfind hd sample hmem hadmissible hsameBoot, hsameBoot⟩
  · have hinvalidated : key ∈ s.1.invalidatedEvidence :=
      hbound.invalidated id definition key a before hfind hread hnewest hbefore hother
    unfold classifyFreshness
    rw [hkey, if_pos hinvalidated]
    exact fun hfresh => by cases hfresh

section Deployment

open Deployment

/-- A reading by no worker, in a domain that was never updated. -/
theorem keepsBound_reading :
    (after []).KeepsBound
      (.publishTemperature (reading 40 1 0)) := by
  refine ⟨fun definition hop => (by cases hop), fun e he id definition d hfind hgather => ?_⟩
  obtain rfl : reading 40 1 0 = e := Option.some.inj (publication_of_acceptedBy he)
  have hdomains : ∀ id, (after []).domains.find id = if id = 1 then some domain else none :=
    fun id => DomainRegistry.find_store _ _ id
  rw [hdomains] at hfind
  split at hfind
  · rename_i hid
    subst hid
    obtain rfl := Option.some.inj hfind
    have hone : ((gatherDomainEvidence domain
        ((after []).evidence.insert (reading 40 1 0).subject.key (reading 40 1 0))).all fun d =>
      (((after []).recoveryHistories 1).pushAll
        ((after []).domains.sampleIn (reading 40 1 0) 1)).samples.all fun s =>
          s.worker = d.evidence.worker) = true := by decide +kernel
    rw [hgather, Option.all_some, List.all_eq_true] at hone
    exact fun s hs _ _ => of_decide_eq_true (hone s hs)
  · cases hfind

theorem keepsBound_of_quiet (hpublishes : op.publication = none)
    (hupdates : ∀ definition, op ≠ .updateThermalDomain definition) : g.KeepsBound op := by
  refine ⟨fun definition hop => absurd hop (hupdates definition), fun e he => ?_⟩
  have haccepted := publication_of_acceptedBy he
  rw [hpublishes] at haccepted
  cases haccepted

theorem currentEvidence_readOnce : CurrentEvidence (loggedAfter readOnce) :=
  currentEvidence_of_logged (.tail _ (.tail _ (.tail _ .refl
    (keepsBound_of_quiet rfl fun _ hop => (by cases hop)))
    (keepsBound_of_quiet rfl fun _ hop => (by cases hop))) keepsBound_reading)

/-- A cool domain is updated; its readings did not name it. -/
def renewed : List Operation :=
  [.tick 3000000000, .publishTemperature (reading 70 1 1000000000),
    .publishTemperature (reading 70 2 2000000000), .publishTemperature (reading 70 3 3000000000),
    .updateThermalDomain { domain with generation := 2 }]

/-- Two workers of one boot number read the device. -/
def sharedBoot : List Operation :=
  [.registerWorker 1 1 "first", .registerWorker 2 1 "second",
    .publishTemperature (readingBy 1 1 70 1 0), .publishTemperature (readingBy 2 1 70 1 0)]

/-- A record of the old generation stays fresh, and samples of another worker count. -/
theorem not_currentEvidence :
    Logged Deployment.config 0 (loggedAfter renewed) ∧
    Logged Deployment.config 0 (loggedAfter sharedBoot) ∧
    ¬ CurrentEvidence (loggedAfter renewed) ∧ ¬ CurrentEvidence (loggedAfter sharedBoot) := by
  refine ⟨logged_loggedAfter _, logged_loggedAfter _, fun h => ?_, fun h => ?_⟩
  · -- the record held for the device was accepted under generation 1
    obtain ⟨definition, hfind, hgeneration, hread⟩ := exists_of_any
      ((loggedAfter renewed).1.domains.find 1)
      (fun definition => definition.generation = 2 ∧
        ((loggedAfter renewed).1.evidence.lookup (SubjectRef.forDevice 1 1).key).isSome = true ∧
        ((loggedAfter renewed).1.evidence.lookup
          (SubjectRef.forDomain definition.id definition.generation).key).isNone = true ∧
        ∃ m ∈ definition.members, m.subject.key = (SubjectRef.forDevice 1 1).key)
      (by decide +kernel)
    obtain ⟨a, ha, hbefore⟩ := exists_of_any
      (newest Acceptance.key (SubjectRef.forDevice 1 1).key (loggedAfter renewed).2)
      (fun a => (a.domains.find 1).any (fun d => d.generation = 1) = true) (by decide +kernel)
    obtain ⟨before, hfound, hold⟩ := exists_of_any (a.domains.find 1)
      (fun d : ThermalDomainDefinition => d.generation = 1) hbefore
    have hother : before.generation ≠ definition.generation := by
      rw [hold, hgeneration]
      decide
    exact h.fresh 1 definition _ a before hfind ⟨hread.1, .inr hread.2⟩ ha hfound hother
      .makeDefault (reading 70 3 3000000000) rfl (by decide +kernel)
  · obtain ⟨definition, hfind, hpolicy⟩ := exists_of_any
      ((loggedAfter sharedBoot).1.domains.find 1)
      (fun definition => ((loggedAfter sharedBoot).1.policyFor definition).any (fun policy =>
        policy.recovery.requireSameWorkerBoot = true ∧
        ((loggedAfter sharedBoot).1.countedSamples definition policy).any
          (fun sample => sample.worker = 1) = true) = true) (by decide +kernel)
    obtain ⟨policy, hgoverned, hrequired, hcounted⟩ := exists_of_any
      ((loggedAfter sharedBoot).1.policyFor definition) _ hpolicy
    obtain ⟨sample, hsample, hworker⟩ := List.any_eq_true.mp hcounted
    obtain ⟨e, hgoverning, hsecond⟩ := exists_of_any ((loggedAfter sharedBoot).1.governing 1)
      (fun e => e.worker = 2) (by decide +kernel)
    have hsame := ((h.counted 1 definition policy e hfind hgoverned hgoverning sample
      hsample).2 hrequired).1
    rw [of_decide_eq_true hworker, hsecond] at hsame
    cases hsame

end Deployment

end Governor

end ThermalGovernor
