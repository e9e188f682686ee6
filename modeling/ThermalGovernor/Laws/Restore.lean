import ThermalGovernor.Durable.Sound
import ThermalGovernor.Laws.Restart

/-!
# A load that fails on the way

`loadDurable` enters one table after the other and stops at the first definition the registry
refuses, or at the first coupling of an unknown domain.  What it has entered by then stays.

`keepsState_iff` : a failed load has left the state as it was exactly when it could not have
failed on the way, the file being absent, undecodable or restorable to the end, or when
nothing of the file that comes before the refused entry was new.
-/

namespace ThermalGovernor

open Lib Durable

/-! ### Tables and edges that are entered again -/

namespace Lib.Table

variable {κ α : Type} [DecidableEq κ] {key : α → κ} {list : List α}

/-- Of values with different keys, each is found under its key. -/
theorem lookup_foldl_insert_of_mem (hunique : (list.map key).Nodup) (start : Table κ α) {a : α}
    (ha : a ∈ list) :
    (list.foldl (fun t a => t.insert (key a) a) start).lookup (key a) = some a := by
  induction list generalizing start a with
  | nil => cases ha
  | cons b rest ih =>
    obtain ⟨hb, hrest⟩ := List.nodup_cons.mp hunique
    rw [List.foldl_cons]
    rcases List.mem_cons.mp ha with rfl | ha
    · have hlater := lookup_foldl_insert (fun b hmem => ih hrest (start.insert (key a) a) hmem)
        (start.insert (key a) a) (key a)
      rw [if_neg hb] at hlater
      rw [hlater]
      exact AList.lookup_insert start
    · exact ih hrest _ ha

/-- **Entering values changes nothing exactly when they were all there.** -/
theorem lookup_foldl_insert_same (hunique : (list.map key).Nodup) (start : Table κ α) :
    (∀ k, (list.foldl (fun t a => t.insert (key a) a) start).lookup k = start.lookup k) ↔
      ∀ a ∈ list, start.lookup (key a) = some a := by
  constructor
  · intro h a ha
    rw [← h, lookup_foldl_insert_of_mem hunique start ha]
  · intro h k
    rw [lookup_foldl_insert h, ite_self]

end Lib.Table

namespace CouplingGraph

variable {couplings : CouplingGraph} {edge : CouplingRelation}

theorem mem_replaceOrAppend_self (edge : CouplingRelation) (couplings : CouplingGraph) :
    edge ∈ couplings.replaceOrAppend edge := by
  induction couplings with
  | nil => exact List.mem_singleton_self edge
  | cons e rest ih =>
    rw [replaceOrAppend]
    split
    · exact List.mem_cons_self
    · exact List.mem_cons_of_mem e ih

theorem mem_replaceOrAppend_of_ne {other : CouplingRelation} (h : other ∈ couplings)
    (hne : other.id ≠ edge.id) : other ∈ couplings.replaceOrAppend edge := by
  induction couplings with
  | nil => cases h
  | cons e rest ih =>
    rw [replaceOrAppend]
    rcases List.mem_cons.mp h with rfl | hrest
    · rw [if_neg hne]
      exact List.mem_cons_self
    · split
      · exact List.mem_cons_of_mem edge hrest
      · exact List.mem_cons_of_mem e (ih hrest)

theorem replaceOrAppend_of_mem (hunique : (couplings.map CouplingRelation.id).Nodup)
    (h : edge ∈ couplings) : couplings.replaceOrAppend edge = couplings := by
  induction couplings with
  | nil => cases h
  | cons e rest ih =>
    obtain ⟨he, hrest⟩ := List.nodup_cons.mp hunique
    rw [replaceOrAppend]
    rcases List.mem_cons.mp h with rfl | hmem
    · rw [if_pos rfl]
    · have hne : e.id ≠ edge.id := by
        intro hid
        rw [hid] at he
        exact he (List.mem_map_of_mem hmem)
      rw [if_neg hne, ih hrest hmem]

theorem add_of_mem (h : couplings.Canonical) (hmem : edge ∈ couplings) :
    couplings.add edge = couplings := by
  rw [add, replaceOrAppend_of_mem h.unique hmem]
  exact h.sorted.insertionSort_eq

/-- Of edges with different ids, each is in the graph they are added to. -/
theorem mem_foldl_add {list : List CouplingRelation}
    (hunique : (list.map CouplingRelation.id).Nodup) (couplings : CouplingGraph)
    (hmem : edge ∈ list) : edge ∈ list.foldl add couplings := by
  have hkeeps : ∀ (list : List CouplingRelation) (couplings : CouplingGraph),
      edge.id ∉ list.map CouplingRelation.id → edge ∈ couplings →
        edge ∈ list.foldl add couplings := by
    intro list
    induction list with
    | nil => exact fun _ _ h => h
    | cons e rest ih =>
      intro couplings hnew h
      rw [List.map_cons, List.mem_cons, not_or] at hnew
      exact ih _ hnew.2 ((List.mem_insertionSort _).mpr (mem_replaceOrAppend_of_ne h hnew.1))
  induction list generalizing couplings with
  | nil => cases hmem
  | cons e rest ih =>
    obtain ⟨he, hrest⟩ := List.nodup_cons.mp hunique
    rw [List.foldl_cons]
    rcases List.mem_cons.mp hmem with rfl | hmem
    · exact hkeeps rest _ he
        ((List.mem_insertionSort _).mpr (mem_replaceOrAppend_self edge couplings))
    · exact ih hrest _ hmem

/-- **Adding edges changes nothing exactly when they were all there.** -/
theorem foldl_add_same {list : List CouplingRelation}
    (hunique : (list.map CouplingRelation.id).Nodup) (h : couplings.Canonical) :
    list.foldl add couplings = couplings ↔ ∀ edge ∈ list, edge ∈ couplings := by
  constructor
  · intro hsame edge hedge
    rw [← hsame]
    exact mem_foldl_add hunique couplings hedge
  · intro hmem
    induction list with
    | nil => rfl
    | cons e rest ih =>
      obtain ⟨he, hrest⟩ := List.forall_mem_cons.mp hmem
      rw [List.foldl_cons, add_of_mem h he]
      exact ih (List.nodup_cons.mp hunique).2 hrest

end CouplingGraph

/-! ### What a load enters -/

namespace DomainRegistry

variable {r : DomainRegistry} {list : List ThermalDomainDefinition}

/-- The registry takes the definitions one after the other. -/
def TakesAll (r : DomainRegistry) : List ThermalDomainDefinition → Prop
  | [] => True
  | d :: rest => r.Admits d ∧ (r.store d).TakesAll rest

/-- The registry with the definitions in it. -/
def storeAll (r : DomainRegistry) (list : List ThermalDomainDefinition) : DomainRegistry :=
  list.foldl store r

/-- Both ends of an edge are registered. -/
def knowsEnds (r : DomainRegistry) (edge : CouplingRelation) : Bool :=
  (r.find edge.source).isSome && (r.find edge.destination).isSome

theorem isSome_find_storeAll (r : DomainRegistry) (list : List ThermalDomainDefinition)
    (id : ThermalDomainId) : ((r.storeAll list).find id).isSome = true ↔
      (r.find id).isSome = true ∨ id ∈ list.map ThermalDomainDefinition.id := by
  induction list generalizing r with
  | nil => simp [storeAll]
  | cons d rest ih =>
    have hrest := ih (r.store d)
    rw [storeAll] at hrest ⊢
    rw [List.foldl_cons, hrest, find_store, List.map_cons, List.mem_cons]
    by_cases hid : id = d.id
    · simp [hid]
    · simp [hid]

end DomainRegistry

namespace Governor

variable {g g' : Governor} {file : DurableState}

/-- The registry refuses nothing of the file, and no coupling of it names an unknown domain. -/
structure Restorable (g : Governor) (file : DurableState) : Prop where
  domains : g.domains.TakesAll file.domains
  couplings : ∀ edge ∈ file.couplings, ∀ id ∈ [edge.source, edge.destination],
    (g.domains.find id).isSome = true ∨ id ∈ file.domains.map ThermalDomainDefinition.id

/-- What is configured in the file is held already. -/
structure HoldsConfiguration (g : Governor) (file : DurableState) : Prop where
  policies : ∀ policy ∈ file.policies, g.policies.lookup policy.id = some policy
  policyGeneration : file.policyGeneration ≤ g.policyGeneration
  topologyGeneration : file.topologyGeneration ≤ g.topologyGeneration
  sequence : file.sequence ≤ g.sequence
  devices : file.devices = []

/-- Nothing of the file is new that comes before its first definition, which the registry
refuses, or before its first coupling of an unknown domain when it has no definitions. -/
structure AddsNothing (g : Governor) (file : DurableState) : Prop where
  configuration : g.HoldsConfiguration file
  domains : ∀ d ∈ file.domains.head?, ¬ g.domains.Admits d
  couplings : file.domains = [] → ∀ edge ∈ file.couplings.takeWhile g.domains.knowsEnds,
    edge ∈ g.couplings

/-- The load cannot fail on the way, or nothing is new before it does. -/
def LoadsWhole (g : Governor) (content : Option (Result DurableState)) : Prop :=
  g.config.durablePath.isEmpty = true ∨
    ∀ file, content = some (.ok file) → g.Restorable file ∨ g.AddsNothing file

/-- Nothing that is governed or recorded has changed. -/
structure KeepsState (g g' : Governor) : Prop where
  policies : ∀ id, g'.policies.lookup id = g.policies.lookup id
  devices : ∀ id, g'.devices.lookup id = g.devices.lookup id
  domains : ∀ id, g'.domains.find id = g.domains.find id
  couplings : g'.couplings = g.couplings
  epoch : g'.epoch = g.epoch
  policyGeneration : g'.policyGeneration = g.policyGeneration
  topologyGeneration : g'.topologyGeneration = g.topologyGeneration
  capabilityGeneration : g'.capabilityGeneration = g.capabilityGeneration
  actionGeneration : g'.actionGeneration = g.actionGeneration
  verificationGeneration : g'.verificationGeneration = g.verificationGeneration
  telemetryGeneration : g'.telemetryGeneration = g.telemetryGeneration
  recoveryGeneration : g'.recoveryGeneration = g.recoveryGeneration
  sequence : g'.sequence = g.sequence
  history : g'.history = g.history
  actions : g'.actions = g.actions
  verifications : g'.verifications = g.verifications
  evidence : g'.evidence = g.evidence
  invalidatedEvidence : g'.invalidatedEvidence = g.invalidatedEvidence
  evaluations : g'.evaluations = g.evaluations

theorem KeepsState.refl (g : Governor) : KeepsState g g :=
  ⟨fun _ => rfl, fun _ => rfl, fun _ => rfl, rfl, rfl, rfl, rfl, rfl, rfl, rfl, rfl, rfl, rfl, rfl,
    rfl, rfl, rfl, rfl, rfl⟩

/-- The state with the configuration of the file in it, and these domains and couplings. -/
def entered (g : Governor) (file : DurableState) (domains : DomainRegistry)
    (couplings : CouplingGraph) (histories : ThermalDomainId → RecoveryHistory) : Governor :=
  { g.restoreConfiguration file with
    domains := domains
    couplings := couplings
    recoveryHistories := histories }

theorem advance_ne (current : Nat) : advance current ≠ current := by
  unfold advance
  intro h
  have hlt := Nat.mod_lt (current + 1) (show 0 < wordSize by decide)
  rcases Nat.lt_or_ge (current + 1) wordSize with hsmall | hlarge
  · rw [Nat.mod_eq_of_lt hsmall] at h
    omega
  · have hcurrent : current + 1 = wordSize := by omega
    rw [hcurrent, Nat.mod_self] at h
    rw [← h] at hcurrent
    cases hcurrent

theorem observed_eq_iff {current observed : Nat} :
    (if isValid observed then observe current observed else current) = current ↔
      observed ≤ current := by
  unfold observe
  split
  · split <;> omega
  · rename_i h
    rw [isValid_eq_true, not_not] at h
    omega

/-- **The tables are kept exactly when nothing that is entered is new.** -/
theorem keepsState_entered {domains : DomainRegistry} {couplings : CouplingGraph}
    {histories : ThermalDomainId → RecoveryHistory}
    (hunique : (file.policies.map PolicyOver.id).Nodup) :
    KeepsState g (g.entered file domains couplings histories) ↔
      g.HoldsConfiguration file ∧ (∀ id, domains.find id = g.domains.find id) ∧
        couplings = g.couplings := by
  have hpolicies := Table.lookup_foldl_insert_same hunique g.policies
  constructor
  · intro h
    have hdevices : file.devices = [] := by
      by_contra hne
      have hcapability : (if file.devices.isEmpty then g.capabilityGeneration
          else advance g.capabilityGeneration) = g.capabilityGeneration := h.capabilityGeneration
      rw [if_neg (by rwa [List.isEmpty_iff])] at hcapability
      exact advance_ne _ hcapability
    refine ⟨⟨hpolicies.mp h.policies, observed_eq_iff.mp h.policyGeneration,
      observed_eq_iff.mp h.topologyGeneration, ?_, hdevices⟩, h.domains, h.couplings⟩
    exact max_eq_left_iff.mp h.sequence
  · rintro ⟨hheld, hdomains, hcouplings⟩
    refine { KeepsState.refl g with
      policies := hpolicies.mpr hheld.policies
      devices := fun id => ?_
      domains := hdomains
      couplings := hcouplings
      policyGeneration := observed_eq_iff.mpr hheld.policyGeneration
      topologyGeneration := observed_eq_iff.mpr hheld.topologyGeneration
      capabilityGeneration := ?_
      sequence := max_eq_left hheld.sequence }
    · show (file.devices.foldl (fun t d => t.insert d.device d) g.devices).lookup id = _
      rw [hheld.devices]
      rfl
    · show (if file.devices.isEmpty then g.capabilityGeneration
          else advance g.capabilityGeneration) = _
      rw [hheld.devices]
      rfl

/-! ### The loops of a load -/

theorem restoreDomains_of_takesAll {list : List ThermalDomainDefinition}
    (h : g.domains.TakesAll list) : ∃ histories, g.restoreDomains list =
      ({ g with domains := g.domains.storeAll list, recoveryHistories := histories }, .ok ()) := by
  induction list generalizing g with
  | nil => exact ⟨g.recoveryHistories, rfl⟩
  | cons d rest ih =>
    obtain ⟨hadmits, hrest⟩ := h
    have hadd : g.domains.add d = (g.domains.store d, .ok ()) := by
      rw [DomainRegistry.add, DomainRegistry.checkAdd_eq_ok.mpr hadmits]
    obtain ⟨histories, hrestored⟩ :=
      ih (g := openHistory { g with domains := g.domains.store d } d.id) hrest
    refine ⟨histories, ?_⟩
    rw [restoreDomains, hadd]
    exact hrestored

theorem add_of_not_admits {r : DomainRegistry} {d : ThermalDomainDefinition} (h : ¬ r.Admits d) :
    ∃ e, r.add d = (r, .error e) := by
  cases hcheck : r.checkAdd d with
  | error e => exact ⟨e, by rw [DomainRegistry.add, hcheck]⟩
  | ok => exact absurd (DomainRegistry.checkAdd_eq_ok.mp hcheck) h

/-- A definition that the registry refuses ends the load. -/
theorem restoreDomains_of_not_takesAll {list : List ThermalDomainDefinition}
    (h : ¬ g.domains.TakesAll list) : ∃ domains histories e,
      g.restoreDomains list =
        ({ g with domains := domains, recoveryHistories := histories }, .error e) := by
  induction list generalizing g with
  | nil => exact absurd trivial h
  | cons d rest ih =>
    rw [restoreDomains]
    by_cases hadmits : g.domains.Admits d
    · have hadd : g.domains.add d = (g.domains.store d, .ok ()) := by
        rw [DomainRegistry.add, DomainRegistry.checkAdd_eq_ok.mpr hadmits]
      obtain ⟨domains, histories, e, hrestored⟩ :=
        ih (g := openHistory { g with domains := g.domains.store d } d.id)
          fun hrest => h ⟨hadmits, hrest⟩
      rw [hadd]
      exact ⟨domains, histories, e, hrestored⟩
    · obtain ⟨e, hadd⟩ := add_of_not_admits hadmits
      rw [hadd]
      exact ⟨g.domains, g.recoveryHistories, _, rfl⟩

/-- The definitions before it are in place: the registry is as it was only when the first
definition is the one refused. -/
theorem find_restoreDomains_iff (g : Governor) (list : List ThermalDomainDefinition) :
    (∀ id, (g.restoreDomains list).1.domains.find id = g.domains.find id) ↔
      ∀ d ∈ list.head?, ¬ g.domains.Admits d := by
  cases list with
  | nil => exact ⟨fun _ d hd => (by cases hd), fun _ _ => rfl⟩
  | cons d rest =>
    simp only [List.head?_cons, Option.mem_some_iff, forall_eq']
    constructor
    · intro hsame hadmits
      have hadd : g.domains.add d = (g.domains.store d, .ok ()) := by
        rw [DomainRegistry.add, DomainRegistry.checkAdd_eq_ok.mpr hadmits]
      have hstored := (kept_restoreDomains
        (openHistory { g with domains := g.domains.store d } d.id) rest).find d.id d
          ((DomainRegistry.find_store g.domains d d.id).trans (if_pos rfl))
      have hfound := hsame d.id
      rw [hadmits.new, restoreDomains, hadd] at hfound
      rw [hfound] at hstored
      cases hstored
    · intro hadmits id
      obtain ⟨e, hadd⟩ := add_of_not_admits hadmits
      rw [restoreDomains, hadd]

theorem restoreCouplings_eq (g : Governor) (list : List CouplingRelation) :
    g.restoreCouplings list =
      ({ g with
          couplings := (list.takeWhile g.domains.knowsEnds).foldl CouplingGraph.add g.couplings },
        if list.all g.domains.knowsEnds then .ok ()
        else failure .persistenceCorrupt
          "persisted coupling references an unknown thermal domain") := by
  induction list generalizing g with
  | nil => rfl
  | cons edge rest ih =>
    rw [restoreCouplings, ← Option.not_isSome, ← Option.not_isSome, ← Bool.not_and]
    cases hknown : g.domains.knowsEnds edge with
    | false =>
      rw [DomainRegistry.knowsEnds] at hknown
      rw [if_pos (by rw [hknown]; rfl), List.takeWhile_cons_of_neg
        (by rw [DomainRegistry.knowsEnds, hknown]; exact Bool.false_ne_true), List.all_cons,
        DomainRegistry.knowsEnds, hknown]
      rfl
    | true =>
      rw [List.takeWhile_cons_of_pos hknown, List.all_cons, hknown]
      rw [DomainRegistry.knowsEnds] at hknown
      rw [if_neg (by rw [hknown]; decide)]
      exact ih { g with couplings := g.couplings.add edge }

/-! ### The whole load -/

/-- The registry refuses a definition of the file. -/
theorem restore_refused (h : ¬ g.domains.TakesAll file.domains) : ∃ domains histories e,
    g.restore file = (g.entered file domains g.couplings histories, .error e) ∧
      ((∀ id, domains.find id = g.domains.find id) ↔
        ∀ d ∈ file.domains.head?, ¬ g.domains.Admits d) := by
  obtain ⟨domains, histories, e, h₁⟩ :=
    restoreDomains_of_not_takesAll (g := g.restoreConfiguration file) h
  have hfind := (g.restoreConfiguration file).find_restoreDomains_iff file.domains
  rw [h₁] at hfind
  refine ⟨domains, histories, e, ?_, hfind⟩
  rw [restore, h₁]
  rfl

/-- The load gets as far as the couplings. -/
theorem restore_takesAll (h : g.domains.TakesAll file.domains) :
    ((∀ id, (g.domains.storeAll file.domains).find id = g.domains.find id) ↔
      ∀ d ∈ file.domains.head?, ¬ g.domains.Admits d) ∧
    if file.couplings.all (g.domains.storeAll file.domains).knowsEnds then
      (g.restore file).2 = .ok ()
    else ∃ histories e, g.restore file = (g.entered file (g.domains.storeAll file.domains)
      ((file.couplings.takeWhile (g.domains.storeAll file.domains).knowsEnds).foldl
        CouplingGraph.add g.couplings) histories, .error e) := by
  obtain ⟨histories, h₁⟩ := restoreDomains_of_takesAll (g := g.restoreConfiguration file) h
  have hfind := (g.restoreConfiguration file).find_restoreDomains_iff file.domains
  rw [h₁] at hfind
  refine ⟨hfind, ?_⟩
  obtain ⟨g₁, hg₁⟩ : ∃ g₁ : Governor, g₁ = { g.restoreConfiguration file with
      domains := g.domains.storeAll file.domains
      recoveryHistories := histories } := ⟨_, rfl⟩
  have hdomains : g₁.domains = g.domains.storeAll file.domains := by rw [hg₁]
  have hrestored : (g.restoreConfiguration file).restoreDomains file.domains = (g₁, .ok ()) := by
    rw [h₁, hg₁]
    rfl
  have h₂ := restoreCouplings_eq g₁ file.couplings
  rw [hdomains] at h₂
  rw [restore, hrestored]
  dsimp only
  rw [h₂]
  split
  · rfl
  · rw [hg₁]
    exact ⟨histories, _, rfl⟩

theorem restorable_iff : g.Restorable file ↔ g.domains.TakesAll file.domains ∧
    file.couplings.all (g.domains.storeAll file.domains).knowsEnds = true := by
  have hends : ∀ edge : CouplingRelation,
      (g.domains.storeAll file.domains).knowsEnds edge = true ↔
        ∀ id ∈ [edge.source, edge.destination], (g.domains.find id).isSome = true ∨
          id ∈ file.domains.map ThermalDomainDefinition.id := by
    intro edge
    rw [DomainRegistry.knowsEnds, Bool.and_eq_true, DomainRegistry.isSome_find_storeAll,
      DomainRegistry.isSome_find_storeAll]
    simp
  rw [List.all_eq_true]
  exact ⟨fun h => ⟨h.domains, fun edge hedge => (hends edge).mpr (h.couplings edge hedge)⟩,
    fun h => ⟨h.1, fun edge hedge => (hends edge).mp (h.2 edge hedge)⟩⟩

/-- **A refused load has kept the state exactly when nothing that it entered was new.** -/
theorem restore_keepsState_iff (hg : g.Reachable) (hunique : UniqueIds file) :
    ((g.restore file).2 ≠ .ok () → KeepsState g (g.restore file).1) ↔
      g.Restorable file ∨ g.AddsNothing file := by
  rw [restorable_iff]
  by_cases htakes : g.domains.TakesAll file.domains
  · obtain ⟨hfind, hrestored⟩ := restore_takesAll htakes
    have hnone : (∀ d ∈ file.domains.head?, ¬ g.domains.Admits d) → file.domains = [] := by
      intro hhead
      cases hdomains : file.domains with
      | nil => rfl
      | cons d rest =>
        rw [hdomains] at hhead htakes
        exact absurd htakes.1 (hhead d rfl)
    cases hknown : file.couplings.all (g.domains.storeAll file.domains).knowsEnds with
    | true =>
      rw [if_pos hknown] at hrestored
      exact ⟨fun _ => .inl ⟨htakes, rfl⟩, fun _ hfailed => absurd hrestored hfailed⟩
    | false =>
      rw [if_neg (by rw [hknown]; exact Bool.false_ne_true)] at hrestored
      obtain ⟨histories, e, hrestored⟩ := hrestored
      rw [hrestored, keepsState_entered hunique.policies, hfind]
      have hprefix : ((file.couplings.takeWhile (g.domains.storeAll file.domains).knowsEnds).map
          CouplingRelation.id).Nodup :=
        hunique.couplings.sublist ((List.takeWhile_sublist _).map _)
      rw [CouplingGraph.foldl_add_same hprefix (wellRegistered_of_reachable hg).couplings]
      constructor
      · intro h
        obtain ⟨hheld, hhead, hcouplings⟩ := h (by intro hok; cases hok)
        refine .inr ⟨hheld, hhead, fun hdomains => ?_⟩
        rw [hdomains] at hcouplings
        exact hcouplings
      · rintro (⟨-, hall⟩ | ⟨hheld, hhead, hcouplings⟩)
        · cases hall
        · intro _
          have hdomains := hnone hhead
          refine ⟨hheld, hhead, ?_⟩
          rw [hdomains]
          exact hcouplings hdomains
  · obtain ⟨domains, histories, e, hrestored, hfind⟩ := restore_refused htakes
    rw [hrestored, keepsState_entered hunique.policies, hfind]
    have hsome : file.domains ≠ [] := by
      intro hdomains
      rw [hdomains] at htakes
      exact htakes trivial
    constructor
    · intro h
      obtain ⟨hheld, hhead, -⟩ := h (by intro hok; cases hok)
      exact .inr ⟨hheld, hhead, fun hdomains => absurd hdomains hsome⟩
    · rintro (⟨hall, -⟩ | ⟨hheld, hhead, -⟩)
      · exact absurd hall htakes
      · exact fun _ => ⟨hheld, hhead, rfl⟩

/-- **A load that fails leaves the state as it was exactly when it cannot fail on the way, or
nothing that comes before the refused entry is new.** -/
theorem keepsState_iff (hg : g.Reachable) (content : Option (Result DurableState))
    (hunique : ∀ file, content = some (.ok file) → UniqueIds file) :
    ((g.loadDurable content).2 ≠ .ok () → KeepsState g (g.loadDurable content).1) ↔
      g.LoadsWhole content := by
  unfold loadDurable LoadsWhole
  cases hpath : g.config.durablePath.isEmpty with
  | true =>
    rw [if_pos rfl]
    exact ⟨fun _ => .inl rfl, fun _ _ => KeepsState.refl g⟩
  | false =>
    rw [if_neg Bool.false_ne_true]
    simp only [Bool.false_eq_true, false_or]
    match content, hunique with
    | none, _ => exact ⟨fun _ file hfile => (by cases hfile), fun _ _ => KeepsState.refl g⟩
    | some (.error e), _ =>
      exact ⟨fun _ file hfile => (by cases hfile), fun _ _ => KeepsState.refl g⟩
    | some (.ok file), hunique =>
      rw [restore_keepsState_iff hg (hunique file rfl)]
      simp

/-! ### A load that stops at the second domain -/

/-- A domain that can be registered beside that of the deployment, and one below a domain that
nobody knows. -/
def halfRestorable : Container :=
  container
    { formatVersion := persistenceFormatVersion
      domains := [Deployment.secondDomain, { Deployment.domain with id := 3, parent := some 9 }] }

theorem keepsState_halfRestorable :
    (((Deployment.after []).loadDurable (some (decodeDurableState halfRestorable {}))).2 ≠ .ok () →
      KeepsState (Deployment.after [])
        ((Deployment.after []).loadDurable (some (decodeDurableState halfRestorable {}))).1) ↔
      (Deployment.after []).LoadsWhole (some (decodeDurableState halfRestorable {})) :=
  keepsState_iff (Deployment.reachable_after []) _ fun _ hfile =>
    (bounded_of_decode (Option.some.inj hfile)).unique

/-- The first of the two domains stays when the second is refused. -/
theorem not_keepsState : ¬ ∀ (g : Governor) (limits : PersistenceLimits) (file : Container),
    g.Reachable → (g.load limits file).2 ≠ .ok () → KeepsState g (g.load limits file).1 := by
  intro hclaim
  have hfailed : ((Deployment.after []).load {} halfRestorable).2 ≠ .ok () := by decide +kernel
  have hkept := hclaim (Deployment.after []) {} halfRestorable (Deployment.reachable_after [])
    hfailed
  have hbefore : ((Deployment.after []).domains.find 2).isSome = false := by decide +kernel
  have hafter :
      (((Deployment.after []).load {} halfRestorable).1.domains.find 2).isSome = true := by
    decide +kernel
  rw [hkept.domains, hbefore] at hafter
  cases hafter

end Governor

end ThermalGovernor
