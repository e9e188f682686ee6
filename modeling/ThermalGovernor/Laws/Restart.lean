import ThermalGovernor.Durable.Container
import ThermalGovernor.Governed.Registered
import ThermalGovernor.Laws.Snapshot

/-!
# A restart

What `persist` wrote is loaded by a fresh coordinator of the same configuration.  The
registry takes the definitions again one by one, in the order of their ids, and refuses a
definition whose parent or child it has not seen, or whose aggregation it would not have
registered.  Where it refuses none (`Replayable`), everything governed comes back.

The history is the one persisted and goes on from there: the load evaluates every domain
anew and records what it finds, one record a domain.
-/

namespace ThermalGovernor

open Lib Durable

/-- The registry takes the definition when all definitions of smaller ids are registered. -/
@[mk_iff] structure ThermalDomainDefinition.Replayable (d : ThermalDomainDefinition) : Prop where
  parent : ∀ p ∈ d.parent, p < d.id
  children : ∀ c ∈ d.children, c < d.id
  weighted : d.aggregation = .configuredWeightedRule → ∀ m ∈ d.members, 0 < m.weight
  sensed : d.aggregation = .nodeSensorGoverns → ∃ m ∈ d.members, m.subject.kind = .node

instance : DecidablePred ThermalDomainDefinition.Replayable := fun d =>
  decidable_of_iff' _ (ThermalDomainDefinition.replayable_iff d)

namespace Ledger

/-- Every action is stored under its own id. -/
def KeyedActions (l : Ledger) : Prop := ∀ id action, l.actions.lookup id = some action →
  action.id = id

theorem keyedActions_insert {l : Ledger} (hl : l.KeyedActions) {id : ActionId}
    {action : ThermalAction} (h : action.id = id) (other : ActionId) (held : ThermalAction)
    (hlookup : (l.actions.insert id action).lookup other = some held) : held.id = other := by
  rw [Table.lookup_insert_eq_ite] at hlookup
  split at hlookup
  · rename_i hother
    obtain rfl := Option.some.inj hlookup
    exact h.trans hother.symm
  · exact hl other held hlookup

theorem keyedActions_move {ok : Ledger → Event → Prop} {l l' : Ledger} (h : Move ok l l')
    (hl : l.KeyedActions) : l'.KeyedActions := by
  cases h with
  | settle actions hsettled =>
    intro id action hlookup
    obtain ⟨before, hbefore, hsettles⟩ := exists_settles hsettled hlookup
    exact hsettles.id.trans (hl id before hbefore)
  | authorize action hroom hid => exact keyedActions_insert hl hid
  | dispatch id action now hheld =>
    have hid : ({ action with lifecycle := .dispatched, dispatchedAt := now } : ThermalAction).id =
        id := hl id action hheld
    exact keyedActions_insert hl hid
  | restore action => exact keyedActions_insert hl rfl
  | evaluate | accept | touch | enrol | retire | revive | restart => exact hl

end Ledger

namespace Governor

variable {g g' : Governor}

theorem keyedActions_of_reachable (hg : g.Reachable) : g.ledger.KeyedActions := by
  obtain ⟨config, now, hrun⟩ := hg
  exact invariant_of_runs hrun (fun _ _ => Ledger.keyedActions_move) fun id action hlookup =>
    (by cases hlookup)

/-! ### Writing the file -/

/-- What a successful call of `persist` has written. -/
def save (g : Governor) (limits : PersistenceLimits) : Result Container :=
  g.persist.bind fun state => encodeDurableState state limits

/-- Load what the file holds. -/
def load (g : Governor) (limits : PersistenceLimits) (file : Container) : Governor × Status :=
  g.loadDurable (some (decodeDurableState file limits))

theorem save_eq_ok {limits : PersistenceLimits} {file : Container} (h : g.save limits = .ok file) :
    g.config.durablePath.isEmpty = false ∧ encodeDurableState g.capture limits = .ok file := by
  rw [save, persist] at h
  cases hpath : g.config.durablePath.isEmpty with
  | true =>
    rw [if_pos hpath] at h
    cases h
  | false =>
    rw [if_neg (by rw [hpath]; exact Bool.false_ne_true)] at h
    exact ⟨rfl, h⟩

/-- No table of a capture repeats an identity. -/
theorem uniqueIds_capture (hg : g.Reachable) : UniqueIds g.capture where
  policies := Table.nodup_map_sortedValues (keyedPolicies_of_reachable hg)
  devices := Table.nodup_map_sortedValues (keyedDevices_of_reachable hg)
  domains := Table.nodup_map_sortedValues (keyedDomains_of_reachable hg)
  couplings := (wellRegistered_of_reachable hg).couplings.unique
  actions := Table.nodup_map_sortedValues (keyedActions_of_reachable hg)

/-! ### Restoring what is configured -/

/-- In an ordered list, what is smaller than an entry stands before it. -/
theorem mem_before {list done rest : List Nat} {a b : Nat} (hordered : list.Pairwise (· < ·))
    (hlist : list = done ++ a :: rest) (hb : b ∈ list) (hlt : b < a) : b ∈ done := by
  rw [hlist] at hordered hb
  rcases List.mem_append.mp hb with hdone | hlater
  · exact hdone
  · obtain ⟨-, hafter, -⟩ := List.pairwise_append.mp hordered
    rcases List.mem_cons.mp hlater with rfl | hrest
    · exact absurd hlt (lt_irrefl b)
    · exact absurd (List.rel_of_pairwise_cons hafter hrest) (lt_asymm hlt)

/-- The registry holds the definitions of `r` under the ids done, and no others. -/
structure RestoredUpTo (r : DomainRegistry) (done : List ThermalDomainId)
    (s : DomainRegistry) : Prop where
  limits : s.limits = r.limits
  size : s.size = done.length
  found : ∀ id, s.find id = if id ∈ done then r.find id else none

section Replay

variable {r s : DomainRegistry} {done rest : List ThermalDomainId} {d : ThermalDomainDefinition}

/-- The definition whose turn it is passes the checks of a registration. -/
theorem admits_of_replayable (hr : r.Sound) (hids : r.allDomainIds = done ++ d.id :: rest)
    (hs : RestoredUpTo r done s) (hfind : r.find d.id = some d) (hreplay : d.Replayable) :
    s.Admits d := by
  obtain ⟨hid, hgeneration, hdeclared, hgoverned, hmembers, hchildren, hparent, hchild⟩ :=
    hr.governable d.id d hfind
  have hordered := r.pairwise_allDomainIds
  have hbefore : ∀ id, (r.find id).isSome = true → id < d.id → (s.find id).isSome = true := by
    intro id hregistered hlt
    rw [hs.found, if_pos (mem_before hordered hids (mem_allDomainIds.mpr hregistered) hlt)]
    exact hregistered
  have hroom : s.size < s.limits.maxDomains := by
    have hlength : r.size = done.length + (rest.length + 1) := by
      rw [DomainRegistry.size, Table.size_eq_length_sortedKeys]
      show r.allDomainIds.length = _
      rw [hids, List.length_append, List.length_cons]
    have hbound := hr.room
    rw [hs.size, hs.limits]
    omega
  have hnew : d.id ∉ done := by
    intro hmem
    rw [hids] at hordered
    exact lt_irrefl d.id ((List.pairwise_append.mp hordered).2.2 d.id hmem d.id List.mem_cons_self)
  exact
    { id := isValid_eq_true.mpr hid
      generation := isValid_eq_true.mpr hgeneration
      declared := hdeclared
      governed := hgoverned
      room := hroom
      members := by rw [hs.limits]; exact hmembers
      children := by rw [hs.limits]; exact hchildren
      new := by rw [hs.found, if_neg hnew]
      parent := fun p hp => hbefore p (hparent p hp) (hreplay.parent p hp)
      child := fun c hc => hbefore c (hchild c hc) (hreplay.children c hc)
      weighted := hreplay.weighted
      sensed := hreplay.sensed }

/-- What the registry takes in its turn names smaller ids only. -/
theorem replayable_of_admits (hids : r.allDomainIds = done ++ d.id :: rest)
    (hs : RestoredUpTo r done s) (h : s.Admits d) : d.Replayable := by
  have hordered := r.pairwise_allDomainIds
  rw [hids] at hordered
  have hbefore : ∀ id, (s.find id).isSome = true → id < d.id := by
    intro id hfound
    rw [hs.found] at hfound
    split at hfound
    · rename_i hmem
      exact (List.pairwise_append.mp hordered).2.2 id hmem d.id List.mem_cons_self
    · cases hfound
  exact ⟨fun p hp => hbefore p (h.parent p hp), fun c hc => hbefore c (h.child c hc), h.weighted,
    h.sensed⟩

/-- A definition that the registry takes is the next one done. -/
theorem RestoredUpTo.store (hs : RestoredUpTo r done s) (hfind : r.find d.id = some d)
    (h : s.Admits d) : RestoredUpTo r (done ++ [d.id]) (s.store d) := by
  refine ⟨hs.limits, ?_, fun id => ?_⟩
  · rw [DomainRegistry.size_store_of_none h.new, hs.size, List.length_append,
      List.length_singleton]
  · rw [DomainRegistry.find_store, hs.found]
    by_cases hid : id = d.id
    · rw [if_pos hid, hid, if_pos (List.mem_append_right _ (List.mem_singleton_self _)), hfind]
    · simp [hid]

/-- The definition whose turn it is. -/
theorem exists_next (hr : r.Sound) {id : ThermalDomainId}
    (hids : r.allDomainIds = done ++ id :: rest) : ∃ d, r.find id = some d ∧ d.id = id := by
  have hregistered : (r.find id).isSome = true := by
    rw [← mem_allDomainIds, hids]
    exact List.mem_append_right _ List.mem_cons_self
  obtain ⟨d, hfind⟩ := Option.isSome_iff_exists.mp hregistered
  exact ⟨d, hfind, hr.keyed id d hfind⟩

end Replay

/-- **The registry takes its own definitions again**, in the order of their ids. -/
theorem restoreDomains_registered {r : DomainRegistry} (hr : r.Sound)
    (hreplay : ∀ id d, r.find id = some d → d.Replayable) :
    ∀ (todo done : List ThermalDomainId) (g : Governor), r.allDomainIds = done ++ todo →
      RestoredUpTo r done g.domains →
      ∃ domains histories, (∀ id, domains.find id = r.find id) ∧
        g.restoreDomains (todo.filterMap r.find) =
          ({ g with domains := domains, recoveryHistories := histories }, .ok ()) := by
  intro todo
  induction todo with
  | nil =>
    intro done g hids hdone
    refine ⟨g.domains, g.recoveryHistories, fun id => ?_, rfl⟩
    rw [hdone.found]
    split
    · rfl
    · rename_i hid
      rw [List.append_nil] at hids
      rw [← hids, mem_allDomainIds, Bool.not_eq_true, Option.isSome_eq_false_iff,
        Option.isNone_iff_eq_none] at hid
      exact hid.symm
  | cons id rest ih =>
    intro done g hids hdone
    obtain ⟨d, hfind, rfl⟩ := exists_next hr hids
    have hadmits : g.domains.Admits d :=
      admits_of_replayable hr hids hdone hfind (hreplay _ d hfind)
    have hadd : g.domains.add d = (g.domains.store d, .ok ()) := by
      rw [DomainRegistry.add, DomainRegistry.checkAdd_eq_ok.mpr hadmits]
    obtain ⟨domains, histories, hdomains, hrestored⟩ := ih (done ++ [d.id])
      (openHistory { g with domains := g.domains.store d } d.id)
      (by rw [hids, List.append_assoc]; rfl) (hdone.store hfind hadmits)
    refine ⟨domains, histories, hdomains, ?_⟩
    rw [List.filterMap_cons_some hfind, restoreDomains, hadd]
    exact hrestored

/-- One definition that cannot be replayed ends the load. -/
theorem restoreDomains_refused {r : DomainRegistry} (hr : r.Sound) {refused : ThermalDomainId}
    {definition : ThermalDomainDefinition} (hrefused : r.find refused = some definition)
    (hreplay : ¬ definition.Replayable) :
    ∀ (todo done : List ThermalDomainId) (g : Governor), r.allDomainIds = done ++ todo →
      RestoredUpTo r done g.domains → refused ∈ todo →
      (g.restoreDomains (todo.filterMap r.find)).2 ≠ .ok () := by
  intro todo
  induction todo with
  | nil =>
    intro done g _ _ hmem
    cases hmem
  | cons id rest ih =>
    intro done g hids hdone hmem
    obtain ⟨d, hfind, rfl⟩ := exists_next hr hids
    rw [List.filterMap_cons_some hfind, restoreDomains]
    cases hcheck : g.domains.checkAdd d with
    | error e =>
      rw [DomainRegistry.add, hcheck]
      intro hok
      cases hok
    | ok =>
      have hadmits := DomainRegistry.checkAdd_eq_ok.mp hcheck
      rw [DomainRegistry.add, hcheck]
      refine ih (done ++ [d.id]) _ (by rw [hids, List.append_assoc]; rfl)
        (hdone.store hfind hadmits) ?_
      rcases List.mem_cons.mp hmem with rfl | hrest
      · obtain rfl := Option.some.inj (hfind.symm.trans hrefused)
        exact absurd (replayable_of_admits hids hdone hadmits) hreplay
      · exact hrest

/-- Couplings of registered domains are all restored. -/
theorem restoreCouplings_registered {couplings : List CouplingRelation}
    (h : ∀ edge ∈ couplings, (g.domains.find edge.source).isSome = true ∧
      (g.domains.find edge.destination).isSome = true) :
    g.restoreCouplings couplings =
      ({ g with couplings := couplings.foldl CouplingGraph.add g.couplings }, .ok ()) := by
  induction couplings generalizing g with
  | nil => rfl
  | cons edge rest ih =>
    obtain ⟨hsource, hdestination⟩ := h edge List.mem_cons_self
    have hknown : ¬((g.domains.find edge.source).isNone ||
        (g.domains.find edge.destination).isNone) = true := by
      rw [← Option.not_isSome, ← Option.not_isSome, hsource, hdestination]
      decide
    rw [restoreCouplings, if_neg hknown]
    exact ih fun later hlater => h later (List.mem_cons_of_mem edge hlater)

/-- Forgetting when couplings expire keeps their order and their ids. -/
theorem canonical_forgetExpiry {couplings : CouplingGraph} (h : couplings.Canonical) :
    CouplingGraph.Canonical (couplings.map forgetExpiry) := by
  refine ⟨List.pairwise_map.mpr h.sorted, ?_⟩
  rw [List.map_map]
  exact h.unique

/-! ### The history goes on -/

/-- The oldest record makes room for a new one. -/
def keepRecord (maximum : Nat) (history : List StateTransitionRecord)
    (record : StateTransitionRecord) : List StateTransitionRecord :=
  trimHistory history maximum ++ [record]

/-- Where there is room for them, the records are all appended. -/
theorem foldl_keepRecord {maximum : Nat} {history : List StateTransitionRecord} :
    ∀ {records : List StateTransitionRecord}, history.length + records.length ≤ maximum →
      records.foldl (keepRecord maximum) history = history ++ records := by
  intro records
  induction records generalizing history with
  | nil =>
    intro _
    rw [List.append_nil]
    rfl
  | cons record rest ih =>
    intro hroom
    rw [List.length_cons] at hroom
    have hkept : keepRecord maximum history record = history ++ [record] := by
      rw [keepRecord, trimHistory, if_neg (by omega)]
    rw [List.foldl_cons, hkept, ih, List.append_assoc]
    · rfl
    · rw [List.length_append, List.length_singleton]
      omega

/-- The record of a domain evaluated for the first time in an epoch. -/
structure FirstRecord (epoch : CoordinatorEpoch) (id : ThermalDomainId)
    (record : StateTransitionRecord) : Prop where
  domain : record.domain = id
  source : record.source = .unknown
  deratingFrom : record.deratingFrom = .unknown
  epoch : record.coordinatorEpoch = epoch

theorem history_recomputeDomain {id : ThermalDomainId} {definition : ThermalDomainDefinition}
    {policy : ThermalPolicy} (hfind : g.domains.find id = some definition)
    (hpolicy : g.policyFor definition = some policy) (hnew : g.evaluations.lookup id = none) :
    ∃ record, FirstRecord g.epoch id record ∧
      (g.recomputeDomain id).history = keepRecord g.config.maxHistoryRecords g.history record := by
  have hnoted : ∀ event, (g.note event).evaluations.lookup id = none := fun _ => hnew
  rw [recomputeDomain_eq_record hfind hpolicy]
  unfold recordTransition
  simp only [hnoted]
  exact ⟨_, ⟨rfl, rfl, rfl, rfl⟩, rfl⟩

/-- **Domains evaluated for the first time leave one record each**, in turn. -/
theorem history_recomputeDomains (hpolicies : ∀ definition, ∃ policy, g.policyFor definition =
    some policy) {domains : List ThermalDomainId} (hnodup : domains.Nodup)
    (hfind : ∀ id ∈ domains, (g.domains.find id).isSome = true)
    (hnew : ∀ id ∈ domains, g.evaluations.lookup id = none) :
    ∃ records, List.Forall₂ (FirstRecord g.epoch) domains records ∧
      (g.recomputeDomains domains).history =
        records.foldl (keepRecord g.config.maxHistoryRecords) g.history := by
  induction domains generalizing g with
  | nil => exact ⟨[], .nil, rfl⟩
  | cons id rest ih =>
    obtain ⟨hid, hrest⟩ := List.nodup_cons.mp hnodup
    obtain ⟨definition, hdefinition⟩ := Option.isSome_iff_exists.mp (hfind id List.mem_cons_self)
    obtain ⟨policy, hpolicy⟩ := hpolicies definition
    obtain ⟨record, hrecord, hhistory⟩ :=
      history_recomputeDomain hdefinition hpolicy (hnew id List.mem_cons_self)
    have hsame := g.recomputeDomain_same id
    obtain ⟨records, hrecords, hlater⟩ := ih (g := g.recomputeDomain id)
      (fun definition => by rw [hsame.sameReads.policyFor]; exact hpolicies definition) hrest
      (fun other hother => by
        rw [hsame.domains]
        exact hfind other (List.mem_cons_of_mem id hother))
      (fun other hother => by
        have hne : other ≠ id := by
          rintro rfl
          exact hid hother
        rw [lookup_recomputeDomain_ne hne]
        exact hnew other (List.mem_cons_of_mem id hother))
    rw [hsame.epoch] at hrecords
    refine ⟨record :: records, .cons hrecord hrecords, ?_⟩
    rw [hsame.config, hhistory] at hlater
    exact hlater

/-! ### The whole load -/

/-- What is configured in the second state is what was persisted in the first. -/
structure Restores (g g' : Governor) : Prop where
  policies : ∀ id, g'.policies.lookup id = g.policies.lookup id
  devices : ∀ id, g'.devices.lookup id = g.devices.lookup id
  domains : ∀ id, g'.domains.find id = g.domains.find id
  couplings : g'.couplings = g.couplings.map forgetExpiry

theorem Restores.allDomainIds (h : Restores g g') :
    g'.domains.allDomainIds = g.domains.allDomainIds := Table.sortedKeys_congr h.domains

theorem Restores.policyFor (h : Restores g g') (definition : ThermalDomainDefinition) :
    g'.policyFor definition = g.policyFor definition := by
  rw [Governor.policyFor, h.policies, h.policies, Governor.policyFor]

/-- A file within the bounds of the reader is restored record by record. -/
theorem load_eq_restore (hg : g.Reachable) {limits : PersistenceLimits} {file : Container}
    (hsaved : g.save limits = .ok file) (hbounds : WithinBounds limits g.capture)
    (now : SteadyTimePoint) :
    (create g.config now).load limits file =
      (create g.config now).restore (readBack g.capture) := by
  obtain ⟨hpath, hwritten⟩ := save_eq_ok hsaved
  have hpath' : ¬ ((create g.config now).config.durablePath.isEmpty = true) := by
    show ¬ (g.config.durablePath.isEmpty = true)
    rw [hpath]
    exact Bool.false_ne_true
  rw [load, decodeDurableState_encode rfl hwritten hbounds (uniqueIds_capture hg), loadDurable,
    if_neg hpath']

theorem policies_restoreConfiguration (hg : g.Reachable) (now : SteadyTimePoint)
    (id : ThermalPolicyId) :
    ((create g.config now).restoreConfiguration (readBack g.capture)).policies.lookup id =
      g.policies.lookup id := by
  have hrestored := Table.lookup_foldl_sortedValues (keyedPolicies_of_reachable hg)
    (create g.config now).policies id
  refine Eq.trans hrestored ?_
  cases hheld : g.policies.lookup id with
  | some policy => rfl
  | none =>
    -- the one policy of a fresh coordinator is the default policy, which was persisted
    obtain ⟨policy, hpolicy⟩ := defaultPolicy_of_reachable hg
    have hid : id ≠ defaultPolicyId := by
      rintro rfl
      rw [hheld] at hpolicy
      cases hpolicy
    exact AList.lookup_insert_ne hid

theorem devices_restoreConfiguration (hg : g.Reachable) (now : SteadyTimePoint) (id : DeviceId) :
    ((create g.config now).restoreConfiguration (readBack g.capture)).devices.lookup id =
      g.devices.lookup id := by
  have hrestored := Table.lookup_foldl_sortedValues (keyedDevices_of_reachable hg)
    (create g.config now).devices id
  exact Eq.trans hrestored Option.or_none

theorem history_restoreRecords (g : Governor) (file : DurableState) :
    (g.restoreRecords file).history = file.transitions := by
  have hkept : ∀ (g : Governor) (action : ThermalAction), (g.restoreAction action).history =
      g.history := fun _ _ => rfl
  exact foldl_unchanged hkept file.actions { g with history := file.transitions }

/-- A load that refuses nothing restores what was persisted, and evaluates every domain. -/
theorem restore_registered (hg : g.Reachable)
    (hreplay : ∀ id d, g.domains.find id = some d → d.Replayable) (now : SteadyTimePoint) :
    ∃ t : Governor, Restores g t ∧ t.config = g.config ∧ t.history = g.history ∧
      t.evaluations = ∅ ∧
      (create g.config now).restore (readBack g.capture) =
        (publishLocked t.recomputeAllDomains, .ok ()) := by
  have hregistered := wellRegistered_of_reachable hg
  obtain ⟨domains, histories, hdomains, h₁⟩ := restoreDomains_registered hregistered.sound hreplay
    g.domains.allDomainIds [] ((create g.config now).restoreConfiguration (readBack g.capture))
    (List.nil_append _).symm ⟨hregistered.limits.symm, rfl, fun _ => rfl⟩
  let g₁ : Governor :=
    { (create g.config now).restoreConfiguration (readBack g.capture) with
      domains := domains
      recoveryHistories := histories }
  have hends : ∀ edge ∈ (readBack g.capture).couplings,
      (g₁.domains.find edge.source).isSome = true ∧
        (g₁.domains.find edge.destination).isSome = true := by
    intro edge hedge
    obtain ⟨persisted, hpersisted, rfl⟩ := List.mem_map.mp hedge
    have hcoupled := coupledDomains_of_reachable hg persisted hpersisted
    rwa [← hdomains, ← hdomains] at hcoupled
  have h₂ := restoreCouplings_registered hends
  let g₂ : Governor :=
    { g₁ with couplings := (readBack g.capture).couplings.foldl CouplingGraph.add [] }
  have hcouplings : g₂.couplings = g.couplings.map forgetExpiry :=
    CouplingGraph.foldl_add (canonical_forgetExpiry hregistered.couplings)
  have hsame := sameGoverned_restoreRecords g₂ (readBack g.capture)
  let t := advanceTopology (discardDynamicState (g₂.restoreRecords (readBack g.capture)))
  have hpolicies : t.policies = g₂.policies := hsame.policies
  have hdevices : t.devices = g₂.devices := hsame.devices
  have htdomains : t.domains = domains := hsame.domains
  have htcouplings : t.couplings = g₂.couplings := hsame.couplings
  refine ⟨t, ⟨fun id => ?_, fun id => ?_, fun id => ?_, ?_⟩, hsame.config, ?_, rfl, ?_⟩
  · rw [hpolicies]
    exact policies_restoreConfiguration hg now id
  · rw [hdevices]
    exact devices_restoreConfiguration hg now id
  · rw [htdomains, hdomains]
  · rw [htcouplings, hcouplings]
  · exact history_restoreRecords g₂ (readBack g.capture)
  · have hdomains' :
        ((create g.config now).restoreConfiguration (readBack g.capture)).restoreDomains
          (readBack g.capture).domains = (g₁, .ok ()) := h₁
    have hcouplings' : g₁.restoreCouplings (readBack g.capture).couplings = (g₂, .ok ()) := h₂
    rw [restore, hdomains']
    dsimp only
    rw [hcouplings']

/-- **What was persisted is restored by a coordinator started anew**, and the history goes
on with one record a domain. -/
theorem restores_load (hg : g.Reachable) (limits : PersistenceLimits) {file : Container}
    (hsaved : g.save limits = .ok file) (hbounds : WithinBounds limits g.capture)
    (hreplay : ∀ id d, g.domains.find id = some d → d.Replayable) (now : SteadyTimePoint) :
    ∃ g', (create g.config now).load limits file = (g', .ok ()) ∧ Restores g g' ∧
      ∃ records, List.Forall₂ (FirstRecord g'.epoch) g.domains.allDomainIds records ∧
        g'.history = records.foldl (keepRecord g.config.maxHistoryRecords) g.history ∧
        (g.history.length + records.length ≤ g.config.maxHistoryRecords →
          g'.history = g.history ++ records) := by
  obtain ⟨t, ht, hconfig, hhistory, hevaluations, hrestored⟩ := restore_registered hg hreplay now
  have hids := ht.allDomainIds
  have hpolicies : ∀ definition, ∃ policy, t.policyFor definition = some policy := by
    intro definition
    rw [ht.policyFor]
    exact exists_policyFor hg definition
  have hnodup : t.domains.allDomainIds.Nodup :=
    t.domains.pairwise_allDomainIds.imp fun h => h.ne
  obtain ⟨records, hrecords, hrecorded⟩ := history_recomputeDomains hpolicies hnodup
    (fun id hid => mem_allDomainIds.mp hid) (fun id _ => by rw [hevaluations]; rfl)
  have hsame := recomputeAllDomains_same t
  have hread := hsame.sameReads
  rw [hids] at hrecords
  rw [hconfig, hhistory] at hrecorded
  refine ⟨publishLocked t.recomputeAllDomains, ?_, ⟨fun id => ?_, fun id => ?_, fun id => ?_, ?_⟩,
    records, ?_, hrecorded, fun hroom => ?_⟩
  · rw [load_eq_restore hg hsaved hbounds, hrestored]
  · show t.recomputeAllDomains.policies.lookup id = _
    rw [hread.policies, ht.policies]
  · show t.recomputeAllDomains.devices.lookup id = _
    rw [hread.devices, ht.devices]
  · show t.recomputeAllDomains.domains.find id = _
    rw [hread.domains, ht.domains]
  · show t.recomputeAllDomains.couplings = _
    rw [hread.couplings, ht.couplings]
  · show List.Forall₂ (FirstRecord t.recomputeAllDomains.epoch) _ _
    rw [hsame.epoch]
    exact hrecords
  · exact hrecorded.trans (foldl_keepRecord hroom)

/-- A definition that cannot be replayed makes the file unusable. -/
theorem load_refused (hg : g.Reachable) (limits : PersistenceLimits) {file : Container}
    (hsaved : g.save limits = .ok file) (hbounds : WithinBounds limits g.capture)
    {id : ThermalDomainId} {d : ThermalDomainDefinition} (hfind : g.domains.find id = some d)
    (hreplay : ¬ d.Replayable) (now : SteadyTimePoint) :
    ((create g.config now).load limits file).2 ≠ .ok () := by
  have hregistered := wellRegistered_of_reachable hg
  have hrefused := restoreDomains_refused hregistered.sound hfind hreplay
    g.domains.allDomainIds [] ((create g.config now).restoreConfiguration (readBack g.capture))
    (List.nil_append _).symm ⟨hregistered.limits.symm, rfl, fun _ => rfl⟩
    (mem_allDomainIds.mpr (by rw [hfind]; rfl))
  rw [load_eq_restore hg hsaved hbounds]
  intro hok
  obtain ⟨g₁, -, hdomains, -, -⟩ := restore_eq_ok hok
  exact hrefused (congrArg Prod.snd hdomains)

/-! ### Two restarts of the deployment -/

/-- Two domains, the second below the first, with a coupling. -/
def nested : Governor :=
  Deployment.after
    [ .registerDevice Deployment.secondDevice,
      .registerThermalDomain { Deployment.secondDomain with parent := some 1 },
      .registerCoupling (Deployment.coupling 1 1 2),
      .publishTemperature (Deployment.reading 50 1 0) ]

theorem save_of_checks {limits : PersistenceLimits} (hpath : g.config.durablePath.isEmpty = false)
    (hchecks : ∀ check ∈ encodeChecks g.capture limits, check.holds = true) :
    g.save limits = .ok (container g.capture) := by
  rw [save, persist, if_neg (by rw [hpath]; exact Bool.false_ne_true)]
  exact encodeDurableState_eq_ok.mpr ⟨hchecks, rfl⟩

theorem replayable_of_capture (h : ∀ d ∈ g.capture.domains, d.Replayable) :
    ∀ id d, g.domains.find id = some d → d.Replayable := by
  intro id d hfind
  have hid : id ∈ g.domains.allDomainIds := mem_allDomainIds.mpr (by rw [hfind]; rfl)
  exact h d (List.mem_filterMap.mpr ⟨id, hid, hfind⟩)

theorem restores_load_nested :
    ∃ g', (create nested.config 0).load {} (container nested.capture) = (g', .ok ()) ∧
      Restores nested g' ∧
      ∃ records, List.Forall₂ (FirstRecord g'.epoch) nested.domains.allDomainIds records ∧
        g'.history = records.foldl (keepRecord nested.config.maxHistoryRecords) nested.history ∧
        (nested.history.length + records.length ≤ nested.config.maxHistoryRecords →
          g'.history = nested.history ++ records) := by
  have hreachable : nested.Reachable := Deployment.reachable_after _
  have hsaved : nested.save {} = .ok (container nested.capture) :=
    save_of_checks (by decide +kernel) (by decide +kernel)
  exact restores_load hreachable {} hsaved (by decide +kernel)
    (replayable_of_capture (by decide +kernel)) 0

/-- A history of one record is restored as one of two. -/
theorem not_restores_history : ¬ ∀ (g : Governor) (limits : PersistenceLimits) (file : Container)
    (now : SteadyTimePoint), g.Reachable → g.save limits = .ok file →
      ((create g.config now).load limits file).2 = .ok () ∧
        Restores g ((create g.config now).load limits file).1 ∧
        ((create g.config now).load limits file).1.history = g.history := by
  intro hclaim
  have hsaved : (Deployment.after []).save {} = .ok (container (Deployment.after []).capture) :=
    save_of_checks (by decide +kernel) (by decide +kernel)
  obtain ⟨-, -, hhistory⟩ := hclaim (Deployment.after []) {} _ 0 (Deployment.reachable_after [])
    hsaved
  have hpersisted : (Deployment.after []).history.length = 1 := by decide +kernel
  have hrestored : ((create (Deployment.after []).config 0).load {}
      (container (Deployment.after []).capture)).1.history.length = 2 := by decide +kernel
  rw [hhistory, hpersisted] at hrestored
  cases hrestored

end Governor

end ThermalGovernor
