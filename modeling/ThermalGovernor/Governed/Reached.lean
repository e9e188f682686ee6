import ThermalGovernor.Governed.Refines

/-!
# What holds in every reachable state

First what a write does to each component, one lemma a component; then the invariants
that follow from it: domains, policies, devices and evidence are stored under their own
names, every stored evaluation is of a registered domain, couplings connect registered
domains, a policy governs every domain, and every evaluation that was noted is the one
its input determines.
-/

namespace ThermalGovernor

open Lib

namespace Governor

variable {put : ThermalPolicy → Prop} {g g' : Governor}

/-! ### What a write does to each component -/

section Recorded

variable (g : Governor) (domain : ThermalDomainId) (generation : ThermalDomainGeneration)
  (e : ThermalEvaluation)

@[simp] theorem config_recordTransition :
    (g.recordTransition domain generation e).config = g.config :=
  (g.recordTransition_same domain generation e).config

@[simp] theorem policies_recordTransition :
    (g.recordTransition domain generation e).policies = g.policies := by
  obtain ⟨_, _, _, _, h⟩ := g.recordTransition_same domain generation e
  rw [h]

@[simp] theorem devices_recordTransition :
    (g.recordTransition domain generation e).devices = g.devices := by
  obtain ⟨_, _, _, _, h⟩ := g.recordTransition_same domain generation e
  rw [h]

@[simp] theorem domains_recordTransition :
    (g.recordTransition domain generation e).domains = g.domains := by
  obtain ⟨_, _, _, _, h⟩ := g.recordTransition_same domain generation e
  rw [h]

@[simp] theorem couplings_recordTransition :
    (g.recordTransition domain generation e).couplings = g.couplings := by
  obtain ⟨_, _, _, _, h⟩ := g.recordTransition_same domain generation e
  rw [h]

@[simp] theorem evidence_recordTransition :
    (g.recordTransition domain generation e).evidence = g.evidence :=
  (g.recordTransition_same domain generation e).evidence

@[simp] theorem trace_recordTransition :
    (g.recordTransition domain generation e).trace = g.trace := by
  unfold recordTransition
  dsimp only
  split <;> rfl

@[simp] theorem evaluations_recordTransition :
    (g.recordTransition domain generation e).evaluations = g.evaluations.insert domain e := by
  unfold recordTransition
  dsimp only
  split <;> rfl

end Recorded

theorem Write.policies (h : Write put g g') :
    g'.policies = g.policies ∨ ∃ policy : ThermalPolicy, put policy ∧
      g'.policies = g.policies.insert policy.id policy := by
  cases h with
  | keep _ hsame => exact .inl hsame.policies
  | putPolicy policy hput => exact .inr ⟨policy, hput, rfl⟩
  | record => exact .inl (policies_recordTransition _ _ _ _)
  | evaluate | putDevice | storeDomain | addCoupling | removeCoupling | accept | forget =>
    exact .inl rfl

theorem Write.devices (h : Write put g g') :
    g'.devices = g.devices ∨ ∃ device, ∃ registration : DeviceRegistration,
      (registration.device = device ∨
        ∃ held, g.devices.lookup device = some held ∧ registration.device = held.device) ∧
      g'.devices = g.devices.insert device registration := by
  cases h with
  | keep _ hsame => exact .inl hsame.devices
  | putDevice device registration h => exact .inr ⟨device, registration, h, rfl⟩
  | record => exact .inl (devices_recordTransition _ _ _ _)
  | evaluate | storeDomain | addCoupling | removeCoupling | putPolicy | accept | forget =>
    exact .inl rfl

theorem Write.domains (h : Write put g g') :
    g'.domains = g.domains ∨ ∃ definition,
      (g.domains.checkAdd definition = .ok () ∨ g.domains.checkUpdate definition = .ok ()) ∧
      g'.domains = g.domains.store definition := by
  cases h with
  | keep _ hsame => exact .inl hsame.domains
  | storeDomain definition h => exact .inr ⟨definition, h, rfl⟩
  | record => exact .inl (domains_recordTransition _ _ _ _)
  | evaluate | putDevice | addCoupling | removeCoupling | putPolicy | accept | forget =>
    exact .inl rfl

theorem Write.evidence (h : Write put g g') :
    g'.evidence = g.evidence ∨ g'.evidence = ∅ ∨ ∃ e : ThermalEvidence,
      validateEvidenceStructure e = .ok () ∧ runChecks (g.publishChecks e) = .ok () ∧
      g'.evidence = g.evidence.insert e.subject.key e := by
  cases h with
  | keep _ hsame => exact .inl hsame.evidence
  | accept e hstructure hfences => exact .inr (.inr ⟨e, hstructure, hfences, rfl⟩)
  | forget => exact .inr (.inl rfl)
  | record => exact .inl (evidence_recordTransition _ _ _ _)
  | evaluate | putDevice | storeDomain | addCoupling | removeCoupling | putPolicy =>
    exact .inl rfl

theorem Write.couplings (h : Write put g g') :
    g'.couplings = g.couplings ∨
    (∃ relation : CouplingRelation, (g.domains.find relation.source).isSome = true ∧
      (g.domains.find relation.destination).isSome = true ∧
      g'.couplings = g.couplings.add relation) ∨
    ∃ id, g.couplings.remove id = some g'.couplings := by
  cases h with
  | keep _ hsame => exact .inl hsame.couplings
  | addCoupling relation hsource hdestination =>
    exact .inr (.inl ⟨relation, hsource, hdestination, rfl⟩)
  | removeCoupling id couplings h => exact .inr (.inr ⟨id, h⟩)
  | record => exact .inl (couplings_recordTransition _ _ _ _)
  | evaluate | putDevice | storeDomain | putPolicy | accept | forget => exact .inl rfl

theorem Write.evaluations (h : Write put g g') :
    g'.evaluations = g.evaluations ∨ g'.evaluations = ∅ ∨
    ∃ domain name definition input e, g.domains.find domain = some definition ∧
      (name = domain ∨ name = definition.id) ∧ .evaluated input e ∈ g'.trace ∧
      g'.evaluations = g.evaluations.insert name e := by
  cases h with
  | keep _ hsame => exact .inl hsame.evaluations
  | forget => exact .inr (.inl rfl)
  | record domain name definition input e hfind hname hnoted =>
    refine .inr (.inr ⟨domain, name, definition, input, e, hfind, hname, ?_, ?_⟩)
    · rw [trace_recordTransition]
      exact hnoted
    · rw [evaluations_recordTransition]
  | evaluate | putDevice | storeDomain | addCoupling | removeCoupling | putPolicy | accept =>
    exact .inl rfl

theorem Write.evaluated (h : Write put g g') {input : EvaluationInput} {e : ThermalEvaluation}
    (hnoted : .evaluated input e ∈ g'.trace) :
    .evaluated input e ∈ g.trace ∨ ∃ domain definition policy,
      g.domains.find domain = some definition ∧ g.policyFor definition = some policy ∧
      (input, e) = g.evaluation definition policy := by
  cases h with
  | keep _ hsame => exact .inl (hsame.evaluated input e hnoted)
  | evaluate domain definition policy hfind hpolicy =>
    rcases List.mem_cons.mp hnoted with hnew | hold
    · obtain ⟨rfl, rfl⟩ := Event.evaluated.inj hnew
      exact .inr ⟨domain, definition, policy, hfind, hpolicy, rfl⟩
    · exact .inl hold
  | record =>
    rw [trace_recordTransition] at hnoted
    exact .inl hnoted
  | putDevice | storeDomain | addCoupling | removeCoupling | putPolicy | accept | forget =>
    exact .inl hnoted

/-- A write forgets no domain. -/
theorem Write.isSome_find (h : Write put g g') {id : ThermalDomainId}
    (hid : (g.domains.find id).isSome = true) : (g'.domains.find id).isSome = true := by
  rcases h.domains with hsame | ⟨definition, -, hstored⟩
  · rw [hsame]
    exact hid
  · rw [hstored, DomainRegistry.find_store]
    split
    · rfl
    · exact hid

/-! ### Everything under its own name -/

def KeyedDomains (g : Governor) : Prop :=
  ∀ id definition, g.domains.find id = some definition → definition.id = id

def KeyedPolicies (g : Governor) : Prop :=
  ∀ id policy, g.policies.lookup id = some policy → policy.id = id

def KeyedDevices (g : Governor) : Prop :=
  ∀ id registration, g.devices.lookup id = some registration → registration.device = id

def KeyedEvidence (g : Governor) : Prop :=
  ∀ key e, g.evidence.lookup key = some e → e.subject.key = key

theorem keyedDomains_write (h : Write put g g') (hg : g.KeyedDomains) : g'.KeyedDomains := by
  intro id definition hfind
  rcases h.domains with hsame | ⟨stored, -, hstored⟩
  · rw [hsame] at hfind
    exact hg id definition hfind
  · rw [hstored, DomainRegistry.find_store] at hfind
    split at hfind
    · rename_i hid
      obtain rfl := Option.some.inj hfind
      exact hid.symm
    · exact hg id definition hfind

theorem keyedPolicies_write (h : Write put g g') (hg : g.KeyedPolicies) : g'.KeyedPolicies := by
  intro id policy hlookup
  rcases h.policies with hsame | ⟨stored, -, hstored⟩
  · rw [hsame] at hlookup
    exact hg id policy hlookup
  · rw [hstored, Table.lookup_insert_eq_ite] at hlookup
    split at hlookup
    · rename_i hid
      obtain rfl := Option.some.inj hlookup
      exact hid.symm
    · exact hg id policy hlookup

theorem keyedDevices_write (h : Write put g g') (hg : g.KeyedDevices) : g'.KeyedDevices := by
  intro id registration hlookup
  rcases h.devices with hsame | ⟨device, stored, hdevice, hstored⟩
  · rw [hsame] at hlookup
    exact hg id registration hlookup
  · rw [hstored, Table.lookup_insert_eq_ite] at hlookup
    split at hlookup
    · rename_i hid
      obtain rfl := Option.some.inj hlookup
      rw [hid]
      rcases hdevice with hown | ⟨held, hheld, hsame⟩
      · exact hown
      · exact hsame.trans (hg device held hheld)
    · exact hg id registration hlookup

theorem keyedEvidence_write (h : Write put g g') (hg : g.KeyedEvidence) : g'.KeyedEvidence := by
  intro key e hlookup
  rcases h.evidence with hsame | hnone | ⟨stored, -, -, hstored⟩
  · rw [hsame] at hlookup
    exact hg key e hlookup
  · rw [hnone] at hlookup
    cases hlookup
  · rw [hstored, Table.lookup_insert_eq_ite] at hlookup
    split at hlookup
    · rename_i hkey
      obtain rfl := Option.some.inj hlookup
      exact hkey.symm
    · exact hg key e hlookup

/-! ### Registered domains -/

/-- Every stored evaluation is of a registered domain. -/
def EvaluatedDomains (g : Governor) : Prop :=
  ∀ id e, g.evaluations.lookup id = some e → (g.domains.find id).isSome = true

theorem evaluatedDomains_write (h : Write put g g') (hkeyed : g.KeyedDomains)
    (hg : g.EvaluatedDomains) : g'.EvaluatedDomains := by
  intro id e hlookup
  refine h.isSome_find ?_
  rcases h.evaluations with
    hsame | hnone | ⟨domain, name, definition, _, stored, hfind, hname, -, hstored⟩
  · rw [hsame] at hlookup
    exact hg id e hlookup
  · rw [hnone] at hlookup
    cases hlookup
  · rw [hstored, Table.lookup_insert_eq_ite] at hlookup
    split at hlookup
    · rename_i hid
      have hdomain : name = domain := by
        rcases hname with hname | hname
        · exact hname
        · exact hname.trans (hkeyed domain definition hfind)
      rw [hid, hdomain, hfind]
      rfl
    · exact hg id e hlookup

/-- The ends of every coupling are registered. -/
def CoupledDomains (g : Governor) : Prop :=
  ∀ edge ∈ g.couplings, (g.domains.find edge.source).isSome = true ∧
    (g.domains.find edge.destination).isSome = true

theorem mem_replaceOrAppend {relation edge : CouplingRelation} {couplings : CouplingGraph}
    (h : edge ∈ couplings.replaceOrAppend relation) : edge = relation ∨ edge ∈ couplings := by
  induction couplings with
  | nil => exact .inl (List.mem_singleton.mp h)
  | cons first rest ih =>
    rw [CouplingGraph.replaceOrAppend] at h
    split at h
    · rcases List.mem_cons.mp h with hnew | hrest
      · exact .inl hnew
      · exact .inr (List.mem_cons_of_mem _ hrest)
    · rcases List.mem_cons.mp h with hfirst | hrest
      · exact .inr (hfirst ▸ List.mem_cons_self)
      · rcases ih hrest with hnew | hold
        · exact .inl hnew
        · exact .inr (List.mem_cons_of_mem _ hold)

theorem mem_add {relation edge : CouplingRelation} {couplings : CouplingGraph}
    (h : edge ∈ couplings.add relation) : edge = relation ∨ edge ∈ couplings :=
  mem_replaceOrAppend ((List.mem_insertionSort _).mp h)

theorem mem_of_remove {edge : CouplingRelation} {couplings rest : CouplingGraph} {id : CouplingId}
    (h : couplings.remove id = some rest) (hedge : edge ∈ rest) : edge ∈ couplings := by
  unfold CouplingGraph.remove at h
  split at h
  · obtain rfl := Option.some.inj h
    exact List.mem_of_mem_eraseP hedge
  · cases h

theorem coupledDomains_write (h : Write put g g') (hg : g.CoupledDomains) : g'.CoupledDomains := by
  intro edge hedge
  have hends : (g.domains.find edge.source).isSome = true ∧
      (g.domains.find edge.destination).isSome = true := by
    rcases h.couplings with hsame | ⟨relation, hsource, hdestination, hadded⟩ | ⟨id, hremoved⟩
    · rw [hsame] at hedge
      exact hg edge hedge
    · rw [hadded] at hedge
      rcases mem_add hedge with rfl | hold
      · exact ⟨hsource, hdestination⟩
      · exact hg edge hold
    · exact hg edge (mem_of_remove hremoved hedge)
  exact ⟨h.isSome_find hends.1, h.isSome_find hends.2⟩

/-! ### Policies and evaluations -/

/-- The default policy is there. -/
def DefaultPolicy (g : Governor) : Prop := ∃ policy, g.policies.lookup defaultPolicyId = some policy

theorem defaultPolicy_write (h : Write put g g') (hg : g.DefaultPolicy) : g'.DefaultPolicy := by
  obtain ⟨policy, hpolicy⟩ := hg
  rcases h.policies with hsame | ⟨stored, -, hstored⟩
  · exact ⟨policy, by rw [hsame]; exact hpolicy⟩
  · unfold DefaultPolicy
    rw [hstored, Table.lookup_insert_eq_ite]
    split
    · exact ⟨stored, rfl⟩
    · exact ⟨policy, hpolicy⟩

/-- The evaluation is the one its input determines, but for the fields the coordinator fills in. -/
def Finishes (input : EvaluationInput) (e : ThermalEvaluation) : Prop :=
  ∃ (g : Governor) (policy : ThermalPolicy) (gathered : Option DomainEvidence),
    e = g.finishEvaluation policy gathered (evaluateThermal input)

def NotedEvaluations (g : Governor) : Prop :=
  ∀ input e, .evaluated input e ∈ g.trace → Finishes input e

theorem notedEvaluations_write (h : Write put g g') (hg : g.NotedEvaluations) :
    g'.NotedEvaluations := by
  intro input e hnoted
  rcases h.evaluated hnoted with hold | ⟨domain, definition, policy, -, -, heval⟩
  · exact hg input e hold
  · obtain ⟨rfl, rfl⟩ := Prod.mk.inj heval
    exact ⟨g, policy, _, rfl⟩

/-! ### Reachable states -/

theorem keyedDomains_of_reachable (hg : g.Reachable) : g.KeyedDomains := by
  obtain ⟨config, now, hrun⟩ := hg
  exact invariant_of_writes hrun (fun _ _ => keyedDomains_write) fun id definition hfind =>
    (by cases hfind)

theorem keyedPolicies_of_reachable (hg : g.Reachable) : g.KeyedPolicies := by
  obtain ⟨config, now, hrun⟩ := hg
  refine invariant_of_writes hrun (fun _ _ => keyedPolicies_write) fun id policy hlookup => ?_
  have hinsert : ((∅ : Table ThermalPolicyId ThermalPolicy).insert defaultPolicyId
      .makeDefault).lookup id = some policy := hlookup
  rw [Table.lookup_insert_eq_ite] at hinsert
  split at hinsert
  · rename_i hid
    obtain rfl := Option.some.inj hinsert
    exact hid.symm
  · cases hinsert

theorem keyedDevices_of_reachable (hg : g.Reachable) : g.KeyedDevices := by
  obtain ⟨config, now, hrun⟩ := hg
  exact invariant_of_writes hrun (fun _ _ => keyedDevices_write) fun id registration hlookup =>
    (by cases hlookup)

theorem keyedEvidence_of_reachable (hg : g.Reachable) : g.KeyedEvidence := by
  obtain ⟨config, now, hrun⟩ := hg
  exact invariant_of_writes hrun (fun _ _ => keyedEvidence_write) fun key e hlookup =>
    (by cases hlookup)

theorem evaluatedDomains_of_reachable (hg : g.Reachable) : g.EvaluatedDomains := by
  obtain ⟨config, now, hrun⟩ := hg
  have hinv : g.KeyedDomains ∧ g.EvaluatedDomains := by
    refine invariant_of_writes (I := fun g => g.KeyedDomains ∧ g.EvaluatedDomains) hrun
      (fun g g' hwrite hg => ?_) ⟨fun id definition hfind => (by cases hfind),
        fun id e hlookup => (by cases hlookup)⟩
    exact ⟨keyedDomains_write hwrite hg.1, evaluatedDomains_write hwrite hg.1 hg.2⟩
  exact hinv.2

theorem coupledDomains_of_reachable (hg : g.Reachable) : g.CoupledDomains := by
  obtain ⟨config, now, hrun⟩ := hg
  exact invariant_of_writes hrun (fun _ _ => coupledDomains_write) fun edge hedge =>
    (by cases hedge)

theorem defaultPolicy_of_reachable (hg : g.Reachable) : g.DefaultPolicy := by
  obtain ⟨config, now, hrun⟩ := hg
  exact invariant_of_writes hrun (fun _ _ => defaultPolicy_write) ⟨.makeDefault, rfl⟩

theorem notedEvaluations_of_reachable (hg : g.Reachable) : g.NotedEvaluations := by
  obtain ⟨config, now, hrun⟩ := hg
  exact invariant_of_writes hrun (fun _ _ => notedEvaluations_write) fun input e hnoted =>
    (by cases hnoted)

/-- **Every domain is governed by some policy.** -/
theorem exists_policyFor (hg : g.Reachable) (definition : ThermalDomainDefinition) :
    ∃ policy, g.policyFor definition = some policy := by
  obtain ⟨fallback, hfallback⟩ := defaultPolicy_of_reachable hg
  rw [policyFor, hfallback]
  cases g.policies.lookup definition.policy with
  | none => exact ⟨fallback, rfl⟩
  | some policy => exact ⟨policy, rfl⟩

end Governor

end ThermalGovernor
