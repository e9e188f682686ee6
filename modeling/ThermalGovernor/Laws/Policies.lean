import ThermalGovernor.Laws.Restore

/-!
# The policies that govern

A policy enters the table in three ways: the default one with the coordinator, one that was
validated with `setPolicy`, and those of a durable file, which the decoder admits when their
thresholds are temperatures, in whatever order.  So every policy of the table is valid as long
as loads bring in none that is not (`validPolicies_of_runsUnder`).
-/

namespace ThermalGovernor

open Lib Durable

namespace Governor

variable {g g' : Governor} {config : GovernorConfig} {now : SteadyTimePoint}

/-- Every policy of the table passes validation. -/
def ValidPolicies (g : Governor) : Prop :=
  ∀ id policy, g.policies.lookup id = some policy → validatePolicy policy = .ok ()

/-- A load brings in valid policies only. -/
def LoadsValid (g : Governor) : Operation → Prop
  | .loadDurable (some (.ok file)) => g.config.durablePath.isEmpty = true ∨
      ∀ policy ∈ file.policies, validatePolicy policy = .ok ()
  | _ => True

/-- What is loaded repeats no identity, as the decoder makes sure. -/
def LoadsUnique : Operation → Prop
  | .loadDurable (some (.ok file)) => UniqueIds file
  | _ => True

theorem validPolicies_write (h : Write (fun policy => validatePolicy policy = .ok ()) g g')
    (hg : g.ValidPolicies) : g'.ValidPolicies := by
  intro id policy hlookup
  rcases h.policies with hsame | ⟨stored, hvalid, hstored⟩
  · rw [hsame] at hlookup
    exact hg id policy hlookup
  · rw [hstored, Table.lookup_insert_eq_ite] at hlookup
    split at hlookup
    · obtain rfl := Option.some.inj hlookup
      exact hvalid
    · exact hg id policy hlookup

theorem validPolicies_create (config : GovernorConfig) (now : SteadyTimePoint) :
    (create config now).ValidPolicies := by
  intro id policy hlookup
  have hinsert : ((∅ : Table ThermalPolicyId ThermalPolicy).insert defaultPolicyId
      .makeDefault).lookup id = some policy := hlookup
  rw [Table.lookup_insert_eq_ite] at hinsert
  split at hinsert
  · obtain rfl := Option.some.inj hinsert
    exact validatePolicy_makeDefault
  · cases hinsert

/-- What an operation puts in is valid when its load is. -/
theorem valid_of_puts {op : Operation} {policy : ThermalPolicy} (hloads : g.LoadsValid op)
    (hput : g.Puts op policy) : validatePolicy policy = .ok () := by
  unfold Puts at hput
  split at hput
  · exact hput.2
  · rcases hloads with hpath | hvalid
    · rw [hpath] at hput
      cases hput.1
    · exact hvalid policy hput.2
  · exact hput.elim

/-- A load that fails on the way has put in all policies of the file. -/
theorem policies_restore (g : Governor) (file : DurableState) :
    (g.restore file).1.policies = (g.restoreConfiguration file).policies := by
  refine restore_rule (I := fun g' => g'.policies = (g.restoreConfiguration file).policies)
    (J := fun r => r.1.policies = (g.restoreConfiguration file).policies) rfl
    (fun _ _ _ h => h) (fun _ _ _ _ h => h) (fun _ _ h => h) fun g₂ h => ?_
  have hrecomputed : (advanceTopology (discardDynamicState
      (g₂.restoreRecords file))).recomputeAllDomains.policies =
        (g₂.restoreRecords file).policies := (recomputeAllDomains_same _).sameReads.policies
  exact hrecomputed.trans ((sameGoverned_restoreRecords g₂ file).policies.trans h)

/-- **A load leaves every policy valid exactly when it brings in valid ones only.** -/
theorem validPolicies_loadDurable_iff (hg : g.ValidPolicies) (file : Option (Result DurableState))
    (hunique : LoadsUnique (.loadDurable file)) :
    (g.loadDurable file).1.ValidPolicies ↔ g.LoadsValid (.loadDurable file) := by
  constructor
  · intro hvalid
    unfold LoadsValid
    split
    · rename_i state hop
      obtain rfl := Operation.loadDurable.inj hop
      by_cases hpath : g.config.durablePath.isEmpty = true
      · exact .inl hpath
      · refine .inr fun policy hpolicy => hvalid policy.id policy ?_
        have hentered : (g.loadDurable (some (.ok state))).1 = (g.restore state).1 := by
          unfold loadDurable
          rw [if_neg hpath]
        rw [hentered, policies_restore]
        exact Table.lookup_foldl_insert_of_mem hunique.policies g.policies hpolicy
    · trivial
  · intro hloads
    have hwrites := g.apply_writes (.loadDurable file) fun policy => valid_of_puts hloads
    exact hwrites.invariant (fun _ _ => validPolicies_write) hg

/-- **Every policy of the table is valid in every state of a run whose loads bring in valid
policies only**, and any other load puts in one that is not. -/
theorem validPolicies_of_runsUnder (hrun : RunsUnder LoadsValid (create config now) g) :
    g.ValidPolicies ∧ ∀ op, LoadsUnique op →
      ((g.apply op).ValidPolicies ↔ g.LoadsValid op) := by
  have hvalid : g.ValidPolicies :=
    invariant_of_writesUnder hrun (fun _ _ _ => valid_of_puts) (fun _ _ => validPolicies_write)
      (validPolicies_create config now)
  refine ⟨hvalid, fun op hunique => ?_⟩
  constructor
  · intro hnext
    cases op with
    | loadDurable file => exact (validPolicies_loadDurable_iff hvalid file hunique).mp hnext
    | _ => trivial
  · intro hloads
    have hwrites := g.apply_writes op fun policy => valid_of_puts hloads
    exact hwrites.invariant (fun _ _ => validPolicies_write) hvalid

theorem validPolicies_deployment :
    (Deployment.after []).ValidPolicies ∧ ∀ op, LoadsUnique op →
      (((Deployment.after []).apply op).ValidPolicies ↔ (Deployment.after []).LoadsValid op) :=
  validPolicies_of_runsUnder (runsUnder_foldl _ (fun op hop g => by
    rw [List.append_nil] at hop
    rcases List.mem_cons.mp hop with rfl | hop
    · trivial
    · rw [List.mem_singleton.mp hop]
      trivial) (create Deployment.config 0))

/-! ### A policy out of order -/

/-- The default policy with its warning threshold above the critical one. -/
def outOfOrder : ThermalPolicy :=
  { PolicyOver.makeDefault with
    thresholds := { PolicyOver.makeDefault.thresholds with warning := 200 } }

/-- The decoder takes a policy that is not valid, and it governs. -/
theorem not_validPolicies : ¬ ∀ (g : Governor) (limits : PersistenceLimits) (file : Container),
    g.Reachable → (g.load limits file).1.ValidPolicies := by
  intro hclaim
  have hloaded : (((Deployment.after []).load {} (container
      { formatVersion := persistenceFormatVersion, policies := [outOfOrder] })).1.policies.lookup
        defaultPolicyId).map (fun policy => decide (validatePolicy policy = .ok ())) =
          some false := by
    decide +kernel
  obtain ⟨policy, hpolicy, hinvalid⟩ := Option.map_eq_some_iff.mp hloaded
  exact of_decide_eq_false hinvalid
    (hclaim _ _ _ (Deployment.reachable_after []) defaultPolicyId policy hpolicy)

end Governor

end ThermalGovernor
