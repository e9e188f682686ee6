import ThermalGovernor.Laws.Conflict
import ThermalGovernor.Laws.Hysteresis
import ThermalGovernor.Laws.Restore
import ThermalGovernor.Laws.Snapshot

/-!
# Explicit recovery authorisations

What is stored of an authorisation is the id of the domain.  What it was given for is a token
with the generations in force at the call (`RecoveryAuthorization`), which nothing stores;
here it is carried along a run beside the state (`applyTokened`), set by an authorisation of
the domain and taken away by a revocation.

While the domain is authorised the token goes out of date by four kinds of steps
(`Outdates`): an accepted update of the domain, a policy that governs it in a later
generation, put in by `setPolicy` or by a load that fails on the way, and an accepted record
that makes evidence of a later boot or device generation govern.  In every run without such a
step, recovery is allowed under a token that still binds (`stillBinds_of_allowed`).
-/

namespace ThermalGovernor

open Lib

/-- The generations an explicit authorisation is given for. -/
structure RecoveryAuthorization where
  domainGeneration : ThermalDomainGeneration
  coordinatorEpoch : CoordinatorEpoch
  policyGeneration : ThermalPolicyGeneration
  workerBoot : WorkerBootId
  deviceGeneration : DeviceGeneration

namespace RecoveryAuthorization

/-- The governing evidence is of no later boot or device generation than that of the call, if
there was any then. -/
structure Covers (given : RecoveryAuthorization) (gathered : Option DomainEvidence) : Prop where
  workerBoot : isValid given.workerBoot = true →
    ∀ d ∈ gathered, d.evidence.workerBoot ≤ given.workerBoot
  deviceGeneration : isValid given.deviceGeneration = true →
    ∀ d ∈ gathered, d.evidence.subject.deviceGeneration ≤ given.deviceGeneration

end RecoveryAuthorization

namespace Governor

/-- The token an authorisation of the domain would be given now. -/
def authorizationFor (g : Governor) (domain : ThermalDomainId) : Option RecoveryAuthorization :=
  (g.domains.find domain).bind fun definition =>
    (g.policyFor definition).map fun policy =>
      let gathered := gatherDomainEvidence definition g.evidence
      { domainGeneration := definition.generation
        coordinatorEpoch := g.epoch
        policyGeneration := policy.generation
        workerBoot := (gathered.map fun d => d.evidence.workerBoot).getD 0
        deviceGeneration := (gathered.map fun d => d.evidence.subject.deviceGeneration).getD 0 }

/-- Nothing the token was given for has advanced. -/
def StillBinds (g : Governor) (domain : ThermalDomainId) (given : RecoveryAuthorization) : Prop :=
  ∃ definition policy, g.domains.find domain = some definition ∧
    g.policyFor definition = some policy ∧
    definition.generation ≤ given.domainGeneration ∧
    g.epoch ≤ given.coordinatorEpoch ∧
    policy.generation ≤ given.policyGeneration ∧
    given.Covers (gatherDomainEvidence definition g.evidence)

/-- One operation, with the token of a domain carried along. -/
def applyTokened (domain : ThermalDomainId) (s : Governor × Option RecoveryAuthorization)
    (op : Operation) : Governor × Option RecoveryAuthorization :=
  (s.1.apply op,
    match op with
    | .authorizeRecovery id => if id = domain then (s.1.authorizationFor domain).or s.2 else s.2
    | .revokeRecovery id => if id = domain then none else s.2
    | _ => s.2)

/-- The policy governs the domain once it is put in. -/
def Governs (g : Governor) (definition : ThermalDomainDefinition) (policy : ThermalPolicy) :
    Prop :=
  policy.id = definition.policy ∨
    (g.policies.lookup definition.policy = none ∧ policy.id = defaultPolicyId)

/-- The operation brings the domain beyond what the token was given for. -/
def Outdates (g : Governor) (domain : ThermalDomainId) (given : RecoveryAuthorization) :
    Operation → Prop
  | .updateThermalDomain definition =>
    definition.id = domain ∧ g.domains.checkUpdate definition = .ok ()
  | .setPolicy policy =>
    validatePolicy policy = .ok () ∧
      (∀ held, g.policies.lookup policy.id = some held → held.generation < policy.generation) ∧
      given.policyGeneration < policy.generation ∧
      ∃ definition, g.domains.find domain = some definition ∧ g.Governs definition policy
  | .loadDurable file =>
    ∃ state definition policy, g.config.durablePath.isEmpty = false ∧ file = some (.ok state) ∧
      ¬ g.Restorable state ∧ g.domains.find domain = some definition ∧
      (g.restoreConfiguration state).policyFor definition = some policy ∧
      given.policyGeneration < policy.generation
  | op =>
    ∃ e definition, op.publication = some e ∧ (g.publicationAnswer op).any isAccepted = true ∧
      g.domains.find domain = some definition ∧
      ¬ given.Covers (gatherDomainEvidence definition (g.evidence.insert e.subject.key e))

/-- The operation outdates the token that is out. -/
def OutdatesToken (domain : ThermalDomainId) (s : Governor × Option RecoveryAuthorization)
    (op : Operation) : Prop :=
  domain ∈ s.1.explicitRecovery ∧ ∃ given, s.2 = some given ∧ s.1.Outdates domain given op

variable {g g' : Governor} {op : Operation} {domain : ThermalDomainId}
  {definition : ThermalDomainDefinition}

/-! ### Refused operations -/

theorem apply_updateThermalDomain_of_refused
    (h : g.domains.checkUpdate definition ≠ .ok ()) :
    g.apply (.updateThermalDomain definition) = g := by
  rw [apply, updateThermalDomain, DomainRegistry.update]
  cases hcheck : g.domains.checkUpdate definition with
  | error e => rfl
  | ok _ => exact absurd hcheck h

theorem apply_setPolicy_of_refused {policy : ThermalPolicy}
    (h : ¬ (validatePolicy policy = .ok () ∧
      ∀ held, g.policies.lookup policy.id = some held → held.generation < policy.generation)) :
    g.apply (.setPolicy policy) = g := by
  rw [apply, setPolicy]
  cases hvalid : validatePolicy policy with
  | error e => rfl
  | ok _ =>
    dsimp only
    split
    · rfl
    · rename_i hlater
      refine absurd ⟨hvalid, fun held hheld => ?_⟩ h
      rw [hheld, Option.any_some, decide_eq_true_eq, not_le] at hlater
      exact hlater

/-- An operation that publishes nothing keeps the evidence. -/
theorem evidence_of_publication_none (h : Effects op g g') (hnone : op.publication = none) :
    g'.evidence = g.evidence := by
  rcases evidence_effects h with h | ⟨e, he, -⟩
  · exact h
  · rw [hnone] at he
    cases he

theorem evidence_apply_of_refused (hload : op.isLoad = false)
    (h : (g.publicationAnswer op).any isAccepted = false) :
    (g.apply op).evidence = g.evidence := by
  have heffects := g.apply_effects op hload
  cases op with
  | publishTemperature e => exact congrArg evidence (publishImpl_of_refused h)
  | publishThrottleEvidence e => exact congrArg evidence (publishIf_of_refused h)
  | publishCoolingEvidence e => exact congrArg evidence (publishIf_of_refused h)
  | publishNodeTemperature e => exact congrArg evidence (publishIf_of_refused h)
  | publishRackTemperature e => exact congrArg evidence (publishIf_of_refused h)
  | verifyAction id fresh =>
    -- the record is refused or a duplicate, and what is committed publishes nothing
    have hkept : (g.publishTemperature fresh).1 = g := publishImpl_of_refused h
    rw [apply, verifyAction]
    split
    · rename_i hpublished
      rw [hpublished] at hkept
      exact congrArg evidence hkept
    · rename_i published receipt hpublished
      rw [hpublished] at hkept
      obtain rfl : published = g := hkept
      exact evidence_of_publication_none
        (published.apply_effects (.verifyCommit id fresh) rfl) rfl
  | loadDurable file => cases hload
  | _ => exact evidence_of_publication_none heffects rfl

/-! ### A policy put in -/

theorem policyFor_of_governs {policy : ThermalPolicy} (h : g.Governs definition policy)
    (hput : g'.policies = g.policies.insert policy.id policy) :
    g'.policyFor definition = some policy := by
  rw [policyFor, hput, Table.lookup_insert_eq_ite, Table.lookup_insert_eq_ite]
  rcases h with hid | ⟨hnone, hid⟩
  · rw [if_pos hid.symm, Option.some_or]
  · by_cases hown : definition.policy = policy.id
    · rw [if_pos hown, Option.some_or]
    · rw [if_neg hown, hnone, if_pos hid.symm, Option.none_or]

theorem policyFor_of_not_governs {policy : ThermalPolicy} (h : ¬ g.Governs definition policy)
    (hput : g'.policies = g.policies.insert policy.id policy) :
    g'.policyFor definition = g.policyFor definition := by
  have hown : definition.policy ≠ policy.id := fun hid => h (.inl hid.symm)
  rw [policyFor, policyFor, hput, Table.lookup_insert_eq_ite, Table.lookup_insert_eq_ite,
    if_neg hown]
  cases hheld : g.policies.lookup definition.policy with
  | some _ => rw [Option.some_or, Option.some_or]
  | none =>
    rw [Option.none_or, Option.none_or, if_neg]
    exact fun hid => h (.inr ⟨hheld, hid.symm⟩)

/-! ### What a step that outdates nothing keeps -/

variable {given : RecoveryAuthorization}

theorem outdates_of_publication {e : ThermalEvidence} (h : op.publication = some e)
    (haccepted : (g.publicationAnswer op).any isAccepted = true)
    (hfind : g.domains.find domain = some definition)
    (hcovers : ¬ given.Covers
      (gatherDomainEvidence definition (g.evidence.insert e.subject.key e))) :
    g.Outdates domain given op := by
  cases op with
  | publishTemperature | publishThrottleEvidence | publishCoolingEvidence
  | publishNodeTemperature | publishRackTemperature | verifyAction =>
    exact ⟨e, definition, h, haccepted, hfind, hcovers⟩
  | _ => cases h

theorem find_apply (hload : op.isLoad = false) (hcurrent : ¬ g.Outdates domain given op)
    (hfind : g.domains.find domain = some definition) :
    (g.apply op).domains.find domain = some definition := by
  rcases find_effects (g.apply_effects op hload) hfind with h | ⟨updated, rfl, hid⟩
  · exact h
  · have hrefused : g.domains.checkUpdate updated ≠ .ok () := fun hc => hcurrent ⟨hid, hc⟩
    rwa [apply_updateThermalDomain_of_refused hrefused]

theorem policyFor_apply (hload : op.isLoad = false) (hcurrent : ¬ g.Outdates domain given op)
    (hfind : g.domains.find domain = some definition) {policy : ThermalPolicy}
    (hpolicy : g.policyFor definition = some policy)
    (hgeneration : policy.generation ≤ given.policyGeneration) :
    ∃ governing, (g.apply op).policyFor definition = some governing ∧
      governing.generation ≤ given.policyGeneration := by
  rcases policies_effects (g.apply_effects op hload) with h | ⟨put, rfl, h⟩
  · refine ⟨policy, ?_, hgeneration⟩
    rw [policyFor, h]
    exact hpolicy
  · by_cases haccepted : validatePolicy put = .ok () ∧
        ∀ held, g.policies.lookup put.id = some held → held.generation < put.generation
    · by_cases hgoverns : g.Governs definition put
      · exact ⟨put, policyFor_of_governs hgoverns h, not_lt.mp fun hlater =>
          hcurrent ⟨haccepted.1, haccepted.2, hlater, definition, hfind, hgoverns⟩⟩
      · exact ⟨policy, (policyFor_of_not_governs hgoverns h).trans hpolicy, hgeneration⟩
    · exact ⟨policy, by rwa [apply_setPolicy_of_refused haccepted], hgeneration⟩

theorem covers_apply (hload : op.isLoad = false) (hcurrent : ¬ g.Outdates domain given op)
    (hfind : g.domains.find domain = some definition)
    (hcovers : given.Covers (gatherDomainEvidence definition g.evidence)) :
    given.Covers (gatherDomainEvidence definition (g.apply op).evidence) := by
  cases haccepted : (g.publicationAnswer op).any isAccepted with
  | false => rwa [evidence_apply_of_refused hload haccepted]
  | true =>
    rcases evidence_effects (g.apply_effects op hload) with h | ⟨e, hpublication, h⟩
    · rwa [h]
    · rw [h]
      by_contra hc
      exact hcurrent (outdates_of_publication hpublication haccepted hfind hc)

/-- **A step other than a load that outdates nothing leaves a binding token binding.** -/
theorem stillBinds_apply (hload : op.isLoad = false) (hcurrent : ¬ g.Outdates domain given op)
    (h : g.StillBinds domain given) : (g.apply op).StillBinds domain given := by
  obtain ⟨definition, policy, hfind, hpolicy, hdomain, hepoch, hgeneration, hcovers⟩ := h
  obtain ⟨governing, hgoverning, hgeneration'⟩ :=
    policyFor_apply hload hcurrent hfind hpolicy hgeneration
  refine ⟨definition, governing, find_apply hload hcurrent hfind, hgoverning, hdomain, ?_,
    hgeneration', covers_apply hload hcurrent hfind hcovers⟩
  rwa [epoch_effects (g.apply_effects op hload)]

/-! ### Loads -/

variable {file : DurableState}

/-- A file that cannot be restored leaves its configuration entered. -/
theorem restore_of_not_restorable (h : ¬ g.Restorable file) : ∃ domains couplings histories e,
    g.restore file = (g.entered file domains couplings histories, .error e) := by
  by_cases htakes : g.domains.TakesAll file.domains
  · have hends := (restore_takesAll htakes).2
    rw [if_neg fun hall => h (restorable_iff.mpr ⟨htakes, hall⟩)] at hends
    obtain ⟨histories, e, hrestored⟩ := hends
    exact ⟨_, _, histories, e, hrestored⟩
  · obtain ⟨domains, histories, e, hrestored, -⟩ := restore_refused htakes
    exact ⟨domains, _, histories, e, hrestored⟩

/-- A file that is restored takes every authorisation away. -/
theorem explicitRecovery_of_restorable (h : g.Restorable file) :
    (g.restore file).1.explicitRecovery = ∅ := by
  obtain ⟨htakes, hall⟩ := restorable_iff.mp h
  have hends := (restore_takesAll htakes).2
  rw [if_pos hall] at hends
  obtain ⟨g₁, g₂, -, -, hrestored⟩ := restore_eq_ok hends
  obtain ⟨_, _, _, _, hsame⟩ :=
    (advanceTopology (discardDynamicState (g₂.restoreRecords file))).recomputeAllDomains_same
  rw [hrestored, hsame]
  rfl

/-- **A load that outdates nothing leaves a binding token binding, or takes the authorisation
away.** -/
theorem stillBinds_loadDurable (hg : g.Reachable) {content : Option (Result DurableState)}
    (hcurrent : ¬ g.Outdates domain given (.loadDurable content))
    (h : g.StillBinds domain given)
    (hmem : domain ∈ (g.apply (.loadDurable content)).explicitRecovery) :
    (g.apply (.loadDurable content)).StillBinds domain given := by
  rw [apply] at hmem ⊢
  rcases g.fst_loadDurable content with heq | ⟨file, hpath, rfl, heq⟩
  · rwa [heq]
  rw [heq] at hmem ⊢
  by_cases hrestorable : g.Restorable file
  · rw [explicitRecovery_of_restorable hrestorable] at hmem
    cases hmem
  · obtain ⟨definition, policy, hfind, hpolicy, hdomain, hepoch, hgeneration, hcovers⟩ := h
    obtain ⟨domains, couplings, histories, e, hrestored⟩ := restore_of_not_restorable hrestorable
    have hkept := g.kept_restore_error file (e := e) (by rw [hrestored])
    obtain ⟨governing, hgoverning⟩ := exists_policyFor (hg.apply (.loadDurable (some (.ok file))))
      definition
    rw [apply, heq] at hgoverning
    have hpolicies : (g.restoreConfiguration file).policyFor definition = some governing := by
      rw [← hgoverning, hrestored]
      rfl
    refine ⟨definition, governing, hkept.find domain definition hfind, hgoverning, hdomain, ?_,
      ?_, ?_⟩
    · rw [hrestored]
      exact hepoch
    · exact not_lt.mp fun hlater => hcurrent
        ⟨file, definition, governing, hpath, rfl, hrestorable, hfind, hpolicies, hlater⟩
    · rwa [hkept.evidence]

/-! ### Runs -/

/-- The domain is authorised under a token that binds. -/
def Licensed (domain : ThermalDomainId) (s : Governor × Option RecoveryAuthorization) : Prop :=
  s.1.Reachable ∧ (domain ∈ s.1.explicitRecovery →
    ∃ given, s.2 = some given ∧ s.1.StillBinds domain given)

/-- An authorisation gives a token that binds. -/
theorem stillBinds_authorizationFor (h : g.authorizationFor domain = some given) :
    g.StillBinds domain given := by
  rw [authorizationFor, Option.bind_eq_some_iff] at h
  obtain ⟨definition, hfind, h⟩ := h
  rw [Option.map_eq_some_iff] at h
  obtain ⟨policy, hpolicy, rfl⟩ := h
  refine ⟨definition, policy, hfind, hpolicy, le_refl _, le_refl _, le_refl _, ?_, ?_⟩
  · rintro - d hd
    dsimp only
    rw [Option.mem_def.mp hd]
    exact le_refl _
  · rintro - d hd
    dsimp only
    rw [Option.mem_def.mp hd]
    exact le_refl _

theorem mem_explicitRecovery_apply (hmem : domain ∈ (g.apply op).explicitRecovery) :
    domain ∈ g.explicitRecovery ∨ op = .authorizeRecovery domain := by
  cases hload : op.isLoad with
  | false => exact mem_explicitRecovery_effects (g.apply_effects op hload) hmem
  | true =>
    cases op with
    | loadDurable content =>
      refine .inl ?_
      rw [apply] at hmem
      rcases g.fst_loadDurable content with heq | ⟨file, -, -, heq⟩
      · rwa [heq] at hmem
      rw [heq] at hmem
      by_cases hrestorable : g.Restorable file
      · rw [explicitRecovery_of_restorable hrestorable] at hmem
        cases hmem
      · obtain ⟨domains, couplings, histories, e, hrestored⟩ :=
          restore_of_not_restorable hrestorable
        rwa [hrestored] at hmem
    | _ => cases hload

/-- A revocation of a registered domain takes its authorisation away. -/
theorem not_mem_explicitRecovery_revoke (hfind : g.domains.find domain = some definition) :
    domain ∉ (g.apply (.revokeRecovery domain)).explicitRecovery := by
  obtain ⟨_, _, _, _, hsame⟩ := recomputeDomain_same
    { g with explicitRecovery := g.explicitRecovery.erase domain } domain
  have hrevoked : g.apply (.revokeRecovery domain) = publishLocked (recomputeDomain
      { g with explicitRecovery := g.explicitRecovery.erase domain } domain) := by
    rw [apply, revokeRecovery, hfind]
  rw [hrevoked, hsame]
  exact Finset.notMem_erase domain g.explicitRecovery

theorem applyTokened_of_ne (s : Governor × Option RecoveryAuthorization)
    (hauthorize : op ≠ .authorizeRecovery domain) (hrevoke : op ≠ .revokeRecovery domain) :
    applyTokened domain s op = (s.1.apply op, s.2) := by
  unfold applyTokened
  split
  · rw [if_neg fun hid => hauthorize (by rw [hid])]
  · rw [if_neg fun hid => hrevoke (by rw [hid])]
  · rfl

/-- **Every step that outdates no token keeps the authorised domains licensed.** -/
theorem licensed_applyTokened {s : Governor × Option RecoveryAuthorization} {op : Operation}
    (hcurrent : ¬ OutdatesToken domain s op) (h : Licensed domain s) :
    Licensed domain (applyTokened domain s op) := by
  obtain ⟨hreached, hbinds⟩ := h
  refine ⟨hreached.apply op, fun hmem => ?_⟩
  have hmem' : domain ∈ (s.1.apply op).explicitRecovery := hmem
  by_cases hauthorize : op = .authorizeRecovery domain
  · subst hauthorize
    have htoken : (applyTokened domain s (.authorizeRecovery domain)).2 =
        (s.1.authorizationFor domain).or s.2 := if_pos rfl
    cases hgiven : s.1.authorizationFor domain with
    | some given =>
      rw [hgiven] at htoken
      refine ⟨given, htoken, stillBinds_apply rfl ?_ (stillBinds_authorizationFor hgiven)⟩
      rintro ⟨e, -, hpublication, -⟩
      cases hpublication
    | none =>
      -- the domain is not registered, so nothing happens, and it was not authorised
      have hnone : s.1.domains.find domain = none := by
        cases hfind : s.1.domains.find domain with
        | none => rfl
        | some definition =>
          obtain ⟨policy, hpolicy⟩ := exists_policyFor hreached definition
          rw [authorizationFor, hfind, Option.bind_some, hpolicy] at hgiven
          cases hgiven
      have hsame : s.1.apply (.authorizeRecovery domain) = s.1 := by
        rw [apply, authorizeRecovery, hnone]
      rw [hsame] at hmem'
      obtain ⟨given, -, definition, -, hfind, -⟩ := hbinds hmem'
      rw [hnone] at hfind
      cases hfind
  · have hheld : domain ∈ s.1.explicitRecovery :=
      (mem_explicitRecovery_apply hmem').resolve_right hauthorize
    obtain ⟨given, htoken, hstill⟩ := hbinds hheld
    by_cases hrevoke : op = .revokeRecovery domain
    · subst hrevoke
      obtain ⟨definition, -, hfind, -⟩ := hstill
      exact absurd hmem' (not_mem_explicitRecovery_revoke hfind)
    · rw [applyTokened_of_ne s hauthorize hrevoke]
      refine ⟨given, htoken, ?_⟩
      have hcurrent' : ¬ s.1.Outdates domain given op := fun hc =>
        hcurrent ⟨hheld, given, htoken, hc⟩
      cases hload : op.isLoad with
      | false => exact stillBinds_apply hload hcurrent' hstill
      | true =>
        cases op with
        | loadDurable content => exact stillBinds_loadDurable hreached hcurrent' hstill hmem'
        | _ => cases hload

/-- A recovery that a policy ties to an authorisation is allowed to an authorised domain. -/
theorem mem_explicitRecovery_of_allowed {policy : ThermalPolicy}
    (hrequires : policy.recovery.requireExplicitAuthorization = true)
    (hallowed : (g.evaluation definition policy).2.recovery.allowed = true) :
    definition.id ∈ g.explicitRecovery := by
  have hrecovery : (recoveryFor (g.evaluation definition policy).1).allowed = true := by
    rw [← evaluateThermal_recovery]
    exact hallowed
  unfold recoveryFor at hrecovery
  split at hrecovery
  · obtain ⟨held, hheld, hassessed⟩ := evaluateRecovery_allowed hrecovery
    obtain rfl : policy = held := Option.some.inj hheld
    rw [hassessed] at hrecovery
    obtain ⟨-, -, -, -, -, -, hexplicit⟩ := allowed_assessRecovery hrecovery
    exact of_decide_eq_true (hexplicit hrequires)
  · cases hrecovery

/-- The token that is out was given by an authorisation that was not revoked since. -/
theorem authorized_of_token {ok : Governor × Option RecoveryAuthorization → Operation → Prop}
    {g₀ : Governor} {s : Governor × Option RecoveryAuthorization}
    (hrun : RunUnder (applyTokened domain) ok (g₀, none) s) : Runs g₀ s.1 ∧
      ∀ given, s.2 = some given → ∃ g₁, Runs g₀ g₁ ∧
        g₁.authorizationFor domain = some given ∧
        RunsUnder (fun _ op => op ≠ .revokeRecovery domain)
          (g₁.apply (.authorizeRecovery domain)) s.1 := by
  induction hrun with
  | refl => exact ⟨.refl, fun given h => by cases h⟩
  | @tail s op _ _ ih =>
    obtain ⟨hruns, hgiven⟩ := ih
    refine ⟨.tail op hruns trivial, fun given htoken => ?_⟩
    by_cases hauthorize : op = .authorizeRecovery domain
    · subst hauthorize
      have hnew : (s.1.authorizationFor domain).or s.2 = some given := by
        rw [← htoken]
        exact (if_pos rfl).symm
      cases hnow : s.1.authorizationFor domain with
      | some other =>
        rw [hnow, Option.some_or] at hnew
        exact ⟨s.1, hruns, hnow.trans hnew, .refl⟩
      | none =>
        rw [hnow, Option.none_or] at hnew
        obtain ⟨g₁, hbefore, hcall, hsince⟩ := hgiven given hnew
        have hsince' : RunsUnder (fun _ op => op ≠ .revokeRecovery domain)
            (g₁.apply (.authorizeRecovery domain)) (s.1.apply (.authorizeRecovery domain)) :=
          .tail _ hsince (by simp)
        exact ⟨g₁, hbefore, hcall, hsince'⟩
    · by_cases hrevoke : op = .revokeRecovery domain
      · subst hrevoke
        have hnone : (applyTokened domain s (.revokeRecovery domain)).2 = none := if_pos rfl
        rw [hnone] at htoken
        cases htoken
      · rw [applyTokened_of_ne s hauthorize hrevoke] at htoken ⊢
        obtain ⟨g₁, hbefore, hcall, hsince⟩ := hgiven given htoken
        exact ⟨g₁, hbefore, hcall, .tail op hsince hrevoke⟩

/-- **Explicit authorisation binds in every run without a step that outdates its token**: where
the policy of a domain asks for one and its recovery is allowed, the domain was authorised and
not revoked since, and nothing that the authorisation was given for has advanced since. -/
theorem stillBinds_of_allowed {config : GovernorConfig} {now : SteadyTimePoint}
    {token : Option RecoveryAuthorization}
    (hrun : RunUnder (applyTokened domain) (fun s op => ¬ OutdatesToken domain s op)
      (create config now, none) (g, token))
    {policy : ThermalPolicy} (hfind : g.domains.find domain = some definition)
    (hpolicy : g.policyFor definition = some policy)
    (hrequires : policy.recovery.requireExplicitAuthorization = true)
    {e : ThermalEvaluation} (he : (g.evaluateDomain domain).2 = .ok e)
    (hallowed : e.recovery.allowed = true) :
    ∃ given, token = some given ∧ g.StillBinds domain given ∧
      ∃ g₁, Runs (create config now) g₁ ∧ g₁.authorizationFor domain = some given ∧
        RunsUnder (fun _ op => op ≠ .revokeRecovery domain)
          (g₁.apply (.authorizeRecovery domain)) g := by
  have hlicensed : Licensed domain (g, token) := by
    refine RunUnder.invariant hrun ⟨⟨config, now, .refl⟩, fun hmem => ?_⟩
      fun s op h hcurrent => licensed_applyTokened hcurrent h
    cases hmem
  obtain rfl : (g.evaluation definition policy).2 = e :=
    Except.ok.inj ((evaluateDomain_eq_ok hfind hpolicy).symm.trans he)
  have hid : definition.id = domain := keyedDomains_of_reachable hlicensed.1 domain definition hfind
  obtain ⟨given, htoken, hstill⟩ :=
    hlicensed.2 (hid ▸ mem_explicitRecovery_of_allowed hrequires hallowed)
  exact ⟨given, htoken, hstill, (authorized_of_token hrun).2 given htoken⟩

/-! ### A token that is out of date -/

/-- The default policy with recovery by explicit authorisation, after one sample. -/
def authorisedPolicy (generation : ThermalPolicyGeneration) : ThermalPolicy :=
  let base : ThermalPolicy := .makeDefault
  { base with
    generation := generation
    recovery := { requireExplicitAuthorization := true }
    freshness := { requiredConsecutiveSamples := 1, minEvidenceSpan := 0 } }

/-- A cool domain is read by a worker and authorised to recover. -/
def authorisation : List Operation :=
  Deployment.setUp ++ [.setPolicy (authorisedPolicy 2), .registerWorker 1 1 "first",
    .publishTemperature (Deployment.readingBy 1 1 40 1 0), .authorizeRecovery 1]

/-- The worker starts again and reads on, the policy is replaced, and the domain as well. -/
def advances : List Operation :=
  [.registerWorker 1 2 "first", .publishTemperature (Deployment.readingBy 1 2 40 1 0),
    .setPolicy (authorisedPolicy 3),
    .updateThermalDomain { Deployment.domain with generation := 2 }]

/-- The states of the deployment with the token of its domain. -/
def tokened (operations : List Operation) : Governor × Option RecoveryAuthorization :=
  operations.foldl (applyTokened 1) (create Deployment.config 0, none)

/-- Without a token nothing is outdated. -/
theorem not_outdatesToken_none (g : Governor) (op : Operation) :
    ¬ OutdatesToken domain (g, none) op := by
  rintro ⟨-, given, htoken, -⟩
  cases htoken

/-- Right after the authorisation the recovery is allowed, and the token binds. -/
theorem stillBinds_authorisation : ∃ given, (tokened authorisation).2 = some given ∧
    (tokened authorisation).1.StillBinds 1 given := by
  have hrun : RunUnder (applyTokened 1) (fun s op => ¬ OutdatesToken 1 s op)
      (create Deployment.config 0, none) (tokened authorisation) :=
    .tail _ (.tail _ (.tail _ (.tail _ (.tail _ (.tail _ .refl
      (not_outdatesToken_none _ _)) (not_outdatesToken_none _ _)) (not_outdatesToken_none _ _))
      (not_outdatesToken_none _ _)) (not_outdatesToken_none _ _)) (not_outdatesToken_none _ _)
  obtain ⟨e, he, hallowed⟩ := exists_of_ok ((tokened authorisation).1.evaluateDomain 1).2
    (fun e => e.recovery.allowed = true) (by decide +kernel)
  obtain ⟨definition, hfind, hgoverned⟩ := exists_of_any
    ((tokened authorisation).1.domains.find 1)
    (fun definition => ((tokened authorisation).1.policyFor definition).any (fun policy => decide
      (policy.recovery.requireExplicitAuthorization = true)) = true) (by decide +kernel)
  obtain ⟨policy, hpolicy, hrequires⟩ := exists_of_any _ _ hgoverned
  obtain ⟨given, htoken, hstill, -⟩ :=
    stillBinds_of_allowed hrun hfind hpolicy hrequires he hallowed
  exact ⟨given, htoken, hstill⟩

/-- After all of it the recovery is still allowed, under a token of the first boot, the second
policy and the first definition. -/
theorem not_stillBinds :
    RunUnder (applyTokened 1) (fun _ _ => True) (create Deployment.config 0, none)
        (tokened (authorisation ++ advances)) ∧
      ∃ definition policy e given,
        (tokened (authorisation ++ advances)).1.domains.find 1 = some definition ∧
        (tokened (authorisation ++ advances)).1.policyFor definition = some policy ∧
        policy.recovery.requireExplicitAuthorization = true ∧
        ((tokened (authorisation ++ advances)).1.evaluateDomain 1).2 = .ok e ∧
        e.recovery.allowed = true ∧
        (tokened (authorisation ++ advances)).2 = some given ∧
        given.domainGeneration < definition.generation ∧
        given.policyGeneration < policy.generation ∧
        ¬ (tokened (authorisation ++ advances)).1.StillBinds 1 given := by
  refine ⟨.of_foldl _ (fun _ _ _ => trivial) _, ?_⟩
  obtain ⟨given, hgiven, hdomain, hpolicy⟩ := exists_of_any (tokened (authorisation ++ advances)).2
    (fun given => given.domainGeneration = 1 ∧ given.policyGeneration = 2) (by decide +kernel)
  obtain ⟨e, he, hallowed⟩ := exists_of_ok
    ((tokened (authorisation ++ advances)).1.evaluateDomain 1).2
    (fun e => e.recovery.allowed = true) (by decide +kernel)
  obtain ⟨definition, hfind, hgeneration, hgoverned⟩ := exists_of_any
    ((tokened (authorisation ++ advances)).1.domains.find 1)
    (fun definition => definition.generation = 2 ∧
      ((tokened (authorisation ++ advances)).1.policyFor definition).any (fun policy => decide
        (policy.generation = 3 ∧ policy.recovery.requireExplicitAuthorization = true)) = true)
    (by decide +kernel)
  obtain ⟨policy, hfound, hlater, hrequires⟩ := exists_of_any _ _ hgoverned
  refine ⟨definition, policy, e, given, hfind, hfound, hrequires, he, hallowed, hgiven,
    by rw [hdomain, hgeneration]; decide, by rw [hpolicy, hlater]; decide, ?_⟩
  rintro ⟨definition', -, hfind', -, hbound, -⟩
  obtain rfl : definition = definition' := Option.some.inj (hfind.symm.trans hfind')
  rw [hdomain, hgeneration] at hbound
  exact absurd hbound (by decide)

end Governor

end ThermalGovernor
