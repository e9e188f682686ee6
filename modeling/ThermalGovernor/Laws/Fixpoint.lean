import ThermalGovernor.Governed.Rests

/-!
# Stored evaluations after an operation

An operation that changes what evaluations read decides for itself which domains it
recomputes, and in which order: all of them by id, the one it concerns, or, for a
publication, the domains of the record and then their neighbours to a fixed depth.  Each
domain is recomputed once, from what is stored for its neighbours at that moment.

`recomputation` is the state that an operation begins to recompute in, and the order it
takes.  After the operation every domain rests if that order settles
(`rests_of_runsUnder`); where a domain that changes heats one that was recomputed before
it, the stored evaluation of the latter is left behind (`not_rests`).
-/

namespace ThermalGovernor

open Lib

/-- The operation is one of those that recompute what they have changed. -/
def Operation.recomputes : Operation → Bool
  | registerDevice _ | publishCapabilities _ _ _ | registerThermalDomain _
  | updateThermalDomain _ | registerCoupling _ | removeCoupling _ | setPolicy _
  | registerWorker _ _ _ | noteWorkerDeath _ _ | publishTemperature _
  | publishThrottleEvidence _ | publishCoolingEvidence _ | publishNodeTemperature _
  | publishRackTemperature _ | authorizeRecovery _ | revokeRecovery _ => true
  | _ => false

namespace Governor

variable {g g' : Governor}

/-! ### Where an operation recomputes from -/

/-- Record the sample of a record in one domain. -/
def recordSample (e : ThermalEvidence) (g : Governor) (domain : ThermalDomainId) : Governor :=
  match g.domains.find domain with
  | none => g
  | some definition =>
    g.setHistory domain ((g.recoveryHistories domain).push (recoverySample e definition))

/-- Every registered domain is recomputed, smallest id first. -/
def recomputingAll (g : Governor) : Governor × List ThermalDomainId := (g, g.domains.allDomainIds)

/-- The recomputation of an enrolment. -/
def enrolment (g : Governor) (worker : WorkerId) (boot : WorkerBootId) (label : String) :
    Governor × List ThermalDomainId :=
  if g.config.maxWorkers ≤ Table.size g.workers then (g, [])
  else
    recomputingAll
      { g with
        workers := g.workers.insert worker
          { worker := worker, boot := boot, label := label, alive := true,
            registeredAt := g.now, lastSeenAt := g.now } }

/-- The recomputation of a publication. -/
def publication (g : Governor) (e : ThermalEvidence) : Governor × List ThermalDomainId :=
  if g.accepts e then
    let accepted := (g.acceptEvidence e).countPublication e
    let affected := accepted.affectedDomains e
    (affected.foldl (recordSample e) accepted, affected ++ accepted.coupledNeighbours affected)
  else (g, [])

/-- The state an operation begins to recompute in, and the domains it recomputes in order. -/
def recomputation (g : Governor) : Operation → Governor × List ThermalDomainId
  | .registerDevice registration =>
    match runChecks (g.deviceChecks registration) with
    | .error _ => (g, [])
    | .ok () =>
      recomputingAll
        { g with
          devices := g.devices.insert registration.device registration
          capabilityGeneration := advance g.capabilityGeneration }
  | .publishCapabilities device generation capabilities =>
    match g.devices.lookup device with
    | none => (g, [])
    | some held =>
      if held.generation ≠ generation then (g, [])
      else
        recomputingAll
          { g with
            devices := g.devices.insert device { held with capabilities := capabilities }
            capabilityGeneration := advance g.capabilityGeneration }
  | .registerThermalDomain definition =>
    if g.config.maxDomains ≤ g.domains.size then (g, [])
    else
      match g.domains.add definition with
      | (_, .error _) => (g, [])
      | (domains, .ok ()) =>
        (openHistory { g with domains := domains } definition.id, [definition.id])
  | .updateThermalDomain definition =>
    match g.domains.update definition with
    | (_, .error _) => (g, [])
    | (domains, .ok ()) =>
      ({ g with
          domains := domains
          invalidatedEvidence := g.invalidatedEvidence ∪ g.supersededKeys definition },
        [definition.id])
  | .registerCoupling relation =>
    match runChecks (g.couplingChecks relation) with
    | .error _ => (g, [])
    | .ok () => recomputingAll { g with couplings := g.couplings.add relation }
  | .removeCoupling id =>
    match g.couplings.remove id with
    | none => (g, [])
    | some couplings => recomputingAll { g with couplings := couplings }
  | .setPolicy policy =>
    match validatePolicy policy with
    | .error _ => (g, [])
    | .ok () =>
      if (g.policies.lookup policy.id).any fun held => policy.generation ≤ held.generation then
        (g, [])
      else
        recomputingAll
          { g with
            policies := g.policies.insert policy.id policy
            policyGeneration := advance g.policyGeneration }
  | .registerWorker worker boot label =>
    if ! isValid worker || ! isValid boot then (g, [])
    else
      match g.workers.lookup worker with
      | none => g.enrolment worker boot label
      | some held =>
        if boot < held.boot then (g, [])
        else if held.boot = boot then (g, [])
        else (g.retireBootLocked worker held.boot).enrolment worker boot label
  | .noteWorkerDeath worker boot =>
    match g.workers.lookup worker with
    | none => (g, [])
    | some held =>
      if held.boot ≠ boot then (g, [])
      else
        recomputingAll <| retireBootLocked
          { g with workers := g.workers.insert worker { held with alive := false } } worker boot
  | .publishTemperature e => g.publication e
  | .publishThrottleEvidence e => if e.throttle.isSome then g.publication e else (g, [])
  | .publishCoolingEvidence e =>
    if e.cooling.any CoolingEvidence.hasAny then g.publication e else (g, [])
  | .publishNodeTemperature e => if e.subject.kind = .node then g.publication e else (g, [])
  | .publishRackTemperature e => if e.subject.kind = .rack then g.publication e else (g, [])
  | .authorizeRecovery domain =>
    match g.domains.find domain with
    | none => (g, [])
    | some _ =>
      ({ g with
          recoveryGeneration := advance g.recoveryGeneration
          explicitRecovery := insert domain g.explicitRecovery }, [domain])
  | .revokeRecovery domain =>
    match g.domains.find domain with
    | none => (g, [])
    | some _ => ({ g with explicitRecovery := g.explicitRecovery.erase domain }, [domain])
  | _ => (g, [])

/-- The recomputation of the operation brings everything to rest. -/
def Settles (g : Governor) (op : Operation) : Prop :=
  op.recomputes = true → (g.recomputation op).1.settles (g.recomputation op).2 = true

/-! ### An operation is its recomputation -/

/-- The states differ in nothing that an evaluation reads. -/
structure SameEvaluations (g g' : Governor) : Prop where
  same : SameReads g g'
  evaluations : g'.evaluations = g.evaluations

theorem SameEvaluations.refl (g : Governor) : SameEvaluations g g := ⟨.refl g, rfl⟩

theorem rests_of_sameEvaluations (hkeyed : g.KeyedDomains) (h : SameEvaluations g g')
    {id : ThermalDomainId} (hrests : g.rests id = true) : g'.rests id = true := by
  refine rests_congr hkeyed h.same ?_ (fun source _ => ?_) hrests
  · rw [standingAt, h.evaluations, standingAt]
  · rw [stateAt, h.evaluations, stateAt]

theorem sameEvaluations_publishLocked (g : Governor) : SameEvaluations g g.publishLocked :=
  ⟨g.sameReads_publishLocked, rfl⟩

theorem sameEvaluations_publish_advance (g : Governor) :
    SameEvaluations g (publishLocked g.advanceTopology) :=
  ⟨g.sameReads_advanceTopology.trans (sameReads_publishLocked _), rfl⟩

section Samples

variable {domain other : ThermalDomainId} {history : RecoveryHistory}

/-- An evaluation reads the history of its own domain only. -/
theorem evaluation_setHistory {definition : ThermalDomainDefinition} (policy : ThermalPolicy)
    (h : definition.id ≠ other) :
    (g.setHistory other history).evaluation definition policy = g.evaluation definition policy := by
  have hhistory : (g.setHistory other history).recoveryHistories definition.id =
      g.recoveryHistories definition.id := Function.update_of_ne h _ _
  have hinput : ∀ evidence pressure,
      (g.setHistory other history).recoveryInput definition evidence pressure =
        g.recoveryInput definition evidence pressure := by
    intro evidence pressure
    unfold recoveryInput
    rw [hhistory]
    rfl
  unfold evaluation evaluationInput
  simp only [hinput]
  rfl

theorem recordTransition_setHistory (generation : ThermalDomainGeneration)
    (e : ThermalEvaluation) :
    (g.setHistory other history).recordTransition domain generation e =
      (g.recordTransition domain generation e).setHistory other history := by
  unfold recordTransition setHistory
  dsimp only
  split <;> rfl

/-- A recomputation and a write to the history of another domain commute. -/
theorem recomputeDomain_setHistory (hkeyed : g.KeyedDomains) (h : domain ≠ other) :
    (g.setHistory other history).recomputeDomain domain =
      (g.recomputeDomain domain).setHistory other history := by
  by_cases hgoverned : ∃ definition policy, g.domains.find domain = some definition ∧
      g.policyFor definition = some policy
  · obtain ⟨definition, policy, hfind, hpolicy⟩ := hgoverned
    have hid : definition.id ≠ other := by rwa [hkeyed domain definition hfind]
    rw [recomputeDomain_eq_record hfind hpolicy,
      recomputeDomain_eq_record (g := g.setHistory other history) hfind hpolicy,
      evaluation_setHistory policy hid]
    exact recordTransition_setHistory (g := g.note (.evaluated (g.evaluation definition policy).1
      (g.evaluation definition policy).2)) _ _
  · have hungoverned : ∀ definition, g.domains.find domain = some definition →
        g.policyFor definition = none := by
      intro definition hfind
      by_contra hpolicy
      obtain ⟨policy, hpolicy⟩ := Option.ne_none_iff_exists'.mp hpolicy
      exact hgoverned ⟨definition, policy, hfind, hpolicy⟩
    rw [recomputeDomain_eq_self hungoverned,
      recomputeDomain_eq_self (g := g.setHistory other history) hungoverned]

theorem refreshDomain_eq (e : ThermalEvidence) (g : Governor) (domain : ThermalDomainId) :
    refreshDomain e g domain = (recordSample e g domain).recomputeDomain domain := by
  unfold refreshDomain recordSample
  cases hfind : g.domains.find domain with
  | none =>
    dsimp only
    rw [recomputeDomain, hfind]
  | some definition => rfl

theorem recomputeDomain_recordSample (hkeyed : g.KeyedDomains) (e : ThermalEvidence)
    (h : domain ≠ other) :
    (recordSample e g other).recomputeDomain domain =
      recordSample e (g.recomputeDomain domain) other := by
  have hsame := g.recomputeDomain_same domain
  unfold recordSample
  rw [hsame.domains, hsame.recoveryHistories]
  cases g.domains.find other with
  | none => rfl
  | some definition => exact recomputeDomain_setHistory hkeyed h

theorem domains_recordSample (e : ThermalEvidence) (g : Governor) (domain : ThermalDomainId) :
    (recordSample e g domain).domains = g.domains := by
  unfold recordSample
  split <;> rfl

theorem recomputeDomain_foldl_recordSample (e : ThermalEvidence) (domains : List ThermalDomainId) :
    ∀ g : Governor, g.KeyedDomains → domain ∉ domains →
      domains.foldl (recordSample e) (g.recomputeDomain domain) =
        (domains.foldl (recordSample e) g).recomputeDomain domain := by
  induction domains with
  | nil => exact fun _ _ _ => rfl
  | cons first rest ih =>
    intro g hkeyed hnot
    rw [List.mem_cons, not_or] at hnot
    rw [List.foldl_cons, List.foldl_cons, ← recomputeDomain_recordSample hkeyed e hnot.1]
    refine ih _ (fun id definition hfind => hkeyed id definition ?_) hnot.2
    rw [domains_recordSample] at hfind
    exact hfind

/-- **Recording and recomputing domain by domain is recording first and recomputing then.** -/
theorem foldl_refreshDomain (e : ThermalEvidence) (domains : List ThermalDomainId) :
    ∀ g : Governor, g.KeyedDomains → domains.Nodup →
      domains.foldl (refreshDomain e) g =
        (domains.foldl (recordSample e) g).recomputeDomains domains := by
  induction domains with
  | nil => exact fun _ _ _ => rfl
  | cons first rest ih =>
    intro g hkeyed hnodup
    rw [List.nodup_cons] at hnodup
    have hkeyed' : (recordSample e g first).KeyedDomains := by
      intro id definition hfind
      rw [domains_recordSample] at hfind
      exact hkeyed id definition hfind
    have hkeyed'' : ((recordSample e g first).recomputeDomain first).KeyedDomains := by
      intro id definition hfind
      rw [(recomputeDomain_same _ _).domains] at hfind
      exact hkeyed' id definition hfind
    rw [List.foldl_cons, refreshDomain_eq, ih _ hkeyed'' hnodup.2,
      recomputeDomain_foldl_recordSample e rest _ hkeyed' hnodup.1]
    rfl

end Samples

/-! ### An operation is its recomputation -/

/-- The recomputation comes to what the operation leaves. -/
def Recomputes (g' : Governor) (recomputation : Governor × List ThermalDomainId) : Prop :=
  SameEvaluations (recomputation.1.recomputeDomains recomputation.2) g'

theorem Recomputes.sameReads {c : Governor × List ThermalDomainId} (h : Recomputes g c) :
    SameReads c.1 g :=
  (recomputeDomains_same _ _).sameReads.trans h.same

theorem recomputes_self (g : Governor) : Recomputes g (g, []) := .refl g

theorem recomputes_all (g : Governor) :
    Recomputes (publishLocked g.recomputeAllDomains) g.recomputingAll :=
  sameEvaluations_publishLocked _

theorem recomputes_all_advance (g : Governor) :
    Recomputes (publishLocked (advanceTopology g.recomputeAllDomains)) g.recomputingAll :=
  sameEvaluations_publish_advance _

theorem recomputes_enrolment (g : Governor) (worker : WorkerId) (boot : WorkerBootId)
    (label : String) :
    Recomputes (g.enrol worker boot label).1 (g.enrolment worker boot label) := by
  unfold enrol enrolment
  split
  · exact recomputes_self g
  · exact recomputes_all _

theorem recomputes_registerWorker (g : Governor) (worker : WorkerId) (boot : WorkerBootId)
    (label : String) :
    Recomputes (g.registerWorker worker boot label).1
      (g.recomputation (.registerWorker worker boot label)) := by
  rw [registerWorker, recomputation]
  split
  · exact recomputes_self g
  · cases hheld : g.workers.lookup worker with
    | none => exact g.recomputes_enrolment worker boot label
    | some held =>
      dsimp only
      split
      · exact recomputes_self g
      · split
        · have hkept : SameEvaluations g
              (g.keepAlive worker held { held with label := label }) := by
            unfold keepAlive
            dsimp only
            split <;> exact ⟨⟨rfl, rfl, rfl, rfl, rfl, rfl, rfl, rfl, rfl, rfl, rfl⟩, rfl⟩
          exact ⟨hkept.same.trans (sameReads_publishLocked _), hkept.evaluations⟩
        · exact recomputes_enrolment _ worker boot label

theorem couplings_foldl_refreshDomain (e : ThermalEvidence) (domains : List ThermalDomainId) :
    (domains.foldl (refreshDomain e) g).couplings = g.couplings := by
  refine foldl_unchanged (p := Governor.couplings) (fun g domain => ?_) domains g
  unfold refreshDomain
  split
  · rfl
  · obtain ⟨_, _, _, _, h⟩ := recomputeDomain_same (g.setHistory domain _) domain
    rw [h]
    rfl

theorem recomputes_publication (hkeyed : g.KeyedDomains) (e : ThermalEvidence) :
    Recomputes (g.publishImpl e).1 (g.publication e) := by
  unfold publication
  cases haccepts : g.accepts e with
  | false =>
    rw [publishImpl_of_refused haccepts]
    exact recomputes_self g
  | true =>
    rw [if_pos rfl, publishImpl_of_accepts haccepts, commitEvidence]
    dsimp only
    have hdomains : ((g.acceptEvidence e).countPublication e).domains = g.domains := by
      unfold countPublication
      split
      · rfl
      · split <;> rfl
    generalize (g.acceptEvidence e).countPublication e = accepted at hdomains
    have hkeyed' : accepted.KeyedDomains := by
      intro id definition hfind
      rw [hdomains] at hfind
      exact hkeyed id definition hfind
    have hneighbours : ∀ domains : List ThermalDomainId,
        ((domains.foldl (refreshDomain e) accepted).coupledNeighbours domains) =
          accepted.coupledNeighbours domains := by
      intro domains
      unfold coupledNeighbours
      rw [couplings_foldl_refreshDomain]
    have hnodup : (accepted.affectedDomains e).Nodup := List.nodup_dedup _
    rw [hneighbours, foldl_refreshDomain e _ accepted hkeyed' hnodup]
    unfold Recomputes
    rw [recomputeDomains, List.foldl_append]
    exact sameEvaluations_publishLocked _

theorem recomputes_publishIf (hkeyed : g.KeyedDomains) (check : Check) (e : ThermalEvidence) :
    Recomputes (g.publishIf check e).1 (if check.holds then g.publication e else (g, [])) := by
  unfold publishIf
  split
  · exact recomputes_publication hkeyed e
  · exact recomputes_self g

/-- **An operation that recomputes is its recomputation.** -/
theorem recomputes_apply (hkeyed : g.KeyedDomains) {op : Operation} (hop : op.recomputes = true) :
    Recomputes (g.apply op) (g.recomputation op) := by
  cases op with
  | registerDevice registration =>
    rw [apply, registerDevice, recomputation]
    cases runChecks (g.deviceChecks registration) with
    | error e => exact recomputes_self g
    | ok _ => exact recomputes_all _
  | publishCapabilities device generation capabilities =>
    rw [apply, publishCapabilities, recomputation]
    cases g.devices.lookup device with
    | none => exact recomputes_self g
    | some held =>
      dsimp only
      split
      · exact recomputes_self g
      · exact recomputes_all _
  | registerThermalDomain definition =>
    rw [apply, registerThermalDomain, recomputation]
    split
    · exact recomputes_self g
    · cases g.domains.add definition with
      | mk domains r =>
        cases r with
        | error e => exact recomputes_self g
        | ok _ => exact sameEvaluations_publish_advance _
  | updateThermalDomain definition =>
    rw [apply, updateThermalDomain, recomputation]
    cases g.domains.update definition with
    | mk domains r =>
      cases r with
      | error e => exact recomputes_self g
      | ok _ => exact sameEvaluations_publish_advance _
  | registerCoupling relation =>
    rw [apply, registerCoupling, recomputation]
    cases runChecks (g.couplingChecks relation) with
    | error e => exact recomputes_self g
    | ok _ => exact recomputes_all_advance _
  | removeCoupling id =>
    rw [apply, removeCoupling, recomputation]
    cases g.couplings.remove id with
    | none => exact recomputes_self g
    | some couplings => exact recomputes_all_advance _
  | setPolicy policy =>
    rw [apply, setPolicy, recomputation]
    cases validatePolicy policy with
    | error e => exact recomputes_self g
    | ok _ =>
      dsimp only
      split
      · exact recomputes_self g
      · exact recomputes_all _
  | registerWorker worker boot label => exact g.recomputes_registerWorker worker boot label
  | noteWorkerDeath worker boot =>
    rw [apply, noteWorkerDeath, recomputation]
    cases g.workers.lookup worker with
    | none => exact recomputes_self g
    | some held =>
      dsimp only
      split
      · exact recomputes_self g
      · exact recomputes_all _
  | publishTemperature e => exact recomputes_publication hkeyed e
  | publishThrottleEvidence e => exact recomputes_publishIf hkeyed _ e
  | publishCoolingEvidence e => exact recomputes_publishIf hkeyed _ e
  | publishNodeTemperature e =>
    have h := recomputes_publishIf hkeyed ⟨e.subject.kind = .node, .invalidArgument,
      "node temperature requires a NODE subject"⟩ e
    simp only [decide_eq_true_eq] at h
    exact h
  | publishRackTemperature e =>
    have h := recomputes_publishIf hkeyed ⟨e.subject.kind = .rack, .invalidArgument,
      "rack temperature requires a RACK subject"⟩ e
    simp only [decide_eq_true_eq] at h
    exact h
  | authorizeRecovery domain =>
    rw [apply, authorizeRecovery, recomputation]
    cases g.domains.find domain with
    | none => exact recomputes_self g
    | some _ => exact sameEvaluations_publishLocked _
  | revokeRecovery domain =>
    rw [apply, revokeRecovery, recomputation]
    cases g.domains.find domain with
    | none => exact recomputes_self g
    | some _ => exact sameEvaluations_publishLocked _
  | tick | setClock | workerHeartbeat | evaluateDomain | evaluateDevice | evaluateAdmission
  | authorizeMitigation | authorizeDerating | recordActionDispatch | recordActionAck
  | recordActionResult | verifyAction | verifyCommit | cancelAction | loadDurable | shutdown =>
    cases hop

/-! ### Every run -/

/-- **After every operation whose recomputation settles, every registered domain rests.** -/
theorem rests_of_runsUnder (config : GovernorConfig) (now : SteadyTimePoint) (g : Governor)
    (hrun : RunsUnder (fun g op => g.Settles op) (create config now) g) (op : Operation)
    (hop : op.recomputes = true) (hsettles : g.Settles op) (id : ThermalDomainId)
    (hregistered : ((g.apply op).domains.find id).isSome = true) :
    (g.apply op).rests id = true := by
  have hreachable : g.Reachable := ⟨config, now, hrun.runs⟩
  have hrecomputes := recomputes_apply (keyedDomains_of_reachable hreachable) hop
  have hsame := hrecomputes.sameReads
  have hkeyed : (g.recomputation op).1.KeyedDomains := by
    intro other definition hfind
    rw [← hsame.domains] at hfind
    exact keyedDomains_of_reachable (hreachable.apply op) other definition hfind
  have hpolicies : ∀ definition, ∃ policy,
      (g.recomputation op).1.policyFor definition = some policy := by
    intro definition
    rw [← hsame.policyFor]
    exact exists_policyFor (hreachable.apply op) definition
  rw [hsame.domains] at hregistered
  refine rests_of_sameEvaluations ?_ hrecomputes
    (rests_recomputeDomains hkeyed hpolicies (hsettles hop) id hregistered)
  intro other definition hfind
  rw [(recomputeDomains_same _ _).domains] at hfind
  exact hkeyed other definition hfind

instance (g : Governor) (op : Operation) : Decidable (g.Settles op) :=
  inferInstanceAs (Decidable (_ → _))

section Deployment

open Deployment

/-- A reading of the one device settles, and its domain rests. -/
theorem rests_of_runsUnder_published :
    ((after []).apply (.publishTemperature (reading 50 1 0))).rests 1 = true := by
  refine rests_of_runsUnder Deployment.config 0 (after []) ?_
    (.publishTemperature (reading 50 1 0)) rfl (by decide +kernel) 1 (by decide +kernel)
  exact .tail (Operation.registerThermalDomain Deployment.domain)
    (.tail (Operation.registerDevice Deployment.device) .refl (by decide +kernel))
    (by decide +kernel)

/-- The second domain heats the first; its device is hot, and of unknown capability. -/
def hotAndUnknown : Governor :=
  after
    [.registerDevice { secondDevice with capabilities := {} },
      .registerThermalDomain secondDomain, .registerCoupling (coupling 1 2 1),
      .publishTemperature (reading 50 1 0), .publishTemperature (secondReading 95 1 0)]

/-- When the capability arrives, the first domain is recomputed before the second turns
critical, and it is left as it was. -/
theorem not_rests :
    ¬ ∀ (g : Governor) (device : DeviceId) (generation : DeviceGeneration)
      (capabilities : CapabilitySet) (id : ThermalDomainId), g.Reachable →
      (g.publishCapabilities device generation capabilities).2 = .ok () →
      (g.domains.find id).isSome = true →
        (g.publishCapabilities device generation capabilities).1.rests id = true := by
  intro h
  have hrests := h hotAndUnknown 2 1 Deployment.device.capabilities 1 (reachable_after _)
    (by decide +kernel) (by decide +kernel)
  have hleft : (hotAndUnknown.publishCapabilities 2 1
      Deployment.device.capabilities).1.rests 1 = false := by decide +kernel
  rw [hleft] at hrests
  cases hrests

end Deployment

end Governor

end ThermalGovernor
