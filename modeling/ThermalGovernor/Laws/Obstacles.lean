import ThermalGovernor.Laws.Attainable
import ThermalGovernor.Laws.Capability
import ThermalGovernor.Laws.Generations
import ThermalGovernor.Laws.RecoveryRuns
import ThermalGovernor.Laws.Retirement
import ThermalGovernor.Laws.Samples

/-!
# What keeps a domain from recovering

The steps towards a recovery evaluate domains one after the other, each from what is held
and from what is stored for its neighbours.  What these evaluations never break holds of all
that is stored on the way (`stays_of_runsUnder`).

So a domain does not recover when no record can be accepted any more
(`not_recovers_of_stopping`), or when the temperature of a domain that heats it cannot be
measured (`not_recovers_of_unmeasurable`).  Nor does it when its policy asks for more than a
history can show (`not_recovers_of_not_attainable`), or for more witnesses than a full table
of workers has (`not_recovers_of_witnesses`).
-/

namespace ThermalGovernor

open Lib

namespace Governor

variable {g g' : Governor} {op : Operation} {policy : ThermalPolicy} {id : ThermalDomainId}
  {definition : ThermalDomainDefinition}

/-- Some run towards a recovery ends with the recovery of the domain allowed and the domain
healthy. -/
def Recovers (g : Governor) (policy : ThermalPolicy) (id : ThermalDomainId) : Prop :=
  ∃ g', RunsUnder (RecoveryStep policy) g g' ∧ ∃ e, g'.evaluations.lookup id = some e ∧
    e.recovery.allowed = true ∧ e.state.isHealthy = true

/-- No recovery of the domain is allowed. -/
def Blocked (id : ThermalDomainId) (evaluations : Table ThermalDomainId ThermalEvaluation) :
    Prop :=
  ∀ e, evaluations.lookup id = some e → e.recovery.allowed = false

/-! ### What evaluations keep -/

theorem evaluations_publication (g : Governor) (e : ThermalEvidence) :
    (g.publication e).1.evaluations = g.evaluations := by
  unfold publication
  split
  · have hcounted := (g.acceptEvidence e).sameGoverned_countPublication e
    exact (sameGoverned_recordSamples e _ _).evaluations.trans hcounted.evaluations
  · rfl

theorem evaluations_enrolment (g : Governor) (worker : WorkerId) (boot : WorkerBootId)
    (label : String) : (g.enrolment worker boot label).1.evaluations = g.evaluations := by
  unfold enrolment
  split <;> rfl

theorem sameReads_enrolment (g : Governor) (worker : WorkerId) (boot : WorkerBootId)
    (label : String) : SameReads g (g.enrolment worker boot label).1 := by
  unfold enrolment
  split <;> exact ⟨rfl, rfl, rfl, rfl, rfl, rfl, rfl, rfl, rfl, rfl, rfl⟩

/-- A step towards a recovery begins to recompute with what is stored. -/
theorem evaluations_recomputation (h : RecoveryStep policy g op) :
    (g.recomputation op).1.evaluations = g.evaluations := by
  cases op with
  | tick now => rfl
  | registerWorker worker boot label =>
    rw [recomputation]
    split
    · rfl
    · split
      · exact g.evaluations_enrolment worker boot label
      · split
        · rfl
        · split
          · rfl
          · exact evaluations_enrolment _ worker boot label
  | publishTemperature e => exact g.evaluations_publication e
  | publishThrottleEvidence e | publishCoolingEvidence e | publishNodeTemperature e
  | publishRackTemperature e =>
    rw [recomputation]
    split
    · exact g.evaluations_publication e
    · rfl
  | authorizeRecovery domain =>
    rw [recomputation]
    split <;> rfl
  | _ => cases h

/-- A step towards a recovery recomputes, or it is the clock that goes on. -/
theorem recomputes_of_recoveryStep (h : RecoveryStep policy g op) :
    op.recomputes = true ∨ ∃ now, op = .tick now := by
  cases op with
  | tick now => exact .inr ⟨now, rfl⟩
  | registerWorker | publishTemperature | publishThrottleEvidence | publishCoolingEvidence
  | publishNodeTemperature | publishRackTemperature | authorizeRecovery => exact .inl rfl
  | _ => cases h

section Stays

variable {G : Governor → Prop} {E : Table ThermalDomainId ThermalEvaluation → Prop}
  (hevaluate : ∀ g turn id definition policy, G g → SameReads g turn → E turn.evaluations →
    g.domains.find id = some definition → g.policyFor definition = some policy →
    E (turn.evaluations.insert id (turn.evaluation definition policy).2))

include hevaluate

/-- What every evaluation keeps of what is stored, a sequence of recomputations keeps. -/
theorem stays_recomputeDomains (hG : G g) (domains : List ThermalDomainId) :
    ∀ turn : Governor, SameReads g turn → E turn.evaluations →
      E (turn.recomputeDomains domains).evaluations := by
  induction domains with
  | nil => exact fun _ _ hE => hE
  | cons first rest ih =>
    intro turn hsame hE
    have hsame' := hsame.trans (turn.recomputeDomain_same first).sameReads
    refine ih (turn.recomputeDomain first) hsame' ?_
    by_cases hgoverned : ∃ definition policy, turn.domains.find first = some definition ∧
        turn.policyFor definition = some policy
    · obtain ⟨definition, policy, hfind, hpolicy⟩ := hgoverned
      rw [evaluations_recomputeDomain hfind hpolicy]
      refine hevaluate g turn first definition policy hG hsame hE ?_ ?_
      · rw [← hsame.domains, hfind]
      · rw [← hsame.policyFor, hpolicy]
    · rw [recomputeDomain_eq_self]
      · exact hE
      · intro definition hfind
        by_contra hpolicy
        obtain ⟨policy, hpolicy⟩ := Option.ne_none_iff_exists'.mp hpolicy
        exact hgoverned ⟨definition, policy, hfind, hpolicy⟩

/-- **What the steps keep of the state, and the evaluations in it of what is stored, holds in
every run towards a recovery.** -/
theorem stays_of_runsUnder
    (hstep : ∀ g op, g.Reachable → RecoveryStep policy g op → G g → G (g.apply op))
    (hg : g.Reachable) (hG : G g) (hE : E g.evaluations)
    (hrun : RunsUnder (RecoveryStep policy) g g') : G g' ∧ E g'.evaluations := by
  have hinvariant : g'.Reachable ∧ G g' ∧ E g'.evaluations := by
    refine RunUnder.invariant (I := fun g => g.Reachable ∧ G g ∧ E g.evaluations) hrun ⟨hg, hG, hE⟩
      fun g op ⟨hg, hG, hE⟩ hop => ?_
    have hG' := hstep g op hg hop hG
    refine ⟨hg.apply op, hG', ?_⟩
    rcases recomputes_of_recoveryStep hop with hrecomputes | ⟨now, rfl⟩
    · have hcomes := recomputes_apply (keyedDomains_of_reachable hg) hrecomputes
      rw [hcomes.evaluations]
      refine stays_recomputeDomains hevaluate hG' _ _ hcomes.sameReads.symm ?_
      rwa [evaluations_recomputation hop]
    · exact hE
  exact hinvariant.2

end Stays

/-! ### A domain whose recovery stays blocked -/

/-- An evaluation of one domain leaves what is stored for the others. -/
theorem blocked_insert {evaluations : Table ThermalDomainId ThermalEvaluation}
    (h : Blocked id evaluations) {other : ThermalDomainId} {e : ThermalEvaluation}
    (he : other = id → e.recovery.allowed = false) : Blocked id (evaluations.insert other e) := by
  intro stored hlookup
  rw [Table.lookup_insert_eq_ite] at hlookup
  split at hlookup
  · rename_i hsame
    obtain rfl := Option.some.inj hlookup
    exact he hsame.symm
  · exact h stored hlookup

/-- **A domain does not recover when the steps keep what lets none of its evaluations allow
it.** -/
theorem not_recovers {G : Governor → Prop} (hfind : g.domains.find id = some definition)
    (hpolicy : g.policyFor definition = some policy)
    (hnever : ∀ g' turn, SameGround g g' → G g' → SameReads g' turn →
      (turn.evaluation definition policy).2.recovery.allowed = false)
    (hstep : ∀ g' op, g'.Reachable → SameGround g g' → RecoveryStep policy g' op → G g' →
      G (g'.apply op))
    (hg : g.Reachable) (hG : G g) (hstored : Blocked id g.evaluations) :
    ¬ g.Recovers policy id := by
  rintro ⟨g', hrun, e, hlookup, hallowed, -⟩
  have hevaluate : ∀ g' turn other governed governing, SameGround g g' ∧ G g' →
      SameReads g' turn → Blocked id turn.evaluations → g'.domains.find other = some governed →
      g'.policyFor governed = some governing →
      Blocked id (turn.evaluations.insert other (turn.evaluation governed governing).2) := by
    intro g' turn other governed governing hG hsame hblocked hgoverned hgoverning
    refine blocked_insert hblocked fun hother => ?_
    subst hother
    obtain rfl : definition = governed := by
      rw [hG.1.domains, hfind] at hgoverned
      exact Option.some.inj hgoverned
    obtain rfl : policy = governing := by
      rw [hG.1.policyFor, hpolicy] at hgoverning
      exact Option.some.inj hgoverning
    exact hnever g' turn hG.1 hG.2 hsame
  obtain ⟨-, hblocked⟩ := stays_of_runsUnder hevaluate
    (fun g' op hg' hop hG => ⟨hG.1.trans (sameGround_apply hop), hstep g' op hg' hG.1 hop hG.2⟩)
    hg ⟨.refl g, hG⟩ hstored hrun
  rw [hblocked e hlookup] at hallowed
  cases hallowed

/-! ### No record is accepted any more -/

/-- A coordinator that is shutting down accepts no record. -/
theorem accepts_of_stopping (h : g.stopping = true) (e : ThermalEvidence) :
    g.accepts e = false := by
  by_contra haccepts
  rw [Bool.not_eq_false] at haccepts
  obtain ⟨-, hchecks, -⟩ := accepts_eq_true.mp haccepts
  have hrunning := runChecks_eq_ok.mp hchecks _ List.mem_cons_self
  rw [h] at hrunning
  cases hrunning

/-- A step towards a recovery loads nothing. -/
theorem not_isLoad_of_recoveryStep (h : RecoveryStep policy g op) : op.isLoad = false := by
  cases op with
  | loadDurable => cases h
  | _ => rfl

/-- Where no record is accepted the evidence stays as it is. -/
theorem evidence_memoryStep {m : Memory} (hstep : MemoryStep g op m) (hload : op.isLoad = false)
    (hnone : g.acceptedBy op = none) : m.evidence = g.evidence := by
  cases hstep with
  | kept | entered | updated | retired => rfl
  | accepted _ e he =>
    rw [hnone] at he
    cases he
  | loaded | restarted => cases hload

theorem evidence_of_stopping (hstopping : g.stopping = true) (h : RecoveryStep policy g op) :
    (g.apply op).evidence = g.evidence := by
  refine evidence_memoryStep (g.memoryStep_apply op) (not_isLoad_of_recoveryStep h) ?_
  by_contra hsome
  obtain ⟨e, he⟩ := Option.ne_none_iff_exists'.mp hsome
  have haccepts := accepts_of_acceptedBy he
  rw [accepts_of_stopping hstopping e] at haccepts
  cases haccepts

/-- **A domain that is too hot does not recover once the coordinator is shutting down.** -/
theorem not_recovers_of_stopping (hg : g.Reachable) (hstopping : g.stopping = true)
    (hfind : g.domains.find id = some definition) (hpolicy : g.policyFor definition = some policy)
    (hhot : ∀ gathered, gatherDomainEvidence definition g.evidence = some gathered →
      recoveryGate policy ≤ gathered.evidence.temperature)
    (hstored : Blocked id g.evaluations) : ¬ g.Recovers policy id := by
  refine not_recovers (G := fun g' => g'.evidence = g.evidence) hfind hpolicy ?_ ?_ hg rfl hstored
  · intro g' turn _ hevidence hturn
    by_contra hallowed
    rw [Bool.not_eq_false] at hallowed
    obtain ⟨evidence, hgathered, hcold⟩ := gate_of_allowed hallowed
    obtain ⟨gathered, hsome, rfl⟩ := Option.map_eq_some_iff.mp hgathered
    rw [hturn.evidence, hevidence] at hsome
    exact absurd hcold (not_lt.mpr (hhot gathered hsome))
  · intro g' op _ hground hop hevidence
    rw [evidence_of_stopping (hground.stopping.trans hstopping) hop, hevidence]

/-! ### A neighbour that is never healthy -/

/-- The pressure of a domain that heats another is among its pressures. -/
theorem mem_coupledPressure {source : ThermalDomainId} {other : ThermalDomainDefinition}
    {e : ThermalEvaluation} (hother : g.domains.find source = some other)
    (hlookup : g.evaluations.lookup source = some e) {depth : Nat}
    (hreached : (source, depth) ∈
      g.couplings.incomingReachable definition.id policy.coupling.maxPropagationDepth) :
    ∃ n ∈ g.coupledPressure definition policy, n.state = e.state := by
  have hpressure : ∃ n, g.pressureFrom definition (source, depth) = some n ∧ n.state = e.state := by
    unfold pressureFrom
    rw [hother, hlookup]
    exact ⟨_, rfl, rfl⟩
  obtain ⟨n, hn, hstate⟩ := hpressure
  exact ⟨n, List.mem_filterMap.mpr ⟨_, hreached, hn⟩, hstate⟩

/-- The source is stored as unhealthy, and no recovery of the domain is allowed. -/
structure Hindered (source id : ThermalDomainId)
    (evaluations : Table ThermalDomainId ThermalEvaluation) : Prop where
  source : ∃ e, evaluations.lookup source = some e ∧ e.state.isHealthy = false
  blocked : Blocked id evaluations

/-- **A domain does not recover while the temperature of one that heats it cannot be
measured.** -/
theorem not_recovers_of_unmeasurable {source : ThermalDomainId} {depth : Nat}
    {other : ThermalDomainDefinition} (hg : g.Reachable)
    (hfind : g.domains.find id = some definition) (hpolicy : g.policyFor definition = some policy)
    (hother : g.domains.find source = some other) (hmeasures : ¬ g.CanMeasure other)
    (hreached : (source, depth) ∈
      g.couplings.incomingReachable id policy.coupling.maxPropagationDepth)
    (hstored : Hindered source id g.evaluations) : ¬ g.Recovers policy id := by
  rintro ⟨g', hrun, e, hlookup, hallowed, -⟩
  have hid : definition.id = id := keyedDomains_of_reachable hg id definition hfind
  have hevaluate : ∀ g' turn evaluated governed governing, SameGround g g' → SameReads g' turn →
      Hindered source id turn.evaluations → g'.domains.find evaluated = some governed →
      g'.policyFor governed = some governing → Hindered source id
        (turn.evaluations.insert evaluated (turn.evaluation governed governing).2) := by
    rintro g' turn evaluated governed governing hground hsame
      ⟨⟨held, hheld, hunhealthy⟩, hblocked⟩ hgoverned hgoverning
    refine ⟨?_, blocked_insert hblocked fun hself => ?_⟩
    · rw [Table.lookup_insert_eq_ite]
      split
      · rename_i hself
        refine ⟨_, rfl, Bool.eq_false_iff.mpr fun hhealthy => hmeasures ?_⟩
        obtain rfl : other = governed := by
          rw [← hself, hground.domains, hother] at hgoverned
          exact Option.some.inj hgoverned
        exact (canMeasure_congr (hsame.devices.trans hground.devices)).mp
          (canMeasure_of_isHealthy hhealthy)
      · exact ⟨held, hheld, hunhealthy⟩
    · subst hself
      obtain rfl : definition = governed := by
        rw [hground.domains, hfind] at hgoverned
        exact Option.some.inj hgoverned
      obtain rfl : policy = governing := by
        rw [hground.policyFor, hpolicy] at hgoverning
        exact Option.some.inj hgoverning
      by_contra hallowed
      rw [Bool.not_eq_false] at hallowed
      obtain ⟨-, -, hrecovered, -⟩ := resolved_of_allowed hallowed
      have hcouplings : turn.couplings = g.couplings := hsame.couplings.trans hground.couplings
      have hother' : turn.domains.find source = some other := by
        rw [hsame.domains, hground.domains, hother]
      rw [← hid, ← hcouplings] at hreached
      obtain ⟨n, hn, hstate⟩ := mem_coupledPressure hother' hheld hreached
      have hhealthy := List.all_eq_true.mp hrecovered n hn
      rw [hstate, hunhealthy] at hhealthy
      cases hhealthy
  obtain ⟨-, -, hblocked⟩ := stays_of_runsUnder (G := SameGround g) hevaluate
    (fun g' op _ hop hground => hground.trans (sameGround_apply hop)) hg (.refl g) hstored hrun
  rw [hblocked e hlookup] at hallowed
  cases hallowed

/-! ### More than can be shown -/

/-- Every record held has a temperature that a reading can have. -/
def HoldsReadings (g : Governor) : Prop :=
  ∀ key e, g.evidence.lookup key = some e → DegreesCelsius.valid e.temperature = true

theorem holdsReadings_write {put : ThermalPolicy → Prop} (h : Write put g g')
    (hg : g.HoldsReadings) : g'.HoldsReadings := by
  intro key e hlookup
  rcases h.evidence with hsame | hnone | ⟨stored, hstructure, -, hstored⟩
  · rw [hsame] at hlookup
    exact hg key e hlookup
  · rw [hnone] at hlookup
    cases hlookup
  · rw [hstored, Table.lookup_insert_eq_ite] at hlookup
    split at hlookup
    · obtain rfl := Option.some.inj hlookup
      exact runChecks_eq_ok.mp hstructure _ List.mem_cons_self
    · exact hg key e hlookup

theorem holdsReadings_of_reachable (hg : g.Reachable) : g.HoldsReadings := by
  obtain ⟨config, now, hrun⟩ := hg
  exact invariant_of_writes hrun (fun _ _ => holdsReadings_write) fun key e hlookup =>
    (by cases hlookup)

/-- The evidence of a domain with one member is a record that is held. -/
theorem exists_lookup_of_gathered (hmembers : definition.members.length = 1)
    {evidence : Table String ThermalEvidence} {gathered : DomainEvidence}
    (h : gatherDomainEvidence definition evidence = some gathered) :
    ∃ key, evidence.lookup key = some gathered.evidence := by
  obtain ⟨member, hmember⟩ := List.length_eq_one_iff.mp hmembers
  unfold gatherDomainEvidence at h
  cases hdirect : evidence.lookup
      (SubjectRef.forDomain definition.id definition.generation).key with
  | some direct =>
    rw [hdirect] at h
    obtain rfl := Option.some.inj h
    exact ⟨_, hdirect⟩
  | none =>
    rw [hdirect, memberEvidence, hmember, List.filterMap_cons, List.filterMap_nil] at h
    cases honly : evidence.lookup member.subject.key with
    | none =>
      rw [honly] at h
      cases h
    | some only =>
      rw [honly] at h
      obtain rfl := Option.some.inj h
      exact ⟨_, honly⟩

/-- **A domain with one member does not recover under a policy that asks for more than can be
shown.** -/
theorem not_recovers_of_not_attainable {now : SteadyTimePoint} (hrun : Runs (create {} now) g)
    (hfind : g.domains.find id = some definition) (hpolicy : g.policyFor definition = some policy)
    (hvalid : validatePolicy policy = .ok ()) (hmembers : definition.members.length = 1)
    (hattainable : ¬ Attainable 64 policy) (hstored : Blocked id g.evaluations) :
    ¬ g.Recovers policy id := by
  refine not_recovers (G := fun g' => Runs (create {} now) g') hfind hpolicy ?_ ?_
    ⟨{}, now, hrun⟩ hrun hstored
  · intro g' turn _ hrun' hturn
    by_contra hallowed
    rw [Bool.not_eq_false] at hallowed
    have hreading : ∀ e, (turn.evaluation definition policy).1.evidence = some e →
        DegreesCelsius.absoluteZero ≤ e.temperature := by
      intro e he
      obtain ⟨gathered, hgathered, rfl⟩ := Option.map_eq_some_iff.mp he
      rw [hturn.evidence] at hgathered
      obtain ⟨key, hlookup⟩ := exists_lookup_of_gathered hmembers hgathered
      have hreading := holdsReadings_of_reachable ⟨{}, now, hrun'⟩ key _ hlookup
      simp only [DegreesCelsius.valid, Bool.and_eq_true, decide_eq_true_eq] at hreading
      exact hreading.1
    have hcapacity : ∀ h, (turn.evaluation definition policy).1.recovery.history = some h →
        h.samples.length ≤ 64 := by
      intro h hhistory
      have hsame : g'.recoveryHistories definition.id = h := by
        rw [← hturn.recoveryHistories]
        exact Option.some.inj hhistory
      rw [← hsame]
      exact (retains_of_runs rfl rfl hrun' definition.id).length_le
    have hvalid' : validatePolicy (turn.evaluation definition policy).1.policy = .ok () := hvalid
    exact hattainable (attainable_of_allowed hvalid' hreading hcapacity hallowed)
  · intro g' op _ _ _ hrun'
    exact .tail op hrun' trivial

/-! ### More witnesses than there are -/

/-- A recovery is not allowed when its policy asks for more witnesses than its samples have. -/
theorem not_allowed_of_witnesses {boots : List WorkerBootId}
    (hboots : ∀ s ∈ (g.recoveryHistories definition.id).samples, s.workerBoot ∈ boots)
    (hfew : boots.length < policy.freshness.minDistinctWitnesses) :
    (g.evaluation definition policy).2.recovery.allowed = false := by
  by_contra hallowed
  rw [Bool.not_eq_false] at hallowed
  have hnewest : ∀ s ∈ newestFirst (g.evaluation definition policy).1.recovery,
      s.workerBoot ∈ boots := fun s hs => hboots s (List.mem_reverse.mp hs)
  exact absurd (witnesses_of_allowed hallowed hnewest) (not_le.mpr hfew)

/-- The tables are of one size, and each worker has the boot it had. -/
structure SameBoots (workers workers' : Table WorkerId WorkerRecord) : Prop where
  size : Table.size workers' = Table.size workers
  boot : ∀ worker held', workers'.lookup worker = some held' →
    ∃ held, workers.lookup worker = some held ∧ held.boot = held'.boot

namespace SameBoots

variable {workers workers' workers'' : Table WorkerId WorkerRecord}

theorem refl (workers : Table WorkerId WorkerRecord) : SameBoots workers workers :=
  ⟨rfl, fun _ held h => ⟨held, h, rfl⟩⟩

/-- A record is written over one of the same boot. -/
theorem insert {worker : WorkerId} {held record : WorkerRecord}
    (hheld : workers.lookup worker = some held) (hboot : record.boot = held.boot) :
    SameBoots workers (workers.insert worker record) := by
  refine ⟨Table.size_insert_of_mem (Table.mem_of_lookup hheld), fun other held' hlookup => ?_⟩
  rw [Table.lookup_insert_eq_ite] at hlookup
  split at hlookup
  · rename_i hsame
    obtain rfl := Option.some.inj hlookup
    exact ⟨held, by rw [hsame, hheld], hboot.symm⟩
  · exact ⟨held', hlookup, rfl⟩

theorem retire (workers : Table WorkerId WorkerRecord) (worker : WorkerId) (boot : WorkerBootId) :
    SameBoots workers (Table.mapValues (fun _ r => r.retire worker boot) workers) := by
  refine ⟨List.length_map _, fun other held' hlookup => ?_⟩
  rw [Table.lookup_mapValues] at hlookup
  obtain ⟨held, hheld, rfl⟩ := Option.map_eq_some_iff.mp hlookup
  exact ⟨held, hheld, (WorkerRecord.retire_boot held worker boot).symm⟩

end SameBoots

theorem sameBoots_publishImpl (g : Governor) (e : ThermalEvidence) :
    SameBoots g.workers (g.publishImpl e).1.workers := by
  refine publishImpl_rule (P := fun g' => SameBoots g.workers g'.workers) (.refl _) fun _ => ?_
  rw [workers_commitEvidence, countPublication]
  split
  · exact .refl _
  · cases hheld : (g.acceptEvidence e).workers.lookup e.worker with
    | none => exact .refl _
    | some held => exact .insert hheld rfl

theorem sameBoots_publishIf (g : Governor) (check : Check) (e : ThermalEvidence) :
    SameBoots g.workers (g.publishIf check e).1.workers :=
  publishIf_rule (P := fun g' => SameBoots g.workers g'.workers) (.refl _)
    (g.sameBoots_publishImpl e)

/-- A full table takes no boot in. -/
theorem sameBoots_registerWorker (hfull : g.config.maxWorkers ≤ Table.size g.workers)
    (worker : WorkerId) (boot : WorkerBootId) (label : String) :
    SameBoots g.workers (g.registerWorker worker boot label).1.workers := by
  refine registerWorker_rule (P := fun g' => SameBoots g.workers g'.workers) (.refl _)
    (fun _ _ => ?_) (fun held hheld _ => ?_) fun held _ _ _ => ?_
  · unfold enrol
    rw [if_pos hfull]
    exact .refl _
  · show SameBoots g.workers (g.keepAlive worker held _).workers
    unfold keepAlive
    dsimp only
    split <;> exact .insert hheld rfl
  · have hfull' : (g.retireBootLocked worker held.boot).config.maxWorkers ≤
        Table.size (g.retireBootLocked worker held.boot).workers :=
      le_of_le_of_eq hfull (List.length_map _).symm
    unfold enrol
    rw [if_pos hfull']
    exact .retire g.workers worker held.boot

theorem sameBoots_apply (hfull : g.config.maxWorkers ≤ Table.size g.workers)
    (h : RecoveryStep policy g op) : SameBoots g.workers (g.apply op).workers := by
  cases op with
  | tick now => exact .refl _
  | registerWorker worker boot label => exact sameBoots_registerWorker hfull worker boot label
  | publishTemperature e => exact g.sameBoots_publishImpl e
  | publishThrottleEvidence e => exact g.sameBoots_publishIf _ e
  | publishCoolingEvidence e => exact g.sameBoots_publishIf _ e
  | publishNodeTemperature e => exact g.sameBoots_publishIf _ e
  | publishRackTemperature e => exact g.sameBoots_publishIf _ e
  | authorizeRecovery domain =>
    have hworkers : (g.apply (.authorizeRecovery domain)).workers = g.workers :=
      g.workers_authorizeRecovery domain
    rw [hworkers]
    exact .refl _
  | _ => cases h

/-- All witnesses, those of the table and those of the samples of the domain, are of these
boots. -/
structure WitnessedBy (g : Governor) (id : ThermalDomainId) (boots : List WorkerBootId) : Prop where
  full : g.config.maxWorkers ≤ Table.size g.workers
  anonymous : 0 ∈ boots
  table : ∀ worker held, g.workers.lookup worker = some held → held.boot ∈ boots
  samples : ∀ s ∈ (g.recoveryHistories id).samples, s.workerBoot ∈ boots

/-- A record that is accepted is of one of these boots. -/
theorem WitnessedBy.accepts {boots : List WorkerBootId} (h : g.WitnessedBy id boots)
    {e : ThermalEvidence} (haccepts : g.accepts e = true) : e.workerBoot ∈ boots := by
  obtain ⟨hstructure, hchecks, -⟩ := accepts_eq_true.mp haccepts
  by_cases hworker : e.worker = 0
  · have htogether : (isValid e.worker == isValid e.workerBoot) = true :=
      runChecks_eq_ok.mp hstructure _ (List.mem_of_getElem? (i := 4) rfl)
    have hboot : e.workerBoot = 0 := by
      by_contra hboot
      rw [hworker, isValid_eq_true.mpr hboot] at htogether
      cases htogether
    rw [hboot]
    exact h.anonymous
  · have hfence : ∀ check ∈ g.workerChecks e, check.holds = true := fun check hcheck =>
      runChecks_eq_ok.mp hchecks check (by simp [publishChecks, hcheck])
    obtain ⟨held, hheld, hboot, -⟩ := of_workerChecks hfence hworker
    rw [← hboot]
    exact h.table _ held hheld

theorem WitnessedBy.apply {boots : List WorkerBootId} (h : g.WitnessedBy id boots)
    (hop : RecoveryStep policy g op) : (g.apply op).WitnessedBy id boots := by
  have hboots := sameBoots_apply h.full hop
  refine ⟨?_, h.anonymous, fun worker held' hlookup => ?_, fun s hs => ?_⟩
  · rw [(sameGround_apply hop).config, hboots.size]
    exact h.full
  · obtain ⟨held, hheld, hsame⟩ := hboots.boot worker held' hlookup
    rw [← hsame]
    exact h.table worker held hheld
  · rcases List.mem_append.mp ((sublist_memoryStep (g.memoryStep_apply op) id).subset hs) with
      hold | hnew
    · exact h.samples s hold
    · obtain ⟨e, he, hsample⟩ := Option.bind_eq_some_iff.mp (Option.mem_toList.mp hnew)
      rw [DomainRegistry.sampleIn] at hsample
      split at hsample
      · obtain ⟨definition, -, rfl⟩ := Option.map_eq_some_iff.mp hsample
        exact h.accepts (accepts_of_acceptedBy he)
      · cases hsample

/-- **A domain does not recover when its policy asks for more witnesses than a full table has.** -/
theorem not_recovers_of_witnesses {boots : List WorkerBootId} (hg : g.Reachable)
    (hfind : g.domains.find id = some definition) (hpolicy : g.policyFor definition = some policy)
    (hwitnessed : g.WitnessedBy id boots)
    (hfew : boots.length < policy.freshness.minDistinctWitnesses)
    (hstored : Blocked id g.evaluations) : ¬ g.Recovers policy id := by
  have hid : definition.id = id := keyedDomains_of_reachable hg id definition hfind
  refine not_recovers (G := fun g' => g'.WitnessedBy id boots) hfind hpolicy ?_ ?_ hg hwitnessed
    hstored
  · intro g' turn _ hwitnessed' hturn
    refine not_allowed_of_witnesses (fun s hs => ?_) hfew
    rw [hid, hturn.recoveryHistories] at hs
    exact hwitnessed'.samples s hs
  · intro g' op _ _ hop hwitnessed'
    exact hwitnessed'.apply hop

end Governor

end ThermalGovernor
