import ThermalGovernor.Governed.Registered
import ThermalGovernor.Laws.Obstacles
import ThermalGovernor.Laws.Probe

/-!
# Policies that can be satisfied

A probe (`Laws/Probe.lean`) leaves a domain with the best evidence there is.  From then on its
evaluations wait for the coupled domains alone, `AwaitsNeighbours`.

So every valid policy that is attainable, and has its witnesses, lets a derated domain recover
(`recovers_of_attainable`).  The rest of the file shows derated domains that do not recover:
each misses one of the conditions (`not_recovers_of_derated`).  The last of them is the one
whose workers are too few.  There the table is filled by a crowd of one boot, which changes
nothing that is evaluated (`crowded_crowd`).
-/

namespace ThermalGovernor

open Lib

namespace Probe

variable {p : Probe} {count : Nat}

/-! ### What the readings of a probe show -/

/-- The samples of the first readings, newest first. -/
def samples (p : Probe) (count : Nat) : List RecoverySample :=
  ((List.range count).map p.sample).reverse

theorem length_samples : (p.samples count).length = count := by
  rw [samples, List.length_reverse, List.length_map, List.length_range]

theorem mem_samples {s : RecoverySample} :
    s ∈ p.samples count ↔ ∃ i < count, p.sample i = s := by
  simp only [samples, List.mem_reverse, List.mem_map, List.mem_range]

/-- They cover the time from the first reading to the others. -/
theorem spanOf_samples (h : count ≠ 0) :
    spanOf (p.samples (count + 1)) = milliseconds (elapsed p.ends p.begins) := by
  have hnewest : (p.samples (count + 1)).head? = some (p.sample count) := by
    rw [samples, List.head?_reverse, List.range_succ, List.map_append, List.map_singleton,
      List.getLast?_concat]
  have holdest : (p.samples (count + 1)).getLast? = some (p.sample 0) := by
    rw [samples, List.getLast?_reverse, List.range_succ_eq_map, List.map_cons, List.head?_cons]
  have hends : (p.sample count).atTime = p.ends := if_neg h
  rw [spanOf, hnewest, holdest]
  dsimp only
  rw [hends]
  rfl

/-- Every witness of the crew has had its turn. -/
theorem length_crew_le_distinctBoots (hturns : p.crew.length ≤ count)
    (hboots : (p.crew.map Prod.snd).Nodup) : p.crew.length ≤ distinctBoots (p.samples count) := by
  have hsubset : p.crew.map Prod.snd ⊆
      ((p.samples count).map RecoverySample.workerBoot).dedup := by
    intro boot hboot
    obtain ⟨member, hmember, rfl⟩ := List.mem_map.mp hboot
    obtain ⟨i, hi, rfl⟩ := List.getElem_of_mem hmember
    have hturn : p.witness i = p.crew[i] := by
      rw [witness, Nat.mod_eq_of_lt hi, List.getD_eq_getElem?_getD, List.getElem?_eq_getElem hi,
        Option.getD_some]
    refine List.mem_dedup.mpr (List.mem_map.mpr ⟨p.sample i, ?_, ?_⟩)
    · exact mem_samples.mpr ⟨i, lt_of_lt_of_le hi hturns, rfl⟩
    · exact congrArg Prod.snd hturn
  have hlength := (hboots.subperm hsubset).length_le
  rwa [List.length_map] at hlength

/-- A crew of one, or of none, takes all the readings. -/
theorem witness_eq (h : p.crew.length ≤ 1) (i j : Nat) : p.witness i = p.witness j := by
  unfold witness
  cases hcrew : p.crew with
  | nil => simp
  | cons first rest =>
    rw [hcrew, List.length_cons] at h
    have hrest : rest = [] := List.length_eq_zero_iff.mp (by omega)
    subst hrest
    simp [Nat.mod_one]

/-- What a policy asks is shown by the first readings of the probe. -/
structure Meets (p : Probe) (policy : ThermalPolicy) (count : Nat) : Prop where
  samples : policy.freshness.requiredConsecutiveSamples ≤ count
  span : policy.freshness.minEvidenceSpan ≤ milliseconds (elapsed p.ends p.begins)
  witnesses : policy.freshness.minDistinctWitnesses ≤ p.crew.length
  turns : p.crew.length ≤ count
  boots : (p.crew.map Prod.snd).Nodup
  boot : policy.recovery.requireSameWorkerBoot = true → p.crew.length ≤ 1

end Probe

namespace Governor

variable {g g' : Governor} {policy : ThermalPolicy} {p : Probe} {count : Nat}

/-- The last of the readings governs the domain, all of them make up its history, and what
else is held is what the policy asks. -/
structure Probed (g : Governor) (p : Probe) (policy : ThermalPolicy) (count : Nat) : Prop where
  evidence : g.evidence.lookup p.key = some (p.reading count)
  current : p.key ∉ g.invalidatedEvidence
  settled : g.conflictedSubjects = ∅
  history : (g.recoveryHistories p.definition.id).samples =
    (List.range (count + 1)).map p.sample
  epoch : g.epoch = p.epoch
  measures : g.CanMeasure p.definition
  fresh : elapsed g.now p.ends ≤ nanoseconds policy.freshness.maxAge
  authorized : policy.recovery.requireExplicitAuthorization = true →
    p.definition.id ∈ g.explicitRecovery

theorem Probed.congr (hsame : SameReads g g') (h : g.Probed p policy count) :
    g'.Probed p policy count := by
  refine ⟨?_, ?_, ?_, ?_, ?_, (canMeasure_congr hsame.devices).mpr h.measures, ?_, ?_⟩
  · rw [hsame.evidence, h.evidence]
  · rw [hsame.invalidatedEvidence]
    exact h.current
  · rw [hsame.conflictedSubjects, h.settled]
  · rw [hsame.recoveryHistories, h.history]
  · rw [hsame.epoch, h.epoch]
  · rw [hsame.now]
    exact h.fresh
  · rw [hsame.explicitRecovery]
    exact h.authorized

/-- A probed domain is evaluated from its last reading. -/
theorem input_of_probed (h : g.Probed p policy count) :
    (g.evaluation p.definition policy).1 =
      g.evaluationInput p.definition policy (some { evidence := p.reading count }) := by
  have hdirect : g.evidence.lookup
      (SubjectRef.forDomain p.definition.id p.definition.generation).key =
        some (p.reading count) := h.evidence
  rw [evaluation, gatherDomainEvidence, hdirect]

/-- The last reading of a probed domain passes what is asked of evidence. -/
theorem resolvedEvidence_of_probed (h : g.Probed p policy count) (hcount : count ≠ 0) :
    resolvedEvidence (g.evaluation p.definition policy).1 = some (p.reading count) := by
  rw [input_of_probed h]
  refine resolvedEvidence_eq_some.mpr ⟨?_, ?_, ?_, rfl⟩
  · show (g.domainCapabilities p.definition _).temperature.isSupported = true
    by_cases hnone : g.memberCapabilities p.definition = []
    · rw [domainCapabilities, hnone]
      rfl
    · rw [temperature_domainCapabilities hnone]
      exact h.measures.resolve_left hnone
  · show decide (p.definition.id ∈ g.conflictedSubjects) = false
    rw [h.settled]
    rfl
  · show g.classifyFreshness policy (p.reading count) = .fresh
    have hends : (p.reading count).measuredAt = p.ends := if_neg hcount
    have hcurrent : (p.reading count).subject.key ∉ g.invalidatedEvidence := h.current
    rw [classifyFreshness, if_neg hcurrent, hends, if_neg (not_lt.mpr h.fresh)]

/-- **The readings of a probe are the best evidence there is.** -/
theorem bestEvidence_of_probed (h : g.Probed p policy count) (hmeets : p.Meets policy (count + 1))
    (hcount : count ≠ 0) :
    BestEvidence (g.evaluation p.definition policy).1 (p.reading count) := by
  have hinput := input_of_probed h
  have hsamples : newestFirst (g.evaluation p.definition policy).1.recovery =
      p.samples (count + 1) := by
    rw [hinput]
    show (g.recoveryHistories p.definition.id).samples.reverse = _
    rw [h.history, Probe.samples]
  refine ⟨resolvedEvidence_of_probed h hcount, p.coldest_reading count, ?_, ?_, ?_, ?_, ?_, ?_, ?_⟩
  · rw [hinput]
    rfl
  · intro s hs
    rw [hsamples] at hs
    obtain ⟨i, -, rfl⟩ := Probe.mem_samples.mp hs
    rw [hinput]
    exact ⟨rfl, rfl, rfl, h.epoch.symm, rfl⟩
  · intro hrequired s hs
    rw [hsamples] at hs
    obtain ⟨i, -, rfl⟩ := Probe.mem_samples.mp hs
    rw [hinput]
    exact congrArg Prod.snd (Probe.witness_eq (hmeets.boot hrequired) i count)
  · rw [hsamples, Probe.length_samples]
    exact hmeets.samples
  · rw [hsamples, Probe.spanOf_samples hcount]
    exact hmeets.span
  · rw [hsamples]
    exact le_trans hmeets.witnesses (Probe.length_crew_le_distinctBoots hmeets.turns hmeets.boots)
  · intro hrequired
    rw [hinput]
    exact decide_eq_true (h.authorized hrequired)

/-! ### Getting ready -/

/-- Two times a given span apart, of which the later one is fresh at the end. -/
theorem exists_times (now : Int) {span : Int} (maxAge : Milliseconds)
    (hspan : 0 ≤ span) (hlong : span ≤ longestSpan) :
    ∃ later begins ends : SteadyTimePoint, now ≤ later ∧
      elapsed later ends ≤ nanoseconds maxAge ∧ milliseconds (elapsed ends begins) = span := by
  -- an age that does not fit the word is negative, and is met by a reading ahead of the clock
  obtain ⟨ahead, hahead⟩ : ∃ ahead : Int, ahead = min 0 (nanoseconds maxAge) := ⟨_, rfl⟩
  have hage : ahead ≤ 0 ∧ -2 ^ 63 ≤ ahead := by
    have hbound : (-2 ^ 63 : Int) ≤ nanoseconds maxAge := Int.le_bmod (by decide)
    exact ⟨hahead ▸ min_le_left _ _, hahead ▸ le_min (by decide) hbound⟩
  have hlongest : span ≤ 9223372036854 := hlong
  have hhalf : ∀ x : Int, -2 ^ 63 ≤ x → x < 2 ^ 63 → wrap64 x = x :=
    fun x hlow hhigh => Int.bmod_eq_of_le hlow hhigh
  refine ⟨now + span * 1000000, now - ahead, now + span * 1000000 - ahead, ?_, ?_, ?_⟩
  · show now ≤ now + span * 1000000
    omega
  · have hbehind : now + span * 1000000 - (now + span * 1000000 - ahead) = ahead := by omega
    have helapsed : elapsed (now + span * 1000000) (now + span * 1000000 - ahead) = ahead := by
      rw [elapsed, hbehind, hhalf ahead hage.2 (by omega)]
    rw [helapsed, hahead]
    exact min_le_right _ _
  · have hcovered : now + span * 1000000 - ahead - (now - ahead) = span * 1000000 := by omega
    have helapsed : elapsed (now + span * 1000000 - ahead) (now - ahead) = span * 1000000 := by
      rw [elapsed, hcovered, hhalf _ (by omega) (by omega)]
    rw [helapsed, milliseconds, Int.mul_tdiv_cancel _ (by decide)]

/-- Numbers and a telemetry generation that no record held under the key is ahead of. -/
theorem exists_start (g : Governor) (key : String) :
    ∃ (start : Nat) (telemetry : TelemetryGeneration), telemetry ≠ 0 ∧
      ∀ held, g.evidence.lookup key = some held → held.measurementSequence < start ∧
        held.evidenceId < start ∧ held.telemetryGeneration ≤ telemetry := by
  cases hheld : g.evidence.lookup key with
  | none => exact ⟨0, 1, Nat.one_ne_zero, fun held h => by cases h⟩
  | some record =>
    refine ⟨record.measurementSequence + record.evidenceId + 1, record.telemetryGeneration + 1,
      Nat.succ_ne_zero _, fun held h => ?_⟩
    obtain rfl := Option.some.inj h
    exact ⟨Nat.lt_succ_of_le (Nat.le_add_right _ _), Nat.lt_succ_of_le (Nat.le_add_left _ _),
      Nat.le_succ _⟩

/-- The authorization that the policy asks for is given. -/
theorem exists_authorized (policy : ThermalPolicy) {id : ThermalDomainId}
    {definition : ThermalDomainDefinition} (hfind : g.domains.find id = some definition) :
    ∃ g', RunsUnder (RecoveryStep policy) g g' ∧ g'.workers = g.workers ∧
      (policy.recovery.requireExplicitAuthorization = true → id ∈ g'.explicitRecovery) := by
  cases hrequired : policy.recovery.requireExplicitAuthorization with
  | false => exact ⟨g, .refl, rfl, nofun⟩
  | true =>
    have hrun : RunsUnder (RecoveryStep policy) g (g.apply (.authorizeRecovery id)) :=
      .tail _ .refl hrequired
    refine ⟨_, hrun, g.workers_authorizeRecovery id, fun _ => ?_⟩
    rw [apply, authorizeRecovery, hfind]
    dsimp only
    show id ∈ (recomputeDomain _ id).explicitRecovery
    rw [(recomputeDomain_same _ id).sameSetting.explicitRecovery]
    exact Finset.mem_insert_self id _

theorem canName_congr (h : g'.workers = g.workers) {member : WorkerId × WorkerBootId} :
    g'.CanName member ↔ g.CanName member := by
  unfold CanName Serves
  rw [h]

/-- A reading can name its witness when it can name everyone of the crew. -/
theorem canName_witness (h : ∀ member ∈ p.crew, g.CanName member) (i : Nat) :
    g.CanName (p.witness i) := by
  rw [Probe.witness, List.getD_eq_getElem?_getD]
  cases hturn : p.crew[i % p.crew.length]? with
  | none => exact .inl rfl
  | some member => exact h member (List.mem_of_getElem? hturn)

/-- A witness that can be named has both a worker and a boot, or neither. -/
theorem isValid_of_canName {member : WorkerId × WorkerBootId} (h : g.CanName member) :
    isValid member.1 = isValid member.2 := by
  rcases h with hnone | ⟨hworker, hboot, -⟩
  · rw [hnone]
  · rw [isValid_eq_true.mpr hworker, isValid_eq_true.mpr hboot]

/-- A witness that can be named passes the fence of the workers. -/
theorem runChecks_of_canName {member : WorkerId × WorkerBootId} {e : ThermalEvidence}
    (h : g.CanName member) (hworker : e.worker = member.1) (hboot : e.workerBoot = member.2) :
    runChecks (g.workerChecks e) = .ok () := by
  rcases h with rfl | ⟨hvalid, -, held, hlookup, -, hheld, halive⟩
  · have hnone : isValid e.worker = false := by rw [hworker]; rfl
    rw [workerChecks, hnone]
    rfl
  · have hvalid' : isValid e.worker = true := by rw [hworker]; exact isValid_eq_true.mpr hvalid
    have hsame : (held.boot == e.workerBoot) = true := by
      rw [hboot, hheld]
      exact beq_self_eq_true _
    rw [workerChecks, hvalid', hworker, hlookup]
    refine runChecks_eq_ok.mpr fun check hcheck => ?_
    rcases List.mem_cons.mp hcheck with rfl | hcheck
    · exact hsame
    · rw [List.mem_singleton.mp hcheck]
      exact halive

/-! ### Recovering -/

/-- The evaluation allows the recovery when the coupled domains are recovered, and finds the
domain healthy then. -/
structure AwaitsNeighbours (e : ThermalEvaluation) : Prop where
  allowed : e.recovery.allowed = e.recovery.coupledDomainsSatisfied
  healthy : e.recovery.coupledDomainsSatisfied = true → e.state.isHealthy = true

/-- An evaluation of a probed domain waits for its neighbours alone. -/
theorem awaitsNeighbours_of_probed {capacity : Nat} (hvalid : validatePolicy policy = .ok ())
    (hattainable : Attainable capacity policy) (h : g.Probed p policy count)
    (hmeets : p.Meets policy (count + 1)) (hcount : count ≠ 0) :
    AwaitsNeighbours (g.evaluation p.definition policy).2 ∧
      (g.couplings.incomingReachable p.definition.id policy.coupling.maxPropagationDepth = [] →
        (g.evaluation p.definition policy).2.recovery.coupledDomainsSatisfied = true) := by
  have hbest := bestEvidence_of_probed h hmeets hcount
  have hsatisfied : (g.evaluation p.definition policy).2.recovery.coupledDomainsSatisfied =
      (g.coupledPressure p.definition policy).all fun n => n.state.isHealthy :=
    coupledDomainsSatisfied_of_bestEvidence hbest
  refine ⟨⟨?_, fun hrecovered => ?_⟩, fun hnone => ?_⟩
  · rw [hsatisfied]
    exact allowed_of_bestEvidence hattainable hbest
  · rw [hsatisfied] at hrecovered
    exact isHealthy_of_bestEvidence hvalid hattainable hbest hrecovered
      (List.all_eq_true.mp hrecovered)
  · rw [hsatisfied, coupledPressure, hnone]
    rfl

variable {now : SteadyTimePoint} {id : ThermalDomainId} {definition : ThermalDomainDefinition}
  {e : ThermalEvaluation}

/-- **A probe of a domain runs to its end**, when it is sound and the coordinator is ready. -/
theorem exists_probed (hrun : Runs (create {} now) g) (hp : p.Sound) (hfits : g.Fits p)
    (hnext : g.Awaits p 0) (hmeasures : g.CanMeasure p.definition)
    (hfresh : elapsed g.now p.ends ≤ nanoseconds policy.freshness.maxAge)
    (hauthorized : policy.recovery.requireExplicitAuthorization = true →
      p.definition.id ∈ g.explicitRecovery) :
    ∃ g', RunsUnder (RecoveryStep policy) g g' ∧ g'.Probed p policy 63 ∧
      g'.EvaluatedLately p.definition.id := by
  obtain ⟨g', hreadings, htook, hholds⟩ := exists_readings policy hp hfits hnext 63
  have hretains : (g.recoveryHistories p.definition.id).Retains 64 :=
    retains_of_runs rfl rfl hrun p.definition.id
  refine ⟨g', hreadings, ⟨hholds.evidence, hholds.current, ?_, ?_, htook.fits.epoch, ?_, ?_, ?_⟩,
    hholds.lately⟩
  · exact conflictedSubjects_eq_empty htook.fits.reachable
  · exact history_of_readings hretains htook
  · exact (canMeasure_congr htook.setting.devices).mpr hmeasures
  · rw [htook.setting.now]
    exact hfresh
  · rw [htook.setting.explicitRecovery]
    exact hauthorized

/-- **The coordinator is made ready for a probe that shows what an attainable policy asks.** -/
theorem exists_probe (hrun : Runs (create {} now) g) (hrunning : g.stopping = false)
    (hfind : g.domains.find definition.id = some definition)
    (hvalid : validatePolicy policy = .ok ()) (hattainable : Attainable 64 policy)
    (hwitness : g.CanWitness policy.freshness.minDistinctWitnesses) :
    ∃ (g' : Governor) (p : Probe), RunsUnder (RecoveryStep policy) g g' ∧
      p.definition = definition ∧ p.Sound ∧ g'.Fits p ∧ g'.Awaits p 0 ∧ p.Meets policy 64 ∧
      elapsed g'.now p.ends ≤ nanoseconds policy.freshness.maxAge ∧
      (policy.recovery.requireExplicitAuthorization = true →
        definition.id ∈ g'.explicitRecovery) := by
  have hg : g.Reachable := ⟨{}, now, hrun⟩
  obtain ⟨hconfig, hepoch, -⟩ := invariant_of_unsaved (I := fun _ => True) rfl hrun trivial
    fun _ _ _ _ _ _ => trivial
  have hgovernable := (wellRegistered_of_reachable hg).sound.governable _ definition hfind
  have hcount : policy.freshness.minDistinctWitnesses ≤ 64 :=
    le_trans (of_decide_eq_true (holds_of_valid hvalid (i := 12) rfl)) hattainable.samples
  have hspan : 0 ≤ policy.freshness.minEvidenceSpan :=
    of_decide_eq_true (holds_of_valid hvalid (i := 11) rfl)
  have htable : 2 * policy.freshness.minDistinctWitnesses ≤ g.config.maxWorkers := by
    rw [hconfig]
    show _ ≤ 4096
    omega
  -- the crew, the authorization and the clock
  obtain ⟨g₁, crew, hrun₁, hlength, hboots, hnames⟩ := exists_witnesses policy hg htable hwitness
  have hfind₁ : g₁.domains.find definition.id = some definition := by
    rw [(sameGround_of_runsUnder hrun₁).domains, hfind]
  obtain ⟨g₂, hrun₂, hworkers, hauthorized⟩ := exists_authorized policy hfind₁
  obtain ⟨later, begins, ends, hlater, hfresh, hcovered⟩ :=
    exists_times g₂.now policy.freshness.maxAge hspan hattainable.span
  have hrun' : RunsUnder (RecoveryStep policy) g (g₂.apply (.tick later)) :=
    .tail _ (RunUnder.trans hrun₁ hrun₂) hlater
  have hground := sameGround_of_runsUnder hrun'
  obtain ⟨start, telemetry, htelemetry, hstart⟩ := exists_start (g₂.apply (.tick later))
    (SubjectRef.forDomain definition.id definition.generation).key
  obtain ⟨p, hp⟩ : ∃ p : Probe, p = ⟨definition, g.epoch, telemetry, crew, start, begins, ends⟩ :=
    ⟨_, rfl⟩
  have hwitnesses : ∀ i, g₁.CanName (p.witness i) :=
    canName_witness (by rw [hp]; exact hnames)
  have hsound : p.Sound := by
    refine ⟨?_, ?_, ?_, ?_, fun i => ?_⟩
    · rw [hp]
      exact hgovernable.id
    · rw [hp]
      exact hgovernable.generation
    · rw [hp, hepoch]
      exact Nat.one_ne_zero
    · rw [hp]
      exact htelemetry
    · exact isValid_of_canName (hwitnesses i)
  have hfits : (g₂.apply (.tick later)).Fits p := by
    refine ⟨⟨{}, now, RunUnder.trans hrun (RunsUnder.runs hrun')⟩, ?_, ?_, ?_, fun i => ?_⟩
    · rw [hground.stopping, hrunning]
    · rw [hp, hground.domains, hfind]
    · rw [hp, hground.epoch]
    · have hnamed : g₂.CanName (p.witness i) := (canName_congr hworkers).mpr (hwitnesses i)
      exact runChecks_of_canName (g := g₂.apply (.tick later)) hnamed rfl rfl
  refine ⟨g₂.apply (.tick later), p, hrun', by rw [hp], hsound, hfits, ?_, ?_, ?_, hauthorized⟩
  · rw [hp]
    exact hstart
  · rw [hp]
    refine ⟨hattainable.samples, le_of_eq hcovered.symm, le_of_eq hlength.symm, ?_, hboots, ?_⟩
    · exact le_of_eq_of_le hlength hcount
    · exact fun hrequired => le_of_eq_of_le hlength (hattainable.witnesses hrequired)
  · rw [hp]
    exact hfresh

/-- **A derated domain recovers as soon as its coupled domains do**, under every valid policy
that is attainable and has its witnesses. -/
theorem recovers_of_attainable (hrun : Runs (create {} now) g) (hrunning : g.stopping = false)
    (hfind : g.domains.find id = some definition) (hpolicy : g.policyFor definition = some policy)
    (hvalid : validatePolicy policy = .ok ()) (hattainable : Attainable 64 policy)
    (hwitness : g.CanWitness policy.freshness.minDistinctWitnesses)
    (hstored : g.evaluations.lookup id = some e) (hderated : e.state = .derated) :
    ∃ g', RunsUnder (RecoveryStep policy) g g' ∧ ∃ e', g'.evaluations.lookup id = some e' ∧
      AwaitsNeighbours e' ∧
      (g.couplings.incomingReachable id policy.coupling.maxPropagationDepth = [] →
        e'.recovery.allowed = true ∧ e'.state.isHealthy = true) := by
  have hg : g.Reachable := ⟨{}, now, hrun⟩
  obtain rfl : definition.id = id := keyedDomains_of_reachable hg id definition hfind
  have hmeasures : g.CanMeasure definition :=
    canMeasure_of_restrictive rfl hrun hfind hstored (by rw [hderated]; rfl)
  obtain ⟨g₁, p, hrun₁, rfl, hp, hfits, hnext, hmeets, hfresh, hauthorized⟩ :=
    exists_probe hrun hrunning hfind hvalid hattainable hwitness
  have hground₁ := sameGround_of_runsUnder hrun₁
  have hmeasures₁ : g₁.CanMeasure p.definition :=
    (canMeasure_congr hground₁.devices).mpr hmeasures
  obtain ⟨g₂, hrun₂, hprobed, hlately⟩ := exists_probed
    (RunUnder.trans hrun (RunsUnder.runs hrun₁)) hp hfits hnext hmeasures₁ hfresh hauthorized
  have hrun' := RunUnder.trans hrun₁ hrun₂
  have hground := sameGround_of_runsUnder hrun'
  obtain ⟨turn, governed, governing, hturn, hgoverned, hgoverning, hevaluated⟩ := hlately
  obtain rfl : p.definition = governed := by
    rw [hground.domains, hfind] at hgoverned
    exact Option.some.inj hgoverned
  obtain rfl : policy = governing := by
    rw [hground.policyFor, hpolicy] at hgoverning
    exact Option.some.inj hgoverning
  obtain ⟨hawaits, halone⟩ := awaitsNeighbours_of_probed hvalid hattainable
    (hprobed.congr hturn.symm) hmeets (by decide)
  refine ⟨g₂, hrun', _, hevaluated, hawaits, fun hnone => ?_⟩
  have hcouplings : turn.couplings = g.couplings := hturn.couplings.symm.trans hground.couplings
  rw [← hcouplings] at hnone
  have hsatisfied := halone hnone
  exact ⟨by rw [hawaits.allowed, hsatisfied], hawaits.healthy hsatisfied⟩

/-! ### Derated domains -/

/-- A domain with one member is derated, in a state of the default configuration, under a valid
policy. -/
structure Derated (g : Governor) (policy : ThermalPolicy) (id : ThermalDomainId) : Prop where
  reached : ∃ now, Runs (create {} now) g
  valid : validatePolicy policy = .ok ()
  governed : ∃ definition, g.domains.find id = some definition ∧
    definition.members.length = 1 ∧ g.policyFor definition = some policy
  stored : ∃ e, g.evaluations.lookup id = some e ∧ e.state = .derated

/-- The domain is derated and its recovery not allowed, and more is so of what governs it. -/
def standsDerated (g : Governor) (id : ThermalDomainId)
    (also : ThermalDomainDefinition → ThermalPolicy → Bool) : Bool :=
  (g.domains.find id).any fun definition => (g.policyFor definition).any fun policy =>
    (g.evaluations.lookup id).any fun e =>
      definition.members.length = 1 && validatePolicy policy = .ok () && e.state = .derated &&
        ! e.recovery.allowed && also definition policy

theorem exists_of_standsDerated {also : ThermalDomainDefinition → ThermalPolicy → Bool}
    (hrun : Runs (create {} now) g) (h : g.standsDerated id also = true) :
    ∃ definition policy, g.domains.find id = some definition ∧
      g.policyFor definition = some policy ∧ definition.members.length = 1 ∧
      also definition policy = true ∧ g.Derated policy id ∧ Blocked id g.evaluations := by
  obtain ⟨definition, hfind, h⟩ := (Option.any_eq_true _ _).mp h
  obtain ⟨policy, hpolicy, h⟩ := (Option.any_eq_true _ _).mp h
  obtain ⟨e, hlookup, h⟩ := (Option.any_eq_true _ _).mp h
  simp only [Bool.and_eq_true, decide_eq_true_eq, Bool.not_eq_true'] at h
  obtain ⟨⟨⟨⟨hmembers, hvalid⟩, hstate⟩, hallowed⟩, halso⟩ := h
  refine ⟨definition, policy, hfind, hpolicy, hmembers, halso,
    ⟨⟨now, hrun⟩, hvalid, ⟨definition, hfind, hmembers, hpolicy⟩, e, hlookup, hstate⟩, ?_⟩
  intro stored hstored
  obtain rfl := Option.some.inj (hlookup.symm.trans hstored)
  exact hallowed

section Deployment

open Deployment

/-- The state after some operations of the deployment, with nothing configured. -/
def afterDefault (operations : List Operation) : Governor :=
  (setUp ++ operations).foldl apply (create { Deployment.config with durablePath := "" } 0)

theorem runs_afterDefault (operations : List Operation) :
    Runs (create {} 0) (afterDefault operations) := runs_foldl _ _

/-- The domain at 85 degrees. -/
def hot : Operation := .publishTemperature (reading 85 1 0)

/-- Under the default policy the domain recovers from 85 degrees. -/
theorem recovers_hot : ∃ policy, (afterDefault [hot]).Derated policy 1 ∧
    ∃ g', RunsUnder (RecoveryStep policy) (afterDefault [hot]) g' ∧
      ∃ e, g'.evaluations.lookup 1 = some e ∧ e.recovery.allowed = true ∧
        e.state.isHealthy = true := by
  have hstands : (afterDefault [hot]).standsDerated 1 (fun _ policy =>
      Attainable 64 policy && policy.freshness.minDistinctWitnesses = 0 &&
        ((afterDefault [hot]).couplings.incomingReachable 1
          policy.coupling.maxPropagationDepth).isEmpty) = true := by decide +kernel
  obtain ⟨definition, policy, hfind, hpolicy, -, halso, hderated, -⟩ :=
    exists_of_standsDerated (runs_afterDefault _) hstands
  simp only [Bool.and_eq_true, decide_eq_true_eq, List.isEmpty_iff] at halso
  obtain ⟨⟨hattainable, hwitnesses⟩, hnone⟩ := halso
  obtain ⟨e, hlookup, hstate⟩ := hderated.stored
  obtain ⟨g', hrun, e', hlookup', -, hrecovered⟩ := recovers_of_attainable (runs_afterDefault [hot])
    (by decide +kernel) hfind hpolicy hderated.valid hattainable
    (.inr (by rw [hwitnesses]; exact Nat.zero_le _)) hlookup hstate
  exact ⟨policy, hderated, g', hrun, e', hlookup', hrecovered hnone⟩

/-! ### A crowd of workers of one boot -/

/-- Workers of one boot are registered one after the other. -/
def crowd (count : Nat) : List Operation :=
  (List.range count).map fun i => .registerWorker (i + 1) 1 ""

/-- The crowd is in the table, and what is evaluated is as it was. -/
structure Crowded (c g : Governor) (id : ThermalDomainId) (count : Nat) : Prop where
  reads : SameReads c g
  config : g.config = c.config
  standing : ∀ other, g.standingAt other = c.standingAt other
  blocked : Blocked id g.evaluations
  size : Table.size g.workers = count
  table : ∀ worker held, g.workers.lookup worker = some held → worker ≤ count ∧ held.boot = 1

/-- One more worker joins the crowd. -/
theorem crowded_registerWorker {c : Governor} (hkeyed : c.KeyedDomains)
    (hrests : ∀ other, (c.domains.find other).isSome = true → c.rests other = true)
    (hnever : ∀ turn, SameReads c turn → ∀ definition governing,
      c.domains.find id = some definition → c.policyFor definition = some governing →
      (turn.evaluation definition governing).2.recovery.allowed = false)
    (hcount : count < c.config.maxWorkers) (h : Crowded c g id count) :
    Crowded c (g.registerWorker (count + 1) 1 "").1 id (count + 1) := by
  have hroom : ¬ g.config.maxWorkers ≤ Table.size g.workers := by
    rw [h.config, h.size]
    exact not_le.mpr hcount
  have hnew : g.workers.lookup (count + 1) = none := by
    by_contra hsome
    obtain ⟨held, hheld⟩ := Option.ne_none_iff_exists'.mp hsome
    exact absurd (h.table _ held hheld).1 (Nat.not_succ_le_self count)
  have henrolled : (g.registerWorker (count + 1) 1 "").1 = (g.enrol (count + 1) 1 "").1 := by
    unfold registerWorker
    rw [hnew]
    rfl
  have hcomes := g.recomputes_enrolment (count + 1) 1 ""
  have hentered : SameReads c (g.enrolment (count + 1) 1 "").1 :=
    h.reads.trans (g.sameReads_enrolment (count + 1) 1 "")
  have hevaluations := g.evaluations_enrolment (count + 1) 1 ""
  obtain ⟨workers, hkept, hworkers⟩ := workers_registerWorker ""
    (Nat.succ_ne_zero count) Nat.one_ne_zero (fun held hheld => by rw [hnew] at hheld; cases hheld)
    (not_le.mp hroom)
  obtain rfl : workers = g.workers := by
    rcases hkept with hkept | ⟨held, hheld, -⟩
    · exact hkept
    · rw [hnew] at hheld
      cases hheld
  rw [henrolled] at hworkers ⊢
  refine ⟨hentered.trans hcomes.sameReads, ?_, ?_, ?_, ?_, fun worker held hlookup => ?_⟩
  · rw [(g.sameSetting_enrol (count + 1) 1 "").config, h.config]
  · intro other
    rw [standingAt, hcomes.evaluations, ← standingAt]
    refine standingAt_recomputeDomains_of_rests hkeyed hrests _ _ hentered (fun other => ?_) other
    rw [standingAt, hevaluations, ← standingAt, h.standing]
  · rw [hcomes.evaluations]
    refine stays_recomputeDomains (G := fun g => g = c) ?_ rfl _ _ hentered ?_
    · rintro _ turn other definition governing rfl hturn hblocked hfind hpolicy
      refine blocked_insert hblocked fun hother => ?_
      subst hother
      exact hnever turn hturn definition governing hfind hpolicy
    · rw [hevaluations]
      exact h.blocked
  · rw [hworkers, Table.size_insert_of_notMem (AList.lookup_eq_none.mp hnew), h.size]
  · rw [hworkers, Table.lookup_insert_eq_ite] at hlookup
    split at hlookup
    · rename_i hsame
      obtain rfl := Option.some.inj hlookup
      exact ⟨le_of_eq hsame, rfl⟩
    · obtain ⟨hle, hboot⟩ := h.table worker held hlookup
      exact ⟨Nat.le_succ_of_le hle, hboot⟩

/-- **The crowd fills the table, and nothing else has changed.** -/
theorem crowded_crowd {c : Governor} (hkeyed : c.KeyedDomains)
    (hrests : ∀ other, (c.domains.find other).isSome = true → c.rests other = true)
    (hnever : ∀ turn, SameReads c turn → ∀ definition governing,
      c.domains.find id = some definition → c.policyFor definition = some governing →
      (turn.evaluation definition governing).2.recovery.allowed = false)
    (hempty : c.workers.keys = []) (hblocked : Blocked id c.evaluations) :
    ∀ count ≤ c.config.maxWorkers, Crowded c ((crowd count).foldl apply c) id count := by
  intro count
  induction count with
  | zero =>
    intro _
    have hnone : ∀ worker, c.workers.lookup worker = none := fun worker =>
      AList.lookup_eq_none.mpr fun hmem => by
        have hkey : worker ∈ c.workers.keys := AList.mem_keys.mpr hmem
        rw [hempty] at hkey
        cases hkey
    refine ⟨.refl c, rfl, fun _ => rfl, hblocked, ?_, fun worker held hheld => ?_⟩
    · show Table.size c.workers = 0
      rw [Table.size_eq_length_keys, hempty, List.length_nil]
    · have hheld' : c.workers.lookup worker = some held := hheld
      rw [hnone] at hheld'
      cases hheld'
  | succ count ih =>
    intro hcount
    have hmember : crowd (count + 1) = crowd count ++ [.registerWorker (count + 1) 1 ""] := by
      rw [crowd, crowd, List.range_succ, List.map_append, List.map_singleton]
    rw [hmember, List.foldl_append]
    exact crowded_registerWorker hkeyed hrests hnever hcount (ih (Nat.le_of_succ_le hcount))

namespace Crowded

variable {c : Governor} {count : Nat}

/-- A crowd that fills the table adds one boot to the witnesses. -/
theorem witnessedBy {boots : List WorkerBootId} (h : Crowded c g id count)
    (hfull : c.config.maxWorkers ≤ count) (hanonymous : 0 ∈ boots) (hboot : 1 ∈ boots)
    (hsamples : ∀ s ∈ (c.recoveryHistories id).samples, s.workerBoot ∈ boots) :
    g.WitnessedBy id boots := by
  refine ⟨?_, hanonymous, fun worker held hheld => ?_, fun s hs => ?_⟩
  · rw [h.config, h.size]
    exact hfull
  · rw [(h.table worker held hheld).2]
    exact hboot
  · rw [h.reads.recoveryHistories] at hs
    exact hsamples s hs

/-- With the crowd the domain is as derated as it was. -/
theorem derated (h : Crowded c g id count) (hrun : Runs c g) (hderated : c.Derated policy id) :
    g.Derated policy id := by
  obtain ⟨⟨now, hreached⟩, hvalid, ⟨definition, hfind, hmembers, hpolicy⟩, e, hlookup, hstate⟩ :=
    hderated
  have hstanding : g.standingAt id = some e.standing := by
    rw [h.standing, standingAt, hlookup, Option.map_some]
  obtain ⟨e', hlookup', hsame⟩ := Option.map_eq_some_iff.mp hstanding
  have hstate' : e'.state = .derated := (congrArg Standing.state hsame).trans hstate
  refine ⟨⟨now, RunUnder.trans hreached hrun⟩, hvalid, ⟨definition, ?_, hmembers, ?_⟩, e', hlookup',
    hstate'⟩
  · rw [h.reads.domains, hfind]
  · rw [h.reads.policyFor, hpolicy]

end Crowded

/-! ### Derated domains that do not recover -/

/-- The default policy, asking for a sample more than a history retains. -/
def manySamples : ThermalPolicy :=
  { PolicyOver.makeDefault with
    generation := 2
    freshness := { PolicyOver.makeDefault.freshness with requiredConsecutiveSamples := 65 } }

/-- The default policy, asking for three witnesses. -/
def manyWitnesses : ThermalPolicy :=
  { PolicyOver.makeDefault with
    generation := 2
    freshness :=
      { PolicyOver.makeDefault.freshness with
        requiredConsecutiveSamples := 3
        minDistinctWitnesses := 3 } }

/-- The second device, without any sensor. -/
def blindDevice : DeviceRegistration :=
  { secondDevice with capabilities := { states := fun _ => .unsupported } }

/-- A policy asks for more samples than are retained. -/
def overasked : Governor := afterDefault [.setPolicy manySamples, hot]

/-- The coordinator is shut down after the reading. -/
def shutDown : Governor := afterDefault [hot, .shutdown]

/-- A domain without a sensor heats the domain. -/
def heatedByBlind : Governor :=
  afterDefault [.registerDevice blindDevice, .registerThermalDomain secondDomain,
    .registerCoupling (coupling 1 2 1), hot]

/-- A policy asks for three witnesses, and the worker table is full of workers of one boot. -/
def crowdedOut : Governor :=
  (crowd 4096).foldl apply (afterDefault [.setPolicy manyWitnesses, hot])

theorem not_recovers_overasked :
    ∃ policy, overasked.Derated policy 1 ∧ ¬ overasked.Recovers policy 1 := by
  have hrun : Runs (create {} 0) overasked := runs_afterDefault _
  have hstands : overasked.standsDerated 1 (fun _ policy => ! Attainable 64 policy) = true := by
    decide +kernel
  obtain ⟨definition, policy, hfind, hpolicy, hmembers, hattainable, hderated, hblocked⟩ :=
    exists_of_standsDerated hrun hstands
  rw [Bool.not_eq_true', decide_eq_false_iff_not] at hattainable
  exact ⟨policy, hderated, not_recovers_of_not_attainable hrun hfind hpolicy hderated.valid
    hmembers hattainable hblocked⟩

theorem not_recovers_shutDown :
    ∃ policy, shutDown.Derated policy 1 ∧ ¬ shutDown.Recovers policy 1 := by
  have hrun : Runs (create {} 0) shutDown := runs_afterDefault _
  have hstands : shutDown.standsDerated 1 (fun definition policy =>
      (gatherDomainEvidence definition shutDown.evidence).all fun gathered =>
        recoveryGate policy ≤ gathered.evidence.temperature) = true := by
    decide +kernel
  obtain ⟨definition, policy, hfind, hpolicy, -, hhot, hderated, hblocked⟩ :=
    exists_of_standsDerated hrun hstands
  refine ⟨policy, hderated, not_recovers_of_stopping ⟨{}, 0, hrun⟩ (by decide +kernel) hfind hpolicy
    (fun gathered hgathered => ?_) hblocked⟩
  rw [hgathered, Option.all_some] at hhot
  exact of_decide_eq_true hhot

theorem not_recovers_heatedByBlind :
    ∃ policy, heatedByBlind.Derated policy 1 ∧ ¬ heatedByBlind.Recovers policy 1 := by
  have hrun : Runs (create {} 0) heatedByBlind := runs_afterDefault _
  have hstands : heatedByBlind.standsDerated 1 (fun _ policy =>
      (2, 1) ∈ heatedByBlind.couplings.incomingReachable 1
        policy.coupling.maxPropagationDepth) = true := by
    decide +kernel
  obtain ⟨definition, policy, hfind, hpolicy, -, hreached, hderated, hblocked⟩ :=
    exists_of_standsDerated hrun hstands
  obtain ⟨other, hother, hblind⟩ := exists_of_any (heatedByBlind.domains.find 2) (fun other =>
    (heatedByBlind.memberCapabilities other).isEmpty = false ∧
      (resolveCapability .temperature (heatedByBlind.memberCapabilities other)).isSupported = false)
    (by decide +kernel)
  obtain ⟨e, hlookup, hunhealthy⟩ := exists_of_any (heatedByBlind.evaluations.lookup 2)
    (fun e => e.state.isHealthy = false) (by decide +kernel)
  have hmeasures : ¬ heatedByBlind.CanMeasure other := by
    rintro (hnone | hsupported)
    · rw [hnone] at hblind
      cases hblind.1
    · rw [hblind.2] at hsupported
      cases hsupported
  exact ⟨policy, hderated, not_recovers_of_unmeasurable ⟨{}, 0, hrun⟩ hfind hpolicy hother hmeasures
    (of_decide_eq_true hreached) ⟨⟨e, hlookup, hunhealthy⟩, hblocked⟩⟩

theorem not_recovers_crowdedOut :
    ∃ policy, crowdedOut.Derated policy 1 ∧ ¬ crowdedOut.Recovers policy 1 := by
  obtain ⟨c, hc⟩ : ∃ c, c = afterDefault [.setPolicy manyWitnesses, hot] := ⟨_, rfl⟩
  have hrun : Runs (create {} 0) c := hc ▸ runs_afterDefault _
  have hcrowd : crowdedOut = (crowd 4096).foldl apply c := by rw [hc]; rfl
  have hstands : c.standsDerated 1 (fun _ policy =>
      policy.freshness.minDistinctWitnesses = 3) = true := by
    rw [hc]
    decide +kernel
  have hanonymous : ((c.recoveryHistories 1).samples.all fun s => s.workerBoot = 0) = true := by
    rw [hc]
    decide +kernel
  have hrests : (c.domains.allDomainIds.all c.rests) = true := by
    rw [hc]
    decide +kernel
  have hempty : c.workers.keys = [] := by
    rw [hc]
    decide +kernel
  obtain ⟨definition, policy, hfind, hpolicy, -, hwitnesses, hderated, hblocked⟩ :=
    exists_of_standsDerated hrun hstands
  rw [decide_eq_true_eq] at hwitnesses
  have hkeyed : c.KeyedDomains := keyedDomains_of_reachable ⟨{}, 0, hrun⟩
  obtain ⟨hconfig, -, -⟩ := invariant_of_unsaved (I := fun _ => True) rfl hrun trivial
    fun _ _ _ _ _ _ => trivial
  have hsamples : ∀ s ∈ (c.recoveryHistories 1).samples, s.workerBoot ∈ [0, 1] := fun s hs =>
    List.mem_cons.mpr (.inl (of_decide_eq_true (List.all_eq_true.mp hanonymous s hs)))
  have hfew : [0, 1].length < policy.freshness.minDistinctWitnesses := by
    rw [hwitnesses]
    decide
  have hnever : ∀ turn, SameReads c turn → ∀ governed governing, c.domains.find 1 = some governed →
      c.policyFor governed = some governing →
      (turn.evaluation governed governing).2.recovery.allowed = false := by
    intro turn hturn governed governing hgoverned hgoverning
    obtain rfl : definition = governed := Option.some.inj (hfind.symm.trans hgoverned)
    obtain rfl : policy = governing := Option.some.inj (hpolicy.symm.trans hgoverning)
    refine not_allowed_of_witnesses (fun s hs => ?_) hfew
    rw [hkeyed 1 definition hfind, hturn.recoveryHistories] at hs
    exact hsamples s hs
  have hcrowded : Crowded c crowdedOut 1 4096 := by
    rw [hcrowd]
    refine crowded_crowd hkeyed (fun other hother => ?_) hnever hempty hblocked 4096 ?_
    · exact List.all_eq_true.mp hrests other (mem_allDomainIds.mpr hother)
    · rw [hconfig]
  have hrun' : Runs c crowdedOut := by
    rw [hcrowd]
    exact runs_foldl c _
  have hfull : c.config.maxWorkers ≤ 4096 := by rw [hconfig]
  exact ⟨policy, hcrowded.derated hrun' hderated, not_recovers_of_witnesses
    ⟨{}, 0, RunUnder.trans hrun hrun'⟩ (by rw [hcrowded.reads.domains, hfind])
    (by rw [hcrowded.reads.policyFor, hpolicy])
    (hcrowded.witnessedBy hfull (List.mem_cons_self) (by decide) hsamples) hfew hcrowded.blocked⟩

/-- **A derated domain need not recover**: its policy may ask for too much, the coordinator may
be shut down, a neighbour may stay unhealthy, or the workers may be too few. -/
theorem not_recovers_of_derated :
    (∃ policy, overasked.Derated policy 1 ∧ ¬ overasked.Recovers policy 1) ∧
    (∃ policy, shutDown.Derated policy 1 ∧ ¬ shutDown.Recovers policy 1) ∧
    (∃ policy, heatedByBlind.Derated policy 1 ∧ ¬ heatedByBlind.Recovers policy 1) ∧
    (∃ policy, crowdedOut.Derated policy 1 ∧ ¬ crowdedOut.Recovers policy 1) :=
  ⟨not_recovers_overasked, not_recovers_shutDown, not_recovers_heatedByBlind,
    not_recovers_crowdedOut⟩

end Deployment

end Governor

end ThermalGovernor
