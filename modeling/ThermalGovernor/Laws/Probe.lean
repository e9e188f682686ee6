import ThermalGovernor.Lib.Journal
import ThermalGovernor.Laws.Attainable
import ThermalGovernor.Laws.Capability
import ThermalGovernor.Laws.Conflict
import ThermalGovernor.Laws.RecoveryRuns
import ThermalGovernor.Laws.Retirement

/-!
# Readings that bring a domain to recovery

A domain is probed with readings of its own, as cold as a reading can be: `Probe` says for
which domain, whose witnesses take turns, and when the first reading and the others are
taken.  A coordinator that the probe `Fits` accepts one reading after the other, as long as
they are later than the record that it holds (`exists_readings`).

As many readings as a history retains make up all of it (`history_of_readings`).
-/

namespace ThermalGovernor

open Lib

/-- What the readings that bring a domain to recovery have in common: the domain, whose
witnesses take turns, from which number on, and when the first and the others are taken. -/
structure Probe where
  definition : ThermalDomainDefinition
  epoch : CoordinatorEpoch
  telemetry : TelemetryGeneration
  crew : List (WorkerId × WorkerBootId)
  start : Nat
  begins : SteadyTimePoint
  ends : SteadyTimePoint

namespace Probe

/-- The witness of a reading. -/
def witness (p : Probe) (i : Nat) : WorkerId × WorkerBootId :=
  p.crew.getD (i % p.crew.length) (0, 0)

/-- A reading of the domain as a whole, as cold as a reading can be. -/
def reading (p : Probe) (i : Nat) : ThermalEvidence where
  evidenceId := p.start + i
  subject := .forDomain p.definition.id p.definition.generation
  domain := p.definition.id
  domainGeneration := p.definition.generation
  temperature := DegreesCelsius.absoluteZero
  source := .syntheticModel
  provenance := .synthetic
  measurementSequence := p.start + i
  telemetryGeneration := p.telemetry
  worker := (p.witness i).1
  workerBoot := (p.witness i).2
  coordinatorEpoch := p.epoch
  measuredAt := if i = 0 then p.begins else p.ends
  confidence := some 1

/-- The sample that a reading leaves in the history of the domain. -/
def sample (p : Probe) (i : Nat) : RecoverySample := recoverySample (p.reading i) p.definition

/-- The key of all of its readings. -/
def key (p : Probe) : String :=
  (SubjectRef.forDomain p.definition.id p.definition.generation).key

/-- The identities of the readings are filled in. -/
structure Sound (p : Probe) : Prop where
  id : p.definition.id ≠ 0
  generation : p.definition.generation ≠ 0
  epoch : p.epoch ≠ 0
  telemetry : p.telemetry ≠ 0
  crew : ∀ i, isValid (p.witness i).1 = isValid (p.witness i).2

theorem coldest_reading (p : Probe) (i : Nat) : Coldest (p.reading i) :=
  ⟨rfl, rfl, rfl, rfl, rfl⟩

theorem validateEvidenceStructure_reading {p : Probe} (hp : p.Sound) (i : Nat) :
    validateEvidenceStructure (p.reading i) = .ok () := by
  have hid : isValid p.definition.id = true := isValid_eq_true.mpr hp.id
  have hgeneration : isValid p.definition.generation = true := isValid_eq_true.mpr hp.generation
  have hepoch : isValid p.epoch = true := isValid_eq_true.mpr hp.epoch
  have htelemetry : isValid p.telemetry = true := isValid_eq_true.mpr hp.telemetry
  have hpresent : (p.reading i).subject.identityPresent = true := by
    show (isValid p.definition.id && isValid p.definition.generation) = true
    rw [hid, hgeneration]
    rfl
  have hcold : DegreesCelsius.valid DegreesCelsius.absoluteZero = true := by decide +kernel
  have hcertain : (0 : ℚ) ≤ 1 ∧ (1 : ℚ) ≤ 1 := ⟨zero_le_one, le_refl _⟩
  refine runChecks_eq_ok.mpr ?_
  simp only [evidenceChecks, List.forall_mem_cons]
  refine ⟨hcold, hpresent, htelemetry, hepoch, ?_, ?_, rfl, rfl, rfl, rfl, rfl, fun _ hcheck => ?_⟩
  · exact beq_iff_eq.mpr (hp.crew i)
  · show (decide ((0 : ℚ) ≤ 1) && decide ((1 : ℚ) ≤ 1)) = true
    rw [decide_eq_true hcertain.1, decide_eq_true hcertain.2]
    rfl
  · exact absurd hcheck List.not_mem_nil

end Probe

namespace Governor

variable {g g' : Governor} {policy : ThermalPolicy} {p : Probe} {i : Nat}

/-- The readings of the probe pass the fences. -/
structure Fits (g : Governor) (p : Probe) : Prop where
  reachable : g.Reachable
  running : g.stopping = false
  found : g.domains.find p.definition.id = some p.definition
  epoch : g.epoch = p.epoch
  crew : ∀ i, runChecks (g.workerChecks (p.reading i)) = .ok ()

/-- The reading is later than the record held. -/
def Awaits (g : Governor) (p : Probe) (i : Nat) : Prop :=
  ∀ held, g.evidence.lookup p.key = some held → held.measurementSequence < p.start + i ∧
    held.evidenceId < p.start + i ∧ held.telemetryGeneration ≤ p.telemetry

theorem accepts_reading (hp : p.Sound) (hg : g.Fits p) (hnext : g.Awaits p i) :
    g.accepts (p.reading i) = true := by
  refine accepts_eq_true.mpr ⟨Probe.validateEvidenceStructure_reading hp i, ?_, ?_⟩
  · refine runChecks_eq_ok.mpr fun check hcheck => ?_
    simp only [publishChecks, List.mem_append, List.mem_cons, List.not_mem_nil, or_false] at hcheck
    rcases hcheck with (((rfl | rfl) | hworker) | hdevice) | hdomain
    · show (! g.stopping) = true
      rw [hg.running]
      rfl
    · show (p.epoch == g.epoch) = true
      rw [hg.epoch]
      exact beq_self_eq_true _
    · exact runChecks_eq_ok.mp (hg.crew i) check hworker
    · have hnone : g.deviceGenerationChecks (p.reading i) = [] := rfl
      rw [hnone] at hdevice
      cases hdevice
    · have hvalid : isValid p.definition.id = true := isValid_eq_true.mpr hp.id
      have hchecks : g.domainGenerationChecks (p.reading i) =
          [⟨p.definition.generation == p.definition.generation, .staleDomainGeneration,
            "evidence carries a stale thermal domain generation"⟩] := by
        have hfound : g.domains.find (p.reading i).domain = some p.definition := hg.found
        unfold domainGenerationChecks
        rw [hfound]
        show (if ! isValid p.definition.id then _ else _) = _
        rw [hvalid]
        rfl
      rw [hchecks, List.mem_singleton] at hdomain
      rw [hdomain]
      exact beq_self_eq_true _
  · show sequenceVerdict (g.evidence.lookup p.key) (p.reading i) = .commit
    cases hheld : g.evidence.lookup p.key with
    | none => rfl
    | some held =>
      obtain ⟨hsequence, hidentity, htelemetry⟩ := hnext held hheld
      have hindependent : compareEvidence held (p.reading i) = .independent := by
        have hlater : ¬ p.start + i < held.measurementSequence := Nat.lt_asymm hsequence
        have hother : ¬ (p.start + i = held.evidenceId ∨ p.start + i = held.measurementSequence) :=
          fun h => h.elim (Nat.ne_of_gt hidentity) (Nat.ne_of_gt hsequence)
        unfold compareEvidence
        exact (if_neg hlater).trans (if_neg hother)
      unfold sequenceVerdict
      dsimp only
      rw [hindependent]
      have hforward : ¬ (p.reading i).telemetryGeneration < held.telemetryGeneration :=
        not_lt.mpr htelemetry
      dsimp only
      rw [if_neg hforward, ite_self]

/-! ### Reading after reading -/

/-- An accepted record has the domains it belongs to evaluated. -/
theorem evaluatedLately_publishImpl {e : ThermalEvidence} {id : ThermalDomainId}
    {definition : ThermalDomainDefinition} (hg : g.Reachable) (haccepts : g.accepts e = true)
    (hfind : g.domains.find id = some definition) (haffected : id ∈ g.affectedDomains e) :
    (g.publishImpl e).1.EvaluatedLately id := by
  have hrecomputes := recomputes_publication (keyedDomains_of_reachable hg) e
  have hdomains : (g.publishImpl e).1.domains = g.domains :=
    (g.sameSetting_publishImpl e).domains
  rcases evaluatedLately_of_recomputes hrecomputes (hg.apply (.publishTemperature e))
    (by rw [hdomains, hfind]) with ⟨hid, -⟩ | hlately
  · have hcounted : ((g.acceptEvidence e).countPublication e).domains = g.domains :=
      congrArg Memory.domains (memory_countPublication (g.acceptEvidence e) e)
    rw [publication, if_pos haccepts] at hid
    refine absurd (List.mem_append_left _ ?_) hid
    unfold affectedDomains at haffected ⊢
    rwa [hcounted]
  · exact hlately

/-- The first readings are accepted, and the setting is as before. -/
structure Took (g g' : Governor) (p : Probe) (count : Nat) : Prop where
  setting : SameSetting g g'
  fits : g'.Fits p
  awaits : g'.Awaits p count
  history : g'.recoveryHistories p.definition.id = ((List.range count).map p.sample).foldl
    RecoveryHistory.push (g.recoveryHistories p.definition.id)

/-- The reading governs the domain, which was evaluated from it. -/
structure Holds (g : Governor) (p : Probe) (i : Nat) : Prop where
  evidence : g.evidence.lookup p.key = some (p.reading i)
  current : p.key ∉ g.invalidatedEvidence
  lately : g.EvaluatedLately p.definition.id

/-- **One more reading is accepted and governs.** -/
theorem took_reading (hp : p.Sound) (h : Took g g' p i) :
    Took g (g'.publishImpl (p.reading i)).1 p (i + 1) ∧
      Holds (g'.publishImpl (p.reading i)).1 p i := by
  have haccepts := accepts_reading hp h.fits h.awaits
  have hsetting := g'.sameSetting_publishImpl (p.reading i)
  have hmemory : (g'.publishImpl (p.reading i)).1.memory = g'.memory.accept (p.reading i) := by
    rw [publishImpl_of_accepts haccepts]
    exact g'.memory_commitEvidence (p.reading i)
  have hevidence : (g'.publishImpl (p.reading i)).1.evidence =
      g'.evidence.insert p.key (p.reading i) := congrArg Memory.evidence hmemory
  have hinvalidated : (g'.publishImpl (p.reading i)).1.invalidatedEvidence =
      g'.invalidatedEvidence.erase p.key := congrArg Memory.invalidated hmemory
  have hnamed : isValid p.definition.id = true ∧ p.definition.id = (p.reading i).domain :=
    ⟨isValid_eq_true.mpr hp.id, rfl⟩
  have hsample : g'.domains.sampleIn (p.reading i) p.definition.id = some (p.sample i) := by
    rw [DomainRegistry.sampleIn, if_pos (.inr hnamed), h.fits.found]
    rfl
  have hheld : (g'.publishImpl (p.reading i)).1.evidence.lookup p.key = some (p.reading i) := by
    rw [hevidence, AList.lookup_insert]
  refine ⟨⟨h.setting.trans hsetting, ⟨?_, ?_, ?_, ?_, fun j => ?_⟩, fun held hlookup => ?_, ?_⟩,
    hheld, ?_, ?_⟩
  · exact h.fits.reachable.apply (.publishTemperature (p.reading i))
  · rw [hsetting.stopping, h.fits.running]
  · rw [hsetting.domains, h.fits.found]
  · rw [hsetting.epoch, h.fits.epoch]
  · rw [publishImpl_of_accepts haccepts, workerChecks_commitEvidence]
    exact h.fits.crew j
  · obtain rfl := Option.some.inj (hheld.symm.trans hlookup)
    exact ⟨Nat.lt_succ_self _, Nat.lt_succ_self _, le_refl _⟩
  · have hhistory : (g'.publishImpl (p.reading i)).1.recoveryHistories p.definition.id =
        (g'.recoveryHistories p.definition.id).pushAll
          (g'.domains.sampleIn (p.reading i) p.definition.id) :=
      congrFun (congrArg Memory.histories hmemory) p.definition.id
    rw [hhistory, hsample, List.range_succ, List.map_append, List.foldl_append, ← h.history]
    rfl
  · rw [hinvalidated]
    exact Finset.notMem_erase p.key _
  · exact evaluatedLately_publishImpl h.fits.reachable haccepts h.fits.found
      (mem_affectedDomains.mpr (.inr hnamed))

/-- **Any number of readings is accepted.** -/
theorem exists_readings (policy : ThermalPolicy) (hp : p.Sound) (hg : g.Fits p)
    (hnext : g.Awaits p 0) (count : Nat) :
    ∃ g', RunsUnder (RecoveryStep policy) g g' ∧ Took g g' p (count + 1) ∧ Holds g' p count := by
  induction count with
  | zero =>
    have hnone : Took g g p 0 := ⟨.refl g, hg, hnext, rfl⟩
    obtain ⟨htook, hholds⟩ := took_reading hp hnone
    exact ⟨g.apply (.publishTemperature (p.reading 0)), .tail _ .refl trivial, htook, hholds⟩
  | succ count ih =>
    obtain ⟨g', hrun, htook, -⟩ := ih
    obtain ⟨htook', hholds⟩ := took_reading hp htook
    exact ⟨g'.apply (.publishTemperature (p.reading (count + 1))), .tail _ hrun trivial, htook',
      hholds⟩

end Governor

/-! ### As many readings as a history retains -/

/-- Of the samples that are pushed on a history the last are retained. -/
theorem samples_foldl_push (samples : List RecoverySample) :
    ∀ h : RecoveryHistory, h.samples.length ≤ h.capacity →
      (samples.foldl RecoveryHistory.push h).samples =
        latest h.capacity (h.samples ++ samples) := by
  induction samples with
  | nil =>
    intro h hlength
    rw [List.append_nil, latest_of_length_le hlength]
    rfl
  | cons first rest ih =>
    intro h _
    have hpushed : (h.push first).samples = latest h.capacity (h.samples ++ [first]) := rfl
    rw [List.foldl_cons, ih (h.push first) (h.length_push_le first), hpushed]
    exact (latest_latest_append _ _ _).trans (by rw [List.append_assoc]; rfl)

namespace Governor

/-- **As many readings as a history retains make up all of it.** -/
theorem history_of_readings {p : Probe} {g g' : Governor} {capacity : Nat}
    (hretains : (g.recoveryHistories p.definition.id).Retains capacity)
    (htook : Took g g' p capacity) :
    (g'.recoveryHistories p.definition.id).samples = (List.range capacity).map p.sample := by
  have hfits : (g.recoveryHistories p.definition.id).samples.length ≤
      (g.recoveryHistories p.definition.id).capacity :=
    le_of_le_of_eq hretains.length_le hretains.capacity_eq.symm
  rw [htook.history, samples_foldl_push _ _ hfits, hretains.capacity_eq]
  exact latest_append_of_length (by rw [List.length_map, List.length_range]) _

end Governor

end ThermalGovernor
