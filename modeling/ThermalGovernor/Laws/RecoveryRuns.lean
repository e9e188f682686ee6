import ThermalGovernor.Ledger.Effects
import ThermalGovernor.Ledger.Memory
import ThermalGovernor.Laws.WorkerFence
import Mathlib.Data.Finset.Lattice.Fold

/-!
# Runs towards a recovery

A recovery is brought about by publications, by registrations of workers, by time going on
and, where the policy asks for one, by an authorization.  None of these changes what a domain
is governed by (`SameGround`), and no history outgrows what it retains (`retains_of_runs`).

Readings name live incarnations, or no worker at all.  A worker table with room gives any
number of witnesses with boots of their own (`exists_crew`); a full one gives those that it
holds, dead or alive, since a registration of the same boot revives it (`exists_revived`).
-/

namespace ThermalGovernor

open Lib

/-- The history retains this number of samples, and no more are in it. -/
structure RecoveryHistory.Retains (h : RecoveryHistory) (capacity : Nat) : Prop where
  capacity_eq : h.capacity = capacity
  length_le : h.samples.length ≤ capacity

namespace RecoveryHistory.Retains

variable {h : RecoveryHistory} {capacity : Nat}

theorem push (hretains : h.Retains capacity) (sample : RecoverySample) :
    (h.push sample).Retains capacity :=
  ⟨hretains.capacity_eq, hretains.capacity_eq ▸ h.length_push_le sample⟩

theorem pushAll (hretains : h.Retains capacity) (sample : Option RecoverySample) :
    (h.pushAll sample).Retains capacity := by
  cases sample with
  | none => exact hretains
  | some sample => exact hretains.push sample

theorem setCapacity (hnonzero : capacity ≠ 0) : (h.setCapacity capacity).Retains capacity := by
  have hcapacity : (h.setCapacity capacity).capacity = capacity := if_neg hnonzero
  exact ⟨hcapacity, le_of_le_of_eq (length_trimmed_le _) hcapacity⟩

end RecoveryHistory.Retains

namespace Governor

variable {g g' g'' : Governor} {op : Operation} {policy : ThermalPolicy}

/-! ### What histories retain -/

/-- An operation other than a load keeps what the histories retain. -/
theorem retains_memoryStep {capacity : Nat} {m : Memory}
    (hstep : MemoryStep g op m) (hload : op.isLoad = false) (hnonzero : capacity ≠ 0)
    (hcapacity : g.config.maxRecoverySamples = capacity)
    (hretains : ∀ id, (g.recoveryHistories id).Retains capacity) (id : ThermalDomainId) :
    (m.histories id).Retains capacity := by
  cases hstep with
  | kept | updated => exact hretains id
  | entered definition =>
    show (Function.update g.recoveryHistories definition.id _ id).Retains capacity
    by_cases hsame : id = definition.id
    · subst hsame
      rw [Function.update_self, hcapacity]
      exact .setCapacity hnonzero
    · rw [Function.update_of_ne hsame]
      exact hretains id
  | accepted _ e => exact (hretains id).pushAll _
  | retired =>
    exact ⟨(hretains id).capacity_eq,
      le_trans List.filter_sublist.length_le (hretains id).length_le⟩
  | loaded | restarted => cases hload

/-- **Without a durable file every history retains as many samples as configured**, if that is
the number a history is made for. -/
theorem retains_of_runs {config : GovernorConfig} {now : SteadyTimePoint}
    (hpath : config.durablePath.isEmpty = true)
    (hsamples : config.maxRecoverySamples = ({} : RecoveryHistory).capacity)
    (hrun : Runs (create config now) g) (id : ThermalDomainId) :
    (g.recoveryHistories id).Retains config.maxRecoverySamples := by
  have hnonzero : config.maxRecoverySamples ≠ 0 := by
    rw [hsamples]
    decide
  obtain ⟨-, -, hretains⟩ := invariant_of_unsaved
    (I := fun g => ∀ id, (g.recoveryHistories id).Retains config.maxRecoverySamples) hpath hrun
    (fun id => ⟨hsamples.symm, Nat.zero_le _⟩)
    fun g op _ hconfig hload hretains => retains_memoryStep (g.memoryStep_apply op) hload hnonzero
      (congrArg GovernorConfig.maxRecoverySamples hconfig) hretains
  exact hretains id

/-! ### Steps towards a recovery -/

/-- The operations by which a recovery is brought about under a policy. -/
def RecoveryStep (policy : ThermalPolicy) (g : Governor) : Operation → Prop
  | .tick now => g.now ≤ now
  | .registerWorker _ _ _ | .publishTemperature _ | .publishThrottleEvidence _
  | .publishCoolingEvidence _ | .publishNodeTemperature _ | .publishRackTemperature _ => True
  | .authorizeRecovery _ => policy.recovery.requireExplicitAuthorization = true
  | _ => False

/-- The states differ in nothing that decides which domain is governed how. -/
structure SameGround (g g' : Governor) : Prop where
  config : g'.config = g.config
  epoch : g'.epoch = g.epoch
  policies : g'.policies = g.policies
  devices : g'.devices = g.devices
  domains : g'.domains = g.domains
  couplings : g'.couplings = g.couplings
  stopping : g'.stopping = g.stopping

namespace SameGround

theorem refl (g : Governor) : SameGround g g := ⟨rfl, rfl, rfl, rfl, rfl, rfl, rfl⟩

theorem trans (h : SameGround g g') (h' : SameGround g' g'') : SameGround g g'' :=
  ⟨h'.config.trans h.config, h'.epoch.trans h.epoch, h'.policies.trans h.policies,
    h'.devices.trans h.devices, h'.domains.trans h.domains, h'.couplings.trans h.couplings,
    h'.stopping.trans h.stopping⟩

theorem policyFor (h : SameGround g g') (definition : ThermalDomainDefinition) :
    g'.policyFor definition = g.policyFor definition := by
  rw [Governor.policyFor, h.policies, Governor.policyFor]

end SameGround

/-- Neither do they differ in the clock and the authorizations. -/
structure SameSetting (g g' : Governor) : Prop extends SameGround g g' where
  now : g'.now = g.now
  explicitRecovery : g'.explicitRecovery = g.explicitRecovery

namespace SameSetting

theorem refl (g : Governor) : SameSetting g g := ⟨.refl g, rfl, rfl⟩

theorem trans (h : SameSetting g g') (h' : SameSetting g' g'') : SameSetting g g'' :=
  ⟨h.toSameGround.trans h'.toSameGround, h'.now.trans h.now,
    h'.explicitRecovery.trans h.explicitRecovery⟩

end SameSetting

theorem SameExceptEvaluations.sameSetting (h : SameExceptEvaluations g g') :
    SameSetting g g' := by
  obtain ⟨_, _, _, _, rfl⟩ := h
  exact ⟨⟨rfl, rfl, rfl, rfl, rfl, rfl, rfl⟩, rfl, rfl⟩

theorem sameSetting_publishLocked (g : Governor) : SameSetting g g.publishLocked :=
  ⟨⟨rfl, rfl, rfl, rfl, rfl, rfl, rfl⟩, rfl, rfl⟩

/-! ### What the steps leave as it is -/

theorem sameSetting_enrol (g : Governor) (worker : WorkerId) (boot : WorkerBootId)
    (label : String) : SameSetting g (g.enrol worker boot label).1 := by
  unfold enrol
  split
  · exact .refl g
  · refine .trans ?_ (sameSetting_publishLocked _)
    refine .trans ?_ (recomputeAllDomains_same _).sameSetting
    exact ⟨⟨rfl, rfl, rfl, rfl, rfl, rfl, rfl⟩, rfl, rfl⟩

theorem sameSetting_registerWorker (g : Governor) (worker : WorkerId) (boot : WorkerBootId)
    (label : String) : SameSetting g (g.registerWorker worker boot label).1 := by
  refine registerWorker_rule (P := SameSetting g) (.refl g)
    (fun _ _ => g.sameSetting_enrol worker boot label) (fun held _ _ => ?_) fun held _ _ _ => ?_
  · refine .trans ?_ (sameSetting_publishLocked _)
    unfold keepAlive
    dsimp only
    split <;> exact ⟨⟨rfl, rfl, rfl, rfl, rfl, rfl, rfl⟩, rfl, rfl⟩
  · refine .trans ?_ (sameSetting_enrol _ worker boot label)
    exact ⟨⟨rfl, rfl, rfl, rfl, rfl, rfl, rfl⟩, rfl, rfl⟩

theorem sameSetting_refreshDomain (e : ThermalEvidence) (g : Governor) (domain : ThermalDomainId) :
    SameSetting g (refreshDomain e g domain) := by
  unfold refreshDomain
  split
  · exact .refl g
  · refine .trans ?_ (recomputeDomain_same _ domain).sameSetting
    exact ⟨⟨rfl, rfl, rfl, rfl, rfl, rfl, rfl⟩, rfl, rfl⟩

theorem sameSetting_foldl_refreshDomain (e : ThermalEvidence) (domains : List ThermalDomainId) :
    ∀ g : Governor, SameSetting g (domains.foldl (refreshDomain e) g) := by
  induction domains with
  | nil => exact fun g => .refl g
  | cons first rest ih => exact fun g => (sameSetting_refreshDomain e g first).trans (ih _)

theorem sameSetting_countPublication (g : Governor) (e : ThermalEvidence) :
    SameSetting g (g.countPublication e) := by
  unfold countPublication
  split
  · exact .refl g
  · split
    · exact .refl g
    · exact ⟨⟨rfl, rfl, rfl, rfl, rfl, rfl, rfl⟩, rfl, rfl⟩

theorem sameSetting_publishImpl (g : Governor) (e : ThermalEvidence) :
    SameSetting g (g.publishImpl e).1 := by
  refine publishImpl_rule (P := SameSetting g) (.refl g) fun _ => ?_
  unfold commitEvidence
  dsimp only
  have haccepted : SameSetting g (g.acceptEvidence e) :=
    ⟨⟨rfl, rfl, rfl, rfl, rfl, rfl, rfl⟩, rfl, rfl⟩
  exact (((haccepted.trans (sameSetting_countPublication _ e)).trans
    (sameSetting_foldl_refreshDomain e _ _)).trans (recomputeDomains_same _ _).sameSetting).trans
    (sameSetting_publishLocked _)

theorem sameSetting_publishIf (g : Governor) (check : Check) (e : ThermalEvidence) :
    SameSetting g (g.publishIf check e).1 :=
  publishIf_rule (P := SameSetting g) (.refl g) (g.sameSetting_publishImpl e)

theorem sameGround_authorizeRecovery (g : Governor) (domain : ThermalDomainId) :
    SameGround g (g.authorizeRecovery domain).1 := by
  unfold authorizeRecovery
  split
  · exact .refl g
  · refine .trans ?_ (sameSetting_publishLocked _).toSameGround
    refine .trans ?_ (recomputeDomain_same _ domain).sameSetting.toSameGround
    exact ⟨rfl, rfl, rfl, rfl, rfl, rfl, rfl⟩

theorem workers_authorizeRecovery (g : Governor) (domain : ThermalDomainId) :
    (g.authorizeRecovery domain).1.workers = g.workers := by
  unfold authorizeRecovery
  split
  · rfl
  · exact (recomputeDomain_same _ domain).workers

/-- **A step towards a recovery changes nothing that decides how a domain is governed.** -/
theorem sameGround_apply (h : RecoveryStep policy g op) : SameGround g (g.apply op) := by
  cases op with
  | tick now => exact ⟨rfl, rfl, rfl, rfl, rfl, rfl, rfl⟩
  | registerWorker worker boot label =>
    exact (g.sameSetting_registerWorker worker boot label).toSameGround
  | publishTemperature e => exact (g.sameSetting_publishImpl e).toSameGround
  | publishThrottleEvidence e => exact (g.sameSetting_publishIf _ e).toSameGround
  | publishCoolingEvidence e => exact (g.sameSetting_publishIf _ e).toSameGround
  | publishNodeTemperature e => exact (g.sameSetting_publishIf _ e).toSameGround
  | publishRackTemperature e => exact (g.sameSetting_publishIf _ e).toSameGround
  | authorizeRecovery domain => exact g.sameGround_authorizeRecovery domain
  | _ => cases h

theorem sameGround_of_runsUnder (hrun : RunsUnder (RecoveryStep policy) g g') :
    SameGround g g' :=
  RunUnder.invariant (I := SameGround g) hrun (.refl g) fun _ _ hground hop =>
    hground.trans (sameGround_apply hop)

/-! ### A crew of incarnations -/

/-- The incarnation is registered and alive. -/
def Serves (g : Governor) (worker : WorkerId) (boot : WorkerBootId) : Prop :=
  ∃ held, g.workers.lookup worker = some held ∧ held.worker = worker ∧ held.boot = boot ∧
    held.alive = true

/-- A boot that is later than the one held is registered when the table has room. -/
theorem workers_registerWorker {worker : WorkerId} {boot : WorkerBootId} (label : String)
    (hworker : worker ≠ 0) (hboot : boot ≠ 0)
    (hlater : ∀ held, g.workers.lookup worker = some held → held.boot < boot)
    (hroom : Table.size g.workers < g.config.maxWorkers) :
    ∃ workers : Table WorkerId WorkerRecord,
      (workers = g.workers ∨ ∃ held, g.workers.lookup worker = some held ∧
        workers = Table.mapValues (fun _ r => r.retire worker held.boot) g.workers) ∧
      (g.registerWorker worker boot label).1.workers = workers.insert worker
        { worker := worker, boot := boot, label := label, alive := true,
          registeredAt := g.now, lastSeenAt := g.now } := by
  have hsize : ∀ f : WorkerId → WorkerRecord → WorkerRecord,
      Table.size (Table.mapValues f g.workers) = Table.size g.workers :=
    fun f => List.length_map _
  have hvalid : (! isValid worker || ! isValid boot) = false := by
    rw [isValid_eq_true.mpr hworker, isValid_eq_true.mpr hboot]
    rfl
  unfold registerWorker
  rw [hvalid, if_neg Bool.false_ne_true]
  cases hheld : g.workers.lookup worker with
  | none =>
    refine ⟨g.workers, .inl rfl, ?_⟩
    dsimp only [enrol]
    rw [if_neg (not_le.mpr hroom)]
    exact (recomputeAllDomains_same _).workers
  | some held =>
    have hlt := hlater held hheld
    refine ⟨_, .inr ⟨held, rfl, rfl⟩, ?_⟩
    dsimp only
    rw [if_neg (Nat.lt_asymm hlt), if_neg (Nat.ne_of_lt hlt)]
    unfold enrol
    have hfull : ¬ (g.retireBootLocked worker held.boot).config.maxWorkers ≤
        Table.size (g.retireBootLocked worker held.boot).workers := by
      show ¬ g.config.maxWorkers ≤ Table.size (Table.mapValues _ g.workers)
      rw [hsize]
      exact not_le.mpr hroom
    rw [if_neg hfull]
    exact (recomputeAllDomains_same _).workers

section Registered

variable {worker other : WorkerId} {boot : WorkerBootId} (label : String)
  (hworker : worker ≠ 0) (hboot : boot ≠ 0)
  (hlater : ∀ held, g.workers.lookup worker = some held → held.boot < boot)
  (hroom : Table.size g.workers < g.config.maxWorkers)

include hworker hboot hlater hroom

theorem serves_registerWorker : Serves (g.registerWorker worker boot label).1 worker boot := by
  obtain ⟨workers, -, hworkers⟩ := workers_registerWorker label hworker hboot hlater hroom
  refine ⟨_, by rw [hworkers, AList.lookup_insert], rfl, rfl, rfl⟩

/-- The registration of one worker leaves the records of the others but those of its own past. -/
theorem lookup_registerWorker_ne (h : other ≠ worker) :
    (g.registerWorker worker boot label).1.workers.lookup other = g.workers.lookup other ∨
    ∃ past, (g.registerWorker worker boot label).1.workers.lookup other =
      (g.workers.lookup other).map fun r => r.retire worker past := by
  obtain ⟨workers, hpast, hworkers⟩ :=
    workers_registerWorker label hworker hboot hlater hroom
  rw [hworkers, AList.lookup_insert_ne h]
  rcases hpast with rfl | ⟨held, -, rfl⟩
  · exact .inl rfl
  · exact .inr ⟨held.boot, Table.lookup_mapValues _ _ _⟩

theorem serves_registerWorker_ne {held : WorkerBootId} (h : other ≠ worker)
    (hserves : g.Serves other held) :
    Serves (g.registerWorker worker boot label).1 other held := by
  obtain ⟨record, hlookup, hname, hheld, halive⟩ := hserves
  rcases lookup_registerWorker_ne label hworker hboot hlater hroom h with
    hkept | ⟨past, hretired⟩
  · exact ⟨record, by rw [hkept, hlookup], hname, hheld, halive⟩
  · have hother : record.retire worker past = record := by
      unfold WorkerRecord.retire WorkerRecord.is
      rw [hname, decide_eq_false h, Bool.false_and, if_neg Bool.false_ne_true]
    refine ⟨record, ?_, hname, hheld, halive⟩
    rw [hretired, hlookup, Option.map_some, hother]

theorem boot_registerWorker_ne (h : other ≠ worker) {record : WorkerRecord}
    (hlookup : (g.registerWorker worker boot label).1.workers.lookup other = some record) :
    ∃ held, g.workers.lookup other = some held ∧ record.boot = held.boot := by
  rcases lookup_registerWorker_ne label hworker hboot hlater hroom h with
    hkept | ⟨past, hretired⟩
  · exact ⟨record, by rw [← hkept, hlookup], rfl⟩
  · rw [hretired] at hlookup
    obtain ⟨held, hheld, rfl⟩ := Option.map_eq_some_iff.mp hlookup
    exact ⟨held, hheld, WorkerRecord.retire_boot held worker past⟩

theorem size_registerWorker :
    (worker ∈ g.workers →
      Table.size (g.registerWorker worker boot label).1.workers = Table.size g.workers) ∧
    Table.size (g.registerWorker worker boot label).1.workers ≤ Table.size g.workers + 1 := by
  obtain ⟨workers, hpast, hworkers⟩ :=
    workers_registerWorker label hworker hboot hlater hroom
  have hsize : Table.size workers = Table.size g.workers := by
    rcases hpast with rfl | ⟨held, -, rfl⟩
    · rfl
    · exact List.length_map _
  have hmem : worker ∈ g.workers → worker ∈ workers := by
    intro h
    rcases hpast with rfl | ⟨held, hheld, rfl⟩
    · exact h
    · refine Table.mem_of_lookup (v := held.retire worker held.boot) ?_
      rw [Table.lookup_mapValues, hheld, Option.map_some]
  rw [hworkers, ← hsize]
  refine ⟨fun h => Table.size_insert_of_mem (hmem h), ?_⟩
  by_cases h : worker ∈ workers
  · rw [Table.size_insert_of_mem h]
    omega
  · rw [Table.size_insert_of_notMem h]

end Registered

/-- **Workers whose boots move forward are registered one after the other**, when they are in
the table already or it has room for all of them. -/
theorem exists_serving (policy : ThermalPolicy) (base : WorkerBootId) (ids : List WorkerId) :
    ∀ g : Governor, ids.Nodup → (∀ id ∈ ids, id ≠ 0) →
      (∀ id ∈ ids, ∀ held, g.workers.lookup id = some held → held.boot < base + id) →
      ((∀ id ∈ ids, id ∈ g.workers) ∧ Table.size g.workers < g.config.maxWorkers ∨
        Table.size g.workers + ids.length ≤ g.config.maxWorkers) →
      ∃ g', RunsUnder (RecoveryStep policy) g g' ∧ (∀ id ∈ ids, g'.Serves id (base + id)) ∧
        ∀ id boot, id ∉ ids → g.Serves id boot → g'.Serves id boot := by
  induction ids with
  | nil => exact fun g _ _ _ _ => ⟨g, .refl, nofun, fun _ _ _ h => h⟩
  | cons first rest ih =>
    intro g hnodup hvalid hboots hroom
    obtain ⟨hfirst, hrest⟩ := List.nodup_cons.mp hnodup
    have hname : first ≠ 0 := hvalid first List.mem_cons_self
    have hlater := hboots first List.mem_cons_self
    have hboot : base + first ≠ 0 := fun h => hname (Nat.add_eq_zero_iff.mp h).2
    have hspace : Table.size g.workers < g.config.maxWorkers := by
      rcases hroom with h | h
      · exact h.2
      · rw [List.length_cons] at h
        omega
    have hne : ∀ id ∈ rest, id ≠ first := fun id hid heq => hfirst (heq ▸ hid)
    have hground := g.sameSetting_registerWorker first (base + first) ""
    obtain ⟨hsize, hgrown⟩ := size_registerWorker "" hname hboot hlater hspace
    have hroom' : (∀ id ∈ rest, id ∈ (g.registerWorker first (base + first) "").1.workers) ∧
          Table.size (g.registerWorker first (base + first) "").1.workers <
            (g.registerWorker first (base + first) "").1.config.maxWorkers ∨
        Table.size (g.registerWorker first (base + first) "").1.workers + rest.length ≤
          (g.registerWorker first (base + first) "").1.config.maxWorkers := by
      rw [hground.config]
      rcases hroom with ⟨hmem, hlt⟩ | hle
      · refine .inl ⟨fun id hid => ?_, ?_⟩
        · obtain ⟨record, hlookup⟩ :=
            Table.mem_iff_exists_lookup.mp (hmem id (List.mem_cons_of_mem first hid))
          rcases lookup_registerWorker_ne "" hname hboot hlater hspace (hne id hid) with
            hkept | ⟨past, hretired⟩
          · exact Table.mem_of_lookup (hkept.trans hlookup)
          · exact Table.mem_of_lookup (hretired.trans (by rw [hlookup, Option.map_some]))
        · rw [hsize (hmem first List.mem_cons_self)]
          exact hlt
      · rw [List.length_cons] at hle
        exact .inr (by omega)
    obtain ⟨g', hrun, hserves, hkept⟩ := ih (g.registerWorker first (base + first) "").1 hrest
      (fun id hid => hvalid id (List.mem_cons_of_mem first hid))
      (fun id hid record hlookup => by
        obtain ⟨held, hheld, hsame⟩ :=
          boot_registerWorker_ne "" hname hboot hlater hspace (hne id hid) hlookup
        rw [hsame]
        exact hboots id (List.mem_cons_of_mem first hid) held hheld)
      hroom'
    refine ⟨g', ?_, fun id hid => ?_, fun id boot hid hid' => ?_⟩
    · have hfirst : RunsUnder (RecoveryStep policy) g
          (g.apply (.registerWorker first (base + first) "")) := .tail _ .refl trivial
      exact hfirst.trans hrun
    · rcases List.mem_cons.mp hid with rfl | hid
      · exact hkept _ _ hfirst (serves_registerWorker "" hname hboot hlater hspace)
      · exact hserves id hid
    · rw [List.mem_cons, not_or] at hid
      exact hkept id boot hid.2
        (serves_registerWorker_ne "" hname hboot hlater hspace hid.1 hid')

/-- The boots that a table holds are bounded. -/
theorem exists_boot_lt (workers : Table WorkerId WorkerRecord) :
    ∃ base, ∀ id held, workers.lookup id = some held → held.boot < base := by
  refine ⟨((Table.values workers).map WorkerRecord.boot).toFinset.sup id + 1,
    fun worker held hlookup => ?_⟩
  have hmem : held.boot ∈ (Table.values workers).map WorkerRecord.boot :=
    List.mem_map_of_mem (Table.mem_values.mpr ⟨worker, hlookup⟩)
  exact Nat.lt_succ_of_le (Finset.le_sup (f := id) (List.mem_toFinset.mpr hmem))

/-- **A worker table with room gives any number of live incarnations with boots of their own**,
up to half of its size. -/
theorem exists_crew (policy : ThermalPolicy) {count : Nat}
    (hroom : Table.size g.workers < g.config.maxWorkers)
    (hcount : 2 * count ≤ g.config.maxWorkers) :
    ∃ (g' : Governor) (crew : List (WorkerId × WorkerBootId)),
      RunsUnder (RecoveryStep policy) g g' ∧ crew.length = count ∧
      (crew.map Prod.snd).Nodup ∧
      ∀ member ∈ crew, member.1 ≠ 0 ∧ member.2 ≠ 0 ∧ g'.Serves member.1 member.2 := by
  obtain ⟨base, hbase⟩ := exists_boot_lt g.workers
  -- workers that are in the table, or new ones when it is short of them
  obtain ⟨ids, hnodup, hvalid, hlength, hspace⟩ : ∃ ids : List WorkerId, ids.Nodup ∧
      (∀ id ∈ ids, id ≠ 0) ∧ ids.length = count ∧
      ((∀ id ∈ ids, id ∈ g.workers) ∧ Table.size g.workers < g.config.maxWorkers ∨
        Table.size g.workers + ids.length ≤ g.config.maxWorkers) := by
    by_cases hmany : count < Table.size g.workers
    · have hkeys : (g.workers.keys.erase 0).Nodup := (AList.keys_nodup _).erase 0
      have hlong : count ≤ (g.workers.keys.erase 0).length := by
        have := List.le_length_erase (a := 0) (l := g.workers.keys)
        rw [Table.size_eq_length_keys] at hmany
        omega
      refine ⟨(g.workers.keys.erase 0).take count, hkeys.sublist (List.take_sublist _ _), ?_,
        List.length_take_of_le hlong, .inl ⟨fun id hid => ?_, hroom⟩⟩
      · intro id hid hzero
        have hmem := List.mem_of_mem_take hid
        exact (AList.keys_nodup g.workers).not_mem_erase (hzero ▸ hmem)
      · exact AList.mem_keys.mpr (List.mem_of_mem_erase (List.mem_of_mem_take hid))
    · refine ⟨List.range' 1 count, List.nodup_range', fun id hid => ?_, List.length_range', ?_⟩
      · exact Nat.one_le_iff_ne_zero.mp (List.mem_range'_1.mp hid).1
      · rw [List.length_range']
        exact .inr (by omega)
  obtain ⟨g', hrun, hserves, -⟩ := exists_serving policy base ids g hnodup hvalid
    (fun id _ held hlookup => Nat.lt_add_right id (hbase id held hlookup)) hspace
  refine ⟨g', ids.map fun id => (id, base + id), hrun, by rw [List.length_map, hlength], ?_, ?_⟩
  · rw [List.map_map]
    exact hnodup.map fun a b hab => by simpa using hab
  · intro member hmember
    obtain ⟨id, hid, rfl⟩ := List.mem_map.mp hmember
    exact ⟨hvalid id hid, fun h => hvalid id hid (Nat.add_eq_zero_iff.mp h).2, hserves id hid⟩

/-! ### Witnesses from a full table -/

/-- The incarnation is in the table, dead or alive. -/
def Records (g : Governor) (worker : WorkerId) (boot : WorkerBootId) : Prop :=
  ∃ held, g.workers.lookup worker = some held ∧ held.worker = worker ∧ held.boot = boot

/-- The registration of the boot that is held writes the record over, and nothing else. -/
theorem workers_registerWorker_held {worker : WorkerId} {boot : WorkerBootId} (label : String)
    {held : WorkerRecord} (hworker : worker ≠ 0) (hboot : boot ≠ 0)
    (hheld : g.workers.lookup worker = some held) (hsame : held.boot = boot) :
    (g.registerWorker worker boot label).1.workers =
      g.workers.insert worker { held with label := label, alive := true } := by
  subst hsame
  have hvalid : (! isValid worker || ! isValid held.boot) = false := by
    rw [isValid_eq_true.mpr hworker, isValid_eq_true.mpr hboot]
    rfl
  unfold registerWorker
  rw [hvalid, if_neg Bool.false_ne_true, hheld]
  dsimp only
  rw [if_neg (Nat.lt_irrefl _), if_pos rfl]
  show (g.keepAlive worker held { held with label := label }).workers = _
  unfold keepAlive
  dsimp only
  split <;> rfl

/-- **Incarnations of the table are alive once they are registered again.** -/
theorem exists_revived (policy : ThermalPolicy) (crew : List (WorkerId × WorkerBootId)) :
    ∀ g : Governor, (∀ member ∈ crew, member.1 ≠ 0 ∧ member.2 ≠ 0 ∧
        g.Records member.1 member.2) →
      ∃ g', RunsUnder (RecoveryStep policy) g g' ∧
        (∀ member ∈ crew, g'.Serves member.1 member.2) ∧
        ∀ worker boot, g.Serves worker boot → g'.Serves worker boot := by
  induction crew with
  | nil => exact fun g _ => ⟨g, .refl, nofun, fun _ _ h => h⟩
  | cons first rest ih =>
    intro g hcrew
    obtain ⟨hworker, hboot, held, hheld, hname, hsame⟩ := hcrew first List.mem_cons_self
    have hworkers := workers_registerWorker_held "" hworker hboot hheld hsame
    have hlookup : ∀ worker, (g.registerWorker first.1 first.2 "").1.workers.lookup worker =
        if worker = first.1 then some { held with label := "", alive := true }
        else g.workers.lookup worker := by
      intro worker
      rw [hworkers, Table.lookup_insert_eq_ite]
    have hserves : (g.registerWorker first.1 first.2 "").1.Serves first.1 first.2 :=
      ⟨{ held with label := "", alive := true }, by rw [hlookup, if_pos rfl], hname, hsame, rfl⟩
    have hkept : ∀ worker boot, g.Serves worker boot →
        (g.registerWorker first.1 first.2 "").1.Serves worker boot := by
      intro worker boot ⟨record, hrecord, hrecordName, hrecordBoot, halive⟩
      by_cases hother : worker = first.1
      · subst hother
        obtain rfl := Option.some.inj (hheld.symm.trans hrecord)
        rwa [← hrecordBoot, hsame]
      · exact ⟨record, by rw [hlookup, if_neg hother, hrecord], hrecordName, hrecordBoot, halive⟩
    obtain ⟨g', hrun, hcrewServes, hkeptServes⟩ := ih (g.registerWorker first.1 first.2 "").1
      fun member hmember => by
        obtain ⟨hvalid, hvalidBoot, record, hrecord, hrecordName, hrecordBoot⟩ :=
          hcrew member (List.mem_cons_of_mem first hmember)
        refine ⟨hvalid, hvalidBoot, ?_⟩
        by_cases hother : member.1 = first.1
        · obtain rfl : held = record := Option.some.inj (by rw [← hheld, ← hrecord, hother])
          exact ⟨{ held with label := "", alive := true }, by rw [hlookup, if_pos hother],
            hrecordName, hrecordBoot⟩
        · exact ⟨record, by rw [hlookup, if_neg hother, hrecord], hrecordName, hrecordBoot⟩
    have hfirst : RunsUnder (RecoveryStep policy) g
        (g.apply (.registerWorker first.1 first.2 "")) := .tail _ .refl trivial
    refine ⟨g', RunUnder.trans hfirst hrun, fun member hmember => ?_, fun worker boot h => ?_⟩
    · rcases List.mem_cons.mp hmember with rfl | hmember
      · exact hkeptServes _ _ hserves
      · exact hcrewServes member hmember
    · exact hkeptServes worker boot (hkept worker boot h)

/-! ### Enough witnesses -/

/-- The boots that witnesses have: those of the worker table, and that of no worker. -/
def knownBoots (g : Governor) : List WorkerBootId :=
  (0 :: (Table.values g.workers).map WorkerRecord.boot).dedup

/-- That many witnesses can be had: from new boots, or from the known ones. -/
def CanWitness (g : Governor) (count : Nat) : Prop :=
  Table.size g.workers < g.config.maxWorkers ∨ count ≤ g.knownBoots.length

/-- A reading can name the incarnation, or it names none. -/
def CanName (g : Governor) (member : WorkerId × WorkerBootId) : Prop :=
  member = (0, 0) ∨ (member.1 ≠ 0 ∧ member.2 ≠ 0 ∧ g.Serves member.1 member.2)

/-- A known boot is that of no worker, or of one of the table. -/
theorem exists_member (hg : g.Reachable) {boot : WorkerBootId} (h : boot ∈ g.knownBoots) :
    ∃ member : WorkerId × WorkerBootId, member.2 = boot ∧
      (member = (0, 0) ∨ (member.1 ≠ 0 ∧ member.2 ≠ 0 ∧ g.Records member.1 member.2)) := by
  by_cases hnone : boot = 0
  · exact ⟨(0, 0), hnone.symm, .inl rfl⟩
  · rcases List.mem_cons.mp (List.mem_dedup.mp h) with hzero | hmem
    · exact absurd hzero hnone
    · obtain ⟨held, hheld, rfl⟩ := List.mem_map.mp hmem
      obtain ⟨worker, hlookup⟩ := Table.mem_values.mp hheld
      obtain ⟨hname, hvalid⟩ := keyedWorkers_of_reachable hg worker held hlookup
      exact ⟨(worker, held.boot), rfl, .inr ⟨hvalid, hnone, held, hlookup, hname, rfl⟩⟩

/-- **As many witnesses as can be had are made ready.** -/
theorem exists_witnesses (policy : ThermalPolicy) (hg : g.Reachable) {count : Nat}
    (hcount : 2 * count ≤ g.config.maxWorkers) (h : g.CanWitness count) :
    ∃ (g' : Governor) (crew : List (WorkerId × WorkerBootId)),
      RunsUnder (RecoveryStep policy) g g' ∧ crew.length = count ∧
      (crew.map Prod.snd).Nodup ∧ ∀ member ∈ crew, g'.CanName member := by
  rcases h with hroom | hknown
  · obtain ⟨g', crew, hrun, hlength, hnodup, hserves⟩ := exists_crew policy hroom hcount
    exact ⟨g', crew, hrun, hlength, hnodup, fun member hmember => .inr (hserves member hmember)⟩
  · have hboots : ∀ boots : List WorkerBootId, (∀ boot ∈ boots, boot ∈ g.knownBoots) →
        ∃ crew : List (WorkerId × WorkerBootId), crew.map Prod.snd = boots ∧
          ∀ member ∈ crew, member = (0, 0) ∨
            (member.1 ≠ 0 ∧ member.2 ≠ 0 ∧ g.Records member.1 member.2) := by
      intro boots
      induction boots with
      | nil => exact fun _ => ⟨[], rfl, nofun⟩
      | cons boot rest ih =>
        intro hmem
        obtain ⟨member, hsame, hmember⟩ := exists_member hg (hmem boot List.mem_cons_self)
        obtain ⟨crew, hcrew, hmembers⟩ := ih fun b hb => hmem b (List.mem_cons_of_mem boot hb)
        exact ⟨member :: crew, by rw [List.map_cons, hsame, hcrew],
          List.forall_mem_cons.mpr ⟨hmember, hmembers⟩⟩
    obtain ⟨crew, hcrew, hmembers⟩ := hboots (g.knownBoots.take count)
      fun boot hboot => List.mem_of_mem_take hboot
    have hlength : crew.length = count := by
      rw [← List.length_map, hcrew, List.length_take_of_le hknown]
    have hnodup : (crew.map Prod.snd).Nodup := by
      rw [hcrew]
      exact (List.nodup_dedup _).sublist (List.take_sublist _ _)
    obtain ⟨g', hrun, hserves, -⟩ := exists_revived policy (crew.filter fun m => m ≠ (0, 0)) g
      fun member hmember => by
        obtain ⟨hmem, hnamed⟩ := List.mem_filter.mp hmember
        exact (hmembers member hmem).resolve_left (of_decide_eq_true hnamed)
    refine ⟨g', crew, hrun, hlength, hnodup, fun member hmember => ?_⟩
    rcases hmembers member hmember with hnone | ⟨hworker, hboot, -⟩
    · exact .inl hnone
    · have hnamed : member ≠ (0, 0) := fun h => hworker (congrArg Prod.fst h)
      exact .inr ⟨hworker, hboot,
        hserves member (List.mem_filter.mpr ⟨hmember, decide_eq_true hnamed⟩)⟩

end Governor

end ThermalGovernor
