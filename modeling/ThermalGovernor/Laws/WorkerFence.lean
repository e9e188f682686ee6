import ThermalGovernor.Ledger.Run

/-!
# The fence around a retired incarnation

An incarnation is barred when the record of its worker is of a later boot, or of the
same boot and not alive (`Barred`).  Retiring an incarnation bars it, no move but
its own revival lifts the bar (`barred_move`), and what is barred cannot publish.

So between a retirement and a later publication of the same incarnation the trace
always shows a revival (`revived_between`): a heartbeat or a registration under the
old boot that found the record dead.  In a run without one, the retirement is final
(`not_accepts_of_retired`).
-/

namespace ThermalGovernor

open Lib Ledger

variable {ok : Ledger → Event → Prop} {l l' : Ledger} {worker : WorkerId} {boot : WorkerBootId}

/-- The record keeps the boot out: it is of a later boot, or of this one and dead. -/
def WorkerRecord.Bars (r : WorkerRecord) (boot : WorkerBootId) : Prop :=
  boot < r.boot ∨ (r.boot = boot ∧ r.alive = false)

namespace Ledger

/-- The incarnation cannot publish. -/
def Barred (worker : WorkerId) (boot : WorkerBootId) (l : Ledger) : Prop :=
  ∃ r, l.workers.lookup worker = some r ∧ r.Bars boot

/-- Every record is stored under its own worker, and none under the invalid one. -/
def KeyedWorkers (l : Ledger) : Prop :=
  ∀ w r, l.workers.lookup w = some r → r.worker = w ∧ w ≠ 0

theorem keyedWorkers_insert (h : l.KeyedWorkers) {w : WorkerId} {record : WorkerRecord}
    (hrecord : record.worker = w ∧ w ≠ 0) :
    ∀ w' r, (l.workers.insert w record).lookup w' = some r → r.worker = w' ∧ w' ≠ 0 := by
  intro w' r hr
  rw [Table.lookup_insert_eq_ite] at hr
  split at hr
  · rename_i hw
    cases hr
    rw [hw]
    exact hrecord
  · exact h w' r hr

theorem keyedWorkers_move (h : Move ok l l') (hl : l.KeyedWorkers) : l'.KeyedWorkers := by
  cases h with
  | touch w held record hheld hworker hboot halive =>
    have hkeyed := hl w held hheld
    exact keyedWorkers_insert hl ⟨hworker.trans hkeyed.1, hkeyed.2⟩
  | enrol w record hvalid hworker hboot => exact keyedWorkers_insert hl ⟨hworker, hvalid⟩
  | retire w held hheld =>
    intro w' r hr
    rw [Table.lookup_mapValues, Option.map_eq_some_iff] at hr
    obtain ⟨r', hr', rfl⟩ := hr
    rw [WorkerRecord.retire_worker]
    exact hl w' r' hr'
  | revive w held record hok hheld hworker hboot =>
    have hkeyed := hl w held hheld
    exact keyedWorkers_insert hl ⟨hworker.trans hkeyed.1, hkeyed.2⟩
  | evaluate | accept | settle | authorize | dispatch | restore | restart => exact hl

/-- Writing a record over the one held keeps the bar, when the new record bars what the
old one did. -/
theorem barred_insert (h : Barred worker boot l) {w : WorkerId} {record : WorkerRecord}
    (hrecord : ∀ held, l.workers.lookup w = some held → held.Bars boot → w = worker →
      record.Bars boot) :
    ∃ r, (l.workers.insert w record).lookup worker = some r ∧ r.Bars boot := by
  obtain ⟨r, hr, hbars⟩ := h
  rw [Table.lookup_insert_eq_ite]
  split
  · rename_i hw
    subst hw
    exact ⟨record, rfl, hrecord r hr hbars rfl⟩
  · exact ⟨r, hr, hbars⟩

/-- **Only its own revival lifts the bar on an incarnation.** -/
theorem barred_move (h : Move ok l l') (hb : Barred worker boot l) :
    Barred worker boot l' ∨
      (ok l (.revived worker boot) ∧ l'.trace = .revived worker boot :: l.trace) := by
  cases h with
  | touch w held record hheld hworker hboot halive =>
    refine .inl (barred_insert hb ?_)
    intro r hr hbars _
    obtain rfl : held = r := Option.some.inj (hheld.symm.trans hr)
    rcases hbars with hlt | ⟨hsame, hdead⟩
    · exact .inl (by rw [hboot]; exact hlt)
    · refine .inr ⟨hboot.trans hsame, ?_⟩
      cases hrecord : record.alive with
      | false => rfl
      | true => rw [halive hrecord] at hdead; exact hdead
  | enrol w record hvalid hworker hboot =>
    refine .inl (barred_insert hb ?_)
    intro r hr hbars _
    have hlt : r.boot < record.boot := hboot r hr
    rcases hbars with hbar | ⟨hsame, _⟩
    · exact .inl (lt_trans hbar hlt)
    · exact .inl (by rw [← hsame]; exact hlt)
  | retire w held hheld =>
    obtain ⟨r, hr, hbars⟩ := hb
    refine .inl ⟨r.retire w held.boot, by rw [Table.lookup_mapValues, hr]; rfl, ?_⟩
    rcases hbars with hlt | ⟨hsame, hdead⟩
    · exact .inl (by rw [WorkerRecord.retire_boot]; exact hlt)
    · exact .inr ⟨(r.retire_boot w held.boot).trans hsame, WorkerRecord.alive_retire hdead _ _⟩
  | revive w held record hok hheld hworker hboot =>
    by_cases hself : w = worker ∧ held.boot = boot
    · obtain ⟨rfl, rfl⟩ := hself
      exact .inr ⟨hok, rfl⟩
    · refine .inl (barred_insert hb ?_)
      intro r hr hbars hw
      obtain rfl : held = r := Option.some.inj (hheld.symm.trans hr)
      -- another boot of the same worker was revived, so it is the later one
      rcases hbars with hlt | ⟨hsame, _⟩
      · exact .inl (by rw [hboot]; exact hlt)
      · exact absurd ⟨hw, hsame⟩ hself
  | evaluate | accept | settle | authorize | dispatch | restore | restart => exact .inl hb

/-- A retired incarnation is barred. -/
theorem barred_retire (hl : l.KeyedWorkers) {held : WorkerRecord}
    (hheld : l.workers.lookup worker = some held) :
    ∃ r, (Table.mapValues (fun _ r => r.retire worker held.boot) l.workers).lookup worker =
        some r ∧ r.Bars held.boot := by
  have hretire : held.retire worker held.boot = { held with alive := false } := by
    simp [WorkerRecord.retire, WorkerRecord.is, (hl worker held hheld).1]
  refine ⟨held.retire worker held.boot, ?_, .inr ⟨held.retire_boot _ _, ?_⟩⟩
  · rw [Table.lookup_mapValues, hheld, Option.map_some]
  · rw [hretire]

/-- A barred incarnation does not pass the fence. -/
theorem not_fenced_of_barred (hl : l.KeyedWorkers) (hb : Barred worker boot l)
    {e : ThermalEvidence} (hfence : l.Fenced e) : ¬ (e.worker = worker ∧ e.workerBoot = boot) := by
  rintro ⟨rfl, rfl⟩
  obtain ⟨r, hr, hbars⟩ := hb
  obtain ⟨held, hheld, hboot, halive⟩ := hfence (hl _ r hr).2
  obtain rfl : held = r := Option.some.inj (hheld.symm.trans hr)
  rcases hbars with hlt | ⟨_, hdead⟩
  · rw [hboot] at hlt
    exact lt_irrefl _ hlt
  · rw [halive] at hdead
    cases hdead

end Ledger

/-! ### The law of the trace -/

namespace Event

/-- The event retires the incarnation. -/
def Retires (worker : WorkerId) (boot : WorkerBootId) : Event → Prop
  | retired w b => w = worker ∧ b = boot
  | _ => False

/-- The event revives the incarnation. -/
def Revives (worker : WorkerId) (boot : WorkerBootId) : Event → Prop
  | revived w b => w = worker ∧ b = boot
  | _ => False

/-- The event accepts a record of the incarnation. -/
def AcceptsFrom (worker : WorkerId) (boot : WorkerBootId) : Event → Prop
  | accepted e => e.worker = worker ∧ e.workerBoot = boot
  | _ => False

end Event

/-- What carries the law: an incarnation retired and not revived since is barred. -/
structure FenceInvariant (worker : WorkerId) (boot : WorkerBootId) (l : Ledger) : Prop where
  keyed : l.KeyedWorkers
  barred : Pending (Event.Retires worker boot) (Event.Revives worker boot) l.trace →
    Barred worker boot l
  law : Released (Event.Retires worker boot) (Event.AcceptsFrom worker boot)
    (Event.Revives worker boot) l.trace

theorem fenceInvariant_move (h : Move ok l l') (hl : FenceInvariant worker boot l) :
    FenceInvariant worker boot l' := by
  have hkeyed : l'.KeyedWorkers := keyedWorkers_move h hl.keyed
  have hbar : Barred worker boot l → Barred worker boot l' ∨
      l'.trace = .revived worker boot :: l.trace :=
    fun hb => (barred_move h hb).imp id And.right
  cases h with
  | evaluate input e heval =>
    exact ⟨hkeyed, fun hp => hl.barred (by simpa [Event.Retires, Event.Revives] using hp),
      released_cons.mpr ⟨hl.law, nofun⟩⟩
  | accept e hok hfence hlater =>
    refine ⟨hkeyed, fun hp => hl.barred (by simpa [Event.Retires, Event.Revives] using hp),
      released_cons.mpr ⟨hl.law, fun hq hp => ?_⟩⟩
    exact absurd hq (not_fenced_of_barred hl.keyed (hl.barred hp) hfence)
  | retire w held hheld =>
    refine ⟨hkeyed, fun hp => ?_, released_cons.mpr ⟨hl.law, nofun⟩⟩
    rcases hp with ⟨rfl, rfl⟩ | ⟨_, hp⟩
    · exact barred_retire hl.keyed hheld
    · rcases hbar (hl.barred hp) with hb | htrace
      · exact hb
      · simp at htrace
  | revive w held record hok hheld hworker hboot =>
    refine ⟨hkeyed, fun hp => ?_, released_cons.mpr ⟨hl.law, nofun⟩⟩
    rcases hp with hp | ⟨hother, hp⟩
    · exact absurd hp id
    · rcases hbar (hl.barred hp) with hb | htrace
      · exact hb
      · obtain ⟨rfl, rfl⟩ := Event.revived.inj (List.cons.inj htrace).1
        exact absurd ⟨rfl, rfl⟩ hother
  | dispatch id action now hheld hlifecycle =>
    exact ⟨hkeyed, fun hp => hl.barred (by simpa [Event.Retires, Event.Revives] using hp),
      released_cons.mpr ⟨hl.law, nofun⟩⟩
  | restore action hok hterminal =>
    exact ⟨hkeyed, fun hp => hl.barred (by simpa [Event.Retires, Event.Revives] using hp),
      released_cons.mpr ⟨hl.law, nofun⟩⟩
  | restart hok =>
    exact ⟨hkeyed, fun hp => hl.barred (by simpa [Event.Retires, Event.Revives] using hp),
      released_cons.mpr ⟨hl.law, nofun⟩⟩
  | touch | enrol | settle | authorize =>
    refine ⟨hkeyed, fun hp => ?_, hl.law⟩
    rcases hbar (hl.barred hp) with hb | htrace
    · exact hb
    · simp at htrace

namespace Governor

variable {g g₀ g₁ g₂ : Governor}

theorem keyedWorkers_of_reachable (h : g.Reachable) : g.ledger.KeyedWorkers := by
  obtain ⟨config, now, hrun⟩ := h
  exact invariant_of_runs hrun (fun _ _ => keyedWorkers_move) fun w r hr => by cases hr

/-- **An incarnation that publishes after its retirement was revived in between.** -/
theorem revived_between (h : g.Reachable) (worker : WorkerId) (boot : WorkerBootId) :
    Released (Event.Retires worker boot) (Event.AcceptsFrom worker boot)
      (Event.Revives worker boot) g.trace := by
  obtain ⟨config, now, hrun⟩ := h
  have hinv : FenceInvariant worker boot g.ledger :=
    invariant_of_runs hrun (fun _ _ => fenceInvariant_move)
      ⟨fun _ _ hr => (by cases hr), fun hp => absurd hp not_pending_nil, released_nil⟩
  exact hinv.law

/-! ### Retirement is final in a run that revives nothing -/

/-- What retires an incarnation: the notice of its death, or the registration of a later
boot of its worker. -/
inductive RetiresWorker (worker : WorkerId) (boot : WorkerBootId) : Governor → Governor → Prop
  | death {g g₁ : Governor} (h : g.noteWorkerDeath worker boot = (g₁, .ok ())) :
      RetiresWorker worker boot g g₁
  | reincarnation {g g₁ : Governor} {later : WorkerBootId} {label : String}
      (hlater : boot < later) (h : g.registerWorker worker later label = (g₁, .ok ())) :
      RetiresWorker worker boot g g₁

/-- A sign of life of the incarnation reaches its record only while the record is alive. -/
def KeepsRetired (worker : WorkerId) (boot : WorkerBootId) (g : Governor) (op : Operation) :
    Prop :=
  op.signOfLife worker boot →
    ∀ held, g.workers.lookup worker = some held → held.boot = boot → held.alive = true

theorem barred_of_noteWorkerDeath (h : g.noteWorkerDeath worker boot = (g₁, .ok ())) :
    Barred worker boot g₁.ledger := by
  unfold noteWorkerDeath at h
  split at h
  · cases h
  rename_i held hheld
  split at h
  · cases h
  rename_i hsame
  rw [not_not] at hsame
  subst hsame
  obtain rfl := (Prod.mk.inj h).1
  have hkilled : (g.workers.insert worker { held with alive := false }).lookup worker =
      some { held with alive := false } := AList.lookup_insert g.workers
  refine ⟨WorkerRecord.retire { held with alive := false } worker held.boot, ?_,
    .inr ⟨WorkerRecord.retire_boot _ _ _, WorkerRecord.alive_retire rfl _ _⟩⟩
  show (recomputeAllDomains _).workers.lookup worker = some _
  rw [(recomputeAllDomains_same _).workers]
  simp only [retireBootLocked, note, Table.lookup_mapValues, hkilled, Option.map_some]

/-- An enrolment leaves a record of the boot that was enrolled. -/
theorem barred_of_enrol {later : WorkerBootId} {label : String} (hlater : boot < later)
    (h : g.enrol worker later label = (g₁, .ok ())) : Barred worker boot g₁.ledger := by
  unfold enrol at h
  split at h
  · cases h
  obtain rfl := (Prod.mk.inj h).1
  let record : WorkerRecord :=
    { worker := worker, boot := later, label := label, alive := true,
      registeredAt := g.now, lastSeenAt := g.now }
  refine ⟨record, ?_, .inl hlater⟩
  show (recomputeAllDomains _).workers.lookup worker = some record
  rw [(recomputeAllDomains_same _).workers]
  exact AList.lookup_insert _

theorem barred_of_registerWorker {later : WorkerBootId} {label : String} (hlater : boot < later)
    (h : g.registerWorker worker later label = (g₁, .ok ())) : Barred worker boot g₁.ledger := by
  unfold registerWorker at h
  split at h
  · cases h
  split at h
  · exact barred_of_enrol hlater h
  rename_i held hheld
  split at h
  · cases h
  split at h
  · rename_i hsame
    obtain rfl := (Prod.mk.inj h).1
    refine ⟨{ held with label := label, alive := true }, ?_, .inl ?_⟩
    · show (keepAlive _ _ _ _).workers.lookup worker = _
      unfold keepAlive
      dsimp only
      split <;> exact AList.lookup_insert _
    · show boot < held.boot
      rw [hsame]
      exact hlater
  · exact barred_of_enrol hlater h

theorem barred_of_retiresWorker (h : RetiresWorker worker boot g g₁) :
    Barred worker boot g₁.ledger := by
  cases h with
  | death h => exact barred_of_noteWorkerDeath h
  | reincarnation hlater h => exact barred_of_registerWorker hlater h

theorem reachable_of_retiresWorker (hg : g.Reachable) (h : RetiresWorker worker boot g g₁) :
    g₁.Reachable := by
  cases h with
  | death h =>
    have := hg.apply (.noteWorkerDeath worker boot)
    rwa [apply, h] at this
  | @reincarnation later label _ h =>
    have := hg.apply (.registerWorker worker later label)
    rwa [apply, h] at this

/-- **After its retirement an incarnation publishes nothing more**, in every run in which no
sign of life revives it. -/
theorem not_accepts_of_retired (hg : g.Reachable) (hretired : RetiresWorker worker boot g g₁)
    (hrun : RunsUnder (KeepsRetired worker boot) g₁ g₂) {e : ThermalEvidence}
    (hworker : e.worker = worker) (hboot : e.workerBoot = boot) : g₂.accepts e = false := by
  have hbarred : Barred worker boot g₁.ledger := barred_of_retiresWorker hretired
  have hstep : ∀ l l', Move (fun _ e => e ≠ .revived worker boot) l l' →
      Barred worker boot l → Barred worker boot l' := by
    intro l l' hmove hb
    rcases barred_move hmove hb with hb' | ⟨hrevived, _⟩
    · exact hb'
    · exact absurd rfl hrevived
  have hbarred₂ : Barred worker boot g₂.ledger := by
    refine invariant_of_runsUnder hrun ?_ hstep hbarred
    rintro g op l e hkeeps hnotes rfl
    obtain ⟨hsign, -, held, hheld, hsame, hdead⟩ := hnotes
    rw [hkeeps hsign held hheld hsame] at hdead
    cases hdead
  have hkeyed₂ : g₂.ledger.KeyedWorkers :=
    keyedWorkers_of_reachable ((reachable_of_retiresWorker hg hretired).runs hrun.runs)
  cases haccepts : g₂.accepts e with
  | false => rfl
  | true =>
    have hfence := fenced_of_publishChecks (accepts_eq_true.mp haccepts).2.1
    exact absurd ⟨hworker, hboot⟩ (not_fenced_of_barred hkeyed₂ hbarred₂ hfence)

section Deployment

open Deployment

/-- The deployment with one worker, which publishes and is then declared dead. -/
def workerLost : Governor :=
  after [.registerWorker 1 1 "worker", .publishTemperature (readingBy 1 1 50 1 0)]

theorem workerLost_retires :
    RetiresWorker 1 1 workerLost (workerLost.noteWorkerDeath 1 1).1 :=
  .death (Prod.ext rfl (by decide +kernel))

/-- The first boot publishes nothing once the worker registered again under the second. -/
theorem not_accepts_of_retired_reincarnated :
    ((workerLost.noteWorkerDeath 1 1).1.apply (.registerWorker 1 2 "worker")).accepts
      (readingBy 1 1 50 2 10) = false := by
  have hkeeps : KeepsRetired 1 1 (workerLost.noteWorkerDeath 1 1).1
      (.registerWorker 1 2 "worker") := fun hsign => absurd hsign.2 (by decide)
  exact not_accepts_of_retired (reachable_after _) workerLost_retires (.tail _ .refl hkeeps)
    rfl rfl

/-- A heartbeat of the dead boot lets it publish again. -/
theorem accepts_after_heartbeat :
    ¬ ∀ (worker : WorkerId) (boot : WorkerBootId) (g g₁ g₂ : Governor) (e : ThermalEvidence),
      g.Reachable → RetiresWorker worker boot g g₁ → Runs g₁ g₂ → e.worker = worker →
        e.workerBoot = boot → g₂.accepts e = false := by
  intro h
  have hrun : Runs (workerLost.noteWorkerDeath 1 1).1
      ((workerLost.noteWorkerDeath 1 1).1.apply (.workerHeartbeat 1 1)) :=
    RunUnder.tail (Operation.workerHeartbeat 1 1) .refl trivial
  have hrefused := h 1 1 _ _ _ (readingBy 1 1 50 2 10) (reachable_after _) workerLost_retires
    hrun rfl rfl
  have haccepted : ((workerLost.noteWorkerDeath 1 1).1.apply (.workerHeartbeat 1 1)).accepts
      (readingBy 1 1 50 2 10) = true := by decide +kernel
  rw [hrefused] at haccepted
  cases haccepted

end Deployment

end Governor

end ThermalGovernor
