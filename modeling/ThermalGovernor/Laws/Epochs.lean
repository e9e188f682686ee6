import ThermalGovernor.Ledger.Run

/-!
# Epochs over restarts

A lifetime of the coordinator starts from its configuration, and loads the file the
lifetime before it persisted.  Nothing but a load touches the epoch
(`epoch_of_runsUnder`), and a load advances the epoch the coordinator was configured
with, whatever epoch the file has.  So every lifetime but the first has one and the
same epoch (`epoch_of_lifetime`), and the epoch rises above the stored one at the first
restart only (`epoch_lt_iff`).
-/

namespace ThermalGovernor

open Lib Ledger

variable {ok : Ledger → Event → Prop} {l l' : Ledger}

/-- Every epoch of the trace is one the moves allow no restart into. -/
def Ledger.RestartsNever (_ : Ledger) : Event → Prop
  | .restarted _ => False
  | _ => True

theorem epoch_move (h : Move RestartsNever l l') : l'.epoch = l.epoch := by
  cases h with
  | restart hok => exact absurd hok id
  | evaluate | accept | touch | enrol | retire | revive | settle | authorize | dispatch
  | restore => rfl

namespace Governor

variable {g g₀ previous fresh loaded : Governor} {config : GovernorConfig} {n : Nat}
  {file : DurableState}

/-- The operation loads no file. -/
def LoadsNothing (_ : Governor) (op : Operation) : Prop := op.durableFile = none

/-- **Only a load changes the epoch.** -/
theorem epoch_of_runsUnder (hrun : RunsUnder LoadsNothing g₀ g) : g.epoch = g₀.epoch := by
  have hallowed : ∀ g op l e, LoadsNothing g op → g.Notes op l e → RestartsNever l e := by
    intro g op l e hloads hnotes
    cases e with
    | restarted epoch =>
      rw [Notes, show op.durableFile = none from hloads] at hnotes
      cases hnotes.1
    | evaluated | accepted | retired | revived | dispatched | restored => trivial
  exact invariant_of_runsUnder (I := fun l => l.epoch = g₀.epoch) hrun hallowed
    (fun l l' hmove hl => (epoch_move hmove).trans hl) rfl

/-- A load that succeeds advances the epoch of the coordinator that makes it. -/
theorem epoch_of_loadDurable (h : g.loadDurable (some (.ok file)) = (loaded, .ok ())) :
    loaded.epoch = advance g.epoch := by
  have hrestored : (g.restore file).2 = .ok () → (g.restore file).1.epoch = advance g.epoch := by
    refine restore_rule (I := fun g' => g'.ledger = g.ledger)
      (J := fun r => r.2 = .ok () → r.1.epoch = advance g.epoch) rfl (fun _ _ _ h => h)
      (fun _ _ _ _ h => h) (fun _ _ _ h => ?_) fun g₂ hledger _ => ?_
    · cases h
    · have hrecords : (g₂.restoreRecords file).epoch = g.epoch :=
        (epoch_restoreActions _ file.actions).trans (congrArg Ledger.epoch hledger)
      show (recomputeAllDomains _).epoch = _
      rw [(recomputeAllDomains_same _).epoch]
      show advance (g₂.restoreRecords file).epoch = _
      rw [hrecords]
  unfold loadDurable at h
  split at h
  · cases h
  · dsimp only at h
    rw [h] at hrestored
    exact hrestored rfl

/-! ### Lifetimes -/

/-- A coordinator of the configuration loads the file that another one persisted. -/
structure Restarts (config : GovernorConfig) (previous : Governor) (file : DurableState)
    (loaded : Governor) : Prop where
  persisted : previous.persist = .ok file
  loads : ∃ now fresh, RunsUnder LoadsNothing (create config now) fresh ∧
    fresh.loadDurable (some (.ok file)) = (loaded, .ok ())

/-- The states of the coordinator in the lifetime after `n` restarts, each lifetime loading the
file of the one before. -/
inductive Lifetime (config : GovernorConfig) : Nat → Governor → Prop
  | first {now : SteadyTimePoint} {g : Governor}
      (hrun : RunsUnder LoadsNothing (create config now) g) : Lifetime config 0 g
  | next {n : Nat} {previous loaded g : Governor} {file : DurableState}
      (h : Lifetime config n previous) (hrestart : Restarts config previous file loaded)
      (hrun : RunsUnder LoadsNothing loaded g) : Lifetime config (n + 1) g

/-- The epoch a coordinator of the configuration starts with. -/
def startEpoch (config : GovernorConfig) : CoordinatorEpoch := (create config 0).epoch

theorem epoch_of_restarts (h : Restarts config previous file loaded) :
    loaded.epoch = advance (startEpoch config) := by
  obtain ⟨now, fresh, hrun, hload⟩ := h.loads
  rw [epoch_of_loadDurable hload, epoch_of_runsUnder hrun]
  rfl

/-- **The first lifetime has the configured epoch, and every later one has the next.** -/
theorem epoch_of_lifetime (h : Lifetime config n g) :
    g.epoch = if n = 0 then startEpoch config else advance (startEpoch config) := by
  cases h with
  | first hrun => exact (epoch_of_runsUnder hrun).trans rfl
  | @next n previous loaded _ file h hrestart hrun =>
    rw [if_neg (Nat.succ_ne_zero n), epoch_of_runsUnder hrun, epoch_of_restarts hrestart]

theorem lt_advance_iff (epoch : CoordinatorEpoch) :
    epoch < advance epoch ↔ epoch + 1 < wordSize := by
  constructor
  · intro h
    by_contra hlast
    have hword : advance epoch < wordSize := Nat.mod_lt _ (by decide)
    have hepoch : epoch + 1 ≤ advance epoch := h
    exact hlast (lt_of_le_of_lt hepoch hword)
  · intro h
    rw [advance_of_lt h]
    exact Nat.lt_succ_self epoch

/-- **The epoch after a load is above the stored one exactly when the file comes from the first
lifetime**, and the configured epoch is not the last one. -/
theorem epoch_lt_iff (h : Lifetime config n previous)
    (hrestart : Restarts config previous file loaded) :
    file.coordinatorEpoch < loaded.epoch ↔ n = 0 ∧ startEpoch config + 1 < wordSize := by
  have hstored : file.coordinatorEpoch = previous.epoch := by
    have hpersisted := hrestart.persisted
    unfold persist at hpersisted
    split at hpersisted
    · cases hpersisted
    · obtain rfl := Except.ok.inj hpersisted
      rfl
  rw [hstored, epoch_of_lifetime h, epoch_of_restarts hrestart]
  split
  · rename_i hfirst
    rw [lt_advance_iff]
    exact ⟨fun hlt => ⟨hfirst, hlt⟩, And.right⟩
  · rename_i hlater
    exact ⟨fun hlt => absurd hlt (lt_irrefl _), fun hfirst => absurd hfirst.1 hlater⟩

section Deployment

open Deployment

/-- The deployment, set up and persisted. -/
def firstLifetime : Governor := after []

/-- The coordinator that loads the file of another one at once. -/
def restartedFrom (previous : Governor) : Governor :=
  ((create Deployment.config 0).loadDurable (some (.ok previous.capture))).1

theorem lifetime_first : Lifetime Deployment.config 0 firstLifetime := by
  refine .first (runsUnder_foldl _ (fun op hop g => ?_) (create Deployment.config 0))
  simp only [setUp, List.append_nil, List.mem_cons, List.not_mem_nil, or_false] at hop
  rcases hop with rfl | rfl <;> rfl

theorem restarts_from {previous : Governor} (hconfig : previous.config.durablePath.isEmpty = false)
    (hload : ((create Deployment.config 0).loadDurable (some (.ok previous.capture))).2 = .ok ()) :
    Restarts Deployment.config previous previous.capture (restartedFrom previous) := by
  refine ⟨if_neg ?_, 0, _, .refl, Prod.ext rfl hload⟩
  rw [hconfig]
  decide

/-- The first restart raises the epoch. -/
theorem epoch_lt_firstRestart :
    firstLifetime.capture.coordinatorEpoch < (restartedFrom firstLifetime).epoch :=
  (epoch_lt_iff lifetime_first (restarts_from (by decide +kernel) (by decide +kernel))).mpr
    ⟨rfl, by decide⟩

/-- The second restart repeats the epoch of the first. -/
theorem not_epoch_lt_secondRestart :
    ¬ ∀ (config : GovernorConfig) (n : Nat) (previous loaded : Governor) (file : DurableState),
      Lifetime config n previous → Restarts config previous file loaded →
        file.coordinatorEpoch < loaded.epoch := by
  intro h
  have hfirst : Restarts Deployment.config firstLifetime firstLifetime.capture
      (restartedFrom firstLifetime) := restarts_from (by decide +kernel) (by decide +kernel)
  have hsecond : Restarts Deployment.config (restartedFrom firstLifetime)
      (restartedFrom firstLifetime).capture (restartedFrom (restartedFrom firstLifetime)) :=
    restarts_from (by decide +kernel) (by decide +kernel)
  have hrises := h _ 1 _ _ _ (.next lifetime_first hfirst .refl) hsecond
  have hstored : (restartedFrom firstLifetime).capture.coordinatorEpoch =
      advance (startEpoch Deployment.config) := epoch_of_restarts hfirst
  rw [hstored, epoch_of_restarts hsecond] at hrises
  exact lt_irrefl _ hrises

end Deployment

end Governor

end ThermalGovernor
