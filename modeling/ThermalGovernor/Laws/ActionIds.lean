import Mathlib.Order.Interval.Finset.Nat
import ThermalGovernor.Ledger.Run

/-!
# Identities of actions

An action gets the next action generation as its identity.  The table is bounded and
nothing leaves it, so the generation never comes round to zero: every generation that
was given still has its record (`Allocated`).

That the next one has none is another matter.  A load stores actions under the
identities they have in the file and leaves the generation where it was.  Identities are
unique in the runs in which every file that is loaded names only identities the loading
coordinator has given itself (`not_mem_of_authorized`).
-/

namespace ThermalGovernor

open Lib Ledger

variable {ok : Ledger → Event → Prop} {l l' : Ledger}

namespace Ledger

/-- Every generation given to an action has its record, in a table of bounded size. -/
structure Allocated (l : Ledger) : Prop where
  bounded : l.maxActions < 2 ^ 63
  started : 1 ≤ l.actionGeneration
  filled : ∀ id, 2 ≤ id → id ≤ l.actionGeneration → id ∈ l.actions

theorem actionGeneration_le_size (h : l.Allocated) :
    l.actionGeneration ≤ Table.size l.actions + 1 := by
  have hmem : ∀ id ∈ Finset.Icc 2 l.actionGeneration, id ∈ l.actions := by
    intro id hid
    rw [Finset.mem_Icc] at hid
    exact h.filled id hid.1 hid.2
  have hcard : (Finset.Icc 2 l.actionGeneration).card ≤ Table.size l.actions :=
    Table.card_le_size hmem
  rw [Nat.card_Icc] at hcard
  exact Nat.sub_le_iff_le_add.mp (by simpa using hcard)

/-- While the table has room, the next generation is a larger one. -/
theorem advance_actionGeneration (h : l.Allocated) (hroom : Table.size l.actions < l.maxActions) :
    advance l.actionGeneration = l.actionGeneration + 1 := by
  have hsize : l.actionGeneration ≤ Table.size l.actions + 1 := actionGeneration_le_size h
  have hbounded : l.maxActions < 2 ^ 63 := h.bounded
  refine advance_of_lt ?_
  calc l.actionGeneration + 1 ≤ Table.size l.actions + 2 := Nat.succ_le_succ hsize
    _ < wordSize := by unfold wordSize; omega

theorem allocated_move (h : Move ok l l') (hl : l.Allocated) : l'.Allocated := by
  obtain ⟨hbounded, hstarted, hfilled⟩ := hl
  cases h with
  | settle actions hsettled =>
    refine ⟨hbounded, hstarted, fun id hlow hhigh => ?_⟩
    exact (mem_settledInto hsettled).mpr (hfilled id hlow hhigh)
  | authorize action hroom hid hgeneration hauthority hlifecycle =>
    have hnext : advance l.actionGeneration = l.actionGeneration + 1 :=
      advance_actionGeneration ⟨hbounded, hstarted, hfilled⟩ hroom
    refine ⟨hbounded, ?_, fun id hlow hhigh => ?_⟩
    · show 1 ≤ advance l.actionGeneration
      rw [hnext]
      exact Nat.le_add_left 1 _
    · show id ∈ l.actions.insert (advance l.actionGeneration) action
      replace hhigh : id ≤ l.actionGeneration + 1 := by rw [← hnext]; exact hhigh
      rw [AList.mem_insert, hnext]
      rcases Nat.le_succ_iff.mp hhigh with hgiven | hnew
      · exact .inr (hfilled id hlow hgiven)
      · exact .inl hnew
  | dispatch id' action now hheld hlifecycle =>
    refine ⟨hbounded, hstarted, fun id hlow hhigh => ?_⟩
    exact AList.mem_insert _ |>.mpr (.inr (hfilled id hlow hhigh))
  | restore action hok hterminal =>
    refine ⟨hbounded, hstarted, fun id hlow hhigh => ?_⟩
    exact AList.mem_insert _ |>.mpr (.inr (hfilled id hlow hhigh))
  | evaluate | accept | touch | enrol | retire | revive | restart =>
    exact ⟨hbounded, hstarted, hfilled⟩

/-- No record has an identity that was not given yet. -/
def GivenIdentities (l : Ledger) : Prop := ∀ id ∈ l.actions, id ≤ l.actionGeneration

/-- An action is restored under an identity the coordinator has given. -/
def RestoresGiven (l : Ledger) : Event → Prop
  | .restored id => id ≤ l.actionGeneration
  | _ => True

theorem givenIdentities_move (h : Move RestoresGiven l l') (hallocated : l.Allocated)
    (hl : l.GivenIdentities) : l'.GivenIdentities := by
  cases h with
  | settle actions hsettled => exact fun id hid => hl id ((mem_settledInto hsettled).mp hid)
  | authorize action hroom hid hgeneration hauthority hlifecycle =>
    intro id hmem
    have hnext : advance l.actionGeneration = l.actionGeneration + 1 :=
      advance_actionGeneration hallocated hroom
    show id ≤ advance l.actionGeneration
    rcases (AList.mem_insert _).mp hmem with rfl | hheld
    · exact le_rfl
    · rw [hnext]
      exact Nat.le_succ_of_le (hl id hheld)
  | dispatch id' action now hheld hlifecycle =>
    intro id hmem
    rcases (AList.mem_insert _).mp hmem with rfl | hmem
    · exact hl id (Table.mem_of_lookup hheld)
    · exact hl id hmem
  | restore action hok hterminal =>
    intro id hmem
    rcases (AList.mem_insert _).mp hmem with rfl | hheld
    · exact hok
    · exact hl id hheld
  | evaluate | accept | touch | enrol | retire | revive | restart => exact hl

end Ledger

namespace Governor

variable {g g₁ : Governor} {config : GovernorConfig} {now : SteadyTimePoint}

theorem allocated_create (config : GovernorConfig) (now : SteadyTimePoint) :
    (create config now).ledger.Allocated := by
  refine ⟨config.maxActions_lt, le_rfl, fun id hlow hhigh => ?_⟩
  have hnone : ¬ 2 ≤ 1 := by decide
  exact absurd (le_trans hlow hhigh) hnone

theorem allocated_of_reachable (h : g.Reachable) : g.ledger.Allocated := by
  obtain ⟨config, now, hrun⟩ := h
  exact invariant_of_runs hrun (fun _ _ => allocated_move) (allocated_create config now)

/-- Every action of a file that is loaded has an identity the loading coordinator has given. -/
def LoadsGiven (g : Governor) (op : Operation) : Prop :=
  ∀ file, op.durableFile = some file → ∀ a ∈ file.actions, a.id ≤ g.actionGeneration

theorem givenIdentities_of_runsUnder (hrun : RunsUnder LoadsGiven (create config now) g) :
    g.ledger.GivenIdentities := by
  have hstep : ∀ l l', Move RestoresGiven l l' → l.Allocated ∧ l.GivenIdentities →
      l'.Allocated ∧ l'.GivenIdentities := fun l l' hmove hl =>
    ⟨allocated_move hmove hl.1, givenIdentities_move hmove hl.1 hl.2⟩
  have hinv : g.ledger.Allocated ∧ g.ledger.GivenIdentities := by
    refine invariant_of_runsUnder (I := fun l => l.Allocated ∧ l.GivenIdentities) hrun ?_
      hstep ⟨allocated_create config now, fun id hid => by cases hid⟩
    · intro g op l e hloads hnotes
      cases e with
      | restored id =>
        obtain ⟨hgeneration, file, a, hfile, ha, rfl⟩ := hnotes
        show a.id ≤ l.actionGeneration
        rw [hgeneration]
        exact hloads file hfile a ha
      | evaluated | accepted | retired | revived | dispatched | restarted => trivial
  exact hinv.2

/-- A successful authorisation takes an identity that no record has. -/
theorem not_mem_of_authorizeMitigation (hrun : RunsUnder LoadsGiven (create config now) g)
    {domain : ThermalDomainId} {record : MitigationIntentRecord} {rationale : String}
    {id : ActionId} (h : g.authorizeMitigation domain record rationale = (g₁, .ok id)) :
    id ∉ g.actions := by
  obtain ⟨-, -, -, -, -, hroom, hid, -⟩ := authorizeMitigation_eq_ok h
  have hallocated : g.ledger.Allocated := allocated_of_reachable ⟨config, now, hrun.runs⟩
  have hnext : advance g.actionGeneration = g.actionGeneration + 1 :=
    advance_actionGeneration hallocated hroom
  intro hmem
  have hle : id ≤ g.actionGeneration := givenIdentities_of_runsUnder hrun id hmem
  rw [hid, hnext] at hle
  exact Nat.not_succ_le_self _ hle

/-- **A new action takes an identity that no action of the table has**, in every run in which
the files that are loaded name only identities already given. -/
theorem not_mem_of_authorized (hrun : RunsUnder LoadsGiven (create config now) g)
    (domain : ThermalDomainId) (record : MitigationIntentRecord) (rationale : String)
    (id : ActionId) :
    (∀ g₁, g.authorizeMitigation domain record rationale = (g₁, .ok id) → id ∉ g.actions) ∧
      ∀ g₁, g.authorizeDerating domain record rationale = (g₁, .ok id) → id ∉ g.actions := by
  refine ⟨fun g₁ h => not_mem_of_authorizeMitigation hrun h, fun g₁ h => ?_⟩
  unfold authorizeDerating at h
  have hsame := g.evaluateDomain_same domain
  split at h
  · cases h
  rename_i gE e heval
  rw [heval] at hsame
  -- the evaluation in front of the authorisation is a step of the run and touches no action
  have hactions : gE.actions = g.actions := hsame.actions
  have hrunE : RunsUnder LoadsGiven (create config now) gE := by
    have hstep : RunsUnder LoadsGiven (create config now) (g.apply (.evaluateDomain domain)) :=
      RunUnder.tail (Operation.evaluateDomain domain) hrun fun file hfile => (by cases hfile)
    rwa [apply, heval] at hstep
  rw [← hactions]
  split at h
  · exact not_mem_of_authorizeMitigation hrunE h
  · split at h
    · cases h
    · exact not_mem_of_authorizeMitigation hrunE h

section Deployment

open Deployment

/-- The intent of the action of the deployment. -/
def clockReduction : MitigationIntentRecord := { intent := .requestClockReduction }

/-- The deployment with one action, which got identity 2. -/
def planned : Governor :=
  after [.publishTemperature (reading 82 1 0), .authorizeMitigation 1 clockReduction ""]

/-- The coordinator that loads its own file goes on with identity 3. -/
theorem not_mem_of_authorized_ownFile :
    3 ∉ (planned.apply (.loadDurable (some planned.persist))).actions := by
  have hplanned : RunsUnder LoadsGiven (create Deployment.config 0) planned := by
    refine runsUnder_foldl _ (fun op hop g file hfile => ?_) _
    simp only [setUp, List.cons_append, List.nil_append, List.mem_cons, List.not_mem_nil,
      or_false] at hop
    rcases hop with rfl | rfl | rfl | rfl <;> cases hfile
  have hloads : LoadsGiven planned (.loadDurable (some planned.persist)) := by
    intro file hfile a ha
    have hpersist : planned.persist = .ok planned.capture := if_neg (by decide +kernel)
    rw [hpersist] at hfile
    obtain rfl : planned.capture = file := Option.some.inj hfile
    have hids : ∀ a ∈ planned.capture.actions, a.id ≤ planned.actionGeneration := by
      decide +kernel
    exact hids a ha
  obtain ⟨id, hid, rfl⟩ := exists_of_ok ((planned.apply
    (.loadDurable (some planned.persist))).authorizeMitigation 1 clockReduction "").2
    (fun id => id = 3) (by decide +kernel)
  exact (not_mem_of_authorized (.tail _ hplanned hloads) 1 clockReduction "" 3).1 _
    (Prod.ext rfl hid)

/-- A fresh coordinator that loads the file gives identity 2 again. -/
theorem mem_of_authorized_restarted :
    ¬ ∀ (g g₁ : Governor) (domain : ThermalDomainId) (record : MitigationIntentRecord)
      (rationale : String) (id : ActionId), g.Reachable →
        g.authorizeMitigation domain record rationale = (g₁, .ok id) → id ∉ g.actions := by
  intro h
  let restarted : Governor :=
    (create Deployment.config 0).apply (.loadDurable (some planned.persist))
  have hreachable : restarted.Reachable := ⟨Deployment.config, 0, .tail _ .refl trivial⟩
  obtain ⟨id, hid, hheld⟩ := exists_of_ok
    (restarted.authorizeMitigation 1 clockReduction "").2 (fun id => id ∈ restarted.actions)
    (by decide +kernel)
  exact h restarted _ 1 clockReduction "" id hreachable (Prod.ext rfl hid) hheld

end Deployment

end Governor

end ThermalGovernor
