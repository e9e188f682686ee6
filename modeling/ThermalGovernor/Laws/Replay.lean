import ThermalGovernor.Ledger.Run

/-!
# Repeated acknowledgements

The coordinator keeps no acknowledgement.  When one arrives for an action that was acknowledged
before, it takes the earlier answer from the detail of the action: a text with the word that a
rejection carries stands for a rejection.  But an action is acknowledged only by an answer that
accepted, and its detail is the text that came with the last acknowledgement, result or
cancellation, whatever it says.

So a repetition is decided by what was answered exactly when the word is not in that text
(`decidedByContent_iff`).
-/

namespace ThermalGovernor

open Lib

/-- The acknowledgements give the same answer to the same instruction, in whatever words. -/
def ActionAck.Repeats (second first : ActionAck) : Prop :=
  { second with detail := first.detail } = first

theorem ActionAck.Repeats.accepted {second first : ActionAck} (h : second.Repeats first) :
    second.accepted = first.accepted := by
  rw [← show { second with detail := first.detail } = first from h]

theorem ActionAck.Repeats.actionId {second first : ActionAck} (h : second.Repeats first) :
    second.actionId = first.actionId := by
  rw [← show { second with detail := first.detail } = first from h]

namespace Governor

variable {g : Governor} {first second : ActionAck} {action : ThermalAction}

/-- The authority fields of the acknowledgement are those of the action. -/
def CurrentFor (g : Governor) (ack : ActionAck) (action : ThermalAction) : Prop :=
  runChecks (ackChecks action g.epoch ack) = .ok ()

/-- The action was acknowledged by an answer that accepted, and after any operations since then
it is still on its way to a verification. -/
structure Acknowledged (g : Governor) (first : ActionAck) (action : ThermalAction) : Prop where
  accepted : first.accepted = true
  since : ∃ (before recorded : Governor) (lifecycle : ActionLifecycle), before.Reachable ∧
    before.recordActionAck first = (recorded, .ok lifecycle) ∧ Runs recorded g
  held : g.actions.lookup first.actionId = some action
  awaits : action.lifecycle = .acknowledged ∨ action.lifecycle = .verifying

/-- What the next acknowledgement of the action does depends on what it answers alone. -/
structure DecidedByContent (g : Governor) (first : ActionAck) (action : ThermalAction) :
    Prop where
  repeated : ∀ second : ActionAck, second.Repeats first → g.CurrentFor second action →
    g.recordActionAck second = (g, .ok action.lifecycle)
  divergent : ∀ second : ActionAck, second.actionId = first.actionId →
    g.CurrentFor second action → second.accepted = false →
    ∃ text, g.recordActionAck second = (g, failure .duplicateConflict text)

/-- The text that the action holds is taken for that of a rejection. -/
def ReadsRejected (action : ThermalAction) : Prop :=
  containsText action.detail "rejected" = true

/-- **A second acknowledgement is compared with the text that the action holds.** -/
theorem recordActionAck_again (hheld : g.actions.lookup second.actionId = some action)
    (hawaits : action.lifecycle = .acknowledged ∨ action.lifecycle = .verifying)
    (hcurrent : g.CurrentFor second action) :
    g.recordActionAck second =
      if second.accepted = ! containsText action.detail "rejected" then (g, .ok action.lifecycle)
      else
        (g, failure .duplicateConflict
          "a conflicting acknowledgement was already recorded for this action") := by
  have hchecks : runChecks (ackChecks action g.epoch second) = .ok () := hcurrent
  rw [recordActionAck, hheld]
  dsimp only
  rw [hchecks]
  rcases hawaits with hlifecycle | hlifecycle
  · rw [hlifecycle]
  · rw [hlifecycle]

/-- An acknowledgement that rejects, with the authority fields of the action. -/
def rejection (g : Governor) (id : ActionId) (action : ThermalAction) : ActionAck where
  actionId := id
  actionGeneration := action.generation
  coordinatorEpoch := g.epoch
  workerBoot := action.authority.workerBoot
  deviceGeneration := action.authority.deviceGeneration
  domainGeneration := action.authority.domainGeneration
  accepted := false

theorem currentFor_rejection (g : Governor) (id : ActionId) (action : ThermalAction) :
    g.CurrentFor (g.rejection id action) action := by
  rw [CurrentFor, runChecks_eq_ok]
  simp [ackChecks, reportChecks, rejection]

/-- **When repeated acknowledgements are decided by their content.** -/
theorem decidedByContent_iff (h : g.Acknowledged first action) :
    g.DecidedByContent first action ↔ ¬ ReadsRejected action := by
  constructor
  · intro hdecided hrejected
    let rejecting := g.rejection first.actionId action
    have hcurrent : g.CurrentFor rejecting action := currentFor_rejection g first.actionId action
    have hheld : g.actions.lookup rejecting.actionId = some action := h.held
    obtain ⟨text, hconflict⟩ := hdecided.divergent rejecting rfl hcurrent rfl
    have hsuccess : g.recordActionAck rejecting = (g, .ok action.lifecycle) := by
      rw [recordActionAck_again hheld h.awaits hcurrent,
        show containsText action.detail "rejected" = true from hrejected]
      rfl
    rw [hsuccess] at hconflict
    cases hconflict
  · intro hread
    have htext : containsText action.detail "rejected" = false := Bool.eq_false_iff.mpr hread
    constructor
    · intro second hrepeats hcurrent
      rw [recordActionAck_again (hrepeats.actionId ▸ h.held) h.awaits hcurrent, htext,
        hrepeats.accepted, h.accepted]
      rfl
    · intro second hid hcurrent hrejects
      rw [recordActionAck_again (hid ▸ h.held) h.awaits hcurrent, htext, hrejects]
      exact ⟨_, rfl⟩

/-! ### An action that is acknowledged in two wordings -/

/-- An answer to the first instruction of the deployment. -/
def answer (accepted : Bool) (text : String) : ActionAck where
  actionId := 2
  actionGeneration := 2
  coordinatorEpoch := 1
  deviceGeneration := 1
  domainGeneration := 1
  accepted := accepted
  detail := text

/-- The deployment with an instruction on its way. -/
def instructed : Governor := Deployment.after
  [.publishTemperature (Deployment.reading 82 1 0),
    .authorizeMitigation 1 { intent := .requestClockReduction } "", .recordActionDispatch 2]

/-- The instruction is answered, and then cancelled for a reason. -/
def answered (text reason : String) : Governor :=
  [.recordActionAck (answer true text), .cancelAction 2 reason].foldl apply instructed

theorem acknowledged_answered {text reason : String}
    (hrecorded : (instructed.recordActionAck (answer true text)).2 = .ok .acknowledged)
    {action : ThermalAction} (hheld : (answered text reason).actions.lookup 2 = some action)
    (hlifecycle : action.lifecycle = .verifying) :
    (answered text reason).Acknowledged (answer true text) action := by
  have hreached : instructed.Reachable := Deployment.reachable_after _
  exact ⟨rfl, ⟨instructed, _, .acknowledged, hreached, Prod.ext rfl hrecorded,
    .tail (Operation.cancelAction 2 reason) .refl trivial⟩, hheld, .inr hlifecycle⟩

/-- The action is acknowledged and cancelled in plain words. -/
theorem decidedByContent_plain : ∃ action,
    (answered "applied" "superseded by the operator").Acknowledged (answer true "applied") action ∧
      ((answered "applied" "superseded by the operator").DecidedByContent
        (answer true "applied") action ↔ ¬ ReadsRejected action) := by
  obtain ⟨action, hheld, hlifecycle⟩ := exists_of_any
    ((answered "applied" "superseded by the operator").actions.lookup 2)
    (fun action => action.lifecycle = .verifying) (by decide +kernel)
  have hacknowledged := acknowledged_answered (by decide +kernel) hheld hlifecycle
  exact ⟨action, hacknowledged, decidedByContent_iff hacknowledged⟩

/-- The operator cancels with a word too many, and the acknowledgement conflicts with itself. -/
theorem not_decidedByContent :
    ¬ ∀ (g : Governor) (first : ActionAck) (action : ThermalAction),
      g.Acknowledged first action → g.DecidedByContent first action := by
  intro hclaim
  let g := answered "applied" "clock request rejected by the operator"
  obtain ⟨action, hheld, hlifecycle, hcurrent⟩ := exists_of_any (g.actions.lookup 2)
    (fun action => action.lifecycle = .verifying ∧
      runChecks (ackChecks action g.epoch (answer true "applied")) = .ok ()) (by decide +kernel)
  have hacknowledged := acknowledged_answered (by decide +kernel) hheld hlifecycle
  have hrepeated := (hclaim g _ action hacknowledged).repeated (answer true "applied") rfl hcurrent
  have hconflict : (g.recordActionAck (answer true "applied")).2.toOption.isSome = false := by
    decide +kernel
  rw [hrepeated] at hconflict
  cases hconflict

end Governor

end ThermalGovernor
