import ThermalGovernor.Governor.Verify

/-!
# Persistence, restart and shutdown

`persist` captures configuration and history; what it writes is a `DurableState`,
whose bytes are those of `Durable.Bytes`.  `loadDurable` is given what decoding the
file yields, and restores it in the order of the source.  A domain
that the registry refuses, or a coupling of an unknown domain, ends the load
there, with everything restored before it in place.

A load advances the epoch and forgets every observation.  It restores the actions
with their ids, and leaves the action generation as it was.
-/

namespace ThermalGovernor

open Lib

/-- What a durable file holds. -/
structure DurableState (R : Type := ℚ) where
  formatVersion : Nat := 0
  coordinator : CoordinatorId := 0
  coordinatorEpoch : CoordinatorEpoch := 0
  policyGeneration : ThermalPolicyGeneration := 0
  topologyGeneration : TopologyGeneration := 0
  sequence : Nat := 0
  policies : List (PolicyOver R) := []
  devices : List DeviceRegistration := []
  domains : List (ThermalDomainDefinition R) := []
  couplings : List (CouplingRelation R) := []
  transitions : List (StateTransitionRecord R) := []
  actions : List (ThermalAction R) := []
  verifications : List (ActionVerification R) := []

/-- The version of the format that is written. -/
def persistenceFormatVersion : Nat := 1

/-- An action read back from a file: an unfinished one ended with an unknown outcome. -/
def ThermalAction.restored (a : ThermalAction) : ThermalAction :=
  if a.lifecycle.isTerminal then a
  else
    { a with
      lifecycle := .outcomeUnknown
      detail := "coordinator restarted before the action outcome was proven" }

/-- An unfinished action when the runtime shuts down. -/
def ThermalAction.shutDown (a : ThermalAction) (now : SteadyTimePoint) : ThermalAction :=
  match a.lifecycle with
  | .planned | .authorized =>
    { a with
      lifecycle := .cancelled
      detail := "runtime shut down before dispatch"
      terminalAt := now }
  | .dispatched | .acknowledged | .verifying =>
    { a with
      lifecycle := .outcomeUnknown
      detail := "runtime shut down before the outcome was verified"
      terminalAt := now }
  | _ => a

namespace Governor

/-- The state a file is written from. -/
def capture (g : Governor) : DurableState where
  formatVersion := persistenceFormatVersion
  coordinator := g.config.coordinator
  coordinatorEpoch := g.epoch
  policyGeneration := g.policyGeneration
  topologyGeneration := g.topologyGeneration
  sequence := g.sequence
  policies := Table.sortedValues g.policies
  devices := Table.sortedValues g.devices
  domains := g.domains.allDomainIds.filterMap g.domains.find
  couplings := g.couplings
  transitions := g.history
  actions := Table.sortedValues g.actions
  verifications := g.verifications

/-- The capture is what a successful call has written. -/
def persist (g : Governor) : Result DurableState :=
  if g.config.durablePath.isEmpty then
    failure .invalidArgument "no durable path is configured for this runtime"
  else .ok g.capture

/-! ### Restoring -/

/-- Restore policies, counters and devices. -/
def restoreConfiguration (g : Governor) (file : DurableState) : Governor :=
  { g with
    policies := file.policies.foldl (fun t p => t.insert p.id p) g.policies
    policyGeneration :=
      if isValid file.policyGeneration then observe g.policyGeneration file.policyGeneration
      else g.policyGeneration
    topologyGeneration :=
      if isValid file.topologyGeneration then
        observe g.topologyGeneration file.topologyGeneration
      else g.topologyGeneration
    sequence := max g.sequence file.sequence
    devices := file.devices.foldl (fun t d => t.insert d.device d) g.devices
    capabilityGeneration :=
      if file.devices.isEmpty then g.capabilityGeneration else advance g.capabilityGeneration }

/-- Restore domains up to the first one the registry refuses. -/
def restoreDomains (g : Governor) : List ThermalDomainDefinition → Governor × Status
  | [] => (g, .ok ())
  | definition :: rest =>
    match g.domains.add definition with
    | (_, .error e) =>
      (g, failure .persistenceCorrupt
        ("persisted thermal domain could not be restored: " ++ e.detail))
    | (domains, .ok ()) =>
      (openHistory { g with domains := domains } definition.id).restoreDomains rest

/-- Restore couplings up to the first one of an unknown domain. -/
def restoreCouplings (g : Governor) : List CouplingRelation → Governor × Status
  | [] => (g, .ok ())
  | relation :: rest =>
    if (g.domains.find relation.source).isNone || (g.domains.find relation.destination).isNone then
      (g, failure .persistenceCorrupt "persisted coupling references an unknown thermal domain")
    else { g with couplings := g.couplings.add relation }.restoreCouplings rest

/-- Restore one action under the id it has in the file. -/
def restoreAction (g : Governor) (action : ThermalAction) : Governor :=
  (g.putAction action.id action.restored).note (.restored action.id)

/-- Restore history, actions and verifications. -/
def restoreRecords (g : Governor) (file : DurableState) : Governor :=
  { file.actions.foldl restoreAction { g with history := file.transitions } with
    verifications := file.verifications }

/-- Advance the epoch and discard what does not survive a restart. -/
def discardDynamicState (g : Governor) : Governor :=
  { g with
    epoch := advance g.epoch
    actionBaselines := ∅
    invalidatedEvidence := g.invalidatedEvidence ∪ g.evidence.keys.toFinset
    evidence := ∅
    recoveryHistories := fun domain => { g.recoveryHistories domain with samples := [] }
    explicitRecovery := ∅
    evaluations := ∅
    trace := .restarted (advance g.epoch) :: g.trace }

/-- Restore a decoded file. -/
def restore (g : Governor) (file : DurableState) : Governor × Status :=
  match (g.restoreConfiguration file).restoreDomains file.domains with
  | (g, .error e) => (g, .error e)
  | (g, .ok ()) =>
    match g.restoreCouplings file.couplings with
    | (g, .error e) => (g, .error e)
    | (g, .ok ()) =>
      (publishLocked <| recomputeAllDomains <| advanceTopology <|
        discardDynamicState (g.restoreRecords file), .ok ())

/-- Load the durable file: absent, undecodable, or a state. -/
def loadDurable (g : Governor) (file : Option (Result DurableState)) : Governor × Status :=
  if g.config.durablePath.isEmpty then
    (g, failure .invalidArgument "no durable path is configured for this runtime")
  else
    match file with
    | none => (g, .ok ())
    | some (.error e) => (g, .error e)
    | some (.ok file) => g.restore file

/-! ### What a load preserves -/

variable {g : Governor} {file : DurableState} {I : Governor → Prop}

/-- What the entering of one admitted domain preserves, the restoring of domains preserves. -/
theorem restoreDomains_invariant
    (hstep : ∀ g definition, g.domains.checkAdd definition = .ok () → I g →
      I (openHistory { g with domains := g.domains.store definition } definition.id))
    (list : List ThermalDomainDefinition) (hg : I g) : I (g.restoreDomains list).1 := by
  induction list generalizing g with
  | nil => exact hg
  | cons definition rest ih =>
    unfold restoreDomains DomainRegistry.add
    cases hcheck : g.domains.checkAdd definition with
    | error e => exact hg
    | ok _ => exact ih (hstep g definition hcheck hg)

/-- What the entering of one coupling of known domains preserves, the restoring of couplings
preserves. -/
theorem restoreCouplings_invariant
    (hstep : ∀ g (relation : CouplingRelation),
      (g.domains.find relation.source).isSome = true →
      (g.domains.find relation.destination).isSome = true → I g →
      I { g with couplings := g.couplings.add relation })
    (list : List CouplingRelation) (hg : I g) : I (g.restoreCouplings list).1 := by
  induction list generalizing g with
  | nil => exact hg
  | cons relation rest ih =>
    unfold restoreCouplings
    split
    · exact hg
    · rename_i hknown
      rw [Bool.or_eq_true, not_or, Option.isNone_iff_eq_none, Option.isNone_iff_eq_none,
        ← ne_eq, ← ne_eq, Option.ne_none_iff_isSome, Option.ne_none_iff_isSome] at hknown
      exact ih (hstep g relation hknown.1 hknown.2 hg)

/-- **What the parts of a file preserve holds wherever its restoring stops**, and up to the new
epoch when it is restored to the end. -/
theorem restore_rule {J : Governor × Status → Prop}
    (hconfiguration : I (g.restoreConfiguration file))
    (hdomain : ∀ g definition, g.domains.checkAdd definition = .ok () → I g →
      I (openHistory { g with domains := g.domains.store definition } definition.id))
    (hcoupling : ∀ g (relation : CouplingRelation),
      (g.domains.find relation.source).isSome = true →
      (g.domains.find relation.destination).isSome = true → I g →
      I { g with couplings := g.couplings.add relation })
    (hstop : ∀ g e, I g → J (g, .error e))
    (hfinish : ∀ g, I g → J (publishLocked (recomputeAllDomains (advanceTopology
      (discardDynamicState (g.restoreRecords file)))), .ok ())) : J (g.restore file) := by
  have hdomains := restoreDomains_invariant hdomain file.domains hconfiguration
  unfold restore
  split
  · rename_i g₁ e h₁
    rw [h₁] at hdomains
    exact hstop g₁ e hdomains
  · rename_i g₁ h₁
    rw [h₁] at hdomains
    have hcouplings := restoreCouplings_invariant hcoupling file.couplings hdomains
    split
    · rename_i g₂ e h₂
      rw [h₂] at hcouplings
      exact hstop g₂ e hcouplings
    · rename_i g₂ h₂
      rw [h₂] at hcouplings
      exact hfinish g₂ hcouplings

/-- A load does nothing, or it restores the file it is given. -/
theorem fst_loadDurable (g : Governor) (content : Option (Result DurableState)) :
    (g.loadDurable content).1 = g ∨ ∃ file, g.config.durablePath.isEmpty = false ∧
      content = some (.ok file) ∧ (g.loadDurable content).1 = (g.restore file).1 := by
  unfold loadDurable
  split
  · exact .inl rfl
  · rename_i hpath
    rw [Bool.not_eq_true] at hpath
    split
    · exact .inl rfl
    · exact .inl rfl
    · rename_i file
      exact .inr ⟨file, hpath, rfl, rfl⟩

/-! ### Shutdown -/

/-- Stop accepting evidence and end every unfinished action.  The state is persisted
afterwards when a path is configured. -/
def shutdown (g : Governor) : Governor × Status :=
  if g.stopping then (g, .ok ())
  else
    let stopped := publishLocked
      { g with
        stopping := true
        actions := Table.mapValues (fun _ a => a.shutDown g.now) g.actions }
    (stopped, if g.config.durablePath.isEmpty then .ok () else stopped.persist.map fun _ => ())

end Governor

end ThermalGovernor
