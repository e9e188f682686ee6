import ThermalGovernor.Session.Handle

/-!
# The widths of the answers that grow

A listing has a row for each record that is held, a device is told with what was said of its
capabilities, and a policy with its label.  Nothing bounds these, so their lengths are counted:
each text that is rendered has a width, which is a number of the record.
-/

namespace ThermalGovernor

open Lib Format

/-! ### Parts -/

/-- The width of what may be absent. -/
def optionWidth {α : Type} (width : α → Nat) (o : Option α) : Nat := (o.map width).getD 0

/-- The width of parts with a separator between them. -/
def joinWidth (separator : Nat) : List Nat → Nat
  | [] => 0
  | first :: rest => first + (rest.map fun n => separator + n).sum

def flagWidth (b : Bool) : Nat := if b then 4 else 5

def reasonsWidth (reasons : ReasonCodeSet) : Nat :=
  if reasons.isEmpty then 6 else joinWidth 1 (reasons.map fun code => code.text.length)

theorem length_intercalate (separator first : String) (rest : List String) :
    (String.intercalate separator (first :: rest)).length =
      first.length + (rest.map fun text => separator.length + text.length).sum := by
  induction rest generalizing first with
  | nil => simp
  | cons second rest ih =>
    rw [String.intercalate_cons_cons, String.length_append, String.length_append, ih,
      List.map_cons, List.sum_cons]
    omega

theorem length_join (list : List String) (separator : String) :
    (join list separator).length = joinWidth separator.length (list.map String.length) := by
  cases list with
  | nil => rfl
  | cons first rest =>
    rw [join, length_intercalate, List.map_cons, joinWidth, List.map_map]
    rfl

theorem length_flag (b : Bool) : (Explanation.flag b).length = flagWidth b := by
  cases b <;> rfl

theorem length_render (reasons : ReasonCodeSet) : reasons.render.length = reasonsWidth reasons := by
  unfold ReasonCodeSet.render reasonsWidth
  split
  · rfl
  · rw [length_join, List.map_map]
    rfl

/-! ### Sheets -/

theorem length_sheet_nil : (sheet []).length = 0 := rfl

theorem length_sheet_cons (key : List Char) (value : String) (lines : List (String × String)) :
    (sheet ((String.ofList key, value) :: lines)).length =
      key.length + value.length + 3 + (sheet lines).length := by
  rw [length_sheet, List.map_cons, List.sum_cons, ← length_sheet, String.length_ofList]

theorem length_sheet_append (lines lines' : List (String × String)) :
    (sheet (lines ++ lines')).length = (sheet lines).length + (sheet lines').length := by
  rw [length_sheet, length_sheet, length_sheet, List.map_append, List.sum_append]

/-- A line that may be absent. -/
theorem length_sheet_toList {α : Type} (o : Option α) (key : List Char) (f : α → String) :
    (sheet (o.map fun a => (String.ofList key, f a)).toList).length =
      optionWidth (fun a => key.length + 3 + (f a).length) o := by
  cases o with
  | none => rfl
  | some a =>
    rw [Option.map_some, Option.toList_some, length_sheet_cons, length_sheet_nil]
    show key.length + (f a).length + 3 + 0 = key.length + 3 + (f a).length
    omega

theorem length_itemized (key : List Char) (items : List String) :
    (itemized (String.ofList key) items).length =
      key.length + 2 + (if items.isEmpty then 7 else 0) +
        (items.map fun item => item.length + 3).sum := by
  have hnone : (if items.isEmpty then " <none>" else "").length =
      if items.isEmpty then 7 else 0 := by
    split <;> rfl
  have hcolon : ":".length = 1 := rfl
  have hline : "\n".length = 1 := rfl
  simp only [itemized, String.length_append, String.length_ofList, length_items, hnone, hcolon,
    hline]
  omega

/-! ### Rows -/

def domainWidth (key : ThermalDomainId) (domain : ThermalDomainSnapshot) : Nat :=
  digits key + domain.state.text.length + domain.derating.text.length + 3

def deviceRowWidth (key : DeviceId) (device : DeviceSnapshot) : Nat :=
  digits key + digits device.registration.generation + device.state.text.length +
    optionWidth (fun t => 2 + (printed t).length) device.temperature + 7

def historyWidth (r : StateTransitionRecord) : Nat :=
  digits r.domain + r.source.text.length + r.target.text.length + digits r.coordinatorEpoch +
    digits r.sequence + 18

/-- The width of an action in its listing. -/
def actionWidth (a : ThermalAction) : Nat :=
  288 + digits a.id + digits a.generation + a.intent.text.length + a.lifecycle.text.length +
    digits a.authority.domain + digits a.authority.domainGeneration +
    digits a.authority.coordinatorEpoch + digits a.authority.policyGeneration +
    digits a.authority.telemetryGeneration + digits a.authority.topologyGeneration +
    digits a.authority.capabilityGeneration + digits a.authority.worker +
    digits a.authority.workerBoot + digits a.authority.device +
    digits a.authority.deviceGeneration +
    optionWidth (fun c => 27 + digits c) a.requestedClockCeiling +
    optionWidth (fun c => 23 + (printed c).length) a.requestedConcurrency +
    optionWidth (fun c => 21 + (printed c).length) a.requestedAdmission +
    a.provenance.text.length + reasonsWidth a.reasons +
    (if a.detail.isEmpty then 0 else 9 + a.detail.length) +
    optionWidth (fun id => 15 + digits id) a.supersededBy

theorem length_domainRow (key : ThermalDomainId) (domain : ThermalDomainSnapshot) :
    (domainRow key domain).length = domainWidth key domain := by
  have hspace : " ".length = 1 := rfl
  have hline : "\n".length = 1 := rfl
  simp only [domainRow, String.length_append, length_decimal, hspace, hline]
  unfold domainWidth
  omega

theorem length_deviceRow (key : DeviceId) (device : DeviceSnapshot) :
    (deviceRow key device).length = deviceRowWidth key device := by
  have htemperature : ((device.temperature.map fun t => " " ++ printed t ++ "C").getD "").length =
      optionWidth (fun t => 2 + (printed t).length) device.temperature := by
    cases device.temperature with
    | none => rfl
    | some t =>
      show (" " ++ printed t ++ "C").length = 2 + (printed t).length
      rw [String.length_append, String.length_append, String.length_ofList, String.length_ofList]
      simp only [List.length_cons, List.length_nil]
      omega
  have hspace : " ".length = 1 := rfl
  have hgeneration : " gen=".length = 5 := rfl
  have hline : "\n".length = 1 := rfl
  simp only [deviceRow, String.length_append, length_decimal, htemperature, hspace, hgeneration,
    hline]
  unfold deviceRowWidth
  omega

theorem length_historyRow (r : StateTransitionRecord) :
    (historyRow r).length = historyWidth r := by
  have hspace : " ".length = 1 := rfl
  have harrow : " -> ".length = 4 := rfl
  have hepoch : " epoch=".length = 7 := rfl
  have hsequence : " seq=".length = 5 := rfl
  have hline : "\n".length = 1 := rfl
  simp only [historyRow, String.length_append, length_decimal, hspace, harrow, hepoch, hsequence,
    hline]
  unfold historyWidth
  omega

theorem length_actionRow (a : ThermalAction) : (actionRow a).length = actionWidth a := by
  have hdetail : (sheet (if a.detail.isEmpty then [] else [("Detail", a.detail)])).length =
      if a.detail.isEmpty then 0 else 9 + a.detail.length := by
    split
    · rfl
    · rw [length_sheet_cons, length_sheet_nil]
      simp only [List.length_cons, List.length_nil]
      omega
  rw [actionRow, renderAction, String.length_append, String.length_ofList]
  repeat rw [length_sheet_append]
  repeat rw [length_sheet_toList]
  rw [hdetail]
  repeat rw [length_sheet_cons]
  simp only [length_decimal, length_render, List.length_cons, List.length_nil, length_sheet_nil,
    Nat.reduceAdd]
  unfold actionWidth
  omega

/-! ### Devices and policies -/

def capabilityWidth (set : CapabilitySet) (c : ThermalCapability) : Nat :=
  c.text.length + (set.get c).text.length + 2 +
    if (set.details c).isEmpty then 0 else 3 + (set.details c).length

/-- The width of the answer about one device. -/
def deviceWidth (id : DeviceId) (device : DeviceSnapshot) : Nat :=
  73 + digits id + digits device.registration.generation + device.state.text.length +
    device.registration.provenance.text.length +
    ((device.temperature.map fun t => (printed t).length).getD 9) +
    joinWidth 1
      (Durable.allCapabilities.map (capabilityWidth device.registration.capabilities))

def restrictionWidth (r : WorkloadRestriction ℚ) : Nat :=
  r.profile.text.length + flagWidth r.allowed + r.requiredClass.text.length +
    (printed r.extraHeadroomDemand).length + 31

/-- The width of the answer about a policy. -/
def policyWidth (policy : ThermalPolicy) : Nat :=
  398 + (if policy.label.isEmpty then 12 else policy.label.length) + digits policy.id +
    digits policy.generation + (printed policy.thresholds.warning).length +
    (printed policy.thresholds.nearLimitStart).length +
    (printed policy.thresholds.derating).length + (printed policy.thresholds.critical).length +
    (printed policy.thresholds.recovery).length +
    (printed (policy.thresholds.derating - policy.thresholds.recovery)).length +
    (printed policy.margins.policySafetyMargin).length +
    (printed policy.margins.uncertaintyMargin).length +
    (printed policy.margins.recoveryMargin).length +
    (printedMillis policy.freshness.maxAge).length +
    digits policy.freshness.requiredConsecutiveSamples +
    (printedMillis policy.freshness.minEvidenceSpan).length +
    policy.unknownBehavior.text.length + policy.unsupportedBehavior.text.length +
    flagWidth policy.coupling.coDerateCoupledDomains +
    digits policy.coupling.maxPropagationDepth +
    flagWidth policy.coupling.requireCoupledRecovery +
    (if (permittedIntents policy).isEmpty then 7
     else ((permittedIntents policy).map fun intent => 1 + intent.text.length).sum) +
    (if policy.workloadRestrictions.isEmpty then 7 else 0) +
    (policy.workloadRestrictions.map fun r => restrictionWidth r + 3).sum

theorem length_capabilityText (set : CapabilitySet) (c : ThermalCapability) :
    (capabilityText set c).length = capabilityWidth set c := by
  have hdetails : (if (set.details c).isEmpty then "" else " (" ++ set.details c ++ ")").length =
      if (set.details c).isEmpty then 0 else 3 + (set.details c).length := by
    split
    · rfl
    · rw [String.length_append, String.length_append, String.length_ofList, String.length_ofList]
      simp only [List.length_cons, List.length_nil]
      omega
  have hcolon : ": ".length = 2 := rfl
  simp only [capabilityText, String.length_append, hdetails, hcolon]
  unfold capabilityWidth
  omega

theorem length_renderDevice (id : DeviceId) (device : DeviceSnapshot) :
    (renderDevice id device).length = deviceWidth id device := by
  have htemperature : ((device.temperature.map printed).getD "<unknown>").length =
      (device.temperature.map fun t => (printed t).length).getD 9 := by
    cases device.temperature with
    | none =>
      show "<unknown>".length = 9
      exact String.length_ofList
    | some t => simp only [Option.map_some, Option.getD_some]
  have hcapabilities : device.registration.capabilities.render.length = joinWidth 1
      (Durable.allCapabilities.map (capabilityWidth device.registration.capabilities)) := by
    rw [CapabilitySet.render, length_join, List.map_map]
    exact congrArg (joinWidth 1) (List.map_congr_left fun c _ => length_capabilityText _ c)
  rw [renderDevice, String.length_append, String.length_append, hcapabilities,
    String.length_ofList]
  repeat rw [length_sheet_cons]
  simp only [length_decimal, htemperature, List.length_cons, List.length_nil, length_sheet_nil]
  unfold deviceWidth
  omega

theorem length_restrictionText (r : WorkloadRestriction ℚ) :
    (restrictionText r).length = restrictionWidth r := by
  have hallowed : " allowed=".length = 9 := rfl
  have hclass : " class=".length = 7 := rfl
  have hdemand : " extraHeadroom=".length = 15 := rfl
  simp only [restrictionText, String.length_append, length_flag, hallowed, hclass, hdemand]
  unfold restrictionWidth
  omega

theorem length_renderPolicy (policy : ThermalPolicy) :
    (renderPolicy policy).length = policyWidth policy := by
  have hlabel : (if policy.label.isEmpty then "<unlabelled>" else policy.label).length =
      if policy.label.isEmpty then 12 else policy.label.length := by
    split <;> rfl
  have hintents : (if (permittedIntents policy).isEmpty then " <none>" else
      String.join ((permittedIntents policy).map fun intent => " " ++ intent.text)).length =
      if (permittedIntents policy).isEmpty then 7
      else ((permittedIntents policy).map fun intent => 1 + intent.text.length).sum := by
    have hspace : ∀ intent : MitigationIntent,
        (" " ++ intent.text).length = 1 + intent.text.length :=
      fun intent => String.length_append _ _
    split
    · rfl
    · rw [String.length_join, List.map_map]
      exact congrArg List.sum (List.map_congr_left fun intent _ => hspace intent)
  have hrestrictions : (policy.workloadRestrictions.map restrictionText).map
      (fun item => item.length + 3) =
      policy.workloadRestrictions.map fun r => restrictionWidth r + 3 := by
    rw [List.map_map]
    exact List.map_congr_left fun r _ => congrArg (· + 3) (length_restrictionText r)
  rw [renderPolicy, String.length_append, String.length_append, length_itemized, hrestrictions,
    List.isEmpty_map, String.length_append, String.length_append, hintents, String.length_ofList,
    String.length_ofList]
  repeat rw [length_sheet_cons]
  simp only [length_decimal, length_flag, hlabel, List.length_cons, List.length_nil,
    length_sheet_nil]
  unfold policyWidth
  omega

/-! ### Listings -/

namespace CoordinatorSession

variable {α : Type}

/-- The width of the rows of a map. -/
def listedWidth (table : Table Nat α) (width : Nat → α → Nat) : Nat :=
  ((Table.sortedKeys table).filterMap fun key => (table.lookup key).map (width key)).sum

theorem length_rows {row : Nat → α → String} {width : Nat → α → Nat}
    (h : ∀ key a, (row key a).length = width key a) (table : Table Nat α) :
    (String.join (rows table row)).length = listedWidth table width := by
  have hwidth : ∀ key, ((table.lookup key).map (row key)).map String.length =
      (table.lookup key).map (width key) := by
    intro key
    rw [Option.map_map]
    exact congrArg (fun f => (table.lookup key).map f) (funext (h key))
  rw [String.length_join, rows, List.map_filterMap]
  exact congrArg (fun f => ((Table.sortedKeys table).filterMap f).sum) (funext hwidth)

theorem length_listDomains (g : Governor) :
    (listDomains g).length = listedWidth g.published.domains domainWidth :=
  length_rows length_domainRow _

theorem length_listDevices (g : Governor) :
    (listDevices g).length = listedWidth g.published.devices deviceRowWidth :=
  length_rows length_deviceRow _

theorem length_listActions (g : Governor) :
    (listActions g).length = ((Table.sortedValues g.actions).map actionWidth).sum := by
  rw [listActions, String.length_join, List.map_map]
  refine congrArg List.sum (List.map_congr_left fun a _ => ?_)
  rw [Function.comp_apply, length_actionRow]

theorem length_listHistory (g : Governor) :
    (listHistory g).length = (g.history.map historyWidth).sum := by
  rw [listHistory, String.length_join, List.map_map]
  refine congrArg List.sum (List.map_congr_left fun r _ => ?_)
  rw [Function.comp_apply, length_historyRow]

end CoordinatorSession

end ThermalGovernor
