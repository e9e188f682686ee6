import ThermalGovernor.Governor.Admission

/-!
# Explanations

An explanation is a list of titled sections, built in a fixed order from an
evaluation and the policy of its domain, or from the answer to an admission
request.  `explain` takes the lock three times: for the evaluation, for the
envelope and for the policy.  `explainFrom` puts together what the three found,
and what runs between them is up to its caller, so the answers of a concurrent
call are those of `explainFrom` on three states of a run.
-/

namespace ThermalGovernor

open Lib

/-- A key with its value. -/
structure ExplanationLine where
  key : String
  value : String
  deriving DecidableEq

/-- A titled section. -/
structure ExplanationSection where
  title : String
  lines : List ExplanationLine := []
  bullets : List String := []
  deriving DecidableEq

/-- A structured explanation, its sections in canonical order. -/
structure Explanation where
  sections : List ExplanationSection := []
  deriving DecidableEq

namespace Explanation

/-! ### Texts -/

def maxRenderedBytes : Nat := 256 * 1024

/-- The source's `append`: a text that does not fit any more is left out. -/
def append (out text : String) : String :=
  if maxRenderedBytes < out.utf8ByteSize + text.utf8ByteSize then out else out ++ text

def renderSection (out : String) (s : ExplanationSection) : String :=
  let out := append (append out s.title) ":\n"
  let out := s.lines.foldl
    (fun out line => append (append (append (append out line.key) ": ") line.value) "\n") out
  s.bullets.foldl (fun out bullet => append (append (append out "  - ") bullet) "\n") out

/-- Sections are separated by a blank line. -/
def render (x : Explanation) : String :=
  match x.sections with
  | [] => ""
  | first :: rest =>
    rest.foldl (fun out s => renderSection (append out "\n") s) (renderSection "" first)

theorem utf8ByteSize_append_le {out : String} (h : out.utf8ByteSize ≤ maxRenderedBytes)
    (text : String) : (append out text).utf8ByteSize ≤ maxRenderedBytes := by
  unfold append
  split
  · exact h
  · rw [String.utf8ByteSize_append]
    omega

theorem utf8ByteSize_renderSection_le {out : String} (h : out.utf8ByteSize ≤ maxRenderedBytes)
    (s : ExplanationSection) : (renderSection out s).utf8ByteSize ≤ maxRenderedBytes := by
  have hlines := List.foldlRecOn s.lines
    (fun out line => append (append (append (append out line.key) ": ") line.value) "\n")
    (motive := fun out => out.utf8ByteSize ≤ maxRenderedBytes)
    (utf8ByteSize_append_le (utf8ByteSize_append_le h s.title) ":\n")
    fun out hout line _ => utf8ByteSize_append_le (utf8ByteSize_append_le
      (utf8ByteSize_append_le (utf8ByteSize_append_le hout line.key) ": ") line.value) "\n"
  exact List.foldlRecOn s.bullets
    (fun out bullet => append (append (append out "  - ") bullet) "\n")
    (motive := fun out => out.utf8ByteSize ≤ maxRenderedBytes) hlines
    fun out hout bullet _ => utf8ByteSize_append_le
      (utf8ByteSize_append_le (utf8ByteSize_append_le hout "  - ") bullet) "\n"

/-- A rendered explanation stays within its bound. -/
theorem utf8ByteSize_render_le (x : Explanation) : x.render.utf8ByteSize ≤ maxRenderedBytes := by
  unfold render
  split
  · decide
  · rename_i first rest _
    have hempty : "".utf8ByteSize ≤ maxRenderedBytes := by decide
    exact List.foldlRecOn rest (fun out s => renderSection (append out "\n") s)
      (motive := fun out => out.utf8ByteSize ≤ maxRenderedBytes)
      (utf8ByteSize_renderSection_le hempty first)
      fun out hout s _ => utf8ByteSize_renderSection_le (utf8ByteSize_append_le hout "\n") s

def flag (b : Bool) : String := if b then "true" else "false"

/-- An intent with its rationale, if it has one. -/
def intentBullet (record : MitigationIntentRecord) : String :=
  if record.rationale.isEmpty then record.intent.text
  else record.intent.text ++ " - " ++ record.rationale

/-! ### The sections of an evaluation -/

/-- The source can describe the definition here; it is never handed one. -/
def domainSection (e : ThermalEvaluation) : ExplanationSection where
  title := "Thermal domain"
  lines :=
    [⟨"Label", "<unlabelled>"⟩,
     ⟨"ThermalDomainId", Format.unsignedDecimal e.domain⟩,
     ⟨"ThermalDomainGeneration", Format.unsignedDecimal e.domainGeneration⟩,
     ⟨"ThermalDomainType", "<unknown>"⟩]

/-- The only section that reads the policy. -/
def temperatureSection (e : ThermalEvaluation) (policy : ThermalPolicy) : ExplanationSection where
  title := "Temperature"
  lines :=
    [⟨"Current", Format.temperature e.headroom.currentTemperature⟩,
     ⟨"Warning", Format.temperature policy.thresholds.warning⟩,
     ⟨"NearLimitStart", Format.temperature policy.thresholds.nearLimitStart⟩,
     ⟨"Derating", Format.temperature policy.thresholds.derating⟩,
     ⟨"Critical", Format.temperature policy.thresholds.critical⟩,
     ⟨"Recovery", Format.temperature policy.thresholds.recovery⟩,
     ⟨"VendorLimit", (e.headroom.vendorLimit.map Format.temperature).getD "<unsupported>"⟩,
     ⟨"GoverningLimit", Format.temperature e.headroom.governingLimit⟩]

def headroomSection (e : ThermalEvaluation) : ExplanationSection where
  title := "Headroom"
  lines :=
    [⟨"RawHeadroom", Format.number e.headroom.rawHeadroom⟩,
     ⟨"PolicySafetyMargin", Format.number e.headroom.policySafetyMargin⟩,
     ⟨"UncertaintyMargin", Format.number e.headroom.uncertaintyMargin⟩,
     ⟨"EffectiveHeadroom", Format.number e.headroom.effectiveHeadroom⟩,
     ⟨"RecoveryMargin", Format.number e.headroom.recoveryMargin⟩]

def throttleSection (e : ThermalEvaluation) : ExplanationSection where
  title := "Throttle"
  lines := [⟨"Classification", e.throttleClass.text⟩]

def stateSection (e : ThermalEvaluation) : ExplanationSection where
  title := "Thermal state"
  lines :=
    [⟨"State", e.state.text⟩,
     ⟨"Derating", e.derating.text⟩,
     ⟨"Decision", e.decision.text⟩,
     ⟨"RetainedByHysteresis", flag e.retainedByHysteresis⟩]

def restrictionsSection (e : ThermalEvaluation) : ExplanationSection where
  title := "Restrictions"
  lines :=
    [⟨"PermittedConcurrency", Format.percent e.permittedConcurrency⟩,
     ⟨"PermittedExecutionClass", e.permittedExecutionClass.text⟩,
     ⟨"PermittedWorkloadIntensity", Format.number e.permittedWorkloadIntensity⟩] ++
    (e.permittedClockCeiling.map fun ceiling =>
      ExplanationLine.mk "PermittedClockCeilingMHz" (Format.unsignedDecimal ceiling)).toList
  bullets := e.intents.map intentBullet

/-- The rejected candidates in the order of the levels, otherwise as they come. -/
def rejectedSection (e : ThermalEvaluation) : ExplanationSection where
  title := "Rejected"
  bullets :=
    (e.rejected.insertionSort fun a b => a.candidate.ctorIdx ≤ b.candidate.ctorIdx).map fun r =>
      r.candidate.text ++ " - " ++ r.reason.text

def recoverySection (e : ThermalEvaluation) : ExplanationSection where
  title := "Recovery"
  lines :=
    [⟨"Allowed", flag e.recovery.allowed⟩,
     ⟨"RecoveryThreshold", Format.temperature e.recovery.recoveryThreshold⟩,
     ⟨"QualifyingSamples", Format.unsignedDecimal e.recovery.qualifyingSamples ++ "/" ++
       Format.unsignedDecimal e.recovery.requiredSamples⟩,
     ⟨"QualifyingSpanMs", Format.millis e.recovery.qualifyingSpan ++ "/" ++
       Format.millis e.recovery.requiredSpan⟩,
     ⟨"TemperatureBelowThreshold", flag e.recovery.temperatureBelowThreshold⟩,
     ⟨"HeadroomSatisfied", flag e.recovery.headroomRequirementSatisfied⟩,
     ⟨"ThrottleClear", flag e.recovery.throttleClear⟩,
     ⟨"GenerationBindingOk", flag e.recovery.generationBindingOk⟩,
     ⟨"CoupledDomainsSatisfied", flag e.recovery.coupledDomainsSatisfied⟩,
     ⟨"Reasons", e.recovery.blockingReasons.render⟩]

def reasonsSection (e : ThermalEvaluation) : ExplanationSection where
  title := "Reasons"
  lines := [⟨"Codes", e.reasons.render⟩, ⟨"Provenance", e.provenance.text⟩]

def authoritySection (e : ThermalEvaluation) : ExplanationSection where
  title := "Authority"
  lines :=
    [⟨"CoordinatorEpoch", Format.unsignedDecimal e.coordinatorEpoch⟩,
     ⟨"ThermalPolicyGeneration", Format.unsignedDecimal e.policyGeneration⟩,
     ⟨"TelemetryGeneration", Format.unsignedDecimal e.telemetryGeneration⟩,
     ⟨"ThermalDomainGeneration", Format.unsignedDecimal e.domainGeneration⟩,
     ⟨"CapabilityGeneration", Format.unsignedDecimal e.capabilityGeneration⟩,
     ⟨"TopologyGeneration", Format.unsignedDecimal e.topologyGeneration⟩]

/-! ### The sections of an admission -/

def admissionSection (r : ThermalAdmissionResult) : ExplanationSection where
  title := "Thermal admission"
  lines :=
    [⟨"Decision", r.decision.text⟩,
     ⟨"ThermalDomainId", Format.unsignedDecimal r.domain⟩,
     ⟨"ThermalDomainGeneration", Format.unsignedDecimal r.domainGeneration⟩,
     ⟨"WorkloadProfile", r.profile.text⟩]

def admissionHeadroomSection (r : ThermalAdmissionResult) : ExplanationSection where
  title := "Headroom"
  lines :=
    [⟨"GoverningLimit", Format.temperature r.governingLimit⟩,
     ⟨"CurrentTemperature", Format.temperature r.currentTemperature⟩,
     ⟨"EffectiveHeadroom", Format.number r.effectiveHeadroom⟩,
     ⟨"RequiredHeadroom", Format.number r.requiredHeadroom⟩]

def admissionRestrictionsSection (r : ThermalAdmissionResult) : ExplanationSection where
  title := "Restrictions"
  lines :=
    [⟨"PermittedConcurrency", Format.percent r.permittedConcurrency⟩,
     ⟨"PermittedExecutionClass", r.permittedClass.text⟩,
     ⟨"PermittedClockCeilingMHz",
       (r.permittedClockCeiling.map Format.unsignedDecimal).getD "<unconstrained>"⟩]
  bullets := r.constraints.map intentBullet

def admissionAuthoritySection (r : ThermalAdmissionResult) : ExplanationSection where
  title := "Authority"
  lines :=
    [⟨"CoordinatorEpoch", Format.unsignedDecimal r.coordinatorEpoch⟩,
     ⟨"ThermalPolicyGeneration", Format.unsignedDecimal r.policyGeneration⟩,
     ⟨"TelemetryGeneration", Format.unsignedDecimal r.telemetryGeneration⟩,
     ⟨"CapabilityGeneration", Format.unsignedDecimal r.capabilityGeneration⟩,
     ⟨"TopologyGeneration", Format.unsignedDecimal r.topologyGeneration⟩]

end Explanation

open Explanation

/-- The source takes the envelope of the domain as well and reads nothing of it. -/
def buildExplanation (e : ThermalEvaluation) (_envelope : ThermalEnvelope)
    (policy : ThermalPolicy) : Explanation where
  sections :=
    [domainSection e, temperatureSection e policy, headroomSection e, throttleSection e,
     stateSection e, restrictionsSection e, rejectedSection e, recoverySection e,
     reasonsSection e, authoritySection e]

/-- The source takes the policy of the domain as well and reads nothing of it. -/
def buildAdmissionExplanation (r : ThermalAdmissionResult) (_policy : ThermalPolicy) :
    Explanation where
  sections :=
    [admissionSection r,
     { title := "Thermal state"
       lines := [⟨"State", r.state.text⟩, ⟨"Derating", r.derating.text⟩] },
     admissionHeadroomSection r, admissionRestrictionsSection r,
     { title := "Reasons", lines := [⟨"Codes", r.reasons.render⟩] },
     admissionAuthoritySection r]

namespace Governor

/-! ### Explaining under three locks -/

/-- The last locked section of either call: the policy that governs the domain. -/
def policyToExplain (g : Governor) (domain : ThermalDomainId) : Result ThermalPolicy :=
  match g.domains.find domain with
  | none => failure .unknownDomain "thermal domain is not registered"
  -- a reachable state has a policy for every definition: `explain` dereferences what it finds,
  -- `explain_admission` would fall back on a fresh policy
  | some definition => .ok ((g.policyFor definition).getD .makeDefault)

/-- The answer of `explain`, from what its three locked sections found. -/
def explainFrom (evaluation : Result ThermalEvaluation) (envelope : Result ThermalEnvelope)
    (policy : Result ThermalPolicy) : Result Explanation :=
  match evaluation with
  | .error e => .error e
  | .ok evaluation =>
    match envelope with
    | .error e => .error e
    | .ok envelope =>
      match policy with
      | .error e => .error e
      | .ok policy => .ok (buildExplanation evaluation envelope policy)

/-- `explain` with nothing between its locked sections. -/
def explain (g : Governor) (domain : ThermalDomainId) : Governor × Result Explanation :=
  match g.evaluateDomain domain with
  | (g, evaluation) =>
    (g, explainFrom evaluation (g.queryEnvelope domain) (g.policyToExplain domain))

/-- The answer of `explain_admission`, from what its two locked sections found. -/
def explainAdmissionFrom (result : Result ThermalAdmissionResult)
    (policy : Result ThermalPolicy) : Result Explanation :=
  match result with
  | .error e => .error e
  | .ok result =>
    match policy with
    | .error e => .error e
    | .ok policy => .ok (buildAdmissionExplanation result policy)

/-- `explain_admission` with nothing between its locked sections. -/
def explainAdmission (g : Governor) (request : ThermalAdmissionRequest) :
    Governor × Result Explanation :=
  match g.evaluateAdmission request with
  | (g, result) => (g, explainAdmissionFrom result (g.policyToExplain request.domain))

end Governor

end ThermalGovernor
