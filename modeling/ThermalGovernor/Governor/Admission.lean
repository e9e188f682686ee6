import ThermalGovernor.Governor.Publish

/-!
# Evaluations and queries

`evaluateDomain` and `evaluateDevice` evaluate and store.  The queries read what
was stored.  `evaluateAdmission` evaluates without storing, and answers for a
workload profile although the evaluation it runs knows of none: the profile enters
afterwards, through `admissionVerdict`.
-/

namespace ThermalGovernor

open Lib

/-! ### Admission requests -/

inductive AdmissionDecision
  | admitted | admitDerated | defer | deny | revalidationRequired | unknown | unsupported
  deriving DecidableEq

def AdmissionDecision.text : AdmissionDecision → String
  | admitted => "ADMIT"
  | admitDerated => "ADMIT_DERATED"
  | defer => "DEFER"
  | deny => "DENY"
  | revalidationRequired => "REVALIDATION_REQUIRED"
  | unknown => "UNKNOWN"
  | unsupported => "UNSUPPORTED"

/-- What a caller asks for. -/
structure ThermalAdmissionRequest where
  domain : ThermalDomainId := 0
  expectedDomainGeneration : ThermalDomainGeneration := 0
  workload : WorkloadId := 0
  profile : WorkloadThermalProfile := .unknownProfile
  requestedClass : ExecutionClass := .unrestricted
  requestedConcurrency : Option ℚ := none
  requestedClock : Option MegaHertz := none
  expectedPolicyGeneration : Option ThermalPolicyGeneration := none
  expectedCoordinatorEpoch : Option CoordinatorEpoch := none

/-- The constraint returned to the caller. -/
structure ThermalAdmissionResult where
  decision : AdmissionDecision := .unknown
  domain : ThermalDomainId := 0
  domainGeneration : ThermalDomainGeneration := 0
  workload : WorkloadId := 0
  profile : WorkloadThermalProfile := .unknownProfile
  permittedClass : ExecutionClass := .unrestricted
  permittedConcurrency : ℚ := 0
  permittedClockCeiling : Option MegaHertz := none
  governingLimit : DegreesCelsius := 0
  currentTemperature : DegreesCelsius := 0
  effectiveHeadroom : ℚ := 0
  requiredHeadroom : ℚ := 0
  derating : DeratingLevel := .unknown
  state : ThermalState := .unknown
  reasons : ReasonCodeSet := []
  constraints : MitigationIntentSet := []
  coordinatorEpoch : CoordinatorEpoch := 0
  policyGeneration : ThermalPolicyGeneration := 0
  telemetryGeneration : TelemetryGeneration := 0
  capabilityGeneration : CapabilityGeneration := 0
  topologyGeneration : TopologyGeneration := 0

namespace ThermalAdmissionResult

/-- Answer with a decision. -/
def decide (r : ThermalAdmissionResult) (decision : AdmissionDecision) :
    ThermalAdmissionResult := { r with decision := decision }

/-- Add a reason. -/
def because (r : ThermalAdmissionResult) (code : ThermalReasonCode) : ThermalAdmissionResult :=
  { r with reasons := r.reasons.add code }

end ThermalAdmissionResult

/-- The verdict on a request whose evaluation allows execution, derated or not. -/
def admitWithin (policy : ThermalPolicy) (request : ThermalAdmissionRequest)
    (requiredClass : ExecutionClass) (e : ThermalEvaluation) (r : ThermalAdmissionResult) :
    ThermalAdmissionResult :=
  let derated := e.decision = .allowDerated
  if ! e.headroom.meetsDemand r.requiredHeadroom && ! policy.admission.allowDeratedAdmission then
    (r.decide .deny).because .deratedAdmissionForbidden
  else
    let short := ! e.headroom.meetsDemand r.requiredHeadroom
    let r := r.because
      (if short then .deratedAdmissionAllowed else .effectiveHeadroomSufficient)
    let crowded := request.requestedConcurrency.any fun c => r.permittedConcurrency < c
    let r := if crowded then r.because .concurrencyCeilingApplied else r
    let downgraded := request.requestedClass ≠ .unrestricted &&
      r.permittedClass = .bestEffortThermal && request.requestedClass ≠ .bestEffortThermal
    let r := if downgraded then r.because .workloadRequiresDerating else r
    let excess := requiredClass ≠ .unrestricted && requiredClass ≠ r.permittedClass
    if excess && r.permittedClass = .bestEffortThermal then
      (r.decide (if policy.admission.allowDeratedAdmission then .admitDerated else .deny)).because
        .workloadRequiresDerating
    else
      let r := r.decide
        (if derated || short || crowded || downgraded || excess then .admitDerated else .admitted)
      { r with reasons := r.reasons.canonicalise }

/-- The verdict on a request, given the evaluation of its domain. -/
def admissionVerdict (policy : ThermalPolicy) (request : ThermalAdmissionRequest)
    (e : ThermalEvaluation) (r : ThermalAdmissionResult) : ThermalAdmissionResult :=
  match workloadExecutionClass policy request.profile with
  | none => (r.decide .deny).because .workloadProfileExcluded
  | some requiredClass =>
    match e.decision with
    | .unknown => r.decide .unknown
    | .unsupported => r.decide .unsupported
    | .revalidationRequired => r.decide .revalidationRequired
    | .deny => r.decide .deny
    | .defer =>
      (r.decide (if policy.admission.allowDefer then .defer else .deny)).because
        .admissionDeferredByPolicy
    | .allow | .allowDerated => admitWithin policy request requiredClass e r

namespace Governor

/-! ### Evaluate and store -/

/-- Evaluate a registered domain and store the result. -/
def evaluateAndStore (g : Governor) (domain : ThermalDomainId) :
    Governor × Result ThermalEvaluation :=
  match g.domains.find domain with
  | none => (g, failure .unknownDomain "thermal domain is not registered")
  | some definition =>
    match g.evaluateLocked definition with
    | (g, .error e) => (g, .error e)
    | (g, .ok e) => (g.recordTransition domain definition.generation e, .ok e)

def evaluateDomain (g : Governor) (domain : ThermalDomainId) :
    Governor × Result ThermalEvaluation := g.evaluateAndStore domain

theorem evaluateDomain_same (g : Governor) (domain : ThermalDomainId) :
    SameExceptEvaluations g (g.evaluateDomain domain).1 := by
  unfold evaluateDomain evaluateAndStore
  split
  · exact .refl g
  · rename_i definition hfind
    split
    · rename_i g' e heval
      exact same_of_evaluateLocked heval
    · rename_i g' e heval
      exact (same_of_evaluateLocked heval).trans (g'.recordTransition_same _ _ _)

def evaluateDevice (g : Governor) (device : DeviceId) : Governor × Result ThermalEvaluation :=
  match g.devices.lookup device with
  | none => (g, failure .unknownDevice "device is not registered")
  | some _ =>
    match g.domains.domainsForDevice device with
    | [] => (g, failure .unknownDomain "device is not a member of any thermal domain")
    | domain :: _ => g.evaluateAndStore domain

/-! ### Admission -/

/-- The fences of a request against the domain it names. -/
def admissionChecks (g : Governor) (request : ThermalAdmissionRequest)
    (definition : ThermalDomainDefinition) : List Check :=
  [ ⟨! isValid request.expectedDomainGeneration ||
        request.expectedDomainGeneration == definition.generation, .staleDomainGeneration,
      "admission request carries a stale thermal domain generation"⟩,
    ⟨request.expectedCoordinatorEpoch.all fun epoch => epoch == g.epoch, .staleEpoch,
      "admission request carries a stale coordinator epoch"⟩ ]

/-- The fence of a request against the policy of its domain. -/
def admissionPolicyCheck (request : ThermalAdmissionRequest) (policy : ThermalPolicy) : Check :=
  ⟨request.expectedPolicyGeneration.all fun generation => generation == policy.generation,
    .stalePolicy, "admission request carries a stale thermal policy generation"⟩

/-- The result before the verdict. -/
def admissionResult (g : Governor) (request : ThermalAdmissionRequest)
    (definition : ThermalDomainDefinition) (policy : ThermalPolicy) (e : ThermalEvaluation) :
    ThermalAdmissionResult where
  domain := definition.id
  domainGeneration := definition.generation
  workload := request.workload
  profile := request.profile
  state := e.state
  derating := e.derating
  governingLimit := e.headroom.governingLimit
  currentTemperature := e.headroom.currentTemperature
  effectiveHeadroom := e.headroom.effectiveHeadroom
  coordinatorEpoch := g.epoch
  policyGeneration := policy.generation
  telemetryGeneration := e.telemetryGeneration
  capabilityGeneration := g.capabilityGeneration
  topologyGeneration := g.topologyGeneration
  permittedClass := e.permittedExecutionClass
  permittedConcurrency := e.permittedConcurrency
  permittedClockCeiling := e.permittedClockCeiling
  requiredHeadroom :=
    policy.admission.minEffectiveHeadroom + workloadHeadroomDemand policy request.profile
  reasons := e.reasons
  constraints := e.intents

def evaluateAdmission (g : Governor) (request : ThermalAdmissionRequest) :
    Governor × Result ThermalAdmissionResult :=
  match g.domains.find request.domain with
  | none => (g, failure .unknownDomain "thermal domain is not registered")
  | some definition =>
    match runChecks (g.admissionChecks request definition) with
    | .error e => (g, .error e)
    | .ok () =>
      match g.policyFor definition with
      | none => (g, failure .unknownPolicy "no policy is registered for this domain")
      | some policy =>
        match runChecks [admissionPolicyCheck request policy] with
        | .error e => (g, .error e)
        | .ok () =>
          match g.evaluateLocked definition with
          | (g, .error e) => (g, .error e)
          | (g, .ok e) =>
            (g, .ok (admissionVerdict policy request e
              (g.admissionResult request definition policy e)))

/-! ### Queries -/

def queryHeadroom (g : Governor) (domain : ThermalDomainId) : Result HeadroomBreakdown :=
  match g.evaluations.lookup domain with
  | none => failure .unknownDomain "thermal domain has not been evaluated"
  | some e => .ok e.headroom

def queryEnvelope (g : Governor) (domain : ThermalDomainId) : Result ThermalEnvelope :=
  match g.domains.find domain with
  | none => failure .unknownDomain "thermal domain is not registered"
  | some definition =>
    match g.evaluations.lookup domain with
    | none => failure .revalidationRequired "thermal domain has not been evaluated"
    | some e => .ok (g.makeEnvelope definition e)

def queryState (g : Governor) (domain : ThermalDomainId) : Result ThermalState :=
  match g.domains.find domain with
  | none => failure .unknownDomain "thermal domain is not registered"
  | some _ =>
    match g.evaluations.lookup domain with
    | none => failure .revalidationRequired "thermal domain has not been evaluated"
    | some e => .ok e.state

/-! ### Recovery -/

/-- The assessment stored with the last evaluation. -/
def evaluateRecovery (g : Governor) (domain : ThermalDomainId) : Result RecoveryAssessment :=
  match g.domains.find domain with
  | none => failure .unknownDomain "thermal domain is not registered"
  | some definition =>
    match g.policyFor definition with
    | none => failure .unknownPolicy "no policy is registered for this domain"
    | some _ =>
      match g.evaluations.lookup domain with
      | none => failure .revalidationRequired "thermal domain has not been evaluated"
      | some e => .ok e.recovery

def authorizeRecovery (g : Governor) (domain : ThermalDomainId) : Governor × Status :=
  match g.domains.find domain with
  | none => (g, failure .unknownDomain "thermal domain is not registered")
  | some _ =>
    (publishLocked <| recomputeDomain
      { g with
        recoveryGeneration := advance g.recoveryGeneration
        explicitRecovery := insert domain g.explicitRecovery } domain, .ok ())

def revokeRecovery (g : Governor) (domain : ThermalDomainId) : Governor × Status :=
  match g.domains.find domain with
  | none => (g, failure .unknownDomain "thermal domain is not registered")
  | some _ =>
    (publishLocked <| recomputeDomain
      { g with explicitRecovery := g.explicitRecovery.erase domain } domain, .ok ())

end Governor

end ThermalGovernor
