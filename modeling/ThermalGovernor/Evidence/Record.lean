import ThermalGovernor.Core.Format
import ThermalGovernor.Core.Vocabulary

/-!
# Thermal evidence

A `ThermalEvidence` record is one temperature observation with the authority
metadata that decides whether it is admissible: the subject it is about, the
worker incarnation that took it, the generations it was taken under, its place
in that worker's sequence.

`validateEvidenceStructure` is the check every record passes before any of its
generations is compared, and `compareEvidence` places a new record against the
one held for the same subject.  The comparison looks at the sequence first, so
`lt_of_compareEvidence_independent` is all that a record which replaces another
one is known by: its sequence is strictly larger.
-/

namespace ThermalGovernor

/-! ### Subjects -/

/-- What kind of thing an observation is about. -/
inductive SubjectKind
  | device | node | rack | coolingZone | chassis | thermalDomain
  deriving DecidableEq

def SubjectKind.text : SubjectKind → String
  | device => "DEVICE"
  | node => "NODE"
  | rack => "RACK"
  | coolingZone => "COOLING_ZONE"
  | chassis => "CHASSIS"
  | thermalDomain => "THERMAL_DOMAIN"

/-- The subject of an observation.  The kind selects the identity family that is read. -/
structure SubjectRef where
  kind : SubjectKind := .device
  device : DeviceId := 0
  deviceGeneration : DeviceGeneration := 0
  node : NodeId := 0
  nodeGeneration : NodeGeneration := 0
  rack : RackId := 0
  rackGeneration : RackGeneration := 0
  coolingZone : CoolingZoneId := 0
  chassis : ChassisId := 0
  domain : ThermalDomainId := 0
  domainGeneration : ThermalDomainGeneration := 0
  deriving DecidableEq

namespace SubjectRef

def forDevice (id : DeviceId) (generation : DeviceGeneration) : SubjectRef :=
  { kind := .device, device := id, deviceGeneration := generation }

def forDomain (id : ThermalDomainId) (generation : ThermalDomainGeneration) : SubjectRef :=
  { kind := .thermalDomain, domain := id, domainGeneration := generation }

/-- The text a subject is indexed by. -/
def key (s : SubjectRef) : String :=
  s.kind.text ++ ":" ++
  match s.kind with
  | .device =>
    Format.unsignedDecimal s.device ++ ":" ++ Format.unsignedDecimal s.deviceGeneration
  | .node => Format.unsignedDecimal s.node ++ ":" ++ Format.unsignedDecimal s.nodeGeneration
  | .rack => Format.unsignedDecimal s.rack ++ ":" ++ Format.unsignedDecimal s.rackGeneration
  | .coolingZone => Format.unsignedDecimal s.coolingZone
  | .chassis => Format.unsignedDecimal s.chassis
  | .thermalDomain =>
    Format.unsignedDecimal s.domain ++ ":" ++ Format.unsignedDecimal s.domainGeneration

/-- The identity family selected by the kind is filled in. -/
def identityPresent (s : SubjectRef) : Bool :=
  match s.kind with
  | .device => isValid s.device && isValid s.deviceGeneration
  | .node => isValid s.node && isValid s.nodeGeneration
  | .rack => isValid s.rack && isValid s.rackGeneration
  | .coolingZone => isValid s.coolingZone
  | .chassis => isValid s.chassis
  | .thermalDomain => isValid s.domain && isValid s.domainGeneration

end SubjectRef

/-! ### Records -/

/-- Cooling evidence; an absent reading is `none`, never zero. -/
structure CoolingEvidence (R : Type := ℚ) where
  zone : CoolingZoneId := 0
  airInlet : Option R := none
  airOutlet : Option R := none
  liquidInlet : Option R := none
  liquidOutlet : Option R := none
  coolantFlowLitresPerMinute : Option R := none
  provenance : Provenance := .unknown
  deriving DecidableEq

def CoolingEvidence.hasAny (c : CoolingEvidence) : Bool :=
  c.airInlet.isSome || c.airOutlet.isSome || c.liquidInlet.isSome || c.liquidOutlet.isSome ||
    c.coolantFlowLitresPerMinute.isSome

/-- Fan telemetry, present only when a backend exposes it. -/
structure FanEvidence (R : Type := ℚ) where
  fanCount : Nat := 0
  speedPercent : Option R := none
  speedRpm : Option Nat := none
  provenance : Provenance := .unknown
  deriving DecidableEq

def FanEvidence.hasAny (f : FanEvidence) : Bool := f.speedPercent.isSome || f.speedRpm.isSome

/-- Freshness of evidence relative to a policy and an evaluation instant. -/
inductive FreshnessState
  | unknown | fresh | stale | generationInvalidated
  deriving DecidableEq

def FreshnessState.text : FreshnessState → String
  | unknown => "UNKNOWN"
  | fresh => "FRESH"
  | stale => "STALE"
  | generationInvalidated => "GENERATION_INVALIDATED"

/-- A single temperature observation with its authority metadata. -/
structure ThermalEvidence (R : Type := ℚ) where
  evidenceId : EvidenceId := 0
  subject : SubjectRef := {}
  domain : ThermalDomainId := 0
  domainGeneration : ThermalDomainGeneration := 0
  temperature : R := by exact 0
  source : MeasurementSource := .unknown
  provenance : Provenance := .unknown
  measurementSequence : Nat := 0
  telemetryGeneration : TelemetryGeneration := 0
  worker : WorkerId := 0
  workerBoot : WorkerBootId := 0
  coordinatorEpoch : CoordinatorEpoch := 0
  measuredAt : SteadyTimePoint := 0
  measuredWallAt : Int := 0
  capabilityGeneration : CapabilityGeneration := 0
  topologyGeneration : TopologyGeneration := 0
  integrity : IntegrityStatus := .ok
  throttle : Option ThrottleObservation := none
  temperatureLimit : Option R := none
  shutdownLimit : Option R := none
  currentClock : Option MegaHertz := none
  maxClock : Option MegaHertz := none
  cooling : Option (CoolingEvidence R) := none
  fan : Option (FanEvidence R) := none
  confidence : Option R := none
  freshness : FreshnessState := .unknown
  deriving DecidableEq

/-- The provenances a measurement source can support. -/
def provenanceMatchesSource (source : MeasurementSource) (provenance : Provenance) : Bool :=
  match source with
  | .nvmlGpuTemperature | .nvmlTemperatureThreshold | .cudaDeviceAttribute => provenance = .real
  | .syntheticModel => provenance = .synthetic
  | .platformSensor | .nodeSensor | .rackSensor | .coolingZoneSensor =>
    provenance = .real || provenance = .synthetic || provenance = .unsupported
  | .operatorInjected => provenance = .synthetic || provenance = .real
  | .unknown => true

/-- The structural checks of a record, in the order of the source. -/
def evidenceChecks (e : ThermalEvidence) : List Check :=
  [ ⟨DegreesCelsius.valid e.temperature, .temperatureInvalid, "temperature outside the representable range"⟩,
    ⟨e.subject.identityPresent, .invalidArgument,
      "evidence subject identity is incomplete for its kind"⟩,
    ⟨isValid e.telemetryGeneration, .invalidArgument, "telemetry generation must be non-zero"⟩,
    ⟨isValid e.coordinatorEpoch, .invalidArgument, "coordinator epoch must be non-zero"⟩,
    ⟨isValid e.worker == isValid e.workerBoot, .invalidArgument,
      "worker identity and worker boot identity must be supplied together"⟩,
    ⟨e.confidence.all fun c => 0 ≤ c && c ≤ 1, .invalidArgument,
      "confidence must lie in [0, 1]"⟩,
    ⟨e.temperatureLimit.all DegreesCelsius.valid, .temperatureInvalid,
      "temperature limit outside the representable range"⟩,
    ⟨e.shutdownLimit.all DegreesCelsius.valid, .temperatureInvalid,
      "shutdown limit outside the representable range"⟩,
    ⟨provenanceMatchesSource e.source e.provenance, .invalidArgument,
      "evidence provenance overstates its measurement source"⟩,
    ⟨! (e.cooling.any (fun c => c.provenance = .real) && e.source = .syntheticModel),
      .invalidArgument, "synthetic evidence cannot carry real cooling provenance"⟩,
    ⟨e.integrity ≠ .failed, .evidenceStale, "evidence integrity check failed"⟩ ]

/-- Validate the structure of a record. -/
def validateEvidenceStructure (e : ThermalEvidence) : Status := runChecks (evidenceChecks e)

/-! ### Comparison -/

/-- An optional field of a digest: its text when the value is there. -/
def optionalText {α : Type} (render : α → String) : Option α → String
  | some a => render a
  | none => ""

/-- The canonical text of a record. -/
def canonicalEvidenceDigest (e : ThermalEvidence) : String :=
  let d := Format.unsignedDecimal
  Format.join
    [d e.evidenceId, e.subject.key, d e.domain, d e.domainGeneration,
      Format.number e.temperature, e.source.text, e.provenance.text, d e.measurementSequence,
      d e.telemetryGeneration, d e.worker, d e.workerBoot, d e.coordinatorEpoch,
      d e.capabilityGeneration, d e.topologyGeneration, e.integrity.text] "|" ++
  optionalText (fun t => "|T:" ++ d t.rawReasons ++ ":" ++ t.classification.text) e.throttle ++
  optionalText (fun t => "|L:" ++ Format.number t) e.temperatureLimit ++
  optionalText (fun t => "|S:" ++ Format.number t) e.shutdownLimit ++
  optionalText (fun c => "|C:" ++ d c) e.currentClock ++
  optionalText (fun c => "|M:" ++ d c) e.maxClock ++
  optionalText
    (fun f => if f.hasAny then
        "|F:" ++ optionalText Format.number f.speedPercent ++ ":" ++ optionalText d f.speedRpm
      else "") e.fan ++
  optionalText
    (fun c => if c.hasAny then
        "|K:" ++ optionalText Format.number c.airInlet ++ ":" ++
          optionalText Format.number c.liquidInlet ++ ":" ++
          optionalText Format.number c.coolantFlowLitresPerMinute
      else "") e.cooling ++
  optionalText (fun c => "|P:" ++ Format.number c) e.confidence

/-- How a new record stands to the one held for the same subject. -/
inductive EvidenceComparison
  | independent | identicalDuplicate | conflictingDuplicate | superseded
  deriving DecidableEq

def compareEvidence (held incoming : ThermalEvidence) : EvidenceComparison :=
  if incoming.measurementSequence < held.measurementSequence then .superseded
  else if incoming.evidenceId = held.evidenceId ∨
      incoming.measurementSequence = held.measurementSequence then
    if canonicalEvidenceDigest incoming = canonicalEvidenceDigest held then .identicalDuplicate
    else .conflictingDuplicate
  else .independent

/-- **A record that replaces another one is later in the sequence.** -/
theorem lt_of_compareEvidence_independent {held incoming : ThermalEvidence}
    (h : compareEvidence held incoming = .independent) :
    held.measurementSequence < incoming.measurementSequence := by
  unfold compareEvidence at h
  split at h
  · cases h
  · split at h
    · split at h <;> cases h
    · rename_i hlt hne
      rw [not_or] at hne
      omega

/-- A record compared with itself is an identical duplicate. -/
theorem compareEvidence_self (e : ThermalEvidence) :
    compareEvidence e e = .identicalDuplicate := by
  simp [compareEvidence]

end ThermalGovernor
