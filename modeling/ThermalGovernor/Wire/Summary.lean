import ThermalGovernor.Evaluation.Evaluate
import ThermalGovernor.Wire.Reads

/-!
# Summaries of evaluations

`summarise` takes from an evaluation what is reported of it, and the summary goes over the wire
as the other payloads do.  The reader asks more of a summary than the evaluation promises: the
temperature and the governing limit must be readings, and the effective headroom a difference
of readings (`Scalar.isDelta`).  `exact_summary` says that this and the two counts are all.

The codes of the reasons are written in two bytes and taken back as they are, whether they name
a reason or not.
-/

namespace ThermalGovernor

open Lib Lib.Decoder Lib.Input

/-- A difference of temperatures that is taken from outside. -/
def Scalar.isDelta {R : Type} [Scalar R] (t : R) : Bool :=
  Scalar.le (Scalar.ofRat (-2000)) t && Scalar.le t (Scalar.ofRat 2000)

/-- A compact summary of an evaluation.  Reasons are kept by their values. -/
structure EvaluationSummary (R : Type := ℚ) where
  domain : ThermalDomainId := 0
  domainGeneration : ThermalDomainGeneration := 0
  device : DeviceId := 0
  deviceGeneration : DeviceGeneration := 0
  state : ThermalState := .unknown
  derating : DeratingLevel := .unknown
  decision : ThermalDecision := .unknown
  throttleClass : ThrottleClass := .throttleUnknown
  provenance : Provenance := .unknown
  temperature : R
  governingLimit : R
  effectiveHeadroom : R
  permittedConcurrency : R
  recoveryAllowed : Bool := false
  qualifyingSamples : Nat := 0
  requiredSamples : Nat := 0
  coordinatorEpoch : CoordinatorEpoch := 0
  policyGeneration : ThermalPolicyGeneration := 0
  telemetryGeneration : TelemetryGeneration := 0
  requiredIntents : List MitigationIntent := []
  reasons : List Nat := []

namespace Wire

/-- Build a summary from a full evaluation. -/
def summarise (e : ThermalEvaluation) : EvaluationSummary where
  domain := e.domain
  domainGeneration := e.domainGeneration
  state := e.state
  derating := e.derating
  decision := e.decision
  throttleClass := e.throttleClass
  provenance := e.provenance
  temperature := e.headroom.currentTemperature
  governingLimit := e.headroom.governingLimit
  effectiveHeadroom := e.headroom.effectiveHeadroom
  permittedConcurrency := e.permittedConcurrency
  recoveryAllowed := e.recovery.allowed
  qualifyingSamples := e.recovery.qualifyingSamples
  requiredSamples := e.recovery.requiredSamples
  coordinatorEpoch := e.coordinatorEpoch
  policyGeneration := e.policyGeneration
  telemetryGeneration := e.telemetryGeneration
  requiredIntents := e.intents.map MitigationIntentRecord.intent
  reasons := e.reasons.map ThermalReasonCode.value

variable {R C β : Type} [Input R C] {b : β} {c c' : C}

/-! ### The codec -/

/-- A number of two bytes, the lower one first. -/
def writeU16 (value : Nat) : Payload R := [.u8 (value % 256), .u8 (value / 256)]

def readU16 : RecordReader C Nat := do
  let low ← u8
  let high ← u8
  pure (low + 256 * high)

def writeSummary (s : EvaluationSummary R) : Payload R :=
  [ .u64 s.domain, .u64 s.domainGeneration, .u64 s.device, .u64 s.deviceGeneration,
    .u8 s.state.ctorIdx, .u8 s.derating.ctorIdx, .u8 s.decision.ctorIdx,
    .u8 s.throttleClass.ctorIdx, .u8 s.provenance.ctorIdx, .real s.temperature,
    .real s.governingLimit, .real s.effectiveHeadroom, .real s.permittedConcurrency,
    .u8 (Durable.bit s.recoveryAllowed), .u32 s.qualifyingSamples, .u32 s.requiredSamples,
    .u64 s.coordinatorEpoch, .u64 s.policyGeneration, .u64 s.telemetryGeneration,
    .u32 s.requiredIntents.length ] ++
  s.requiredIntents.flatMap (fun intent => [.u8 intent.ctorIdx]) ++
  [.u32 s.reasons.length] ++ s.reasons.flatMap writeU16

def invalidEnumeration : ThermalError :=
  corrupt "evaluation summary carries an invalid enumeration"

def invalidTemperature : ThermalError :=
  corrupt "evaluation summary carries an invalid temperature"

def invalidIntent : ThermalError := corrupt "evaluation summary carries an invalid intent"

def malformedSummary : ThermalError := corrupt "evaluation summary payload is malformed"

/-- A difference of temperatures that must be representable. -/
def readDelta [Scalar R] : RecordReader C R := do
  let raw ← real
  require (Scalar.isDelta raw) malformed
  pure raw

def readIntent : RecordReader C MitigationIntent := do
  let intent ← u8
  requireOk invalidIntent
  require (intent < MitigationIntent.count) invalidIntent
  pure (.ofNat intent)

def readSummary [Scalar R] (limits : WireLimits) : RecordReader C (EvaluationSummary R) := do
  let domain ← u64
  let domainGeneration ← u64
  let device ← u64
  let deviceGeneration ← u64
  let state ← u8
  let derating ← u8
  let decision ← u8
  let throttle ← u8
  let provenance ← u8
  requireOk invalidEnumeration
  require (state < 9 && derating ≤ 9 && decision ≤ 6 &&
    throttle ≤ ThrottleClass.throttleUnsupported.ctorIdx &&
    provenance ≤ Provenance.unsupported.ctorIdx) invalidEnumeration
  let temperature ← refuse invalidTemperature readTemperature
  let governingLimit ← refuse invalidTemperature readTemperature
  let effectiveHeadroom ← refuse invalidTemperature readDelta
  let permittedConcurrency ← real
  let recovery ← u8
  let qualifyingSamples ← u32
  let requiredSamples ← u32
  let coordinatorEpoch ← u64
  let policyGeneration ← u64
  let telemetryGeneration ← u64
  let intentCount ← u32
  requireOk (corrupt "evaluation summary intent count is out of range")
  require (intentCount ≤ limits.maxIntents)
    (corrupt "evaluation summary intent count is out of range")
  let requiredIntents ← many readIntent intentCount
  let reasonCount ← u32
  requireOk (corrupt "evaluation summary reason count is out of range")
  require (reasonCount ≤ limits.maxIntents)
    (corrupt "evaluation summary reason count is out of range")
  let reasons ← many readU16 reasonCount
  require (recovery ≤ 1) malformedSummary
  pure
    { domain := domain
      domainGeneration := domainGeneration
      device := device
      deviceGeneration := deviceGeneration
      state := .ofNat state
      derating := .ofNat derating
      decision := .ofNat decision
      throttleClass := .ofNat throttle
      provenance := .ofNat provenance
      temperature := temperature
      governingLimit := governingLimit
      effectiveHeadroom := effectiveHeadroom
      permittedConcurrency := permittedConcurrency
      recoveryAllowed := recovery ≠ 0
      qualifyingSamples := qualifyingSamples
      requiredSamples := requiredSamples
      coordinatorEpoch := coordinatorEpoch
      policyGeneration := policyGeneration
      telemetryGeneration := telemetryGeneration
      requiredIntents := requiredIntents
      reasons := reasons }

def encodeEvaluationSummary (s : EvaluationSummary Double) : Bytes := (writeSummary s).bytes

def decodeEvaluationSummary (limits : WireLimits) : Bytes → Result (EvaluationSummary Double) :=
  decodeWith (readSummary limits) malformedSummary

/-! ### What the reader takes -/

theorem exact_u16 {value : Nat} (hfits : FitsAll C (writeU16 value : Payload R)) :
    Exact (readU16 : RecordReader C Nat) (writeU16 value) True value := by
  intro c a c'
  simp only [FitsAll, writeU16, List.forall_mem_cons] at hfits
  have hvalue : value % 256 + 256 * (value / 256) = value := Nat.mod_add_div value 256
  simp [-bind_pure_comp, readU16, writeU16, hfits, hvalue]

theorem exact_readDelta [Scalar R] {v : R} (h : Fits C (.real v)) :
    Exact (readDelta : RecordReader C R) [.real v] (Scalar.isDelta v = true) v := by
  intro c a c'
  simp [-bind_pure_comp, readDelta, h]

@[simp] theorem yields_refuse_temperature_bind [Scalar R] {f : R → RecordReader C β} {v : R}
    (h : Fits C (.real v)) :
    Yields (refuse invalidTemperature readTemperature >>= f) (write (.real v) c) b c' ↔
      Scalar.isReading v = true ∧ Yields (f v) c b c' :=
  (exact_readTemperature h).refuse.bind_iff (p := [.real v])

@[simp] theorem yields_refuse_delta_bind [Scalar R] {f : R → RecordReader C β} {v : R}
    (h : Fits C (.real v)) :
    Yields (refuse invalidTemperature readDelta >>= f) (write (.real v) c) b c' ↔
      Scalar.isDelta v = true ∧ Yields (f v) c b c' :=
  (exact_readDelta h).refuse.bind_iff (p := [.real v])

theorem exact_intent {intent : MitigationIntent}
    (hfits : FitsAll C ([.u8 intent.ctorIdx] : Payload R)) :
    Exact (readIntent : RecordReader C MitigationIntent) [.u8 intent.ctorIdx] True intent := by
  intro c a c'
  have hintent : intent.ctorIdx < MitigationIntent.count := intent.ctorIdx_lt
  simp only [FitsAll, List.forall_mem_cons] at hfits
  simp [-bind_pure_comp, readIntent, hfits, hintent, MitigationIntent.ofNat_ctorIdx]

/-- The bounds of the reader on a summary. -/
@[mk_iff] structure SummaryBounds [Scalar R] (limits : WireLimits) (s : EvaluationSummary R) :
    Prop where
  temperature : Scalar.isReading s.temperature = true
  governingLimit : Scalar.isReading s.governingLimit = true
  effectiveHeadroom : Scalar.isDelta s.effectiveHeadroom = true
  intents : s.requiredIntents.length ≤ limits.maxIntents
  reasons : s.reasons.length ≤ limits.maxIntents

theorem exact_summary [Scalar R] {limits : WireLimits} {s : EvaluationSummary R}
    (hfits : FitsAll C (writeSummary s)) :
    Exact (readSummary limits : RecordReader C (EvaluationSummary R)) (writeSummary s)
      (SummaryBounds limits s) s := by
  intro c a c'
  have hstate := s.state.ctorIdx_lt
  have hderating : s.derating.ctorIdx ≤ 9 := Nat.le_of_lt_succ s.derating.ctorIdx_lt
  have hdecision : s.decision.ctorIdx ≤ 6 := by cases s.decision <;> decide
  have hthrottle : s.throttleClass.ctorIdx ≤ ThrottleClass.throttleUnsupported.ctorIdx := by
    cases s.throttleClass <;> decide
  have hprovenance := s.provenance.ctorIdx_le
  simp only [FitsAll, writeSummary, List.forall_mem_append] at hfits
  obtain ⟨⟨⟨hhead, hintents⟩, hcount⟩, hreasons⟩ := hfits
  simp only [List.forall_mem_cons] at hhead hcount
  have hintent : Exact (many readIntent s.requiredIntents.length :
      RecordReader C (List MitigationIntent)) _ _ _ :=
    exact_many hintents fun intent h => exact_intent h
  have hreason : Exact (many readU16 s.reasons.length : RecordReader C (List Nat)) _ _ _ :=
    exact_many hreasons fun value h => exact_u16 h
  simp [-bind_pure_comp, readSummary, writeSummary, hhead, hcount, hstate, hderating, hdecision,
    hthrottle, hprovenance, hintent.bind_iff, hreason.bind_iff, ThermalState.ofNat_ctorIdx,
    DeratingLevel.ofNat_ctorIdx, ThermalDecision.ofNat_ctorIdx, ThrottleClass.ofNat_ctorIdx,
    Provenance.ofNat_ctorIdx, summaryBounds_iff, and_assoc]

/-- **A summary comes back from the wire exactly within the bounds of the reader.** -/
theorem decodeEvaluationSummary_iff {limits : WireLimits} {s : EvaluationSummary Double}
    (hfits : FitsAll Reader (writeSummary s)) :
    decodeEvaluationSummary limits (encodeEvaluationSummary s) = .ok s ↔
      SummaryBounds limits s :=
  decodeWith_bytes_iff (exact_summary hfits)

end Wire

end ThermalGovernor
