import Mathlib.Order.Basic

/-!
# The vocabulary of thermal evidence

The enumerations that evidence and evaluation speak in: where knowledge comes
from (`Provenance`, `MeasurementSource`), what a backend can measure
(`ThermalCapability`, `CapabilityState`), what was observed of the clocks
(`ThrottleObservation`), and the nine thermal states.  Each text function is the
source's `to_string`, since digests and error texts are built from them.

The states fall into three classes, and `ThermalState.trichotomy` says they are
disjoint and cover everything: healthy, restrictive, unresolved.
-/

namespace ThermalGovernor

/-! ### Provenance -/

/-- Where a piece of thermal knowledge came from. -/
inductive Provenance
  | unknown | real | synthetic | unsupported
  deriving DecidableEq

namespace Provenance

def text : Provenance → String
  | unknown => "UNKNOWN"
  | real => "REAL"
  | synthetic => "SYNTHETIC"
  | unsupported => "UNSUPPORTED"

/-- The weakest honest classification of two. -/
def combine (a b : Provenance) : Provenance :=
  if a = b then a
  else if a = unsupported ∨ b = unsupported then unsupported
  else if a = unknown ∨ b = unknown then unknown
  else synthetic

theorem combine_comm (a b : Provenance) : combine a b = combine b a := by
  cases a <;> cases b <;> rfl

/-- Combining never yields `real` unless everything combined was real. -/
theorem combine_eq_real {a b : Provenance} : combine a b = real ↔ a = real ∧ b = real := by
  cases a <;> cases b <;> decide

end Provenance

/-- Origin of a temperature measurement. -/
inductive MeasurementSource
  | unknown | nvmlGpuTemperature | nvmlTemperatureThreshold | cudaDeviceAttribute
  | platformSensor | nodeSensor | rackSensor | coolingZoneSensor | operatorInjected
  | syntheticModel
  deriving DecidableEq

def MeasurementSource.text : MeasurementSource → String
  | unknown => "UNKNOWN"
  | nvmlGpuTemperature => "NVML_GPU_TEMPERATURE"
  | nvmlTemperatureThreshold => "NVML_TEMPERATURE_THRESHOLD"
  | cudaDeviceAttribute => "CUDA_DEVICE_ATTRIBUTE"
  | platformSensor => "PLATFORM_SENSOR"
  | nodeSensor => "NODE_SENSOR"
  | rackSensor => "RACK_SENSOR"
  | coolingZoneSensor => "COOLING_ZONE_SENSOR"
  | operatorInjected => "OPERATOR_INJECTED"
  | syntheticModel => "SYNTHETIC_MODEL"

/-- Integrity of a received evidence record. -/
inductive IntegrityStatus
  | ok | degraded | failed
  deriving DecidableEq

def IntegrityStatus.text : IntegrityStatus → String
  | ok => "OK"
  | degraded => "DEGRADED"
  | failed => "FAILED"

/-! ### Capabilities -/

/-- Thermal capabilities, each resolved on its own. -/
inductive ThermalCapability
  | deviceIdentity | temperature | temperatureLimit | temperatureThresholdShutdown
  | temperatureThresholdSlowdown | throttleReasons | currentClock | maxClock | fanTelemetry
  | coolingTelemetry | thermalDomainMetadata | nodeThermalMetadata | rackThermalMetadata
  | actualThrottleEnforcement | clockReductionEnforcement
  deriving DecidableEq

/-- Resolution of a single capability. -/
inductive CapabilityState
  | unknown | supportedReal | supportedReadOnly | supportedSynthetic | unsupported
  deriving DecidableEq

namespace CapabilityState

def text : CapabilityState → String
  | unknown => "UNKNOWN"
  | supportedReal => "SUPPORTED_REAL"
  | supportedReadOnly => "SUPPORTED_READ_ONLY"
  | supportedSynthetic => "SUPPORTED_SYNTHETIC"
  | unsupported => "UNSUPPORTED"

def isSupported : CapabilityState → Bool
  | supportedReal | supportedReadOnly | supportedSynthetic => true
  | unknown | unsupported => false

end CapabilityState

/-- The capabilities of one subject and the generation they were published at. -/
structure CapabilitySet where
  states : ThermalCapability → CapabilityState := fun _ => .unknown
  details : ThermalCapability → String := fun _ => ""
  generation : Nat := 0

namespace CapabilitySet

def get (s : CapabilitySet) (c : ThermalCapability) : CapabilityState := s.states c

def set (s : CapabilitySet) (c : ThermalCapability) (state : CapabilityState)
    (detail : String) : CapabilitySet :=
  { s with
    states := fun c' => if c' = c then state else s.states c'
    details := fun c' => if c' = c then detail else s.details c' }

@[simp] theorem get_set (s : CapabilitySet) (c c' : ThermalCapability) (state : CapabilityState)
    (detail : String) : (s.set c state detail).get c' = if c' = c then state else s.get c' := rfl

end CapabilitySet

/-! ### Throttling -/

/-- Classification of the observed throttle condition. -/
inductive ThrottleClass
  | throttleUnknown | noThrottleObserved | thermalThrottleObserved
  | nonThermalThrottleObserved | throttleUnsupported
  deriving DecidableEq

def ThrottleClass.text : ThrottleClass → String
  | throttleUnknown => "THROTTLE_UNKNOWN"
  | noThrottleObserved => "NO_THROTTLE_OBSERVED"
  | thermalThrottleObserved => "THERMAL_THROTTLE_OBSERVED"
  | nonThermalThrottleObserved => "NON_THERMAL_THROTTLE_OBSERVED"
  | throttleUnsupported => "THROTTLE_UNSUPPORTED"

/-- Software, hardware and sensor thermal slowdown, and hardware slowdown: bits 5, 6, 9, 3. -/
def thermalThrottleMask : Nat := 1 <<< 5 ||| 1 <<< 6 ||| 1 <<< 3 ||| 1 <<< 9

/-- The reasons that reduce clocks without a thermal cause: bits 2, 7, 1, 4, 8, 10, 11. -/
def nonThermalThrottleMask : Nat :=
  1 <<< 2 ||| 1 <<< 7 ||| 1 <<< 1 ||| 1 <<< 4 ||| 1 <<< 8 ||| 1 <<< 10 ||| 1 <<< 11

/-- A throttle observation: the raw reason bits and what they were classified as. -/
structure ThrottleObservation where
  rawReasons : Nat := 0
  classification : ThrottleClass := .throttleUnknown
  deriving DecidableEq

namespace ThrottleObservation

/-- Thermal slowdown dominates any co-occurring non-thermal reason. -/
def fromRaw (raw : Nat) : ThrottleObservation where
  rawReasons := raw
  classification :=
    if raw &&& thermalThrottleMask ≠ 0 then .thermalThrottleObserved
    else if raw &&& nonThermalThrottleMask ≠ 0 then .nonThermalThrottleObserved
    else .noThrottleObserved

def unsupported : ThrottleObservation := { classification := .throttleUnsupported }

def unknown : ThrottleObservation := {}

def thermalActive (o : ThrottleObservation) : Bool :=
  o.classification = .thermalThrottleObserved

def anyThrottle (o : ThrottleObservation) : Bool :=
  o.classification = .thermalThrottleObserved || o.classification = .nonThermalThrottleObserved

end ThrottleObservation

/-! ### Thermal states -/

/-- Explicit thermal state.  `derated` is a proactive restriction, `throttling` is
actual throttle evidence. -/
inductive ThermalState
  | normal | warm | nearLimit | derated | throttling | critical | revalidationRequired
  | unknown | unsupported
  deriving DecidableEq

namespace ThermalState

def text : ThermalState → String
  | normal => "NORMAL"
  | warm => "WARM"
  | nearLimit => "NEAR_LIMIT"
  | derated => "DERATED"
  | throttling => "THROTTLING"
  | critical => "CRITICAL"
  | revalidationRequired => "REVALIDATION_REQUIRED"
  | unknown => "UNKNOWN"
  | unsupported => "UNSUPPORTED"

/-- Severity rank used for monotonicity checks. -/
def severity : ThermalState → Nat
  | normal => 0
  | warm => 1
  | nearLimit => 2
  | derated => 3
  | throttling => 4
  | critical => 5
  | revalidationRequired => 6
  | unknown => 7
  | unsupported => 8

/-- The state captures a restriction on execution authority. -/
def isRestrictive (s : ThermalState) : Bool :=
  s = derated || s = throttling || s = critical

/-- The state represents absence of trustworthy thermal knowledge. -/
def isUnresolved (s : ThermalState) : Bool :=
  s = unknown || s = unsupported || s = revalidationRequired

/-- Leaving the state takes positive fresh evidence. -/
def requiresRecoveryGate (s : ThermalState) : Bool :=
  s = derated || s = throttling || s = critical || s = revalidationRequired

/-- `normal`, `warm` or `nearLimit`. -/
def isHealthy (s : ThermalState) : Bool :=
  s = normal || s = warm || s = nearLimit

theorem isHealthy_iff (s : ThermalState) :
    s.isHealthy = true ↔ s.isRestrictive = false ∧ s.isUnresolved = false := by
  cases s <;> decide

theorem not_restrictive_of_healthy {s : ThermalState} (h : s.isHealthy = true) :
    s.isRestrictive = false := ((isHealthy_iff s).mp h).1

/-- **Every state is healthy, restrictive or unresolved, and only one of them.** -/
theorem trichotomy (s : ThermalState) :
    (s.isHealthy = true ∧ s.isRestrictive = false ∧ s.isUnresolved = false) ∨
    (s.isHealthy = false ∧ s.isRestrictive = true ∧ s.isUnresolved = false) ∨
    (s.isHealthy = false ∧ s.isRestrictive = false ∧ s.isUnresolved = true) := by
  cases s <;> decide

/-- The recovery gate guards the restrictive states and the demand for revalidation. -/
theorem isRestrictive_of_gate {s : ThermalState} (h : s.requiresRecoveryGate = true)
    (hs : s ≠ revalidationRequired) : s.isRestrictive = true := by
  cases s <;> first | rfl | exact absurd rfl hs | cases h

theorem severity_injective {s s' : ThermalState} (h : s.severity = s'.severity) : s = s' := by
  revert h
  cases s <;> cases s' <;> decide

end ThermalState

end ThermalGovernor
