import ThermalGovernor.Backend.Synthetic

/-!
# The NVML backend

The backend asks a loaded vendor library, whose entry points are the parameters of `NvmlApi`;
those that the library may lack are optional.  Its capabilities are classified by asking about
the first device, and each query asks again.

The two agree about the first device (`reported_iff_told`), except for its fans: a device without
fans is reported to have fan telemetry, and its fan state is refused as unsupported.
-/

namespace ThermalGovernor

/-- What a call of the library returns. -/
abbrev NvmlReturn := Int

namespace Nvml

def success : NvmlReturn := 0
def errorNotSupported : NvmlReturn := 3

def temperatureGpu : Nat := 0
def thresholdShutdown : Nat := 0
def thresholdSlowdown : Nat := 1
def thresholdGpuMax : Nat := 3
def clockGraphics : Nat := 0

end Nvml

/-- The entry points of the library.  A call returns its code and what it writes. -/
structure NvmlApi (Handle : Type) where
  errorString : NvmlReturn → String
  systemGetNvmlVersion : Option (NvmlReturn × String) := none
  deviceGetCount : NvmlReturn × Nat
  deviceGetHandleByIndex : Nat → NvmlReturn × Option Handle
  deviceGetUuid : Handle → String
  deviceGetName : Handle → String
  deviceGetPciInfo : Option (Handle → String) := none
  deviceGetTemperature : Handle → Nat → NvmlReturn × Nat
  deviceGetTemperatureThreshold : Option (Handle → Nat → NvmlReturn × Nat) := none
  deviceGetCurrentClocksThrottleReasons : Option (Handle → NvmlReturn × Nat) := none
  deviceGetClockInfo : Option (Handle → Nat → NvmlReturn × Nat) := none
  deviceGetMaxClockInfo : Option (Handle → Nat → NvmlReturn × Nat) := none
  deviceGetNumFans : Option (Handle → NvmlReturn × Nat) := none
  deviceGetFanSpeed : Option (Handle → NvmlReturn × Nat) := none

/-- A device as it was enumerated. -/
structure NvmlDevice (Handle : Type) where
  handle : Handle
  uuid : String
  name : String
  pciId : String

structure NvmlThermalBackend (Handle : Type) where
  api : NvmlApi Handle
  devices : List (NvmlDevice Handle)

namespace NvmlThermalBackend

open Nvml

variable {Handle : Type}

/-- The device at an index, if the library gives a handle of it. -/
def enumerated (api : NvmlApi Handle) (index : Nat) : Option (NvmlDevice Handle) :=
  let (code, handle) := api.deviceGetHandleByIndex index
  if code ≠ success then none
  else handle.map fun handle =>
    { handle := handle
      uuid := api.deviceGetUuid handle
      name := api.deviceGetName handle
      pciId := (api.deviceGetPciInfo.map fun info => info handle).getD "" }

/-- The devices of an initialised library. -/
def create (api : NvmlApi Handle) : Result (NvmlThermalBackend Handle) :=
  if api.deviceGetCount.1 ≠ success then
    failure .backendFailure "NVML device enumeration failed"
  else
    .ok ⟨api, (List.range api.deviceGetCount.2).filterMap (enumerated api)⟩

variable (b : NvmlThermalBackend Handle)

/-- Device identities count from one. -/
def handleFor (device : DeviceId) : Option Handle :=
  if device = 0 ∨ device > b.devices.length then none
  else b.devices[device - 1]?.map (·.handle)

def errorFrom (code : NvmlReturn) (what : String) : ThermalError :=
  ⟨.backendFailure, what ++ ": " ++ b.api.errorString code⟩

def nvmlVersion : String :=
  match b.api.systemGetNvmlVersion with
  | some (code, version) => if code = success then version else ""
  | none => ""

/-! ### Capabilities -/

def classify (code : NvmlReturn) : CapabilityState :=
  if code = success then .supportedReal
  else if code = errorNotSupported then .unsupported
  else .unknown

/-- An entry point that may be lacking, asked about a device. -/
def classifyCall (call : Option (Handle → NvmlReturn × Nat)) (probe : Handle) : CapabilityState :=
  match call with
  | none => .unsupported
  | some call => classify (call probe).1

/-- Likewise one that is asked for one of several values. -/
def classifyValue (call : Option (Handle → Nat → NvmlReturn × Nat)) (probe : Handle) (value : Nat) :
    CapabilityState :=
  classifyCall (call.map fun call handle => call handle value) probe

def classifyFans (probe : Handle) : CapabilityState :=
  match b.api.deviceGetNumFans, b.api.deviceGetFanSpeed with
  | some numFans, some fanSpeed =>
    if (numFans probe).1 = success ∧ (numFans probe).2 > 0 then classify (fanSpeed probe).1
    else classify (numFans probe).1
  | _, _ => .unsupported

/-- What is known without a device. -/
def withoutProbe : CapabilitySet :=
  (({} : CapabilitySet).set .deviceIdentity
      (if b.devices = [] then .unsupported else .supportedReal) "")
    |>.set .thermalDomainMetadata .unsupported ""
    |>.set .nodeThermalMetadata .unsupported ""
    |>.set .rackThermalMetadata .unsupported ""
    |>.set .coolingTelemetry .unsupported ""
    |>.set .actualThrottleEnforcement .unsupported ""
    |>.set .clockReductionEnforcement .unsupported ""

/-- What the library says about the first device. -/
def withProbe (probe : Handle) : CapabilitySet :=
  b.withoutProbe
    |>.set .temperature (classify (b.api.deviceGetTemperature probe temperatureGpu).1) ""
    |>.set .temperatureLimit
      (classifyValue b.api.deviceGetTemperatureThreshold probe thresholdGpuMax) ""
    |>.set .temperatureThresholdShutdown
      (classifyValue b.api.deviceGetTemperatureThreshold probe thresholdShutdown) ""
    |>.set .temperatureThresholdSlowdown
      (classifyValue b.api.deviceGetTemperatureThreshold probe thresholdSlowdown) ""
    |>.set .throttleReasons (classifyCall b.api.deviceGetCurrentClocksThrottleReasons probe) ""
    |>.set .currentClock (classifyValue b.api.deviceGetClockInfo probe clockGraphics) ""
    |>.set .maxClock (classifyValue b.api.deviceGetMaxClockInfo probe clockGraphics) ""
    |>.set .fanTelemetry (b.classifyFans probe) ""

/-- The loop behind a probe writes what is unknown once more as unknown. -/
def capabilities : BackendCapabilities where
  backendName := "nvml"
  backendVersion := b.nvmlVersion
  provenance := .real
  capabilities :=
    match b.devices with
    | [] =>
      Durable.allCapabilities.foldl
        (fun set c => if set.get c = .unknown then set.set c .unsupported "" else set)
        b.withoutProbe
    | probe :: _ => b.withProbe probe.handle

/-! ### Queries -/

def query {α : Type} (device : DeviceId) (ask : Handle → Result α) : Result α :=
  match b.handleFor device with
  | none => failure .unknownDevice "NVML device index is not present"
  | some handle => ask handle

/-- What a call has written counts when the call succeeded. -/
def answer {α : Type} (code : NvmlReturn) (unsupported failed : String) (value : Result α) :
    Result α :=
  if code = errorNotSupported then failure .capabilityUnsupported unsupported
  else if code ≠ success then .error (b.errorFrom code failed)
  else value

/-- A query through an entry point that may be lacking. -/
def queryCall {α : Type} (call : Option (Handle → NvmlReturn × Nat)) (device : DeviceId)
    (unavailable unsupported failed : String) (value : Nat → Result α) : Result α :=
  b.query device fun handle =>
    match call with
    | none => failure .capabilityUnsupported unavailable
    | some call =>
      b.answer (call handle).1 unsupported failed (value (call handle).2)

/-- Likewise through one that is asked for one of several values. -/
def queryValue {α : Type} (call : Option (Handle → Nat → NvmlReturn × Nat)) (which : Nat)
    (device : DeviceId) (unavailable unsupported failed : String) (value : Nat → Result α) :
    Result α :=
  b.queryCall (call.map fun call handle => call handle which) device unavailable unsupported failed
    value

def celsius (outside : String) (value : Nat) : Result DegreesCelsius :=
  if DegreesCelsius.valid (value : ℚ) then .ok (value : ℚ)
  else failure .temperatureInvalid outside

def queryDeviceIdentity : Result (List DeviceIdentity) :=
  .ok (b.devices.zipIdx.map fun (device, index) =>
    { device := index + 1
      uuid := device.uuid
      pciBusId := device.pciId
      name := device.name
      index := index })

def queryTemperature (device : DeviceId) : Result TemperatureReading :=
  b.query device fun handle =>
    b.answer (b.api.deviceGetTemperature handle temperatureGpu).1
      "NVML reports no GPU temperature sensor" "NVML temperature query failed"
      ((celsius "NVML reported an implausible temperature"
          (b.api.deviceGetTemperature handle temperatureGpu).2).map fun temperature =>
        { temperature := temperature, source := .nvmlGpuTemperature })

def queryTemperatureLimit (device : DeviceId) : Result DegreesCelsius :=
  b.queryValue b.api.deviceGetTemperatureThreshold thresholdGpuMax device
    "NVML temperature thresholds are unavailable" "NVML reports no maximum operating temperature"
    "NVML temperature limit query failed"
    (celsius "NVML reported an implausible temperature limit")

def queryShutdownLimit (device : DeviceId) : Result DegreesCelsius :=
  b.queryValue b.api.deviceGetTemperatureThreshold thresholdShutdown device
    "NVML temperature thresholds are unavailable" "NVML reports no shutdown temperature"
    "NVML shutdown limit query failed" (celsius "NVML reported an implausible shutdown limit")

def queryThrottleReasons (device : DeviceId) : Result ThrottleObservation :=
  b.queryCall b.api.deviceGetCurrentClocksThrottleReasons device
    "NVML throttle reason query is unavailable" "NVML reports no throttle reason source"
    "NVML throttle reason query failed" fun reasons => .ok (ThrottleObservation.fromRaw reasons)

def queryCurrentClock (device : DeviceId) : Result MegaHertz :=
  b.queryValue b.api.deviceGetClockInfo clockGraphics device "NVML clock query is unavailable"
    "NVML reports no graphics clock" "NVML current clock query failed" .ok

def queryMaxClock (device : DeviceId) : Result MegaHertz :=
  b.queryValue b.api.deviceGetMaxClockInfo clockGraphics device
    "NVML maximum clock query is unavailable" "NVML reports no maximum graphics clock"
    "NVML maximum clock query failed" .ok

/-- Every failure to count the fans is told as having none. -/
def queryFanState (device : DeviceId) : Result FanEvidence :=
  b.query device fun handle =>
    match b.api.deviceGetNumFans, b.api.deviceGetFanSpeed with
    | some numFans, some fanSpeed =>
      if (numFans handle).1 ≠ success ∨ (numFans handle).2 = 0 then
        failure .capabilityUnsupported "NVML reports no controllable fans on this device"
      else
        b.answer (fanSpeed handle).1 "NVML fan speed is not reported"
          "NVML fan speed query failed"
          (.ok
            { fanCount := (numFans handle).2
              speedPercent := some ((fanSpeed handle).2 : ℚ)
              provenance := .real })
    | _, _ => failure .capabilityUnsupported "NVML fan telemetry is unavailable"

def queryCoolingState (_ : DeviceId) : Result CoolingEvidence :=
  failure .capabilityUnsupported "NVML exposes no cooling-loop telemetry"

def queryNodeTemperature (_ : NodeId) : Result DegreesCelsius :=
  failure .capabilityUnsupported "NVML exposes no node temperature sensor"

def queryRackTemperature (_ : RackId) : Result DegreesCelsius :=
  failure .capabilityUnsupported "NVML exposes no rack temperature sensor"

/-! ### What the queries tell of a capability -/

/-- A reading that is implausible is a reading; any other failure is not known to last. -/
def told {α : Type} : Result α → CapabilityState
  | .ok _ => .supportedReal
  | .error e =>
    if e.code = .temperatureInvalid then .supportedReal
    else if e.code = .capabilityUnsupported then .unsupported
    else .unknown

/-- What the query of a capability tells about the first device, if there is such a query. -/
def firstTold : ThermalCapability → Option CapabilityState
  | .temperature => some (told (b.queryTemperature 1))
  | .temperatureLimit => some (told (b.queryTemperatureLimit 1))
  | .temperatureThresholdShutdown => some (told (b.queryShutdownLimit 1))
  | .throttleReasons => some (told (b.queryThrottleReasons 1))
  | .currentClock => some (told (b.queryCurrentClock 1))
  | .maxClock => some (told (b.queryMaxClock 1))
  | .fanTelemetry => some (told (b.queryFanState 1))
  | .coolingTelemetry => some (told (queryCoolingState 1))
  | .nodeThermalMetadata => some (told (queryNodeTemperature 1))
  | .rackThermalMetadata => some (told (queryRackTemperature 1))
  | _ => none

/-- No fans are counted, or they cannot be counted for a reason of the library's own. -/
def NoneCounted (counted : NvmlReturn × Nat) : Prop :=
  counted.1 = success ∧ counted.2 = 0 ∨ counted.1 ≠ success ∧ counted.1 ≠ errorNotSupported

/-- So it is for a device, in a library that has fan telemetry. -/
def CountsNoFans (probe : Handle) : Prop :=
  match b.api.deviceGetNumFans, b.api.deviceGetFanSpeed with
  | some numFans, some _ => NoneCounted (numFans probe)
  | _, _ => False

variable {b} {probe : NvmlDevice Handle} {rest : List (NvmlDevice Handle)}

theorem query_one {α : Type} {ask : Handle → Result α} (h : b.devices = probe :: rest) :
    b.query 1 ask = ask probe.handle := by
  have hhandle : b.handleFor 1 = some probe.handle := by
    unfold handleFor
    rw [h, if_neg (by simp)]
    rfl
  unfold query
  rw [hhandle]

/-- An answer tells what its code is classified as, when what was written tells nothing else. -/
theorem told_answer {α : Type} {code : NvmlReturn} {unsupported failed : String}
    {value : Result α} (hvalue : told value = .supportedReal) :
    told (b.answer code unsupported failed value) = classify code := by
  unfold answer classify
  by_cases hunsupported : code = errorNotSupported
  · rw [if_pos hunsupported, hunsupported, if_neg (by decide), if_pos rfl]
    rfl
  · by_cases hsuccess : code = success
    · rw [if_neg hunsupported, if_neg (not_not.mpr hsuccess), if_pos hsuccess, hvalue]
    · rw [if_neg hunsupported, if_pos hsuccess, if_neg hsuccess, if_neg hunsupported]
      rfl

theorem told_celsius (outside : String) (value : Nat) :
    told (celsius outside value) = .supportedReal := by
  unfold celsius
  split <;> rfl

theorem told_map {α β : Type} (f : α → β) (r : Result α) : told (r.map f) = told r := by
  cases r <;> rfl

theorem told_queryCall {α : Type} {call : Option (Handle → NvmlReturn × Nat)}
    {unavailable unsupported failed : String} {value : Nat → Result α}
    (h : b.devices = probe :: rest) (hvalue : ∀ n, told (value n) = .supportedReal) :
    told (b.queryCall call 1 unavailable unsupported failed value) =
      classifyCall call probe.handle := by
  unfold queryCall
  rw [query_one h]
  cases call with
  | none => rfl
  | some call => exact told_answer (hvalue _)

/-- What is made of the fans that were counted, in a report and in an answer. -/
theorem classify_counted {counting code : NvmlReturn} {fans : Nat}
    {uncounted unsupported failed : String} {fan : FanEvidence} :
    (if counting = success ∧ fans > 0 then classify code else classify counting) =
        told (if counting ≠ success ∨ fans = 0 then failure .capabilityUnsupported uncounted
          else b.answer code unsupported failed (.ok fan)) ↔
      ¬ NoneCounted (counting, fans) := by
  show _ ↔ ¬ (counting = success ∧ fans = 0 ∨ counting ≠ success ∧ counting ≠ errorNotSupported)
  by_cases hsuccess : counting = success
  · by_cases hfans : fans = 0
    · rw [if_neg fun hboth => by omega, if_pos (.inr hfans)]
      refine iff_of_false ?_ (not_not.mpr (.inl ⟨hsuccess, hfans⟩))
      rw [hsuccess]
      exact (by decide : CapabilityState.supportedReal ≠ .unsupported)
    · rw [if_pos ⟨hsuccess, Nat.pos_of_ne_zero hfans⟩, if_neg (by simp [hsuccess, hfans]),
        told_answer rfl]
      exact iff_of_true rfl (by simp [hsuccess, hfans])
  · rw [if_neg fun hboth => hsuccess hboth.1, if_pos (.inl hsuccess)]
    unfold classify
    rw [if_neg hsuccess]
    by_cases hunsupported : counting = errorNotSupported
    · rw [if_pos hunsupported]
      refine iff_of_true rfl ?_
      rintro (⟨hcounted, -⟩ | ⟨-, hother⟩)
      · exact hsuccess hcounted
      · exact hother hunsupported
    · rw [if_neg hunsupported]
      refine iff_of_false ?_ (not_not.mpr (.inr ⟨hsuccess, hunsupported⟩))
      exact (by decide : CapabilityState.unknown ≠ .unsupported)

/-- The fans are told of as they are reported, unless none are counted. -/
theorem told_queryFanState (h : b.devices = probe :: rest) :
    b.classifyFans probe.handle = told (b.queryFanState 1) ↔ ¬ b.CountsNoFans probe.handle := by
  unfold queryFanState classifyFans CountsNoFans
  rw [query_one h]
  cases b.api.deviceGetNumFans with
  | none => exact iff_of_true rfl not_false
  | some numFans =>
    cases b.api.deviceGetFanSpeed with
    | none => exact iff_of_true rfl not_false
    | some fanSpeed => exact classify_counted

theorem get_withProbe (h : b.devices = probe :: rest) (c : ThermalCapability) :
    b.capabilities.capabilities.get c = (b.withProbe probe.handle).get c := by
  unfold capabilities
  rw [h]

/-- **What is reported about the first device is what its queries tell**, unless its fans are
not counted. -/
theorem reported_iff_told (h : b.devices = probe :: rest) (c : ThermalCapability)
    {state : CapabilityState} (htold : b.firstTold c = some state) :
    b.capabilities.capabilities.get c = state ↔
      (c = .fanTelemetry → ¬ b.CountsNoFans probe.handle) := by
  rw [get_withProbe h]
  cases c with
  | fanTelemetry =>
    obtain rfl := Option.some.inj htold
    refine (told_queryFanState h).trans ⟨fun hcounts _ => hcounts, fun hcounts => hcounts rfl⟩
  | temperature =>
    obtain rfl := Option.some.inj htold
    refine iff_of_true ?_ (fun hfans => by cases hfans)
    unfold queryTemperature
    rw [query_one h, told_answer ((told_map _ _).trans (told_celsius _ _))]
    rfl
  | temperatureLimit | temperatureThresholdShutdown =>
    obtain rfl := Option.some.inj htold
    exact iff_of_true (told_queryCall h (told_celsius _)).symm (fun hfans => by cases hfans)
  | throttleReasons | currentClock | maxClock =>
    obtain rfl := Option.some.inj htold
    exact iff_of_true (told_queryCall h fun _ => rfl).symm (fun hfans => by cases hfans)
  | coolingTelemetry | nodeThermalMetadata | rackThermalMetadata =>
    obtain rfl := Option.some.inj htold
    exact iff_of_true rfl (fun hfans => by cases hfans)
  | _ => cases htold

/-- A device with a temperature and no fans. -/
def fanless : NvmlThermalBackend Unit where
  api :=
    { errorString := fun _ => "error"
      deviceGetCount := (Nvml.success, 1)
      deviceGetHandleByIndex := fun _ => (Nvml.success, some ())
      deviceGetUuid := fun _ => "GPU-0"
      deviceGetName := fun _ => "fanless"
      deviceGetTemperature := fun _ _ => (Nvml.success, 40)
      deviceGetNumFans := some fun _ => (Nvml.success, 0)
      deviceGetFanSpeed := some fun _ => (Nvml.errorNotSupported, 0) }
  devices := [⟨(), "GPU-0", "fanless", ""⟩]

/-- Its fans are reported, and refused. -/
theorem reported_iff_told_fanless :
    fanless.capabilities.capabilities.get .fanTelemetry ≠ told (fanless.queryFanState 1) :=
  fun hsame => (@reported_iff_told Unit fanless ⟨(), "GPU-0", "fanless", ""⟩ [] rfl .fanTelemetry
    _ rfl).mp hsame rfl (.inl ⟨rfl, rfl⟩)

end NvmlThermalBackend

end ThermalGovernor
