import ThermalGovernor.Lib.First
import ThermalGovernor.Durable.Reads

/-!
# The synthetic backend

A backend whose devices are modelled by its caller.  Each query looks its device up from the
front, and the setters change the entry they find; the capabilities are derived from all
entries, unless the caller has declared them.

The two agree in every run of calls (`reported_after`): a capability that nobody declared
is reported as synthetic exactly when its query answers for some device.  A device may have
been added twice, and the second entry is never found; it never models anything either
(`Sound.covered`).
-/

namespace ThermalGovernor

open Lib

/-- Stable identity of a device, as a backend tells it. -/
structure DeviceIdentity where
  device : DeviceId
  uuid : String := ""
  pciBusId : String := ""
  name : String := ""
  index : Nat := 0
  deriving DecidableEq

/-- A temperature and how it was measured. -/
structure TemperatureReading where
  temperature : DegreesCelsius
  source : MeasurementSource := .unknown

/-- What a backend says about itself. -/
structure BackendCapabilities where
  backendName : String
  backendVersion : String
  provenance : Provenance := .unknown
  capabilities : CapabilitySet

/-- A device, and what its caller models of it. -/
structure SyntheticEntry where
  identity : DeviceIdentity
  temperature : DegreesCelsius
  provenance : Provenance := .synthetic
  throttle : Option ThrottleObservation := none
  limit : Option DegreesCelsius := none
  shutdown : Option DegreesCelsius := none
  clock : Option MegaHertz := none
  maxClock : Option MegaHertz := none
  fan : Option FanEvidence := none
  cooling : Option CoolingEvidence := none

structure SyntheticThermalBackend where
  entries : List SyntheticEntry := []
  declared : CapabilitySet := {}
  declaredExplicit : Bool := false

namespace SyntheticEntry

def key (e : SyntheticEntry) : DeviceId := e.identity.device

/-- The entry is as it was added. -/
def Bare (e : SyntheticEntry) : Prop :=
  e.throttle = none ∧ e.limit = none ∧ e.shutdown = none ∧ e.clock = none ∧ e.maxClock = none ∧
    e.fan = none ∧ e.cooling = none

/-- The entry shows that a capability is modelled. -/
def exposes (e : SyntheticEntry) : ThermalCapability → Bool
  | .deviceIdentity => true
  | .temperature => true
  | .temperatureLimit => e.limit.isSome
  | .temperatureThresholdShutdown => e.shutdown.isSome
  | .temperatureThresholdSlowdown => false
  | .throttleReasons => e.throttle.isSome
  | .currentClock => e.clock.isSome
  | .maxClock => e.maxClock.isSome
  | .fanTelemetry => e.fan.isSome
  | .coolingTelemetry => e.cooling.isSome
  | .thermalDomainMetadata => true
  | .nodeThermalMetadata => false
  | .rackThermalMetadata => false
  | .actualThrottleEnforcement => false
  | .clockReductionEnforcement => false

end SyntheticEntry

namespace SyntheticThermalBackend

variable (b : SyntheticThermalBackend)

/-! ### Calls -/

/-- Real devices are modelled as well, but what is modelled is not real. -/
def addDevice (identity : DeviceIdentity) (temperature : DegreesCelsius)
    (provenance : Provenance) : SyntheticThermalBackend :=
  { b with
    entries := b.entries ++
      [{ identity := identity
         temperature := temperature
         provenance := if provenance = .real then .synthetic else provenance }] }

def find (device : DeviceId) : Option SyntheticEntry :=
  firstWith SyntheticEntry.key device b.entries

/-- What the setters have in common: the entry that is found is changed, if there is one. -/
def change (device : DeviceId) (f : SyntheticEntry → SyntheticEntry) : SyntheticThermalBackend :=
  { b with entries := changeFirst SyntheticEntry.key device f b.entries }

def setTemperature (device : DeviceId) (temperature : DegreesCelsius) : SyntheticThermalBackend :=
  b.change device fun e => { e with temperature := temperature }

def setThrottle (device : DeviceId) (observation : ThrottleObservation) :
    SyntheticThermalBackend :=
  b.change device fun e => { e with throttle := some observation }

def setTemperatureLimit (device : DeviceId) (limit : DegreesCelsius) : SyntheticThermalBackend :=
  b.change device fun e => { e with limit := some limit }

def setCurrentClock (device : DeviceId) (clock : MegaHertz) : SyntheticThermalBackend :=
  b.change device fun e => { e with clock := some clock }

def setMaxClock (device : DeviceId) (clock : MegaHertz) : SyntheticThermalBackend :=
  b.change device fun e => { e with maxClock := some clock }

def setFanState (device : DeviceId) (fan : FanEvidence) : SyntheticThermalBackend :=
  b.change device fun e => { e with fan := some fan }

def setCoolingState (device : DeviceId) (cooling : CoolingEvidence) : SyntheticThermalBackend :=
  b.change device fun e => { e with cooling := some cooling }

def setCapability (c : ThermalCapability) (state : CapabilityState) : SyntheticThermalBackend :=
  { b with declared := b.declared.set c state "", declaredExplicit := true }

def clearDevices : SyntheticThermalBackend := { b with entries := [] }

/-! ### Capabilities -/

/-- A declaration comes before what the devices show. -/
def capabilityState (c : ThermalCapability) : CapabilityState :=
  if b.declaredExplicit = true ∧ b.declared.get c ≠ .unknown then b.declared.get c
  else if b.entries.any (·.exposes c) then .supportedSynthetic
  else .unsupported

def capabilities : BackendCapabilities where
  backendName := "synthetic"
  backendVersion := "1.0.0"
  provenance := .synthetic
  capabilities :=
    Durable.allCapabilities.foldl (fun set c => set.set c (b.capabilityState c) "") {}

/-! ### Queries -/

def unmodelled {α : Type} : Result α :=
  failure .unknownDevice "synthetic device is not modelled"

/-- What the queries of one device have in common. -/
def query {α : Type} (device : DeviceId) (read : SyntheticEntry → Option α) (refusal : String) :
    Result α :=
  match b.find device with
  | none => unmodelled
  | some e =>
    match read e with
    | none => failure .capabilityUnsupported refusal
    | some a => .ok a

def queryDeviceIdentity : Result (List DeviceIdentity) := .ok (b.entries.map (·.identity))

def queryTemperature (device : DeviceId) : Result TemperatureReading :=
  match b.find device with
  | none => unmodelled
  | some e => .ok { temperature := e.temperature, source := .syntheticModel }

def queryTemperatureLimit (device : DeviceId) : Result DegreesCelsius :=
  b.query device (·.limit) "synthetic temperature limit is not modelled"

def queryShutdownLimit (device : DeviceId) : Result DegreesCelsius :=
  b.query device (·.shutdown) "synthetic shutdown limit is not modelled"

def queryThrottleReasons (device : DeviceId) : Result ThrottleObservation :=
  b.query device (·.throttle) "synthetic throttle evidence is not modelled"

def queryCurrentClock (device : DeviceId) : Result MegaHertz :=
  b.query device (·.clock) "synthetic current clock is not modelled"

def queryMaxClock (device : DeviceId) : Result MegaHertz :=
  b.query device (·.maxClock) "synthetic maximum clock is not modelled"

def queryFanState (device : DeviceId) : Result FanEvidence :=
  b.query device (·.fan) "synthetic fan telemetry is not modelled"

def queryCoolingState (device : DeviceId) : Result CoolingEvidence :=
  b.query device (·.cooling) "synthetic cooling telemetry is not modelled"

def queryNodeTemperature (_ : NodeId) : Result DegreesCelsius :=
  failure .capabilityUnsupported "synthetic node temperature is not modelled"

def queryRackTemperature (_ : RackId) : Result DegreesCelsius :=
  failure .capabilityUnsupported "synthetic rack temperature is not modelled"

/-- Nothing is enforced. -/
def requestClockCeiling (_ : DeviceId) (_ : MegaHertz) : Status :=
  failure .capabilityUnsupported "backend does not own clock enforcement"

/-! ### Runs of calls -/

/-- A call that changes the backend. -/
inductive Call
  | addDevice (identity : DeviceIdentity) (temperature : DegreesCelsius) (provenance : Provenance)
  | setTemperature (device : DeviceId) (temperature : DegreesCelsius)
  | setThrottle (device : DeviceId) (observation : ThrottleObservation)
  | setTemperatureLimit (device : DeviceId) (limit : DegreesCelsius)
  | setCurrentClock (device : DeviceId) (clock : MegaHertz)
  | setMaxClock (device : DeviceId) (clock : MegaHertz)
  | setFanState (device : DeviceId) (fan : FanEvidence)
  | setCoolingState (device : DeviceId) (cooling : CoolingEvidence)
  | setCapability (c : ThermalCapability) (state : CapabilityState)
  | clearDevices

def apply : Call → SyntheticThermalBackend
  | .addDevice identity temperature provenance => b.addDevice identity temperature provenance
  | .setTemperature device temperature => b.setTemperature device temperature
  | .setThrottle device observation => b.setThrottle device observation
  | .setTemperatureLimit device limit => b.setTemperatureLimit device limit
  | .setCurrentClock device clock => b.setCurrentClock device clock
  | .setMaxClock device clock => b.setMaxClock device clock
  | .setFanState device fan => b.setFanState device fan
  | .setCoolingState device cooling => b.setCoolingState device cooling
  | .setCapability c state => b.setCapability c state
  | .clearDevices => b.clearDevices

/-- The backend after these calls, from a new one. -/
def after (calls : List Call) : SyntheticThermalBackend := calls.foldl apply {}

/-- What a capability is declared as, when it was declared as `state` before a call. -/
def Call.declares (c : ThermalCapability) (state : CapabilityState) : Call → CapabilityState
  | .setCapability c' state' => if c = c' then state' else state
  | _ => state

/-- What a capability was last declared as. -/
def declaredBy (c : ThermalCapability) (calls : List Call) : CapabilityState :=
  calls.foldl (Call.declares c) .unknown

/-- The query of a capability tells something.  The metadata of a domain have no query. -/
def Answers : ThermalCapability → Prop
  | .deviceIdentity => ∃ identities, b.queryDeviceIdentity = .ok identities ∧ identities ≠ []
  | .temperature => ∃ device reading, b.queryTemperature device = .ok reading
  | .temperatureLimit => ∃ device limit, b.queryTemperatureLimit device = .ok limit
  | .temperatureThresholdShutdown => ∃ device limit, b.queryShutdownLimit device = .ok limit
  | .throttleReasons => ∃ device observation, b.queryThrottleReasons device = .ok observation
  | .currentClock => ∃ device clock, b.queryCurrentClock device = .ok clock
  | .maxClock => ∃ device clock, b.queryMaxClock device = .ok clock
  | .fanTelemetry => ∃ device fan, b.queryFanState device = .ok fan
  | .coolingTelemetry => ∃ device cooling, b.queryCoolingState device = .ok cooling
  | .thermalDomainMetadata => b.entries ≠ []
  | .nodeThermalMetadata => ∃ node temperature, queryNodeTemperature node = .ok temperature
  | .rackThermalMetadata => ∃ rack temperature, queryRackTemperature rack = .ok temperature
  | .clockReductionEnforcement =>
    ∃ device ceiling, requestClockCeiling device ceiling = .ok ()
  | .temperatureThresholdSlowdown | .actualThrottleEnforcement => False

/-- What the calls keep. -/
structure Sound : Prop where
  covered : Covered SyntheticEntry.key SyntheticEntry.Bare b.entries
  declared : b.declaredExplicit = false → ∀ c, b.declared.get c = .unknown

variable {b} {calls : List Call} {c : ThermalCapability}

theorem Sound.change {device : DeviceId} {f : SyntheticEntry → SyntheticEntry} (h : b.Sound)
    (hkeeps : ∀ e, (f e).key = e.key) : (b.change device f).Sound where
  covered := h.covered.changeFirst hkeeps
  declared := h.declared

theorem Sound.addDevice {identity : DeviceIdentity} {temperature : DegreesCelsius}
    {provenance : Provenance} (h : b.Sound) :
    (b.addDevice identity temperature provenance).Sound where
  covered := h.covered.append ⟨rfl, rfl, rfl, rfl, rfl, rfl, rfl⟩
  declared := h.declared

/-- **A call keeps the backend sound.** -/
theorem sound_apply (h : b.Sound) (call : Call) : (b.apply call).Sound := by
  cases call with
  | addDevice identity temperature provenance => exact h.addDevice
  | setCapability c state => exact ⟨h.covered, fun hfalse => by cases hfalse⟩
  | clearDevices => exact ⟨.nil, h.declared⟩
  | _ => exact h.change fun _ => rfl

theorem sound_foldl (h : b.Sound) (calls : List Call) : (calls.foldl apply b).Sound := by
  induction calls generalizing b with
  | nil => exact h
  | cons call rest ih => exact ih (sound_apply h call)

theorem sound_new : ({} : SyntheticThermalBackend).Sound where
  covered := .nil
  declared _ _ := rfl

/-- Every backend is sound, whatever was called. -/
theorem sound_after (calls : List Call) : (after calls).Sound := sound_foldl sound_new calls

/-- A call declares what it says, and nothing else. -/
theorem declared_apply (b : SyntheticThermalBackend) (call : Call) :
    (b.apply call).declared.get c = call.declares c (b.declared.get c) := by
  cases call <;> rfl

theorem declared_foldl (b : SyntheticThermalBackend) (calls : List Call) :
    (calls.foldl apply b).declared.get c = calls.foldl (Call.declares c) (b.declared.get c) := by
  induction calls generalizing b with
  | nil => rfl
  | cons call rest ih => rw [List.foldl_cons, List.foldl_cons, ih, declared_apply]

theorem declared_after (calls : List Call) :
    (after calls).declared.get c = declaredBy c calls := declared_foldl {} calls

/-! ### What is reported -/

theorem get_foldl_set (state : ThermalCapability → CapabilityState) (set : CapabilitySet)
    (list : List ThermalCapability) :
    (list.foldl (fun set c => set.set c (state c) "") set).get c =
      if c ∈ list then state c else set.get c := by
  induction list generalizing set with
  | nil => rfl
  | cons c' rest ih =>
    rw [List.foldl_cons, ih, CapabilitySet.get_set]
    by_cases hrest : c ∈ rest
    · rw [if_pos hrest, if_pos (List.mem_cons_of_mem c' hrest)]
    · by_cases hhead : c = c'
      · rw [if_neg hrest, if_pos hhead, hhead, if_pos List.mem_cons_self]
      · rw [if_neg hrest, if_neg hhead, if_neg (by simp [hhead, hrest])]

theorem get_capabilities (b : SyntheticThermalBackend) (c : ThermalCapability) :
    b.capabilities.capabilities.get c = b.capabilityState c := by
  unfold capabilities
  rw [get_foldl_set, if_pos (Durable.mem_allCapabilities c)]

/-- A query of one device tells something exactly when some entry has it. -/
theorem Sound.query_iff {α : Type} {read : SyntheticEntry → Option α} {refusal : String}
    (h : b.Sound) (hbare : ∀ e, e.Bare → read e = none) :
    (∃ device a, b.query device read refusal = .ok a) ↔
      ∃ e ∈ b.entries, (read e).isSome = true := by
  constructor
  · rintro ⟨device, a, hquery⟩
    unfold query find at hquery
    split at hquery
    · cases hquery
    · rename_i e hfound
      split at hquery
      · cases hquery
      · rename_i a' hread
        exact ⟨e, mem_of_firstWith hfound, by rw [hread]; rfl⟩
  · rintro ⟨e, hmem, hsome⟩
    have hmodels : ¬ e.Bare := fun he => by
      rw [hbare e he] at hsome
      cases hsome
    obtain ⟨a, hread⟩ := Option.isSome_iff_exists.mp hsome
    have hfound : b.find e.key = some e := firstWith_of_mem h.covered hmem hmodels
    refine ⟨e.key, a, ?_⟩
    unfold query
    rw [hfound]
    simp only [hread]

theorem temperature_iff (b : SyntheticThermalBackend) :
    (∃ device reading, b.queryTemperature device = .ok reading) ↔ b.entries ≠ [] := by
  constructor
  · rintro ⟨device, reading, hquery⟩ hnone
    have hmissing : b.find device = none := by
      rw [find, hnone]
      rfl
    unfold queryTemperature at hquery
    rw [hmissing] at hquery
    cases hquery
  · intro hentries
    obtain ⟨e, rest, heq⟩ := List.exists_cons_of_ne_nil hentries
    have hfound : b.find e.key = some e := by
      rw [find, heq, firstWith, List.find?_cons_of_pos (by simp)]
    refine ⟨e.key, { temperature := e.temperature, source := .syntheticModel }, ?_⟩
    unfold queryTemperature
    rw [hfound]

theorem any_of_all {list : List SyntheticEntry} (hall : ∀ e ∈ list, e.exposes c = true) :
    (∃ e ∈ list, e.exposes c = true) ↔ list ≠ [] := by
  constructor
  · rintro ⟨e, hmem, -⟩ hnil
    rw [hnil] at hmem
    cases hmem
  · intro hlist
    obtain ⟨e, rest, rfl⟩ := List.exists_cons_of_ne_nil hlist
    exact ⟨e, List.mem_cons_self, hall e List.mem_cons_self⟩

/-- **What the entries show is what the queries tell.** -/
theorem Sound.exposes_iff (h : b.Sound) (c : ThermalCapability) :
    (∃ e ∈ b.entries, e.exposes c = true) ↔ b.Answers c := by
  cases c with
  | deviceIdentity =>
    rw [any_of_all fun _ _ => rfl]
    constructor
    · intro hentries
      exact ⟨_, rfl, by simpa using hentries⟩
    · rintro ⟨identities, hquery, hidentities⟩ hnone
      obtain rfl := Except.ok.inj hquery
      exact hidentities (by rw [hnone]; rfl)
  | temperature => exact (any_of_all fun _ _ => rfl).trans (temperature_iff b).symm
  | temperatureLimit => exact (h.query_iff fun _ he => he.2.1).symm
  | temperatureThresholdShutdown => exact (h.query_iff fun _ he => he.2.2.1).symm
  | throttleReasons => exact (h.query_iff fun _ he => he.1).symm
  | currentClock => exact (h.query_iff fun _ he => he.2.2.2.1).symm
  | maxClock => exact (h.query_iff fun _ he => he.2.2.2.2.1).symm
  | fanTelemetry => exact (h.query_iff fun _ he => he.2.2.2.2.2.1).symm
  | coolingTelemetry => exact (h.query_iff fun _ he => he.2.2.2.2.2.2).symm
  | thermalDomainMetadata => exact any_of_all fun _ _ => rfl
  | temperatureThresholdSlowdown | actualThrottleEnforcement =>
    exact ⟨fun ⟨_, _, hshown⟩ => Bool.noConfusion hshown, False.elim⟩
  | nodeThermalMetadata | rackThermalMetadata | clockReductionEnforcement =>
    constructor
    · rintro ⟨_, _, hshown⟩
      cases hshown
    · rintro ⟨_, _, hquery⟩
      cases hquery

theorem Sound.capabilityState_eq (h : b.Sound) (c : ThermalCapability) :
    (b.declared.get c ≠ .unknown → b.capabilityState c = b.declared.get c) ∧
      (b.declared.get c = .unknown →
        (b.capabilityState c = .supportedSynthetic ↔ b.Answers c) ∧
        (b.capabilityState c = .unsupported ↔ ¬ b.Answers c)) := by
  unfold capabilityState
  constructor
  · intro hdeclared
    have hexplicit : b.declaredExplicit = true := by
      by_contra hnone
      exact hdeclared (h.declared (Bool.eq_false_of_not_eq_true hnone) c)
    rw [if_pos ⟨hexplicit, hdeclared⟩]
  · intro hunknown
    rw [if_neg fun hboth => hboth.2 hunknown, ← h.exposes_iff c, ← List.any_eq_true]
    by_cases hany : b.entries.any (·.exposes c) = true
    · simp [hany]
    · simp [hany]

/-- **What a synthetic backend reports is what was declared, or else what its queries tell**,
after any calls. -/
theorem reported_after (calls : List Call) (c : ThermalCapability) :
    (declaredBy c calls ≠ .unknown →
        (after calls).capabilities.capabilities.get c = declaredBy c calls) ∧
      (declaredBy c calls = .unknown →
        ((after calls).capabilities.capabilities.get c = .supportedSynthetic ↔
            (after calls).Answers c) ∧
          ((after calls).capabilities.capabilities.get c = .unsupported ↔
            ¬ (after calls).Answers c)) := by
  have hsound := (sound_after calls).capabilityState_eq c
  rw [declared_after, ← get_capabilities] at hsound
  exact hsound

end SyntheticThermalBackend

end ThermalGovernor
