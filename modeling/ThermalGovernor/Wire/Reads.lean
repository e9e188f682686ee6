import ThermalGovernor.Wire.Codec

/-!
# Every payload is read as it was written

One theorem for each kind of payload, as for the records of a file.  In front of what the
writer wrote, the reader yields the value exactly when it meets the bounds that the reader
checks.
-/

namespace ThermalGovernor

open Lib Lib.Decoder Lib.Input

namespace Wire

variable {R C α β : Type} [Input R C] {b : β} {c c' : C}

/-! ### Decoding -/

/-- **An input is decoded exactly when the reader takes all of it.** -/
theorem decodeFrom_eq_ok {read : RecordReader C α} {e : ThermalError} {value : α} :
    decodeFrom read e c = .ok value ↔ Yields read c value (Input.empty : C) := by
  unfold decodeFrom Yields
  cases hrun : read.run c with
  | error e' => exact ⟨fun h => (by cases h), fun h => (by cases h.1)⟩
  | ok answer =>
    obtain ⟨value', c'⟩ := answer
    dsimp only
    constructor
    · intro h
      split at h
      · rename_i hdone
        rw [Bool.and_eq_true, exhausted_iff] at hdone
        obtain rfl := Except.ok.inj h
        rw [hdone]
        exact ⟨rfl, ((exhausted_iff _).mpr rfl).1⟩
      · cases h
    · rintro ⟨h, hok⟩
      obtain ⟨rfl, rfl⟩ := Prod.mk.inj (Except.ok.inj h)
      rw [if_pos ((Bool.and_eq_true _ _).mpr ((exhausted_iff _).mpr rfl))]

theorem decodeWith_eq_decodeFrom (read : RecordReader Reader α) (e : ThermalError)
    (bytes : Bytes) : decodeWith read e bytes = decodeFrom read e ⟨bytes, true⟩ := by
  unfold decodeWith decodeFrom
  cases read.run ⟨bytes, true⟩ <;> rfl

theorem decodeWith_eq_ok {read : RecordReader Reader α} {e : ThermalError} {bytes : Bytes}
    {value : α} : decodeWith read e bytes = .ok value ↔
      Yields read ⟨bytes, true⟩ value (Input.empty : Reader) := by
  rw [decodeWith_eq_decodeFrom, decodeFrom_eq_ok]

/-- **What was written is decoded exactly within the bounds of the reader.** -/
theorem decodeFrom_put_iff {read : RecordReader C α} {e : ThermalError} {p : Payload R}
    {bounds : Prop} {value : α} (h : Exact read p bounds value) :
    decodeFrom read e (put p Input.empty) = .ok value ↔ bounds := by
  rw [decodeFrom_eq_ok, h, and_iff_left ⟨rfl, rfl, ((exhausted_iff _).mpr rfl).1⟩]

theorem decodeWith_bytes_iff {read : RecordReader Reader α} {e : ThermalError}
    {p : Payload Double} {bounds : Prop} {value : α} (h : Exact read p bounds value) :
    decodeWith read e p.bytes = .ok value ↔ bounds := by
  have hbuffer : Input.put p (Input.empty : Reader) = ⟨p.bytes, true⟩ :=
    (Reader.put_eq p Input.empty).trans (congrArg (Reader.mk · true) (List.append_nil _))
  rw [decodeWith_eq_decodeFrom, ← hbuffer, decodeFrom_put_iff h]

/-- What a reader takes off the front it takes out of the buffer. -/
theorem decodeWith_of_exact {read : RecordReader Reader α} {e : ThermalError}
    {p : Payload Double} {bounds : Prop} {value : α} (h : Exact read p bounds value)
    (hbounds : bounds) : decodeWith read e p.bytes = .ok value :=
  (decodeWith_bytes_iff h).mpr hbounds

/-! ### Shared fields -/

theorem exact_readTemperature [Scalar R] {v : R} (h : Fits C (.real v)) :
    Exact (readTemperature : RecordReader C R) [.real v] (Scalar.isReading v = true) v := by
  intro c a c'
  simp [-bind_pure_comp, readTemperature, h]

@[simp] theorem yields_readTemperature_bind [Scalar R] {f : R → RecordReader C β} {v : R}
    (h : Fits C (.real v)) :
    Yields (readTemperature >>= f) (write (.real v) c) b c' ↔
      Scalar.isReading v = true ∧ Yields (f v) c b c' :=
  (exact_readTemperature h).bind_iff (p := [.real v])

theorem exact_readPercent [Scalar R] {v : R} (h : Fits C (.real v)) :
    Exact (readPercent : RecordReader C R) [.real v] (Scalar.isPercent v = true) v := by
  intro c a c'
  simp [-bind_pure_comp, readPercent, h]

theorem exact_optional_temperature [Scalar R] {value : Option R}
    (hfits : FitsAll C (optionalField .real value)) :
    Exact (optional readTemperature : RecordReader C (Option R)) (optionalField .real value)
      (∀ temperature ∈ value, Scalar.isReading temperature = true) value :=
  exact_optional hfits fun _ h => exact_readTemperature h

theorem exact_optional_percent [Scalar R] {value : Option R}
    (hfits : FitsAll C (optionalField .real value)) :
    Exact (optional readPercent : RecordReader C (Option R)) (optionalField .real value)
      (∀ percent ∈ value, Scalar.isPercent percent = true) value :=
  exact_optional hfits fun _ h => exact_readPercent h

/-! ### Registrations -/

/-- The bounds of the reader on the texts of a device. -/
@[mk_iff] structure DeviceBounds (limits : WireLimits) (device : DeviceRegistration) : Prop where
  label : device.label.length ≤ limits.maxStringBytes
  details : ∀ c ∈ Durable.allCapabilities,
    (device.capabilities.details c).length ≤ limits.maxStringBytes

@[mk_iff] structure RegistrationBounds (limits : WireLimits) (registration : WorkerRegistration) :
    Prop where
  label : registration.label.length ≤ limits.maxStringBytes
  count : registration.devices.length ≤ limits.maxDevices
  devices : ∀ device ∈ registration.devices, DeviceBounds limits device

theorem exact_capabilitySet {limits : WireLimits} {set : CapabilitySet}
    (hfits : FitsAll C (writeCapabilitySet set)) :
    Exact (readCapabilitySet limits : RecordReader C CapabilitySet) (writeCapabilitySet set)
      (∀ c ∈ Durable.allCapabilities, (set.details c).length ≤ limits.maxStringBytes) set := by
  intro c a c'
  rw [FitsAll, writeCapabilitySet, List.forall_mem_append] at hfits
  obtain ⟨hstates, hgeneration⟩ := hfits
  simp only [List.forall_mem_cons] at hgeneration
  have hexact : Exact (refuse malformed (Durable.readCapabilities limits.texts
      Durable.allCapabilities {}) : RecordReader C CapabilitySet) _ _ _ :=
    (Durable.exact_capabilities Durable.allCapabilities hstates {}).refuse
  simp [-bind_pure_comp, readCapabilitySet, writeCapabilitySet, hexact.bind_iff, hgeneration,
    Durable.withCapabilities_all]

theorem exact_device {limits : WireLimits} {device : DeviceRegistration}
    (hfits : FitsAll C (writeDevice device)) :
    Exact (readDevice limits : RecordReader C DeviceRegistration) (writeDevice device)
      (DeviceBounds limits device) device := by
  intro c a c'
  have hprovenance := device.provenance.ctorIdx_le
  rw [FitsAll, writeDevice, List.forall_mem_append] at hfits
  obtain ⟨hfields, hcapabilities⟩ := hfits
  simp only [List.forall_mem_cons] at hfields
  have hexact : Exact (readCapabilitySet limits : RecordReader C CapabilitySet) _ _ _ :=
    exact_capabilitySet hcapabilities
  simp [-bind_pure_comp, readDevice, writeDevice, hfields, hprovenance, hexact.bind_iff,
    Provenance.ofNat_ctorIdx, deviceBounds_iff, and_assoc]

theorem exact_registration {limits : WireLimits} {registration : WorkerRegistration}
    (hfits : FitsAll C (writeRegistration registration)) :
    Exact (readRegistration limits : RecordReader C WorkerRegistration)
      (writeRegistration registration) (RegistrationBounds limits registration) registration := by
  intro c a c'
  rw [FitsAll, writeRegistration, List.forall_mem_append] at hfits
  obtain ⟨hfields, hdevices⟩ := hfits
  simp only [List.forall_mem_cons] at hfields
  have hexact : Exact (many (readDevice limits) registration.devices.length :
      RecordReader C (List DeviceRegistration)) _ _ _ :=
    exact_many hdevices fun device h => exact_device h
  simp [-bind_pure_comp, readRegistration, writeRegistration, hfields, hexact.bind_iff,
    registrationBounds_iff, and_assoc]

/-! ### Evidence -/

theorem exact_throttle {observation : ThrottleObservation}
    (hfits : FitsAll C (writeThrottle observation)) :
    Exact (readThrottle : RecordReader C ThrottleObservation) (writeThrottle observation) True
      observation := by
  intro c a c'
  have hclass : observation.classification.ctorIdx ≤ ThrottleClass.throttleUnsupported.ctorIdx := by
    cases observation.classification <;> decide
  simp only [FitsAll, writeThrottle, List.forall_mem_cons] at hfits
  simp [-bind_pure_comp, readThrottle, writeThrottle, hfits, hclass, ThrottleClass.ofNat_ctorIdx]

/-- The temperatures of the cooling evidence are representable. -/
@[mk_iff] structure CoolingBounds [Scalar R] (cooling : CoolingEvidence R) : Prop where
  airInlet : ∀ temperature ∈ cooling.airInlet, Scalar.isReading temperature = true
  airOutlet : ∀ temperature ∈ cooling.airOutlet, Scalar.isReading temperature = true
  liquidInlet : ∀ temperature ∈ cooling.liquidInlet, Scalar.isReading temperature = true
  liquidOutlet : ∀ temperature ∈ cooling.liquidOutlet, Scalar.isReading temperature = true

theorem exact_cooling [Scalar R] {cooling : CoolingEvidence R}
    (hfits : FitsAll C (writeCooling cooling)) :
    Exact (readCooling : RecordReader C (CoolingEvidence R)) (writeCooling cooling)
      (CoolingBounds cooling) cooling := by
  intro c a c'
  have hprovenance := cooling.provenance.ctorIdx_le
  simp only [FitsAll, writeCooling, List.forall_mem_append] at hfits
  obtain ⟨⟨⟨⟨⟨⟨hzone, hair⟩, hair'⟩, hliquid⟩, hliquid'⟩, hflow⟩, hlast⟩ := hfits
  simp only [List.forall_mem_cons] at hzone hlast
  simp [-bind_pure_comp, readCooling, writeCooling, hzone, hlast, hprovenance,
    (exact_optional_temperature hair).bind_iff, (exact_optional_temperature hair').bind_iff,
    (exact_optional_temperature hliquid).bind_iff, (exact_optional_temperature hliquid').bind_iff,
    (exact_optional_real hflow).bind_iff, Provenance.ofNat_ctorIdx, coolingBounds_iff, and_assoc]

theorem exact_fan {fan : FanEvidence R} (hfits : FitsAll C (writeFan fan)) :
    Exact (readFan : RecordReader C (FanEvidence R)) (writeFan fan) True fan := by
  intro c a c'
  have hprovenance := fan.provenance.ctorIdx_le
  simp only [FitsAll, writeFan, List.forall_mem_append] at hfits
  obtain ⟨⟨⟨hcount, hpercent⟩, hrpm⟩, hlast⟩ := hfits
  simp only [List.forall_mem_cons] at hcount hlast
  simp [-bind_pure_comp, readFan, writeFan, hcount, hlast, hprovenance,
    (exact_optional_real hpercent).bind_iff, (exact_optional_u32 hrpm).bind_iff,
    Provenance.ofNat_ctorIdx]

/-- The temperatures of the record are representable. -/
@[mk_iff] structure EvidenceBounds [Scalar R] (e : ThermalEvidence R) : Prop where
  temperature : Scalar.isReading e.temperature = true
  temperatureLimit : ∀ temperature ∈ e.temperatureLimit, Scalar.isReading temperature = true
  shutdownLimit : ∀ temperature ∈ e.shutdownLimit, Scalar.isReading temperature = true
  cooling : ∀ cooling ∈ e.cooling, CoolingBounds cooling

/-- A record as it comes back from the wire. -/
def forgetFreshness (e : ThermalEvidence R) : ThermalEvidence R := { e with freshness := .unknown }

theorem exact_subject {subject : SubjectRef} (hfits : FitsAll C (Durable.writeSubject subject)) :
    Exact (readSubject : RecordReader C (Option SubjectRef)) (Durable.writeSubject subject) True
      (some subject) := by
  intro c a c'
  have hkind : ¬ SubjectKind.thermalDomain.ctorIdx < subject.kind.ctorIdx :=
    not_lt.mpr (Nat.le_of_lt_succ subject.kind.ctorIdx_lt)
  simp only [FitsAll, Durable.writeSubject, List.forall_mem_cons] at hfits
  simp [-bind_pure_comp, readSubject, Durable.writeSubject, hfits, hkind,
    SubjectKind.ofNat_ctorIdx]

/-- The fields after the subject. -/
def writeReading (e : ThermalEvidence R) : Payload R :=
  [ .u64 e.domain, .u64 e.domainGeneration, .real e.temperature, .u8 e.source.ctorIdx,
    .u8 e.provenance.ctorIdx, .u64 e.measurementSequence, .u64 e.telemetryGeneration,
    .u64 e.worker, .u64 e.workerBoot, .u64 e.coordinatorEpoch, .i64 e.measuredAt,
    .i64 e.measuredWallAt, .u64 e.capabilityGeneration, .u64 e.topologyGeneration,
    .u8 e.integrity.ctorIdx ] ++
  optionalPayload writeThrottle e.throttle ++ optionalField .real e.temperatureLimit ++
  optionalField .real e.shutdownLimit ++ optionalField .u32 e.currentClock ++
  optionalField .u32 e.maxClock ++ optionalPayload writeCooling e.cooling ++
  optionalPayload writeFan e.fan ++ optionalField .real e.confidence

theorem writeEvidence_eq (e : ThermalEvidence R) : writeEvidence e =
    [.u64 e.evidenceId] ++ (Durable.writeSubject e.subject ++ writeReading e) := by
  simp only [writeEvidence, writeReading, List.append_assoc]

theorem exact_reading [Scalar R] {e : ThermalEvidence R} (hfits : FitsAll C (writeReading e)) :
    Exact (readReading e.evidenceId e.subject : RecordReader C (ThermalEvidence R))
      (writeReading e) (EvidenceBounds e) (forgetFreshness e) := by
  intro c a c'
  have hsource : e.source.ctorIdx ≤ MeasurementSource.syntheticModel.ctorIdx := by
    cases e.source <;> decide
  have hprovenance := e.provenance.ctorIdx_le
  have hintegrity : e.integrity.ctorIdx ≤ IntegrityStatus.failed.ctorIdx := by
    cases e.integrity <;> decide
  simp only [FitsAll, writeReading, List.forall_mem_append] at hfits
  obtain ⟨⟨⟨⟨⟨⟨⟨⟨hhead, hthrottle⟩, hlimit⟩, hshutdown⟩, hclock⟩, hclock'⟩, hcooling⟩, hfan⟩,
    hconfidence⟩ := hfits
  simp only [List.forall_mem_cons] at hhead
  have hthrottled : Exact (optional readThrottle : RecordReader C (Option ThrottleObservation))
      _ _ _ := exact_optionalPayload hthrottle fun _ h => exact_throttle h
  have hcooled : Exact (optional readCooling : RecordReader C (Option (CoolingEvidence R)))
      _ _ _ := exact_optionalPayload hcooling fun _ h => exact_cooling h
  have hfanned : Exact (optional readFan : RecordReader C (Option (FanEvidence R))) _ _ _ :=
    exact_optionalPayload hfan fun _ h => exact_fan h
  simp [-bind_pure_comp, readReading, writeReading, hhead, hsource, hprovenance, hintegrity,
    hthrottled.bind_iff, (exact_optional_temperature hlimit).bind_iff,
    (exact_optional_temperature hshutdown).bind_iff, (exact_optional_u32 hclock).bind_iff,
    (exact_optional_u32 hclock').bind_iff, hcooled.bind_iff, hfanned.bind_iff,
    (exact_optional_real hconfidence).bind_iff, MeasurementSource.ofNat_ctorIdx,
    Provenance.ofNat_ctorIdx, IntegrityStatus.ofNat_ctorIdx, forgetFreshness,
    evidenceBounds_iff, and_assoc]

theorem exact_evidence [Scalar R] [Zero R] {e : ThermalEvidence R}
    (hfits : FitsAll C (writeEvidence e)) :
    Exact (readEvidence : RecordReader C (ThermalEvidence R)) (writeEvidence e)
      (EvidenceBounds e) (forgetFreshness e) := by
  intro c a c'
  rw [writeEvidence_eq] at hfits ⊢
  simp only [FitsAll, List.forall_mem_append, List.forall_mem_cons] at hfits
  obtain ⟨⟨hid, -⟩, hsubject, hreading⟩ := hfits
  rw [put_append, put_cons, put_nil, put_append, readEvidence, yields_u64_bind hid,
    (exact_subject hsubject).bind_iff, true_and]
  exact exact_reading hreading c a c'

/-! ### Actions, acknowledgements and results -/

/-- The bounds of the reader on an action. -/
@[mk_iff] structure ActionBounds [Scalar R] (limits : WireLimits) (action : ThermalAction R) :
    Prop where
  concurrency : ∀ percent ∈ action.requestedConcurrency, Scalar.isPercent percent = true
  admission : ∀ percent ∈ action.requestedAdmission, Scalar.isPercent percent = true
  detail : action.detail.length ≤ limits.maxStringBytes

/-- An action as it comes back from the wire. -/
def carried (action : ThermalAction R) : ThermalAction R where
  id := action.id
  generation := action.generation
  authority := action.authority
  intent := action.intent
  requestedClockCeiling := action.requestedClockCeiling
  requestedConcurrency := action.requestedConcurrency
  requestedAdmission := action.requestedAdmission
  lifecycle := action.lifecycle
  provenance := action.provenance
  detail := action.detail

theorem exact_action [Scalar R] {limits : WireLimits} {action : ThermalAction R}
    (hfits : FitsAll C (writeAction action)) :
    Exact (readAction limits : RecordReader C (ThermalAction R)) (writeAction action)
      (ActionBounds limits action) (carried action) := by
  intro c a c'
  have hintent := action.intent.ctorIdx_lt
  have hlifecycle := action.lifecycle.ctorIdx_lt
  have hprovenance := action.provenance.ctorIdx_le
  simp only [FitsAll, writeAction, List.forall_mem_append] at hfits
  obtain ⟨⟨⟨⟨⟨⟨hhead, hauthority⟩, henums⟩, hclock⟩, hconcurrency⟩, hadmission⟩, hlast⟩ := hfits
  simp only [List.forall_mem_cons] at hhead henums hlast
  simp [-bind_pure_comp, readAction, writeAction, hhead, henums, hlast, hintent, hlifecycle,
    hprovenance, (Durable.exact_authority hauthority).bind_iff,
    (exact_optional_u32 hclock).bind_iff, (exact_optional_percent hconcurrency).bind_iff,
    (exact_optional_percent hadmission).bind_iff, MitigationIntent.ofNat_ctorIdx,
    ActionLifecycle.ofNat_ctorIdx, Provenance.ofNat_ctorIdx, carried, actionBounds_iff, and_assoc]

theorem exact_ack {limits : WireLimits} {ack : ActionAck} (hfits : FitsAll C (writeAck ack)) :
    Exact (readAck limits : RecordReader C ActionAck) (writeAck ack)
      (ack.detail.length ≤ limits.maxStringBytes) ack := by
  intro c a c'
  simp only [FitsAll, writeAck, List.forall_mem_cons] at hfits
  simp [-bind_pure_comp, readAck, writeAck, hfits]

theorem exact_result {limits : WireLimits} {result : ActionResult}
    (hfits : FitsAll C (writeResult result)) :
    Exact (readResult limits : RecordReader C ActionResult) (writeResult result)
      (result.detail.length ≤ limits.maxStringBytes) result := by
  intro c a c'
  simp only [FitsAll, writeResult, List.forall_mem_cons] at hfits
  simp [-bind_pure_comp, readResult, writeResult, hfits]

end Wire

end ThermalGovernor
