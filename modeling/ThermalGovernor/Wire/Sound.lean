import ThermalGovernor.Wire.Reads

/-!
# What the reader of evidence accepts

When the reader of evidence comes to its end the fields of the record stand in front
(`sound_reading`).  It may also return at the kind of the subject, with nothing read but the
identity in front of it (`yields_readEvidence`).
-/

namespace ThermalGovernor

open Lib Lib.Decoder Lib.Input

/-! ### Enumerations -/

theorem MeasurementSource.ctorIdx_ofNat :
    ∀ n ≤ syntheticModel.ctorIdx, (MeasurementSource.ofNat n).ctorIdx = n := by decide

theorem IntegrityStatus.ctorIdx_ofNat :
    ∀ n ≤ failed.ctorIdx, (IntegrityStatus.ofNat n).ctorIdx = n := by decide

theorem ThrottleClass.ctorIdx_ofNat :
    ∀ n ≤ throttleUnsupported.ctorIdx, (ThrottleClass.ofNat n).ctorIdx = n := by decide

namespace Wire

variable {R C α : Type} [Input R C] {c c' : C}

/-! ### Parts of a record -/

theorem sound_readTemperature [Scalar R] :
    Sound (readTemperature : RecordReader C R) (fun v => [.real v])
      fun v => Scalar.isReading v = true := by
  intro c v c' h
  simp only [readTemperature, real, yields_field_iff, Kind.field, Kind.Accepts,
    yields_require_bind, yields_pure, true_and] at h
  obtain ⟨_, c₁, hshows, hreading, rfl, rfl, -⟩ := h
  exact ⟨⟨c', hshows, rfl⟩, hreading⟩

theorem sound_throttle : Sound (readThrottle : RecordReader C ThrottleObservation) writeThrottle
    fun _ => True := by
  intro c a c' h
  simp only [readThrottle, u8, u64, yields_field_iff, yields_require_bind, yields_requireOk_bind,
    yields_pure, Kind.field, Kind.Accepts, true_and, decide_eq_true_eq] at h
  obtain ⟨raw, c₁, hraw, classification, c₂, hclass, hle, rfl, rfl, -⟩ := h
  rw [← ThrottleClass.ctorIdx_ofNat classification hle] at hclass
  exact ⟨⟨c₁, hraw, c', hclass, rfl⟩, trivial⟩

theorem sound_cooling [Scalar R] : Sound (readCooling : RecordReader C (CoolingEvidence R))
    writeCooling fun _ => True := by
  intro c a c' h
  simp only [readCooling, u8, u64, yields_field_iff, yields_bind (d := optional _),
    yields_require_bind, yields_requireOk_bind, yields_pure, Kind.field, Kind.Accepts, true_and,
    decide_eq_true_eq] at h
  obtain ⟨zone, c₁, hzone, air, c₂, hair, air', c₃, hair', liquid, c₄, hliquid, h⟩ := h
  obtain ⟨liquid', c₅, hliquid', flow, c₆, hflow, provenance, c₇, hprovenance, hle, h⟩ := h
  obtain ⟨rfl, rfl, -⟩ := h
  rw [← Provenance.ctorIdx_ofNat provenance (Nat.lt_succ_of_le hle)] at hprovenance
  simp only [writeCooling, front_append]
  refine ⟨⟨c₆, ⟨c₅, ⟨c₄, ⟨c₃, ⟨c₂, ⟨c₁, ⟨c₁, hzone, rfl⟩, ?_⟩, ?_⟩, ?_⟩, ?_⟩, ?_⟩, c', hprovenance,
    rfl⟩, trivial⟩
  · exact (sound_optional sound_readTemperature hair).1
  · exact (sound_optional sound_readTemperature hair').1
  · exact (sound_optional sound_readTemperature hliquid).1
  · exact (sound_optional sound_readTemperature hliquid').1
  · exact (sound_optional (sound_field (k := .real)) hflow).1

theorem sound_fan : Sound (readFan : RecordReader C (FanEvidence R)) writeFan
    fun _ => True := by
  intro c a c' h
  simp only [readFan, u8, u32, yields_field_iff, yields_bind (d := optional _),
    yields_require_bind, yields_requireOk_bind, yields_pure, Kind.field, Kind.Accepts, true_and,
    decide_eq_true_eq] at h
  obtain ⟨count, c₁, hcount, percent, c₂, hpercent, rpm, c₃, hrpm, h⟩ := h
  obtain ⟨provenance, c₄, hprovenance, hle, rfl, rfl, -⟩ := h
  rw [← Provenance.ctorIdx_ofNat provenance (Nat.lt_succ_of_le hle)] at hprovenance
  simp only [writeFan, front_append]
  refine ⟨⟨c₃, ⟨c₂, ⟨c₁, ⟨c₁, hcount, rfl⟩, ?_⟩, ?_⟩, c', hprovenance, rfl⟩, trivial⟩
  · exact (sound_optional (sound_field (k := .real)) hpercent).1
  · exact (sound_optional (sound_field (k := .u32)) hrpm).1

/-- **The fields after the subject are those of the record that is answered**, and its identity
and subject are the ones it was given. -/
theorem sound_reading [Scalar R] {id : EvidenceId} {subject : SubjectRef} {e : ThermalEvidence R}
    (h : Yields (readReading id subject : RecordReader C (ThermalEvidence R)) c e c') :
    Front c (writeReading e) c' ∧ e.evidenceId = id ∧ e.subject = subject := by
  simp only [readReading, yields_bind (d := readTemperature), yields_bind (d := optional _), u8,
    u64, i64, yields_field_iff, yields_require_bind, yields_requireOk_bind, yields_pure,
    Kind.field, Kind.Accepts, true_and, Bool.and_eq_true, decide_eq_true_eq] at h
  obtain ⟨domain, c₁, hdomain, generation, c₂, hgeneration, temperature, c₃, htemperature, h⟩ := h
  obtain ⟨source, c₄, hsource, provenance, c₅, hprovenance, ⟨hsource', hprovenance'⟩, h⟩ := h
  obtain ⟨sequence, c₆, hsequence, telemetry, c₇, htelemetry, worker, c₈, hworker, h⟩ := h
  obtain ⟨boot, c₉, hboot, epoch, c₁₀, hepoch, measured, c₁₁, hmeasured, wall, c₁₂, hwall, h⟩ := h
  obtain ⟨capability, c₁₃, hcapability, topology, c₁₄, htopology, h⟩ := h
  obtain ⟨integrity, c₁₅, hintegrity, hintegrity', throttle, c₁₆, hthrottle, h⟩ := h
  obtain ⟨limit, c₁₇, hlimit, shutdown, c₁₈, hshutdown, clock, c₁₉, hclock, h⟩ := h
  obtain ⟨clock', c₂₀, hclock', cooling, c₂₁, hcooling, fan, c₂₂, hfan, h⟩ := h
  obtain ⟨confidence, c₂₃, hconfidence, rfl, rfl, -⟩ := h
  obtain ⟨⟨_, hreading, rfl⟩, -⟩ := sound_readTemperature htemperature
  refine ⟨?_, rfl, rfl⟩
  rw [← MeasurementSource.ctorIdx_ofNat source hsource'] at hsource
  rw [← Provenance.ctorIdx_ofNat provenance (Nat.lt_succ_of_le hprovenance')] at hprovenance
  rw [← IntegrityStatus.ctorIdx_ofNat integrity hintegrity'] at hintegrity
  simp only [writeReading, front_append]
  refine ⟨c₂₂, ⟨c₂₁, ⟨c₂₀, ⟨c₁₉, ⟨c₁₈, ⟨c₁₇, ⟨c₁₆, ⟨c₁₅, ?_, ?_⟩, ?_⟩, ?_⟩, ?_⟩, ?_⟩, ?_⟩, ?_⟩, ?_⟩
  · exact ⟨c₁, hdomain, c₂, hgeneration, _, hreading, c₄, hsource, c₅, hprovenance, c₆, hsequence,
      c₇, htelemetry, c₈, hworker, c₉, hboot, c₁₀, hepoch, c₁₁, hmeasured, c₁₂, hwall, c₁₃,
      hcapability, c₁₄, htopology, c₁₅, hintegrity, rfl⟩
  · exact (sound_optionalPayload sound_throttle hthrottle).1
  · exact (sound_optional sound_readTemperature hlimit).1
  · exact (sound_optional sound_readTemperature hshutdown).1
  · exact (sound_optional (sound_field (k := .u32)) hclock).1
  · exact (sound_optional (sound_field (k := .u32)) hclock').1
  · exact (sound_optionalPayload sound_cooling hcooling).1
  · exact (sound_optionalPayload sound_fan hfan).1
  · exact (sound_optional (sound_field (k := .real)) hconfidence).1

/-! ### The subject -/

/-- **No subject is answered with a good reader exactly at a kind that names none.** -/
theorem yields_readSubject_none :
    Yields (readSubject : RecordReader C (Option SubjectRef)) c none c' ↔
      ∃ kind, Shows c (.u8 kind) c' ∧ SubjectKind.thermalDomain.ctorIdx < kind ∧
        Input.ok c' = true := by
  simp only [readSubject, u8, yields_field_iff, yields_isOk_bind, Kind.field, Kind.Accepts,
    true_and, Bool.not_true, Bool.false_or, decide_eq_true_eq]
  constructor
  · rintro ⟨kind, c₁, hshows, h⟩
    split at h
    · rename_i hkind
      obtain ⟨-, rfl, hok⟩ := yields_pure.mp h
      exact ⟨kind, hshows, hkind, hok⟩
    · simp [u64, yields_field_iff] at h
  · rintro ⟨kind, hshows, hkind, hok⟩
    refine ⟨kind, c', hshows, ?_⟩
    rw [if_pos hkind]
    exact yields_pure.mpr ⟨rfl, rfl, hok⟩

theorem sound_readSubject {subject : SubjectRef}
    (h : Yields (readSubject : RecordReader C (Option SubjectRef)) c (some subject) c') :
    Front c (Durable.writeSubject subject) c' := by
  simp only [readSubject, u8, yields_field_iff, yields_isOk_bind, Kind.field, Kind.Accepts,
    true_and, Bool.not_true, Bool.false_or, decide_eq_true_eq] at h
  obtain ⟨kind, c₁, hshows, h⟩ := h
  split at h
  · simp at h
  · rename_i hkind
    simp only [u64, yields_field_iff, yields_isOk_bind, Kind.field, Kind.Accepts, true_and,
      if_true, yields_pure, Option.some.injEq] at h
    have hlt : kind < 6 := Nat.lt_succ_of_le (not_lt.mp hkind)
    simp only [Durable.writeSubject, Front]
    grind [SubjectKind.ctorIdx_ofNat]

/-! ### Whole records -/

/-- **Evidence is answered with a good reader when the record stands in front, and also at the
kind of a subject that names none.** -/
theorem yields_readEvidence [Scalar R] [Zero R] {e : ThermalEvidence R}
    (h : Yields (readEvidence : RecordReader C (ThermalEvidence R)) c e c') :
    Front c (writeEvidence e) c' ∨
      ∃ id kind c₁, Shows c (.u64 id) c₁ ∧ Shows c₁ (.u8 kind) c' ∧
        SubjectKind.thermalDomain.ctorIdx < kind := by
  simp only [readEvidence, u64, yields_field_iff, yields_bind (d := readSubject), Kind.field,
    Kind.Accepts, true_and] at h
  obtain ⟨id, c₁, hid, subject, c₂, hsubject, h⟩ := h
  cases subject with
  | none =>
    obtain ⟨-, rfl, -⟩ := yields_pure.mp h
    obtain ⟨kind, hkind, hlt, -⟩ := yields_readSubject_none.mp hsubject
    exact .inr ⟨id, kind, c₁, hid, hkind, hlt⟩
  | some subject =>
    obtain ⟨hfront, rfl, rfl⟩ := sound_reading h
    rw [writeEvidence_eq, front_append]
    refine .inl ⟨c₁, ⟨c₁, hid, rfl⟩, ?_⟩
    rw [front_append]
    exact ⟨c₂, sound_readSubject hsubject, hfront⟩

end Wire

end ThermalGovernor
