import ThermalGovernor.Durable.RoundTrip

/-!
# Laws of the durable format

`decodes_iff` : which states that were written can be read.  The writer checks the tables and
the sizes of the records and of the body, but not the lengths of texts, the number of records,
the values that the reader checks, or the 40 bytes around the body.

`decodeDurableBytes_encode` : a state within all bounds comes back.
`decodeDurableBytes_sound` : what any buffer that is accepted is, and what holds of the state.
-/

namespace ThermalGovernor

open Lib Lib.Bytes Lib.Input

namespace Durable

variable {limits : PersistenceLimits}

/-! ### Whatever is written can be read -/

/-- **A state that was encoded is decoded exactly when it has the version of the format, is
within the bounds of the reader and repeats no identity.** -/
theorem decodes_iff {state : DurableState Double} {bytes : Bytes} (hstorable : Storable state)
    (hwritten : encodeDurableBytes state limits = .ok bytes) :
    (∃ result, decodeDurableBytes bytes limits = .ok result) ↔
      state.formatVersion = persistenceFormatVersion ∧ WithinBounds limits state ∧
        UniqueIds state := by
  simp only [decode_of_encode hstorable hwritten, exists_and_left, exists_eq, and_true]
  constructor
  · rintro ⟨hrecords, hfile, hentries, hunique⟩
    have hversion : state.formatVersion = persistenceFormatVersion :=
      hentries (.coordinator state) List.mem_cons_self
    exact ⟨hversion, (withinBounds_iff_entries hversion).mpr ⟨hrecords, hfile, hentries⟩, hunique⟩
  · rintro ⟨hversion, hbounds, hunique⟩
    obtain ⟨hrecords, hfile, hentries⟩ := (withinBounds_iff_entries hversion).mp hbounds
    exact ⟨hrecords, hfile, hentries, hunique⟩

/-- A state with one device of a label. -/
def labelled (label : String) : DurableState Double where
  formatVersion := 1
  devices := [{ device := 1, label := label }]

theorem byteSize_labelled (label : String) :
    Payload.byteSize (writeDevice { device := 1, label := label } : Payload Double) =
      label.length + 136 := by
  simp [writeDevice, allCapabilities, writeCapability, Payload.byteSize, Field.byteSize,
    List.range_succ, List.range_zero]
  omega

theorem storable_labelled {label : String} (hlength : label.length < 2 ^ 20)
    (hchars : ∀ c ∈ label.toList, c.toNat < 256) : Storable (labelled label) := by
  have hentries : entries (labelled label) =
      [.coordinator (labelled label), .device { device := 1, label := label }] := rfl
  have hsize := byteSize_labelled label
  refine ⟨?_, ?_, ?_⟩
  · rw [hentries]
    simp [Entry.record, writeDevice, writeCoordinator, labelled, FitsAll, Fits, writeCapability,
      Lib.Field.Fits]
    refine ⟨⟨by omega, hchars⟩, by decide, ?_⟩
    rintro a c - (rfl | rfl)
    · show (({} : CapabilitySet).get c).ctorIdx < 256
      cases c <;> decide
    · simp
  · simp [hentries, Entry.record, hsize, writeCoordinator, Payload.byteSize, Field.byteSize]
    omega
  · simp [container, Container.byteSize, Container.bodySize, Record.byteSize, hentries,
      Entry.record, hsize, writeCoordinator, Payload.byteSize, Field.byteSize]
    omega

theorem encode_labelled {label : String} (hlength : label.length < 2 ^ 20) :
    encodeDurableBytes (labelled label) {} = .ok (container (labelled label)).bytes := by
  have hsize := byteSize_labelled label
  have hchecks : ∀ check ∈ encodeChecks (labelled label) {}, check.holds = true := by
    rw [encodeChecks_holds]
    refine ⟨⟨?_, ?_, ?_, ?_, ?_, ?_, ?_⟩, ?_, ?_⟩
    all_goals simp [labelled, container, Container.bodySize, Record.byteSize, entries,
      Entry.record, hsize, writeCoordinator, Payload.byteSize, Field.byteSize]
    all_goals omega
  rw [encodeDurableBytes, encodeDurableState_eq_ok.mpr ⟨hchecks, rfl⟩]
  rfl

theorem storable_gpu : Storable (labelled "gpu") := by
  refine storable_labelled (by decide +kernel) ?_
  show ∀ c ∈ (String.ofList ['g', 'p', 'u']).toList, c.toNat < 256
  rw [String.toList_ofList]
  exact List.forall_mem_cons.mpr ⟨by decide, List.forall_mem_cons.mpr
    ⟨by decide, List.forall_mem_singleton.mpr (by decide)⟩⟩

theorem decodes_labelled : ∃ result, decodeDurableBytes
    (container (labelled "gpu")).bytes {} = .ok result :=
  (decodes_iff storable_gpu (encode_labelled (by decide +kernel))).mpr
    ⟨rfl, by decide +kernel, .nil, List.nodup_singleton _, .nil, .nil, .nil⟩

/-- A label that is longer than the reader allows is written all the same. -/
theorem not_decodes_of_length {label : String} (hlong : 65536 < label.length)
    (hlength : label.length < 2 ^ 20) (hchars : ∀ c ∈ label.toList, c.toNat < 256) :
    ∃ bytes, encodeDurableBytes (labelled label) {} = .ok bytes ∧
      ¬ ∃ result, decodeDurableBytes bytes {} = .ok result := by
  refine ⟨_, encode_labelled hlength, ?_⟩
  rintro ⟨result, hread⟩
  obtain ⟨⟨-, -, hentries, -⟩, -⟩ :=
    (decode_of_encode (storable_labelled hlength hchars) (encode_labelled hlength)).mp hread
  have hdevice : DeviceBounds {} { device := 1, label := label } :=
    hentries (.device { device := 1, label := label })
      (List.mem_cons_of_mem _ List.mem_cons_self)
  have hlabel : label.length ≤ 64 * 1024 := hdevice.label
  omega

/-- **A device with a label of 65537 bytes is written and cannot be read.** -/
theorem not_decodes : ∃ bytes,
    encodeDurableBytes (labelled (.ofList (.replicate 65537 'x'))) {} = .ok bytes ∧
      ¬ ∃ result, decodeDurableBytes bytes {} = .ok result := by
  have hlength : (String.ofList (.replicate 65537 'x')).length = 65537 := by
    rw [String.length_ofList, List.length_replicate]
  refine not_decodes_of_length (by omega) (by omega) fun c hc => ?_
  rw [String.toList_ofList] at hc
  rw [List.eq_of_mem_replicate hc]
  decide

/-! ### A state within all bounds comes back -/

/-- **A state within the bounds of the format is read back**, with every field that the format
carries as it was and in the same order. -/
theorem decodeDurableBytes_encode {state : DurableState Double} (hstorable : Storable state)
    (hversion : state.formatVersion = persistenceFormatVersion) (hunique : UniqueIds state)
    (hcounts : WithinCounts limits state) (hbounds : WithinBounds limits state)
    (hsizes : ∀ record ∈ (container state).records,
      record.payload.byteSize ≤ limits.maxRecordBytes)
    (hexpiries : ∀ relation ∈ state.couplings, relation.validUntil = none) :
    ∃ bytes, encodeDurableBytes state limits = .ok bytes ∧
      decodeDurableBytes bytes limits = .ok
        { state :=
            { state with
              actions := state.actions.map forgetInstants
              verifications := state.verifications.map forgetReasons }
          recordsRead := (container state).records.length
          bytesRead := bytes.length } := by
  have hfile := hbounds.file
  have hentries : ∀ entry ∈ entries state,
      entry.record.payload.byteSize ≤ limits.maxRecordBytes := List.forall_mem_map.mp hsizes
  have hbody : (container state).bodySize ≤ limits.maxFileBytes := by
    rw [Container.byteSize] at hfile
    omega
  have hwritten : encodeDurableBytes state limits = .ok (container state).bytes := by
    rw [encodeDurableBytes, encodeDurableState_eq_ok.mpr
      ⟨encodeChecks_holds.mpr ⟨hcounts, hentries, hbody⟩, rfl⟩]
    rfl
  have hcouplings : state.couplings.map forgetExpiry = state.couplings := by
    refine (List.map_congr_left fun relation hrelation => ?_).trans (List.map_id _)
    rw [forgetExpiry, ← hexpiries relation hrelation, id]
  obtain ⟨hrecords, -, hin⟩ := (withinBounds_iff_entries hversion).mp hbounds
  refine ⟨_, hwritten, ?_⟩
  rw [(decode_of_encode hstorable hwritten).mpr ⟨⟨hrecords, hfile, hin, hunique⟩, rfl⟩, readBack,
    hcouplings]
  simp only [container, List.length_map]

/-- A state with an entry in every table but that of the policies. -/
def filled : DurableState Double where
  formatVersion := 1
  coordinator := 7
  sequence := 9
  devices := [{ device := 1, label := "gpu" }]
  domains := [{ id := 2, members := [{ weight := .ofRat 1 }], parent := some 3 }]
  couplings := [{ id := 4, source := 2, destination := 3, weight := .ofRat (1 / 2) }]
  transitions := [{ domain := 2, temperature := .ofRat 70 }]
  actions := [{ id := 5, requestedConcurrency := some (.ofRat 50), plannedAt := 6 }]
  verifications := [{ actionId := 5, temperatureBefore := .ofRat 71 }]

theorem decodeDurableBytes_encode_filled : ∃ bytes, encodeDurableBytes filled {} = .ok bytes ∧
    decodeDurableBytes bytes {} = .ok
      { state :=
          { filled with
            actions := filled.actions.map forgetInstants
            verifications := filled.verifications.map forgetReasons }
        recordsRead := (container filled).records.length
        bytesRead := bytes.length } := by
  have hunique : UniqueIds filled := ⟨.nil, List.nodup_singleton _, List.nodup_singleton _,
    List.nodup_singleton _, List.nodup_singleton _⟩
  have hcounts : WithinCounts {} filled := by
    constructor <;> decide
  exact decodeDurableBytes_encode (by decide +kernel) rfl hunique hcounts (by decide +kernel)
    (by decide +kernel) (by decide)

/-! ### Whatever is accepted -/

/-- The temperature is a number in the range of a reading. -/
def Representable (t : Double) : Prop :=
  ∃ q : ℚ, t.value = some ((q : WithTop ℚ) : WithBot (WithTop ℚ)) ∧ DegreesCelsius.valid q = true

theorem representable_of_isReading {t : Double} (h : Scalar.isReading t = true) :
    Representable t := by
  obtain ⟨hlow, hhigh⟩ := Bool.and_eq_true_iff.mp h
  have hlowest : (Double.ofRat DegreesCelsius.absoluteZero).value =
      some (((Double.ofRat DegreesCelsius.absoluteZero).finite : WithTop ℚ) :
        WithBot (WithTop ℚ)) := by decide +kernel
  have hhighest : (Double.ofRat DegreesCelsius.maxPlausible).value =
      some ((DegreesCelsius.maxPlausible : WithTop ℚ) : WithBot (WithTop ℚ)) := by decide +kernel
  obtain ⟨q, hq, hle, hle'⟩ := Double.exists_of_le hlowest hhighest hlow hhigh
  -- the literal of the source rounds to a double above absolute zero
  have hzero : DegreesCelsius.absoluteZero ≤ (Double.ofRat DegreesCelsius.absoluteZero).finite := by
    decide +kernel
  refine ⟨q, hq, ?_⟩
  rw [DegreesCelsius.valid, Bool.and_eq_true, decide_eq_true_eq, decide_eq_true_eq]
  exact ⟨hzero.trans hle, hle'⟩

/-- Every temperature that the reader looks at is representable. -/
structure TemperaturesRepresentable (state : DurableState Double) : Prop where
  warning : ∀ policy ∈ state.policies, Representable policy.thresholds.warning
  derating : ∀ policy ∈ state.policies, Representable policy.thresholds.derating
  critical : ∀ policy ∈ state.policies, Representable policy.thresholds.critical
  recovery : ∀ policy ∈ state.policies, Representable policy.thresholds.recovery
  transitions : ∀ record ∈ state.transitions, Representable record.temperature
  before : ∀ v ∈ state.verifications, Representable v.temperatureBefore
  after : ∀ v ∈ state.verifications, Representable v.temperatureAfter

theorem temperaturesRepresentable_of_bounded {state : DurableState Double}
    (h : Bounded limits state) : TemperaturesRepresentable state where
  warning policy hp := representable_of_isReading (h.policies policy hp).warning
  derating policy hp := representable_of_isReading (h.policies policy hp).derating
  critical policy hp := representable_of_isReading (h.policies policy hp).critical
  recovery policy hp := representable_of_isReading (h.policies policy hp).recovery
  transitions record hr := representable_of_isReading (h.transitions record hr)
  before v hv := representable_of_isReading (h.verifications v hv).before
  after v hv := representable_of_isReading (h.verifications v hv).after

/-- **A buffer is refused with an error, or it is a container of as many records as its head
declares and of nothing else**, each with the bytes of an entry (`Carries`), and the state
within the bounds of the reader.  Whatever is read of the buffer is inside it, since a read
takes the proof of that (`slice`). -/
theorem decodeDurableBytes_sound (bytes : Bytes) (limits : PersistenceLimits) :
    (∃ e, decodeDurableBytes bytes limits = .error e) ∨
      ∃ result, decodeDurableBytes bytes limits = .ok result ∧ Bounded limits result.state ∧
        TemperaturesRepresentable result.state ∧
        (∃ h, wordAt bytes 16 8 h = result.recordsRead) ∧ result.bytesRead = bytes.length ∧
        ∃ (reserved : Bytes) (parts : List Bytes) (list : List (Entry Double)),
          reserved.length = 4 ∧ parts.length = result.recordsRead ∧
          bytes = withChecksum (containerHead persistenceFormatVersion reserved parts.length
            parts.flatten.length) ++ withChecksum parts.flatten ∧
          List.Forall₂ Carries parts list ∧
          Loads limits { formatVersion := persistenceFormatVersion } list ∧
          result.state = enterAll { formatVersion := persistenceFormatVersion } list := by
  cases hdecode : decodeDurableBytes bytes limits with
  | error e => exact .inl ⟨e, rfl⟩
  | ok result =>
    obtain ⟨hsize, -, reserved, recordCount, body, read, hreserved, hlt, -, hbytes, hread, rfl⟩ :=
      decodeDurableBytes_eq_ok.mp hdecode
    obtain ⟨list, parts, hcarries, rfl, hbody, hloads, rfl⟩ := exists_of_readRecordBytes hread
    rw [List.append_nil] at hbody
    subst hbody
    have hbounded := bounded_enterAll (bounded_start limits persistenceFormatVersion) hloads
    refine .inr ⟨_, rfl, hbounded, temperaturesRepresentable_of_bounded hbounded, ?_, rfl,
      reserved, parts, list, hreserved, (Nat.zero_add _).symm, hbytes, hcarries, hloads, rfl⟩
    have hbody : parts.flatten.length < 2 ^ 64 := by
      rw [hbytes, List.length_append, length_withChecksum parts.flatten] at hsize
      omega
    obtain ⟨hlength, -, -, hcount, -⟩ := container_words hbytes hreserved (by decide) hlt hbody
    exact ⟨by omega, hcount.trans (Nat.zero_add _).symm⟩

end Durable

end ThermalGovernor
