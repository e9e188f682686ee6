import ThermalGovernor.Durable.Container

/-!
# What the readers accept

The converse of `Durable.Reads`.  Whatever a reader accepts is the record that it answers, as
the writer writes it: every enumeration stands at the position of the value it is read as,
and the bounds that the reader checks are met.  For a record that loses something on the way
it is some record that is read back as the answer.

`sound_record` puts the kinds together: a record that is taken is the record of an entry that
is admitted.  `Bounded` is what holds of a state that entries have been admitted to.
-/

namespace ThermalGovernor

open Lib Lib.Decoder Lib.Input

/-! ### Positions of enumerations -/

theorem WorkloadThermalProfile.ctorIdx_ofNat :
    ∀ n < 6, (WorkloadThermalProfile.ofNat n).ctorIdx = n := by decide

theorem ExecutionClass.ctorIdx_ofNat : ∀ n < 4, (ExecutionClass.ofNat n).ctorIdx = n := by
  decide

theorem UnknownBehavior.ctorIdx_ofNat : ∀ n < 5, (UnknownBehavior.ofNat n).ctorIdx = n := by
  decide

theorem UnsupportedBehavior.ctorIdx_ofNat :
    ∀ n < 4, (UnsupportedBehavior.ofNat n).ctorIdx = n := by decide

theorem Provenance.ctorIdx_ofNat : ∀ n < 4, (Provenance.ofNat n).ctorIdx = n := by decide

theorem CapabilityState.ctorIdx_ofNat :
    ∀ n ≤ CapabilityState.unsupported.ctorIdx, (CapabilityState.ofNat n).ctorIdx = n := by decide

theorem SubjectKind.ctorIdx_ofNat : ∀ n < 6, (SubjectKind.ofNat n).ctorIdx = n := by decide

theorem ThermalDomainType.ctorIdx_ofNat : ∀ n < 7, (ThermalDomainType.ofNat n).ctorIdx = n := by
  decide

theorem AggregationRule.ctorIdx_ofNat : ∀ n < 4, (AggregationRule.ofNat n).ctorIdx = n := by
  decide

theorem CouplingType.ctorIdx_ofNat : ∀ n < 7, (CouplingType.ofNat n).ctorIdx = n := by decide

theorem ThermalState.ctorIdx_ofNat : ∀ n < 9, (ThermalState.ofNat n).ctorIdx = n := by decide

theorem DeratingLevel.ctorIdx_ofNat : ∀ n < 10, (DeratingLevel.ofNat n).ctorIdx = n := by decide

theorem ThermalDecision.ctorIdx_ofNat : ∀ n < 7, (ThermalDecision.ofNat n).ctorIdx = n := by
  decide

theorem MitigationIntent.ctorIdx_ofNat : ∀ n < 12, (MitigationIntent.ofNat n).ctorIdx = n := by
  decide

theorem ActionLifecycle.ctorIdx_ofNat : ∀ n < 13, (ActionLifecycle.ofNat n).ctorIdx = n := by
  decide

theorem VerificationOutcome.ctorIdx_ofNat :
    ∀ n < 10, (VerificationOutcome.ofNat n).ctorIdx = n := by decide

namespace Durable

variable {R C α : Type} [Input R C] {c c' : C}

/-! ### Shared fields -/

theorem bit_ne_zero {v : Nat} (h : v ≤ 1) : bit (decide (v ≠ 0)) = v := by
  rcases Nat.le_one_iff_eq_zero_or_eq_one.mp h with rfl | rfl <;> rfl

theorem yields_readTemperature_iff [Scalar R] {β : Type} {e : ThermalError}
    {f : R → RecordReader C β} {b : β} : Yields (readTemperature e >>= f) c b c' ↔
      ∃ v c₁, Shows c (.real v) c₁ ∧ Scalar.isReading v = true ∧ Yields (f v) c₁ b c' := by
  simp [readTemperature, real, yields_field_iff, Kind.field, Kind.Accepts]

theorem sound_readPercent [Scalar R] {e : ThermalError} :
    Sound (readPercent e : RecordReader C R) (fun v => [.real v])
      fun v => Scalar.isPercent v = true := by
  intro c v c' h
  simp only [readPercent, real, yields_field_iff, Kind.field, Kind.Accepts, yields_require_bind,
    yields_pure, true_and] at h
  obtain ⟨_, c₁, hshows, hpercent, rfl, rfl, -⟩ := h
  exact ⟨⟨c', hshows, rfl⟩, hpercent⟩

/-! ### Policies -/

theorem sound_restriction : Sound (readRestriction : RecordReader C (WorkloadRestriction R))
    writeRestriction fun _ => True := by
  intro c a c' h
  simp only [readRestriction, u8, real, yields_field_iff, Kind.field, Kind.Accepts,
    yields_require_bind, yields_pure, true_and, Bool.and_eq_true, decide_eq_true_eq] at h
  simp only [writeRestriction, Front, and_true]
  grind [WorkloadThermalProfile.ctorIdx_ofNat, ExecutionClass.ctorIdx_ofNat, bit_ne_zero]

/-! The groups of fields of a policy. -/

def writeThresholds (t : ThermalThresholds R) : Payload R :=
  [.real t.warning, .real t.derating, .real t.critical, .real t.recovery, .real t.nearLimitBand]

def writeMargins (m : ThermalMargins R) : Payload R :=
  [.real m.policySafetyMargin, .real m.uncertaintyMargin, .real m.recoveryMargin]

def writeFreshness (f : FreshnessRequirements) : Payload R :=
  [.i64 f.maxAge, .u32 f.requiredConsecutiveSamples, .i64 f.minEvidenceSpan,
    .u32 f.minDistinctWitnesses]

def writeRecovery (r : RecoveryPolicy) : Payload R :=
  [.flag r.requireNoThermalThrottle, .flag r.requireHeadroomAboveRecoveryMargin,
    .flag r.requireCoupledDomainsRecovered, .flag r.requireSameWorkerBoot,
    .flag r.requireSameCoordinatorEpoch, .flag r.requireSameDeviceGeneration,
    .flag r.requireExplicitAuthorization, .flag r.forbidRecoveryAfterUnsupportedEvidence]

def writeConcurrency (c : ConcurrencyPolicy R) : Payload R :=
  [.real c.normal, .real c.warm, .real c.nearLimit, .real c.derated, .real c.critical]

def writeEmergency (e : EmergencyPolicy) : Payload R :=
  [.flag e.denyAllExecution, .flag e.allowContainmentIntent, .flag e.allowMigrationIntent,
    .flag e.allowCoolingInterventionIntent]

def writeCouplingPolicy (c : CouplingPolicy) : Payload R :=
  [.flag c.coDerateCoupledDomains, .u32 c.maxPropagationDepth, .flag c.requireCoupledRecovery,
    .flag c.escalateToHottestNeighbour]

theorem writePolicy_eq (policy : PolicyOver R) : writePolicy policy =
    [.u64 policy.id, .u64 policy.generation, .text policy.label] ++
    (writeThresholds policy.thresholds ++ (writeMargins policy.margins ++
    (writeFreshness policy.freshness ++ (writeRecovery policy.recovery ++
    ([.flag policy.verification.required, .real policy.verification.improvementEpsilon,
      .u32 policy.verification.requiredSamples, .real policy.admission.minEffectiveHeadroom,
      .flag policy.admission.allowDeratedAdmission, .flag policy.admission.allowDefer] ++
    (writeConcurrency policy.concurrency ++ (writeEmergency policy.emergency ++
    (writeCouplingPolicy policy.coupling ++
    ([.u8 policy.unknownBehavior.ctorIdx, .u8 policy.unsupportedBehavior.ctorIdx,
      .u32 policy.allowedIntents, .u32 policy.workloadRestrictions.length] ++
    policy.workloadRestrictions.flatMap writeRestriction))))))))) := rfl

theorem sound_thresholds [Scalar R] : Sound (readThresholds : RecordReader C (ThermalThresholds R))
    writeThresholds fun t => Scalar.isReading t.warning = true ∧
      Scalar.isReading t.derating = true ∧ Scalar.isReading t.critical = true ∧
      Scalar.isReading t.recovery = true := by
  intro c a c' h
  simp only [readThresholds, yields_readTemperature_iff, real, yields_field_iff, Kind.field,
    Kind.Accepts, yields_pure, true_and] at h
  simp only [writeThresholds, Front]
  grind

theorem sound_margins : Sound (readMargins : RecordReader C (ThermalMargins R)) writeMargins
    fun _ => True := by
  intro c a c' h
  simp only [readMargins, real, yields_field_iff, Kind.field, Kind.Accepts, yields_pure,
    true_and] at h
  simp only [writeMargins, Front, and_true]
  grind

theorem sound_freshness : Sound (readFreshness : RecordReader C FreshnessRequirements)
    writeFreshness fun _ => True := by
  intro c a c' h
  simp only [readFreshness, i64, u32, yields_field_iff, Kind.field, Kind.Accepts, yields_pure,
    true_and] at h
  simp only [writeFreshness, Front, and_true]
  grind

theorem sound_recovery : Sound (readRecovery : RecordReader C RecoveryPolicy) writeRecovery
    fun _ => True := by
  intro c a c' h
  simp only [readRecovery, flag, yields_field_iff, Kind.field, Kind.Accepts, yields_pure,
    true_and] at h
  simp only [writeRecovery, Front, and_true]
  grind

theorem sound_concurrency : Sound (readConcurrency : RecordReader C (ConcurrencyPolicy R))
    writeConcurrency fun _ => True := by
  intro c a c' h
  simp only [readConcurrency, real, yields_field_iff, Kind.field, Kind.Accepts, yields_pure,
    true_and] at h
  simp only [writeConcurrency, Front, and_true]
  grind

theorem sound_emergency : Sound (readEmergency : RecordReader C EmergencyPolicy) writeEmergency
    fun _ => True := by
  intro c a c' h
  simp only [readEmergency, flag, yields_field_iff, Kind.field, Kind.Accepts, yields_pure,
    true_and] at h
  simp only [writeEmergency, Front, and_true]
  grind

theorem sound_couplingPolicy : Sound (readCouplingPolicy : RecordReader C CouplingPolicy)
    writeCouplingPolicy fun _ => True := by
  intro c a c' h
  simp only [readCouplingPolicy, flag, u32, yields_field_iff, Kind.field, Kind.Accepts,
    yields_pure, true_and] at h
  simp only [writeCouplingPolicy, Front, and_true]
  grind

theorem sound_policy [Scalar R] {limits : PersistenceLimits} :
    Sound (readPolicy limits : RecordReader C (PolicyOver R)) writePolicy
      (PolicyBounds limits) := by
  intro c a c' h
  simp only [readPolicy, u8, flag, u32, u64, real, text, yields_field_iff,
    yields_bind (d := readThresholds), yields_bind (d := readMargins),
    yields_bind (d := readFreshness), yields_bind (d := readRecovery),
    yields_bind (d := readConcurrency), yields_bind (d := readEmergency),
    yields_bind (d := readCouplingPolicy), yields_bind (d := many _ _), Kind.field,
    Kind.Accepts, yields_require_bind, yields_requireOk_bind, yields_pure, true_and,
    Bool.and_eq_true, decide_eq_true_eq] at h
  obtain ⟨id, c₁, hid, h⟩ := h
  obtain ⟨generation, c₂, hgeneration, h⟩ := h
  obtain ⟨label, c₃, hlabel, hlimit, h⟩ := h
  obtain ⟨thresholds, c₄, hthresholds, h⟩ := h
  obtain ⟨margins, c₅, hmargins, h⟩ := h
  obtain ⟨freshness, c₆, hfreshness, h⟩ := h
  obtain ⟨recovery, c₇, hrecovery, h⟩ := h
  obtain ⟨required, c₈, hrequired, h⟩ := h
  obtain ⟨epsilon, c₉, hepsilon, h⟩ := h
  obtain ⟨samples, c₁₀, hsamples, h⟩ := h
  obtain ⟨headroom, c₁₁, hheadroom, h⟩ := h
  obtain ⟨derated, c₁₂, hderated, h⟩ := h
  obtain ⟨defer, c₁₃, hdefer, h⟩ := h
  obtain ⟨concurrency, c₁₄, hconcurrency, h⟩ := h
  obtain ⟨emergency, c₁₅, hemergency, h⟩ := h
  obtain ⟨coupling, c₁₆, hcoupling, h⟩ := h
  obtain ⟨unknown, c₁₇, hunknown, h⟩ := h
  obtain ⟨unsupported, c₁₈, hunsupported, h⟩ := h
  obtain ⟨⟨hlt, hlt'⟩, intents, c₁₉, hintents, count, c₂₀, hcount, hle,
    restrictions, c₂₁, hrestrictions, rfl, rfl, -⟩ := h
  obtain ⟨hfront₁, hwarning, hderating, hcritical, hrecovered⟩ := sound_thresholds hthresholds
  obtain ⟨hfronts, rfl, -⟩ := sound_many sound_restriction count hrestrictions
  refine ⟨?_, ⟨hlimit, hwarning, hderating, hcritical, hrecovered, hle⟩⟩
  rw [writePolicy_eq]
  simp only [front_append, Front]
  rw [← UnknownBehavior.ctorIdx_ofNat unknown hlt] at hunknown
  rw [← UnsupportedBehavior.ctorIdx_ofNat unsupported hlt'] at hunsupported
  exact ⟨c₃, ⟨c₁, hid, c₂, hgeneration, c₃, hlabel, rfl⟩, c₄, hfront₁, c₅,
    (sound_margins hmargins).1, c₆, (sound_freshness hfreshness).1, c₇,
    (sound_recovery hrecovery).1, c₁₃, ⟨c₈, hrequired, c₉, hepsilon, c₁₀, hsamples, c₁₁, hheadroom,
    c₁₂, hderated, c₁₃, hdefer, rfl⟩, c₁₄, (sound_concurrency hconcurrency).1, c₁₅,
    (sound_emergency hemergency).1, c₁₆, (sound_couplingPolicy hcoupling).1, c₂₀,
    ⟨c₁₇, hunknown, c₁₈, hunsupported, c₁₉, hintents, c₂₀, hcount, rfl⟩, hfronts⟩

/-! ### Devices -/

/-- Reading some capabilities leaves those that were read before. -/
theorem sound_capabilities {limits : PersistenceLimits} {list : List ThermalCapability}
    (hlist : list.Nodup) {capabilities result : CapabilitySet}
    (h : Yields (readCapabilities limits list capabilities : RecordReader C CapabilitySet)
      c result c') :
    Front c (list.flatMap (writeCapability result)) c' ∧
      (∀ capability ∈ list, (result.details capability).length ≤ limits.maxStringBytes) ∧
      ∀ capability, capability ∉ list → result.states capability = capabilities.states capability ∧
        result.details capability = capabilities.details capability := by
  induction list generalizing capabilities c with
  | nil =>
    obtain ⟨rfl, rfl, -⟩ := yields_pure.mp h
    exact ⟨rfl, fun _ hmem => (by cases hmem), fun _ _ => ⟨rfl, rfl⟩⟩
  | cons first rest ih =>
    obtain ⟨hfirst, hrest⟩ := List.nodup_cons.mp hlist
    simp only [readCapabilities, u8, text, yields_field_iff, Kind.field, Kind.Accepts, true_and,
      yields_require_bind, yields_requireOk_bind, decide_eq_true_eq] at h
    obtain ⟨state, c₁, hstate, detail, c₂, hdetail, hlimit, hle, h⟩ := h
    obtain ⟨hfront, hlimits, hkept⟩ := ih hrest h
    obtain ⟨hstates, hdetails⟩ := hkept first hfirst
    have hset : (capabilities.set first (.ofNat state) detail).states first = .ofNat state ∧
        (capabilities.set first (.ofNat state) detail).details first = detail := by
      simp [CapabilitySet.set]
    rw [hset.1] at hstates
    rw [hset.2] at hdetails
    refine ⟨?_, List.forall_mem_cons.mpr ⟨by rw [hdetails]; exact hlimit, hlimits⟩, ?_⟩
    · rw [List.flatMap_cons, front_append]
      refine ⟨c₂, ?_, hfront⟩
      rw [writeCapability, CapabilitySet.get, hstates, hdetails,
        CapabilityState.ctorIdx_ofNat state hle]
      exact ⟨c₁, hstate, c₂, hdetail, rfl⟩
    · intro capability hnew
      rw [List.mem_cons, not_or] at hnew
      obtain ⟨hstates', hdetails'⟩ := hkept capability hnew.2
      rw [hstates', hdetails']
      simp [CapabilitySet.set, hnew.1]

theorem nodup_allCapabilities : allCapabilities.Nodup := by decide

theorem sound_device {limits : PersistenceLimits} :
    Sound (readDevice limits : RecordReader C DeviceRegistration) writeDevice
      (DeviceBounds limits) := by
  intro c a c' h
  simp only [readDevice, u8, u64, text, yields_field_iff, yields_bind (d := readCapabilities _ _ _),
    Kind.field, Kind.Accepts, yields_require_bind, yields_requireOk_bind, yields_pure, true_and,
    decide_eq_true_eq] at h
  obtain ⟨device, c₁, hdevice, generation, c₂, hgeneration, h⟩ := h
  obtain ⟨node, c₃, hnode, nodeGeneration, c₄, hnodeGeneration, h⟩ := h
  obtain ⟨rack, c₅, hrack, rackGeneration, c₆, hrackGeneration, h⟩ := h
  obtain ⟨label, c₇, hlabel, hlimit, provenance, c₈, hprovenance, hle, h⟩ := h
  obtain ⟨revision, c₉, hrevision, capabilities, c₁₀, hcapabilities, rfl, rfl, -⟩ := h
  obtain ⟨hfront, hdetails, -⟩ := sound_capabilities nodup_allCapabilities hcapabilities
  refine ⟨?_, ⟨hlimit, fun capability _ => hdetails capability (mem_allCapabilities capability)⟩⟩
  rw [← Provenance.ctorIdx_ofNat provenance (Nat.lt_succ_of_le hle)] at hprovenance
  rw [writeDevice, front_append]
  exact ⟨c₉, ⟨c₁, hdevice, c₂, hgeneration, c₃, hnode, c₄, hnodeGeneration, c₅, hrack, c₆,
    hrackGeneration, c₇, hlabel, c₈, hprovenance, c₉, hrevision, rfl⟩, hfront⟩

/-! ### Domains -/

theorem sound_subject {e : ThermalError} :
    Sound (readSubject e : RecordReader C SubjectRef) writeSubject fun _ => True := by
  intro c a c' h
  simp only [readSubject, u8, u64, yields_field_iff, yields_require_bind, yields_requireOk_bind,
    yields_pure, Kind.field, Kind.Accepts, true_and, decide_eq_true_eq] at h
  simp only [writeSubject, Front, and_true]
  grind [SubjectKind.ctorIdx_ofNat]

theorem sound_member : Sound (readMember : RecordReader C (DomainMember R)) writeMember
    fun _ => True := by
  intro c a c' h
  simp only [readMember, yields_bind (d := readSubject _), real, yields_field_iff, yields_pure,
    Kind.field, Kind.Accepts, true_and] at h
  obtain ⟨subject, c₁, hsubject, weight, c₂, hweight, rfl, rfl, -⟩ := h
  rw [writeMember, front_append]
  exact ⟨⟨c₁, (sound_subject hsubject).1, c', hweight, rfl⟩, trivial⟩

theorem sound_domain {limits : PersistenceLimits} :
    Sound (readDomain limits : RecordReader C (ThermalDomainDefinition R)) writeDomain
      (DomainBounds limits) := by
  intro c a c' h
  simp only [readDomain, yields_bind (d := many _ _), yields_bind (d := optional _), u8, u32, u64,
    text, yields_field_iff, Kind.field, Kind.Accepts, yields_require_bind, yields_requireOk_bind,
    yields_pure, true_and, decide_eq_true_eq] at h
  obtain ⟨id, c₁, hid, generation, c₂, hgeneration, type, c₃, htype, htype', h⟩ := h
  obtain ⟨label, c₄, hlabel, hlimit, memberCount, c₅, hcount, hle, members, c₆, hmembers, h⟩ := h
  obtain ⟨parent, c₇, hparent, childCount, c₈, hchildCount, hle', children, c₉, hchildren, h⟩ := h
  obtain ⟨policy, c₁₀, hpolicy, policyGeneration, c₁₁, hpolicyGeneration, h⟩ := h
  obtain ⟨provenance, c₁₂, hprovenance, hprovenance', evidence, c₁₃, hevidence, hlimit', h⟩ := h
  obtain ⟨aggregation, c₁₄, haggregation, haggregation', rack, c₁₅, hrack, h⟩ := h
  obtain ⟨rackGeneration, c₁₆, hrackGeneration, zone, c₁₇, hzone, h⟩ := h
  obtain ⟨offset, c₁₈, hoffset, rfl, rfl, -⟩ := h
  obtain ⟨hfronts, rfl, -⟩ := sound_many sound_member memberCount hmembers
  obtain ⟨hfronts', rfl, -⟩ := sound_many (sound_field (k := .u64)) childCount hchildren
  obtain ⟨hfrontParent, -⟩ := sound_optional (sound_field (k := .u64)) hparent
  obtain ⟨hfrontOffset, -⟩ := sound_optional (sound_field (k := .real)) hoffset
  refine ⟨?_, ⟨hlimit, hle, hle', hlimit'⟩⟩
  rw [← ThermalDomainType.ctorIdx_ofNat type htype'] at htype
  rw [← Provenance.ctorIdx_ofNat provenance hprovenance'] at hprovenance
  rw [← AggregationRule.ctorIdx_ofNat aggregation haggregation'] at haggregation
  simp only [writeDomain, front_append, Front]
  exact ⟨c₁₇, ⟨c₉, ⟨c₈, ⟨c₇, ⟨c₆, ⟨c₅, ⟨c₁, hid, c₂, hgeneration, c₃, htype, c₄, hlabel, c₅, hcount,
    rfl⟩, hfronts⟩, hfrontParent⟩, c₈, hchildCount, rfl⟩, hfronts'⟩, c₁₀, hpolicy, c₁₁,
    hpolicyGeneration, c₁₂, hprovenance, c₁₃, hevidence, c₁₄, haggregation, c₁₅, hrack, c₁₆,
    hrackGeneration, c₁₇, hzone, rfl⟩, hfrontOffset⟩

/-! ### Couplings and history -/

/-- A coupling is accepted in the place of one that may have an expiry. -/
theorem sound_coupling {limits : PersistenceLimits} {relation : CouplingRelation R}
    (h : Yields (readCoupling limits : RecordReader C (CouplingRelation R)) c relation c') :
    ∃ written, relation = forgetExpiry written ∧ Front c (writeCoupling written) c' ∧
      written.evidenceSource.length ≤ limits.maxStringBytes := by
  simp only [readCoupling, u8, u64, real, text, yields_field_iff, Kind.field, Kind.Accepts,
    yields_require_bind, yields_requireOk_bind, yields_pure, true_and, Bool.and_eq_true,
    decide_eq_true_eq] at h
  obtain ⟨id, c₁, hid, source, c₂, hsource, destination, c₃, hdestination, h⟩ := h
  obtain ⟨type, c₄, htype, htype', generation, c₅, hgeneration, h⟩ := h
  obtain ⟨provenance, c₆, hprovenance, hprovenance', evidence, c₇, hevidence, hlimit, h⟩ := h
  obtain ⟨weight, c₈, hweight, directed, c₉, hdirected, expiry, c₁₀, hexpiry, h⟩ := h
  obtain ⟨⟨hdirected', hexpiry'⟩, rfl, rfl, -⟩ := h
  rw [← CouplingType.ctorIdx_ofNat type htype'] at htype
  rw [← Provenance.ctorIdx_ofNat provenance hprovenance'] at hprovenance
  rw [← bit_ne_zero hdirected'] at hdirected
  have hflag : bit (if expiry = 0 then (none : Option SteadyTimePoint) else some 0).isSome =
      expiry := by
    rcases Nat.le_one_iff_eq_zero_or_eq_one.mp hexpiry' with rfl | rfl <;> rfl
  rw [← hflag] at hexpiry
  refine ⟨⟨id, source, destination, .ofNat type, generation, .ofNat provenance, evidence, weight,
    decide (directed ≠ 0), if expiry = 0 then none else some 0⟩, rfl, ?_, hlimit⟩
  exact ⟨c₁, hid, c₂, hsource, c₃, hdestination, c₄, htype, c₅, hgeneration, c₆, hprovenance, c₇,
    hevidence, c₈, hweight, c₉, hdirected, c', hexpiry, rfl⟩

theorem sound_transition [Scalar R] :
    Sound (readTransition : RecordReader C (StateTransitionRecord R)) writeTransition
      fun record => Scalar.isReading record.temperature = true := by
  intro c a c' h
  simp only [readTransition, u8, u64, real, yields_field_iff, Kind.field, Kind.Accepts,
    yields_require_bind, yields_requireOk_bind, yields_pure, true_and, Bool.and_eq_true,
    decide_eq_true_eq] at h
  obtain ⟨domain, c₁, hdomain, generation, c₂, hgeneration, source, c₃, hsource, h⟩ := h
  obtain ⟨target, c₄, htarget, deratingFrom, c₅, hfrom, deratingTo, c₆, hto, h⟩ := h
  obtain ⟨decision, c₇, hdecision, ⟨⟨⟨⟨hsource', htarget'⟩, hfrom'⟩, hto'⟩, hdecision'⟩, h⟩ := h
  obtain ⟨temperature, c₈, htemperature, hreading, policy, c₉, hpolicy, h⟩ := h
  obtain ⟨telemetry, c₁₀, htelemetry, epoch, c₁₁, hepoch, sequence, c₁₂, hsequence, h⟩ := h
  obtain ⟨rfl, rfl, -⟩ := h
  rw [← ThermalState.ctorIdx_ofNat source hsource'] at hsource
  rw [← ThermalState.ctorIdx_ofNat target htarget'] at htarget
  rw [← DeratingLevel.ctorIdx_ofNat deratingFrom hfrom'] at hfrom
  rw [← DeratingLevel.ctorIdx_ofNat deratingTo hto'] at hto
  rw [← ThermalDecision.ctorIdx_ofNat decision hdecision'] at hdecision
  exact ⟨⟨c₁, hdomain, c₂, hgeneration, c₃, hsource, c₄, htarget, c₅, hfrom, c₆, hto, c₇, hdecision,
    c₈, htemperature, c₉, hpolicy, c₁₀, htelemetry, c₁₁, hepoch, c', hsequence, rfl⟩, hreading⟩

/-! ### Actions and verifications -/

theorem sound_authority : Sound (readAuthority : RecordReader C ActionAuthority) writeAuthority
    fun _ => True := by
  intro c a c' h
  simp only [readAuthority, u64, yields_field_iff, yields_pure, Kind.field, Kind.Accepts,
    true_and] at h
  simp only [writeAuthority, Front, and_true]
  grind

/-- The action that is answered has lost nothing that is written. -/
theorem sound_action [Scalar R] {limits : PersistenceLimits} :
    Sound (readAction limits : RecordReader C (ThermalAction R)) writeAction
      fun action => ActionBounds limits action ∧ forgetInstants action = action := by
  intro c a c' h
  simp only [readAction, yields_bind (d := readAuthority), yields_bind (d := optional _), u8, u64,
    text, yields_field_iff, Kind.field, Kind.Accepts, yields_require_bind, yields_requireOk_bind,
    yields_pure, true_and, Bool.and_eq_true, decide_eq_true_eq] at h
  obtain ⟨id, c₁, hid, generation, c₂, hgeneration, authority, c₃, hauthority, h⟩ := h
  obtain ⟨intent, c₄, hintent, lifecycle, c₅, hlifecycle, provenance, c₆, hprovenance, h⟩ := h
  obtain ⟨⟨⟨hintent', hlifecycle'⟩, hprovenance'⟩, clock, c₇, hclock, h⟩ := h
  obtain ⟨concurrency, c₈, hconcurrency, admission, c₉, hadmission, h⟩ := h
  obtain ⟨detail, c₁₀, hdetail, hlimit, verification, c₁₁, hverification, h⟩ := h
  obtain ⟨telemetry, c₁₂, htelemetry, superseded, c₁₃, hsuperseded, h⟩ := h
  obtain ⟨source, c₁₄, hsource, hlimit', rfl, rfl, -⟩ := h
  obtain ⟨hfrontClock, -⟩ := sound_optional (sound_field (k := .u32)) hclock
  obtain ⟨hfrontConcurrency, hpercent⟩ := sound_optional sound_readPercent hconcurrency
  obtain ⟨hfrontAdmission, hpercent'⟩ := sound_optional sound_readPercent hadmission
  obtain ⟨hfrontSuperseded, -⟩ := sound_optional (sound_field (k := .u64)) hsuperseded
  refine ⟨?_, ⟨hpercent, hpercent', hlimit, hlimit'⟩, rfl⟩
  rw [← MitigationIntent.ctorIdx_ofNat intent hintent'] at hintent
  rw [← ActionLifecycle.ctorIdx_ofNat lifecycle hlifecycle'] at hlifecycle
  rw [← Provenance.ctorIdx_ofNat provenance hprovenance'] at hprovenance
  simp only [writeAction, front_append, Front]
  exact ⟨c₁₃, ⟨c₁₂, ⟨c₉, ⟨c₈, ⟨c₇, ⟨c₆, ⟨c₃, ⟨c₂, ⟨c₁, hid, c₂, hgeneration, rfl⟩,
    (sound_authority hauthority).1⟩, c₄, hintent, c₅, hlifecycle, c₆, hprovenance, rfl⟩,
    hfrontClock⟩, hfrontConcurrency⟩, hfrontAdmission⟩, c₁₀, hdetail, c₁₁, hverification, c₁₂,
    htelemetry, rfl⟩, hfrontSuperseded⟩, c', hsource, rfl⟩

theorem sound_verification [Scalar R] :
    Sound (readVerification : RecordReader C (ActionVerification R)) writeVerification
      fun verification => VerificationBounds verification ∧
        forgetReasons verification = verification := by
  intro c a c' h
  simp only [readVerification, u8, u64, flag, real, yields_field_iff, Kind.field, Kind.Accepts,
    yields_require_bind, yields_requireOk_bind, yields_pure, true_and, Bool.and_eq_true,
    decide_eq_true_eq] at h
  obtain ⟨id, c₁, hid, generation, c₂, hgeneration, outcome, c₃, houtcome, h⟩ := h
  obtain ⟨lifecycle, c₄, hlifecycle, ⟨houtcome', hlifecycle'⟩, before, c₅, hbefore, h⟩ := h
  obtain ⟨hreading, after, c₆, hafter, hreading', delta, c₇, hdelta, h⟩ := h
  obtain ⟨headroomBefore, c₈, hheadroom, headroomAfter, c₉, hheadroom', h⟩ := h
  obtain ⟨stateBefore, c₁₀, hstate, stateAfter, c₁₁, hstate', h⟩ := h
  obtain ⟨deratingBefore, c₁₂, hderating, deratingAfter, c₁₃, hderating', h⟩ := h
  obtain ⟨⟨⟨⟨hlt₁, hlt₂⟩, hlt₃⟩, hlt₄⟩, violated, c₁₄, hviolated, required, c₁₅, hrequired, h⟩ := h
  obtain ⟨recovered, c₁₆, hrecovered, telemetry, c₁₇, htelemetry, policy, c₁₈, hpolicy, h⟩ := h
  obtain ⟨epoch, c₁₉, hepoch, rfl, rfl, -⟩ := h
  rw [← VerificationOutcome.ctorIdx_ofNat outcome houtcome'] at houtcome
  rw [← ActionLifecycle.ctorIdx_ofNat lifecycle hlifecycle'] at hlifecycle
  rw [← ThermalState.ctorIdx_ofNat stateBefore hlt₁] at hstate
  rw [← ThermalState.ctorIdx_ofNat stateAfter hlt₂] at hstate'
  rw [← DeratingLevel.ctorIdx_ofNat deratingBefore hlt₃] at hderating
  rw [← DeratingLevel.ctorIdx_ofNat deratingAfter hlt₄] at hderating'
  exact ⟨⟨c₁, hid, c₂, hgeneration, c₃, houtcome, c₄, hlifecycle, c₅, hbefore, c₆, hafter, c₇,
    hdelta, c₈, hheadroom, c₉, hheadroom', c₁₀, hstate, c₁₁, hstate', c₁₂, hderating, c₁₃,
    hderating', c₁₄, hviolated, c₁₅, hrequired, c₁₆, hrecovered, c₁₇, htelemetry, c₁₈, hpolicy, c',
    hepoch, rfl⟩, ⟨hreading, hreading'⟩, rfl⟩

/-! ### Records -/

theorem yields_readEntry {size maximum : Nat} {tooMany repeats : String}
    {read : RecordReader C α} {repeated : α → Bool} {enter : α → DurableState R}
    {state : DurableState R} :
    Yields (readEntry size maximum tooMany read repeated repeats enter) c state c' ↔
      size < maximum ∧ ∃ a, Yields read c a c' ∧ repeated a = false ∧ state = enter a := by
  simp only [readEntry, yields_require_bind, yields_bind (d := read), yields_pure,
    decide_eq_true_eq, Bool.not_eq_eq_eq_not, Bool.not_true]
  refine and_congr_right fun _ => ⟨?_, ?_⟩
  · rintro ⟨a, c₁, hread, hrepeated, rfl, rfl, -⟩
    exact ⟨a, hread, hrepeated, rfl⟩
  · rintro ⟨a, hread, hrepeated, rfl⟩
    exact ⟨a, c', hread, hrepeated, rfl, rfl, hread.2⟩

/-- **A record that is read is the record of an entry that is admitted.** -/
theorem sound_record [Scalar R] {limits : PersistenceLimits} {state state' : DurableState R}
    {type : PersistenceRecordType}
    (h : Yields (readRecord limits state type : RecordReader C (DurableState R)) c state' c') :
    ∃ entry : Entry R, entry.record.type = type ∧ Front c entry.record.payload c' ∧
      (entry.Bounds limits ∧ entry.Fresh limits state) ∧ state' = entry.enter state := by
  cases type with
  | coordinatorState =>
    simp only [readRecord, readCoordinator, u32, u64, yields_field_iff, Kind.field, Kind.Accepts,
      yields_require_bind, yields_pure, true_and, decide_eq_true_eq] at h
    obtain ⟨version, c₁, hversion, coordinator, c₂, hcoordinator, epoch, c₃, hepoch, h⟩ := h
    obtain ⟨policy, c₄, hpolicy, topology, c₅, htopology, sequence, c₆, hsequence, h⟩ := h
    obtain ⟨hcurrent, rfl, rfl, -⟩ := h
    refine ⟨.coordinator { state with
      formatVersion := version
      coordinator := coordinator
      coordinatorEpoch := epoch
      policyGeneration := policy
      topologyGeneration := topology
      sequence := sequence }, rfl, ?_, ⟨hcurrent, trivial⟩, rfl⟩
    exact ⟨c₁, hversion, c₂, hcoordinator, c₃, hepoch, c₄, hpolicy, c₅, htopology, c', hsequence,
      rfl⟩
  | policy =>
    obtain ⟨hroom, policy, hread, hnew, rfl⟩ := yields_readEntry.mp h
    obtain ⟨hfront, hbounds⟩ := sound_policy hread
    simp only [List.any_eq_false, decide_eq_true_eq] at hnew
    exact ⟨.policy policy, rfl, hfront, ⟨hbounds, hroom, hnew⟩, rfl⟩
  | deviceRegistration =>
    obtain ⟨hroom, device, hread, hnew, rfl⟩ := yields_readEntry.mp h
    obtain ⟨hfront, hbounds⟩ := sound_device hread
    simp only [List.any_eq_false, decide_eq_true_eq] at hnew
    exact ⟨.device device, rfl, hfront, ⟨hbounds, hroom, hnew⟩, rfl⟩
  | domainDefinition =>
    obtain ⟨hroom, definition, hread, hnew, rfl⟩ := yields_readEntry.mp h
    obtain ⟨hfront, hbounds⟩ := sound_domain hread
    simp only [List.any_eq_false, decide_eq_true_eq] at hnew
    exact ⟨.domain definition, rfl, hfront, ⟨hbounds, hroom, hnew⟩, rfl⟩
  | coupling =>
    obtain ⟨hroom, relation, hread, hnew, rfl⟩ := yields_readEntry.mp h
    obtain ⟨written, rfl, hfront, hbounds⟩ := sound_coupling hread
    simp only [List.any_eq_false, decide_eq_true_eq] at hnew
    exact ⟨.coupling written, rfl, hfront, ⟨hbounds, hroom, hnew⟩, rfl⟩
  | stateTransition =>
    obtain ⟨hroom, record, hread, -, rfl⟩ := yields_readEntry.mp h
    obtain ⟨hfront, hbounds⟩ := sound_transition hread
    exact ⟨.transition record, rfl, hfront, ⟨hbounds, hroom⟩, rfl⟩
  | actionRecord =>
    obtain ⟨hroom, action, hread, hnew, rfl⟩ := yields_readEntry.mp h
    obtain ⟨hfront, hbounds, hsame⟩ := sound_action hread
    simp only [List.any_eq_false, decide_eq_true_eq] at hnew
    refine ⟨.action action, rfl, hfront, ⟨hbounds, hroom, hnew⟩, ?_⟩
    rw [Entry.enter, hsame]
  | verificationRecord =>
    obtain ⟨hroom, verification, hread, -, rfl⟩ := yields_readEntry.mp h
    obtain ⟨hfront, hbounds, hsame⟩ := sound_verification hread
    refine ⟨.verification verification, rfl, hfront, ⟨hbounds, hroom⟩, ?_⟩
    rw [Entry.enter, hsame]
  | operatorConfig =>
    simp only [readRecord, text, yields_field_iff, Kind.field, Kind.Accepts, yields_pure] at h
    obtain ⟨value, c₁, hvalue, hlimit, rfl, rfl, -⟩ := h
    exact ⟨.operatorConfig value, rfl, ⟨c', hvalue, rfl⟩, ⟨hlimit, trivial⟩, rfl⟩

/-- A record that is taken is that of an entry, and nothing else. -/
theorem exists_of_takeRecord [Scalar R] {limits : PersistenceLimits}
    {state state' : DurableState R} {type : PersistenceRecordType} {payload : C}
    (h : takeRecord limits state type payload = .ok state') :
    ∃ entry : Entry R, entry.record.type = type ∧ Front payload entry.record.payload empty ∧
      (entry.Bounds limits ∧ entry.Fresh limits state) ∧ state' = entry.enter state :=
  sound_record (takeRecord_eq_ok.mp h)

/-! ### What holds of a state that was read -/

/-- Every table within its limit, every entry within its bounds, and no identity repeated. -/
structure Bounded [Scalar R] (limits : PersistenceLimits) (state : DurableState R) : Prop where
  unique : UniqueIds state
  counts : WithinCounts limits state
  policies : ∀ policy ∈ state.policies, PolicyBounds limits policy
  devices : ∀ device ∈ state.devices, DeviceBounds limits device
  domains : ∀ definition ∈ state.domains, DomainBounds limits definition
  couplings : ∀ relation ∈ state.couplings,
    relation.evidenceSource.length ≤ limits.maxStringBytes
  transitions : ∀ record ∈ state.transitions, Scalar.isReading record.temperature = true
  actions : ∀ action ∈ state.actions, ActionBounds limits action
  verifications : ∀ verification ∈ state.verifications, VerificationBounds verification

theorem nodup_append_singleton {list : List α} {key : α → Nat} {a : α}
    (h : (list.map key).Nodup) (hnew : ∀ b ∈ list, key b ≠ key a) :
    ((list ++ [a]).map key).Nodup := by
  rw [List.map_append, List.map_singleton, List.nodup_append]
  refine ⟨h, List.nodup_singleton _, fun k hk k' hk' => ?_⟩
  obtain ⟨b, hb, rfl⟩ := List.mem_map.mp hk
  rw [List.mem_singleton.mp hk']
  exact hnew b hb

theorem length_append_singleton_le {list : List α} {a : α} {maximum : Nat}
    (h : list.length < maximum) : (list ++ [a]).length ≤ maximum := by
  rw [List.length_append, List.length_singleton]
  exact h

theorem forall_mem_append_singleton {list : List α} {a : α} {bounds : α → Prop}
    (h : ∀ b ∈ list, bounds b) (ha : bounds a) : ∀ b ∈ list ++ [a], bounds b :=
  List.forall_mem_append.mpr ⟨h, List.forall_mem_singleton.mpr ha⟩

/-- **An admitted entry keeps the state within its bounds.** -/
theorem bounded_enter [Scalar R] {limits : PersistenceLimits} {state : DurableState R}
    (h : Bounded limits state) {entry : Entry R} (hbounds : entry.Bounds limits)
    (hfresh : entry.Fresh limits state) : Bounded limits (entry.enter state) := by
  have hunique := h.unique
  have hcounts := h.counts
  cases entry with
  | coordinator written =>
    exact { h with
      unique := ⟨hunique.policies, hunique.devices, hunique.domains, hunique.couplings,
        hunique.actions⟩
      counts := ⟨hcounts.policies, hcounts.devices, hcounts.domains, hcounts.couplings,
        hcounts.transitions, hcounts.actions, hcounts.verifications⟩ }
  | policy policy =>
    exact { h with
      unique := { hunique with policies := nodup_append_singleton hunique.policies hfresh.2 }
      counts := { hcounts with policies := length_append_singleton_le hfresh.1 }
      policies := forall_mem_append_singleton h.policies hbounds }
  | device device =>
    exact { h with
      unique := { hunique with devices := nodup_append_singleton hunique.devices hfresh.2 }
      counts := { hcounts with devices := length_append_singleton_le hfresh.1 }
      devices := forall_mem_append_singleton h.devices hbounds }
  | domain definition =>
    exact { h with
      unique := { hunique with domains := nodup_append_singleton hunique.domains hfresh.2 }
      counts := { hcounts with domains := length_append_singleton_le hfresh.1 }
      domains := forall_mem_append_singleton h.domains hbounds }
  | coupling relation =>
    exact { h with
      unique := { hunique with couplings := nodup_append_singleton hunique.couplings hfresh.2 }
      counts := { hcounts with couplings := length_append_singleton_le hfresh.1 }
      couplings := forall_mem_append_singleton h.couplings hbounds }
  | transition record =>
    exact { h with
      unique := { hunique with }
      counts := { hcounts with transitions := length_append_singleton_le hfresh }
      transitions := forall_mem_append_singleton h.transitions hbounds }
  | action action =>
    exact { h with
      unique := { hunique with actions := nodup_append_singleton hunique.actions hfresh.2 }
      counts := { hcounts with actions := length_append_singleton_le hfresh.1 }
      actions := forall_mem_append_singleton h.actions ⟨hbounds.concurrency, hbounds.admission,
        hbounds.detail, hbounds.authorizationSource⟩ }
  | verification verification =>
    exact { h with
      unique := { hunique with }
      counts := { hcounts with verifications := length_append_singleton_le hfresh }
      verifications := forall_mem_append_singleton h.verifications
        ⟨hbounds.before, hbounds.after⟩ }
  | operatorConfig text => exact h

/-- **A state that entries have been admitted to one by one is within its bounds.** -/
theorem bounded_enterAll [Scalar R] {limits : PersistenceLimits} {list : List (Entry R)}
    {state : DurableState R} (h : Bounded limits state) (hloads : Loads limits state list) :
    Bounded limits (enterAll state list) := by
  induction list generalizing state with
  | nil => exact h
  | cons entry list ih =>
    obtain ⟨⟨hbounds, hfresh⟩, hrest⟩ := hloads
    exact ih (bounded_enter h hbounds hfresh) hrest

theorem bounded_start [Scalar R] (limits : PersistenceLimits) (version : Nat) :
    Bounded limits ({ formatVersion := version } : DurableState R) where
  unique := ⟨.nil, .nil, .nil, .nil, .nil⟩
  counts := ⟨Nat.zero_le _, Nat.zero_le _, Nat.zero_le _, Nat.zero_le _, Nat.zero_le _,
    Nat.zero_le _, Nat.zero_le _⟩
  policies _ h := by cases h
  devices _ h := by cases h
  domains _ h := by cases h
  couplings _ h := by cases h
  transitions _ h := by cases h
  actions _ h := by cases h
  verifications _ h := by cases h

/-! ### Whole containers -/

/-- Fields in front of a good reader of fields are what it reads. -/
theorem eq_of_front [Zero R] {payload : Payload R} {cursor cursor' : Cursor R}
    (h : Front cursor payload cursor') : cursor = ⟨payload ++ cursor'.rest, cursor'.ok⟩ := by
  induction payload generalizing cursor with
  | nil => exact h.symm
  | cons f payload ih =>
    obtain ⟨c₁, hshows, hrest⟩ := h
    rw [ih hrest] at hshows
    exact hshows

/-- Records that are read are those of entries that are admitted. -/
theorem exists_of_readRecords [Scalar R] [Zero R] {limits : PersistenceLimits}
    {state state' : DurableState R} {records : List (Record R)}
    (h : readRecords limits state records = .ok state') :
    ∃ list : List (Entry R), records = list.map Entry.record ∧ Loads limits state list ∧
      state' = enterAll state list := by
  induction records generalizing state with
  | nil => exact ⟨[], rfl, trivial, (Except.ok.inj h).symm⟩
  | cons record records ih =>
    rw [readRecords] at h
    split at h
    · cases h
    · cases htake : takeRecord limits state record.type (put record.payload (empty : Cursor R)) with
      | error e =>
        rw [htake] at h
        cases h
      | ok state₁ =>
        rw [htake] at h
        obtain ⟨entry, htype, hfront, hadmitted, rfl⟩ := exists_of_takeRecord htake
        obtain ⟨list, rfl, hloads, rfl⟩ := ih h
        have hpayload := eq_of_front hfront
        rw [Cursor.put_eq] at hpayload
        have hsame : record.payload = entry.record.payload := by
          have hrest := congrArg Cursor.rest hpayload
          have hempty : (empty : Cursor R).rest = [] := rfl
          rwa [hempty, List.append_nil, List.append_nil] at hrest
        refine ⟨entry :: list, ?_, ⟨hadmitted, hloads⟩, rfl⟩
        obtain ⟨type, payload⟩ := record
        dsimp only at htype hsame
        rw [List.map_cons, ← htype, hsame]

/-- **A container that is read is within the bounds of the reader**, entry by entry. -/
theorem bounded_of_decode [Scalar R] [Zero R] {limits : PersistenceLimits} {file : Container R}
    {state : DurableState R} (h : decodeDurableState file limits = .ok state) :
    Bounded limits state := by
  unfold decodeDurableState at h
  split at h
  · cases h
  · split at h
    · cases h
    · split at h
      · cases h
      · obtain ⟨list, -, hloads, rfl⟩ := exists_of_readRecords h
        exact bounded_enterAll (bounded_start limits file.version) hloads

end Durable

end ThermalGovernor
