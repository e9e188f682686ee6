import ThermalGovernor.Durable.Records

/-!
# Every record is read as it was written

One theorem for each kind of record.  In front of what the writer wrote, the reader yields
the record exactly when it meets the bounds that the reader checks; whatever the record, the
fields it is written as must fit their widths.
-/

namespace ThermalGovernor

open Lib Lib.Decoder Lib.Input

/-! ### Enumerations -/

theorem Provenance.ctorIdx_lt (provenance : Provenance) : provenance.ctorIdx < 4 := by
  cases provenance <;> decide

theorem Provenance.ctorIdx_le (provenance : Provenance) :
    provenance.ctorIdx ≤ unsupported.ctorIdx :=
  Nat.le_of_lt_succ provenance.ctorIdx_lt

theorem SubjectKind.ctorIdx_lt (kind : SubjectKind) : kind.ctorIdx < 6 := by
  cases kind <;> decide

theorem ThermalState.ctorIdx_lt (s : ThermalState) : s.ctorIdx < 9 := by
  cases s <;> decide

theorem DeratingLevel.ctorIdx_lt (level : DeratingLevel) : level.ctorIdx < 10 := by
  cases level <;> decide

theorem MitigationIntent.ctorIdx_lt (intent : MitigationIntent) : intent.ctorIdx < 12 := by
  cases intent <;> decide

theorem ActionLifecycle.ctorIdx_lt (lifecycle : ActionLifecycle) : lifecycle.ctorIdx < 13 := by
  cases lifecycle <;> decide

namespace Durable

variable {R C α β : Type} [Input R C] {b : β} {c c' : C}

/-! ### Shared fields -/

@[simp] theorem bit_eq_zero (flag : Bool) : bit flag = 0 ↔ flag = false := by
  cases flag <;> decide

@[simp] theorem bit_le_one (flag : Bool) : bit flag ≤ 1 := by
  cases flag <;> decide

@[simp] theorem yields_readTemperature_bind [Scalar R] {e : ThermalError} {f : R → RecordReader C β}
    {v : R} (h : Fits C (.real v)) :
    Yields (readTemperature e >>= f) (write (.real v) c) b c' ↔
      Scalar.isReading v = true ∧ Yields (f v) c b c' := by
  simp [readTemperature, h]

theorem exact_readPercent [Scalar R] {e : ThermalError} {v : R} (h : Fits C (.real v)) :
    Exact (readPercent e : RecordReader C R) [.real v] (Scalar.isPercent v = true) v := by
  intro c a c'
  simp [-bind_pure_comp, readPercent, h]

/-! ### Policies -/

/-- The bounds of the reader on a policy. -/
@[mk_iff] structure PolicyBounds [Scalar R] (limits : PersistenceLimits)
    (policy : PolicyOver R) : Prop where
  label : policy.label.length ≤ limits.maxStringBytes
  warning : Scalar.isReading policy.thresholds.warning = true
  derating : Scalar.isReading policy.thresholds.derating = true
  critical : Scalar.isReading policy.thresholds.critical = true
  recovery : Scalar.isReading policy.thresholds.recovery = true
  restrictions : policy.workloadRestrictions.length ≤ 64

instance [Scalar R] (limits : PersistenceLimits) (policy : PolicyOver R) :
    Decidable (PolicyBounds limits policy) :=
  decidable_of_iff' _ (policyBounds_iff limits policy)

theorem exact_restriction {restriction : WorkloadRestriction R}
    (hfits : FitsAll C (writeRestriction restriction)) :
    Exact (readRestriction : RecordReader C (WorkloadRestriction R))
      (writeRestriction restriction) True restriction := by
  intro c a c'
  obtain ⟨profile, allowed, requiredClass, demand⟩ := restriction
  have hprofile : profile.ctorIdx < 6 := by cases profile <;> decide
  have hclass : requiredClass.ctorIdx < 4 := by cases requiredClass <;> decide
  simp only [FitsAll, writeRestriction, List.forall_mem_cons] at hfits
  simp [-bind_pure_comp, readRestriction, writeRestriction, hfits, hprofile, hclass,
    WorkloadThermalProfile.ofNat_ctorIdx, ExecutionClass.ofNat_ctorIdx]

theorem exact_policy [Scalar R] {limits : PersistenceLimits} {policy : PolicyOver R}
    (hfits : FitsAll C (writePolicy policy)) :
    Exact (readPolicy limits : RecordReader C (PolicyOver R)) (writePolicy policy)
      (PolicyBounds limits policy) policy := by
  intro c a c'
  have hunknown : policy.unknownBehavior.ctorIdx < 5 := by
    cases policy.unknownBehavior <;> decide
  have hunsupported : policy.unsupportedBehavior.ctorIdx < 4 := by
    cases policy.unsupportedBehavior <;> decide
  rw [FitsAll, writePolicy, List.forall_mem_append] at hfits
  obtain ⟨hfields, hrestrictions⟩ := hfits
  simp only [List.forall_mem_cons] at hfields
  have hmany : Exact (many readRestriction policy.workloadRestrictions.length :
      RecordReader C (List (WorkloadRestriction R)))
      (policy.workloadRestrictions.flatMap writeRestriction)
      (∀ restriction ∈ policy.workloadRestrictions, True) policy.workloadRestrictions :=
    exact_many hrestrictions fun _ => exact_restriction
  simp [-bind_pure_comp, readPolicy, writePolicy, readThresholds, readMargins, readFreshness,
    readRecovery, readConcurrency, readEmergency, readCouplingPolicy, hfields, hunknown,
    hunsupported, UnknownBehavior.ofNat_ctorIdx, UnsupportedBehavior.ofNat_ctorIdx, hmany.bind_iff,
    policyBounds_iff, and_assoc]

/-! ### Devices -/

/-- The bounds of the reader on a device. -/
@[mk_iff] structure DeviceBounds (limits : PersistenceLimits) (device : DeviceRegistration) :
    Prop where
  label : device.label.length ≤ limits.maxStringBytes
  details : ∀ c ∈ allCapabilities,
    (device.capabilities.details c).length ≤ limits.maxStringBytes

instance (limits : PersistenceLimits) (device : DeviceRegistration) :
    Decidable (DeviceBounds limits device) :=
  decidable_of_iff' _ (deviceBounds_iff limits device)

theorem mem_allCapabilities (c : ThermalCapability) : c ∈ allCapabilities := by
  cases c <;> decide

/-- What reading some capabilities in turn makes of a set. -/
def withCapabilities (source : CapabilitySet) (list : List ThermalCapability)
    (capabilities : CapabilitySet) : CapabilitySet :=
  list.foldl (fun set c => set.set c (source.get c) (source.details c)) capabilities

theorem exact_capabilities {limits : PersistenceLimits} {source : CapabilitySet}
    (list : List ThermalCapability) (hfits : FitsAll C (list.flatMap (writeCapability source)))
    (capabilities : CapabilitySet) :
    Exact (readCapabilities limits list capabilities : RecordReader C CapabilitySet)
      (list.flatMap (writeCapability source))
      (∀ c ∈ list, (source.details c).length ≤ limits.maxStringBytes)
      (withCapabilities source list capabilities) := by
  induction list generalizing capabilities with
  | nil =>
    intro c a c'
    exact yields_pure.trans (by simp [withCapabilities])
  | cons first rest ih =>
    intro c a c'
    have hstate : (source.get first).ctorIdx ≤ CapabilityState.unsupported.ctorIdx := by
      cases source.get first <;> decide
    rw [FitsAll, List.flatMap_cons, List.forall_mem_append] at hfits
    obtain ⟨hfields, hrest⟩ := hfits
    simp only [writeCapability, List.forall_mem_cons] at hfields
    have hnext := ih hrest (capabilities.set first (source.get first) (source.details first))
    have hread := hnext c a c'
    simp only [withCapabilities] at hread
    simp [readCapabilities, writeCapability, hfields, hstate, CapabilityState.ofNat_ctorIdx,
      withCapabilities, hread, and_assoc]

/-- A capability that was read has its state; another one keeps what it had. -/
theorem withCapabilities_apply (source : CapabilitySet) (list : List ThermalCapability)
    (capabilities : CapabilitySet) (c : ThermalCapability) :
    (withCapabilities source list capabilities).states c =
        (if c ∈ list then source.states c else capabilities.states c) ∧
      (withCapabilities source list capabilities).details c =
        if c ∈ list then source.details c else capabilities.details c := by
  induction list generalizing capabilities with
  | nil => exact ⟨rfl, rfl⟩
  | cons first rest ih =>
    obtain ⟨hstates, hdetails⟩ := ih (capabilities.set first (source.get first)
      (source.details first))
    rw [withCapabilities, List.foldl_cons]
    rw [withCapabilities] at hstates hdetails
    rw [hstates, hdetails]
    by_cases hc : c = first
    · subst hc
      simp [CapabilitySet.set, CapabilitySet.get]
    · simp [CapabilitySet.set, hc]

/-- All capabilities of a set are read. -/
theorem withCapabilities_all (source : CapabilitySet) :
    { withCapabilities source allCapabilities {} with generation := source.generation } =
      source := by
  obtain ⟨states, details, generation⟩ := source
  have happly := withCapabilities_apply ⟨states, details, generation⟩ allCapabilities {}
  have hstates : (withCapabilities ⟨states, details, generation⟩ allCapabilities {}).states =
      states := funext fun c => by rw [(happly c).1, if_pos (mem_allCapabilities c)]
  have hdetails : (withCapabilities ⟨states, details, generation⟩ allCapabilities {}).details =
      details := funext fun c => by rw [(happly c).2, if_pos (mem_allCapabilities c)]
  dsimp only
  rw [hstates, hdetails]

theorem exact_device {limits : PersistenceLimits} {device : DeviceRegistration}
    (hfits : FitsAll C (writeDevice device)) :
    Exact (readDevice limits : RecordReader C DeviceRegistration) (writeDevice device)
      (DeviceBounds limits device) device := by
  intro c a c'
  have hprovenance := device.provenance.ctorIdx_le
  rw [FitsAll, writeDevice, List.forall_mem_append] at hfits
  obtain ⟨hfields, hcapabilities⟩ := hfits
  simp only [List.forall_mem_cons] at hfields
  have hexact : Exact (readCapabilities limits allCapabilities {} : RecordReader C CapabilitySet)
      _ _ _ := exact_capabilities allCapabilities hcapabilities {}
  simp [-bind_pure_comp, readDevice, writeDevice, hfields, hprovenance, hexact.bind_iff,
    Provenance.ofNat_ctorIdx, withCapabilities_all, deviceBounds_iff, and_assoc]

/-! ### Domains -/

/-- The bounds of the reader on a domain. -/
@[mk_iff] structure DomainBounds (limits : PersistenceLimits)
    (definition : ThermalDomainDefinition R) : Prop where
  label : definition.label.length ≤ limits.maxStringBytes
  members : definition.members.length ≤ limits.maxDomains
  children : definition.children.length ≤ limits.maxDomains
  evidenceSource : definition.evidenceSource.length ≤ limits.maxStringBytes

instance (limits : PersistenceLimits) (definition : ThermalDomainDefinition R) :
    Decidable (DomainBounds limits definition) :=
  decidable_of_iff' _ (domainBounds_iff limits definition)

theorem exact_subject {e : ThermalError} {subject : SubjectRef}
    (hfits : FitsAll C (writeSubject subject)) :
    Exact (readSubject e : RecordReader C SubjectRef) (writeSubject subject) True subject := by
  intro c a c'
  have hkind := subject.kind.ctorIdx_lt
  simp only [FitsAll, writeSubject, List.forall_mem_cons] at hfits
  simp [-bind_pure_comp, readSubject, writeSubject, hfits, hkind, SubjectKind.ofNat_ctorIdx]

theorem exact_member {member : DomainMember R} (hfits : FitsAll C (writeMember member)) :
    Exact (readMember : RecordReader C (DomainMember R)) (writeMember member) True member := by
  intro c a c'
  rw [FitsAll, writeMember, List.forall_mem_append] at hfits
  obtain ⟨hsubject, hweight⟩ := hfits
  simp only [List.forall_mem_cons] at hweight
  have hexact := exact_subject (e := corrupt "domain member subject is malformed") hsubject
  simp [-bind_pure_comp, readMember, writeMember, hexact.bind_iff, hweight]

theorem exact_domain {limits : PersistenceLimits} {definition : ThermalDomainDefinition R}
    (hfits : FitsAll C (writeDomain definition)) :
    Exact (readDomain limits : RecordReader C (ThermalDomainDefinition R))
      (writeDomain definition) (DomainBounds limits definition) definition := by
  intro c a c'
  have htype : definition.type.ctorIdx < 7 := by cases definition.type <;> decide
  have hprovenance := definition.provenance.ctorIdx_lt
  have haggregation : definition.aggregation.ctorIdx < 4 := by
    cases definition.aggregation <;> decide
  simp only [FitsAll, writeDomain, List.forall_mem_append] at hfits
  obtain ⟨⟨⟨⟨⟨⟨hhead, hmembers⟩, hparent⟩, hcount⟩, hchildren⟩, hrest⟩, hoffset⟩ := hfits
  simp only [List.forall_mem_cons] at hhead hcount hrest
  have hmany : Exact (many readMember definition.members.length :
      RecordReader C (List (DomainMember R))) (definition.members.flatMap writeMember)
      (∀ member ∈ definition.members, True) definition.members :=
    exact_many hmembers fun _ => exact_member
  have hids : Exact (many u64 definition.children.length : RecordReader C (List Nat))
      (definition.children.flatMap fun child => [.u64 child])
      (∀ child ∈ definition.children, True) definition.children :=
    exact_many hchildren fun child h =>
      exact_field (k := .u64) (h (.u64 child) (List.mem_singleton_self _))
  simp [-bind_pure_comp, readDomain, writeDomain, hhead, hcount, hrest, htype, hprovenance,
    haggregation, hmany.bind_iff, hids.bind_iff,
    (exact_optional_u64 hparent).bind_iff, (exact_optional_real hoffset).bind_iff,
    ThermalDomainType.ofNat_ctorIdx, Provenance.ofNat_ctorIdx, AggregationRule.ofNat_ctorIdx,
    domainBounds_iff, and_assoc]

/-! ### Couplings and history -/

/-- A coupling as it comes back from a file. -/
def forgetExpiry (relation : CouplingRelation R) : CouplingRelation R :=
  { relation with validUntil := none }

theorem exact_coupling {limits : PersistenceLimits} {relation : CouplingRelation R}
    (hfits : FitsAll C (writeCoupling relation)) :
    Exact (readCoupling limits : RecordReader C (CouplingRelation R)) (writeCoupling relation)
      (relation.evidenceSource.length ≤ limits.maxStringBytes) (forgetExpiry relation) := by
  intro c a c'
  have htype : relation.type.ctorIdx < 7 := by cases relation.type <;> decide
  have hprovenance := relation.provenance.ctorIdx_lt
  simp only [FitsAll, writeCoupling, List.forall_mem_cons] at hfits
  simp [-bind_pure_comp, readCoupling, writeCoupling, hfits, htype, hprovenance, forgetExpiry,
    CouplingType.ofNat_ctorIdx, Provenance.ofNat_ctorIdx]

theorem exact_transition [Scalar R] {record : StateTransitionRecord R}
    (hfits : FitsAll C (writeTransition record)) :
    Exact (readTransition : RecordReader C (StateTransitionRecord R)) (writeTransition record)
      (Scalar.isReading record.temperature = true) record := by
  intro c a c'
  have hdecision : record.decision.ctorIdx < 7 := by cases record.decision <;> decide
  simp only [FitsAll, writeTransition, List.forall_mem_cons] at hfits
  simp [-bind_pure_comp, readTransition, writeTransition, hfits, hdecision,
    ThermalState.ctorIdx_lt, DeratingLevel.ctorIdx_lt, ThermalState.ofNat_ctorIdx,
    DeratingLevel.ofNat_ctorIdx, ThermalDecision.ofNat_ctorIdx]

/-! ### Actions and verifications -/

/-- The bounds of the reader on an action. -/
@[mk_iff] structure ActionBounds [Scalar R] (limits : PersistenceLimits)
    (action : ThermalAction R) : Prop where
  concurrency : ∀ percent ∈ action.requestedConcurrency, Scalar.isPercent percent = true
  admission : ∀ percent ∈ action.requestedAdmission, Scalar.isPercent percent = true
  detail : action.detail.length ≤ limits.maxStringBytes
  authorizationSource : action.authorizationSource.length ≤ limits.maxStringBytes

instance [Scalar R] (limits : PersistenceLimits) (action : ThermalAction R) :
    Decidable (ActionBounds limits action) :=
  decidable_of_iff' _ (actionBounds_iff limits action)

/-- An action as it comes back from a file. -/
def forgetInstants (action : ThermalAction R) : ThermalAction R :=
  { action with
    reasons := []
    plannedAt := 0
    authorizedAt := 0
    dispatchedAt := 0
    acknowledgedAt := 0
    terminalAt := 0 }

theorem exact_authority {authority : ActionAuthority}
    (hfits : FitsAll C (writeAuthority authority)) :
    Exact (readAuthority : RecordReader C ActionAuthority) (writeAuthority authority) True
      authority := by
  intro c a c'
  simp only [FitsAll, writeAuthority, List.forall_mem_cons] at hfits
  simp [-bind_pure_comp, readAuthority, writeAuthority, hfits]

theorem exact_action [Scalar R] {limits : PersistenceLimits} {action : ThermalAction R}
    (hfits : FitsAll C (writeAction action)) :
    Exact (readAction limits : RecordReader C (ThermalAction R)) (writeAction action)
      (ActionBounds limits action) (forgetInstants action) := by
  intro c a c'
  have hintent := action.intent.ctorIdx_lt
  have hlifecycle := action.lifecycle.ctorIdx_lt
  have hprovenance := action.provenance.ctorIdx_lt
  simp only [FitsAll, writeAction, List.forall_mem_append] at hfits
  obtain ⟨⟨⟨⟨⟨⟨⟨⟨hhead, hauthority⟩, henums⟩, hclock⟩, hconcurrency⟩, hadmission⟩, hrest⟩,
    hsuperseded⟩, hlast⟩ := hfits
  simp only [List.forall_mem_cons] at hhead henums hrest hlast
  have hpercent : ∀ (e : ThermalError) (value : Option R),
      FitsAll C (optionalField .real value) →
      Exact (optional (readPercent e) : RecordReader C (Option R)) (optionalField .real value)
        (∀ percent ∈ value, Scalar.isPercent percent = true) value :=
    fun e value hvalue => exact_optional hvalue fun _ h => exact_readPercent h
  simp [-bind_pure_comp, readAction, writeAction, hhead, henums, hrest, hlast, hintent,
    hlifecycle, hprovenance, (exact_authority hauthority).bind_iff,
    (exact_optional_u32 hclock).bind_iff, (hpercent _ _ hconcurrency).bind_iff,
    (hpercent _ _ hadmission).bind_iff, (exact_optional_u64 hsuperseded).bind_iff,
    MitigationIntent.ofNat_ctorIdx, ActionLifecycle.ofNat_ctorIdx, Provenance.ofNat_ctorIdx,
    forgetInstants, actionBounds_iff, and_assoc]

/-- The bounds of the reader on a verification. -/
@[mk_iff] structure VerificationBounds [Scalar R] (verification : ActionVerification R) :
    Prop where
  before : Scalar.isReading verification.temperatureBefore = true
  after : Scalar.isReading verification.temperatureAfter = true

instance [Scalar R] (verification : ActionVerification R) :
    Decidable (VerificationBounds verification) :=
  decidable_of_iff' _ (verificationBounds_iff verification)

/-- A verification as it comes back from a file. -/
def forgetReasons (verification : ActionVerification R) : ActionVerification R :=
  { verification with reasons := [] }

theorem exact_verification [Scalar R] {verification : ActionVerification R}
    (hfits : FitsAll C (writeVerification verification)) :
    Exact (readVerification : RecordReader C (ActionVerification R))
      (writeVerification verification) (VerificationBounds verification)
      (forgetReasons verification) := by
  intro c a c'
  have houtcome : verification.outcome.ctorIdx < 10 := by cases verification.outcome <;> decide
  have hlifecycle := verification.resultingLifecycle.ctorIdx_lt
  simp only [FitsAll, writeVerification, List.forall_mem_cons] at hfits
  simp [-bind_pure_comp, readVerification, writeVerification, hfits, houtcome, hlifecycle,
    ThermalState.ctorIdx_lt, DeratingLevel.ctorIdx_lt, VerificationOutcome.ofNat_ctorIdx,
    ActionLifecycle.ofNat_ctorIdx, ThermalState.ofNat_ctorIdx, DeratingLevel.ofNat_ctorIdx, forgetReasons,
    verificationBounds_iff, and_assoc]

end Durable

end ThermalGovernor
