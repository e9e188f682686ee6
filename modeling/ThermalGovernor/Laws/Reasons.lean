import ThermalGovernor.Laws.Admission
import ThermalGovernor.Policy.Requirements

/-!
# The order of reasons

A set of reasons is canonical when its codes increase (`Ordered`), so that no code is there
twice and equal sets are equal lists.  Codes are added as they are found; `canonicalise` puts
any set without repetitions in order, and evaluations, recoveries and verifications end with
it or have one reason only.
-/

namespace ThermalGovernor

/-! ### Codes and their values -/

namespace ThermalReasonCode

/-- All codes, by value. -/
def all : List ThermalReasonCode :=
  [none, temperatureBelowWarning, temperatureInWarningBand, temperatureInNearLimitBand,
    deratingThresholdExceeded, criticalThresholdExceeded, thermalThrottleObserved,
    nonThermalThrottleObserved, noThrottleObserved, throttleEvidenceUnsupported,
    throttleEvidenceUnknown, evidenceMissing, evidenceStale, evidenceGenerationInvalidated,
    evidenceIntegrityFailed, evidenceConflict, capabilityUnsupported,
    policyUnknownBehaviorApplied, policyUnsupportedBehaviorApplied, capabilityUnresolved,
    effectiveHeadroomSufficient, effectiveHeadroomBelowDemand, rawHeadroomNegative,
    vendorLimitGoverns, policyLimitGoverns, recoveryThresholdSatisfied,
    recoveryThresholdExceeded, recoverySamplesInsufficient, recoveryEvidenceSpanInsufficient,
    recoveryForbiddenByPolicy, recoveryRequiresExplicitAuthorization, recoveryAuthorized,
    recoveryWitnessesInsufficient, recoveryBlockedByCoupledDomain,
    recoveryBlockedByThrottleEvidence, coupledDomainPressure, coupledDomainRecovered,
    couplingProvenanceSynthetic, workloadProfileExcluded, workloadRequiresDerating,
    workloadHeadroomDemandMet, workloadProfileUnknown, emergencyContainmentRequired,
    emergencyExecutionDenied, admissionDeferredByPolicy, deratedAdmissionAllowed,
    deratedAdmissionForbidden, concurrencyCeilingApplied, stateRetainedByHysteresis,
    authorityRevalidated, deratingCannotExpand]

theorem find?_value (code : ThermalReasonCode) :
    all.find? (fun c => c.value = code.value) = some code := by
  cases code <;> rfl

theorem value_injective : Function.Injective value := fun a b h =>
  Option.some.inj <| (find?_value a).symm.trans <| h ▸ find?_value b

end ThermalReasonCode

namespace ReasonCodeSet

variable {s : ReasonCodeSet} {code c : ThermalReasonCode}

/-- The codes increase. -/
def Ordered (s : ReasonCodeSet) : Prop := s.Pairwise fun a b => a.value < b.value

instance (s : ReasonCodeSet) : Decidable (Ordered s) :=
  inferInstanceAs (Decidable (List.Pairwise _ _))

theorem ordered_nil : Ordered [] := .nil

theorem ordered_singleton (code : ThermalReasonCode) : Ordered [code] :=
  List.pairwise_singleton _ _

theorem Ordered.nodup (h : Ordered s) : s.Nodup := by
  refine List.Pairwise.imp (fun {a b} hlt heq => ?_) h
  rw [heq] at hlt
  exact Nat.lt_irrefl _ hlt

/-- **Equal sets of reasons that are in order are equal lists.** -/
theorem Ordered.eq_of_mem_iff {s s' : ReasonCodeSet} (h : Ordered s) (h' : Ordered s')
    (hmem : ∀ c, c ∈ s ↔ c ∈ s') : s = s' := by
  have hperm := (List.perm_ext_iff_of_nodup h.nodup h'.nodup).mpr hmem
  exact hperm.eq_of_pairwise (fun a b _ _ hab hba => absurd hba (Nat.lt_asymm hab)) h h'

/-- **A set without repetitions is put in order.** -/
theorem ordered_canonicalise (h : s.Nodup) : Ordered s.canonicalise := by
  have hsorted : s.canonicalise.Pairwise fun a b => a.value ≤ b.value :=
    List.pairwise_insertionSort _ _
  have hnodup : s.canonicalise.Nodup := (List.perm_insertionSort _ s).nodup_iff.mpr h
  refine (hsorted.and hnodup).imp fun hboth => ?_
  exact lt_of_le_of_ne hboth.1 fun heq => hboth.2 (ThermalReasonCode.value_injective heq)

/-- **A code keeps the order if it is there already or above all that are.** -/
theorem ordered_add_iff : Ordered (s.add code) ↔
    Ordered s ∧ (code = .none ∨ code ∈ s ∨ ∀ c ∈ s, c.value < code.value) := by
  unfold add
  by_cases hthere : code = .none ∨ code ∈ s
  · rw [if_pos hthere, ← or_assoc]
    exact (and_iff_left (.inl hthere)).symm
  · rw [if_neg hthere, ← or_assoc, or_iff_right hthere, Ordered, List.pairwise_append]
    refine and_congr_right fun _ => ?_
    rw [and_iff_right (List.pairwise_singleton _ _)]
    simp only [List.mem_singleton, forall_eq]

theorem ordered_addIf_iff {b : Bool} : Ordered (s.addIf b code) ↔
    Ordered s ∧ (b = true → code = .none ∨ code ∈ s ∨ ∀ c ∈ s, c.value < code.value) := by
  cases b with
  | false => exact (and_iff_left (fun h => absurd h (by decide))).symm
  | true => exact ordered_add_iff.trans (and_congr_right fun _ => ⟨fun h _ => h, fun h => h rfl⟩)

/-! ### Sets built by additions -/

theorem nodup_addIf (h : s.Nodup) (b : Bool) (code : ThermalReasonCode) :
    (s.addIf b code).Nodup := by
  cases b with
  | false => exact h
  | true => exact nodup_add h code

theorem nodup_foldl_add (codes : List ThermalReasonCode) : ∀ {s : ReasonCodeSet}, s.Nodup →
    (codes.foldl add s).Nodup := by
  induction codes with
  | nil => exact fun h => h
  | cons code codes ih => exact fun h => ih (nodup_add h code)

theorem mem_foldl_add {codes : List ThermalReasonCode} : ∀ {s : ReasonCodeSet},
    c ∈ codes.foldl add s ↔ c ∈ s ∨ (c ∈ codes ∧ c ≠ .none) := by
  induction codes with
  | nil => exact fun {s} => by simp
  | cons code codes ih =>
    intro s
    rw [List.foldl_cons, ih, mem_add, List.mem_cons, or_assoc]
    refine or_congr_right ⟨?_, ?_⟩
    · rintro (⟨rfl, hne⟩ | ⟨hmem, hne⟩)
      · exact ⟨.inl rfl, hne⟩
      · exact ⟨.inr hmem, hne⟩
    · rintro ⟨rfl | hmem, hne⟩
      · exact .inl ⟨rfl, hne⟩
      · exact .inr ⟨hmem, hne⟩

end ReasonCodeSet

open ReasonCodeSet

/-! ### Recoveries, evaluations and verifications -/

theorem nodup_recoveryReasons (policy : ThermalPolicy) (input : RecoveryInput) (w : RecoveryWalk)
    (below headroomOk : Bool) : (recoveryReasons policy input w below headroomOk).Nodup := by
  unfold recoveryReasons
  exact nodup_addIf (nodup_addIf (nodup_addIf (nodup_addIf (nodup_addIf (nodup_addIf (nodup_addIf
    (nodup_addIf (nodup_add .nil _) _ _) _ _) _ _) _ _) _ _) _ _) _ _) _ _

/-- Both sets of a recovery are in order. -/
def RecoveryAssessment.Ordered (r : RecoveryAssessment) : Prop :=
  ReasonCodeSet.Ordered r.blockingReasons ∧ ReasonCodeSet.Ordered r.satisfiedReasons

theorem ordered_assessRecovery (policy : ThermalPolicy) (input : RecoveryInput) :
    (assessRecovery policy input).Ordered := by
  unfold assessRecovery
  constructor
  · dsimp only
    split
    · exact ordered_singleton _
    · exact ordered_canonicalise (nodup_recoveryReasons _ _ _ _ _)
  · dsimp only
    split
    · exact ordered_singleton _
    · exact ordered_nil

theorem ordered_evaluateRecovery (input : RecoveryInput) : (evaluateRecovery input).Ordered := by
  unfold evaluateRecovery
  split
  · exact ⟨ordered_singleton _, ordered_nil⟩
  · split
    · exact ⟨ordered_singleton _, ordered_nil⟩
    · exact ordered_assessRecovery _ _

theorem nodup_hysteresisGate (previous candidate : ThermalState) (recovery : RecoveryAssessment)
    {reasons : ReasonCodeSet} (h : reasons.Nodup) :
    (hysteresisGate previous candidate recovery reasons).2.Nodup := by
  unfold hysteresisGate
  split_ifs
  · exact h
  · exact h
  · exact nodup_add h _
  · exact nodup_add h _
  · exact nodup_foldl_add _ (nodup_add h _)

theorem nodup_nextThermalState (input : EvaluationInput) (evidence : ThermalEvidence)
    (recovery : RecoveryAssessment) : (nextThermalState input evidence recovery []).reasons.Nodup :=
  nodup_hysteresisGate _ _ _ (nodup_foldl_add _ (nodup_add (nodup_add .nil _) _))

theorem nodup_workloadReasons (policy : ThermalPolicy) (profile : WorkloadThermalProfile)
    {reasons : ReasonCodeSet} (h : reasons.Nodup) :
    (workloadReasons policy profile reasons).Nodup :=
  nodup_addIf (nodup_addIf (nodup_addIf h _ _) _ _) _ _

theorem nodup_admitHeadroom (policy : ThermalPolicy) (met : Bool) (decision : ThermalDecision)
    {reasons : ReasonCodeSet} (h : reasons.Nodup) :
    (admitHeadroom policy met decision reasons).2.Nodup := by
  unfold admitHeadroom
  split_ifs
  · exact nodup_add h _
  · exact nodup_add (nodup_add h _) _
  · exact nodup_add (nodup_add h _) _
  · exact nodup_add h _

theorem ordered_evaluateResolved (input : EvaluationInput) (evidence : ThermalEvidence) :
    Ordered (evaluateResolved input evidence).reasons :=
  ordered_canonicalise <| nodup_addIf (nodup_admitHeadroom _ _ _ <| nodup_addIf
    (nodup_workloadReasons _ _ <| nodup_add (nodup_addIf (nodup_add
      (nodup_nextThermalState _ _ _) _) _ _) _) _ _) _ _

/-- How a hard predicate refuses: for a capability, or for one reason of the evidence. -/
theorem refused_cases {input : EvaluationInput} (h : resolvedEvidence input = none) :
    (input.temperatureCapability = .unsupported ∧ evaluateThermal input =
      refuseEvaluation input .unsupported (decisionForUnsupported input.policy.unsupportedBehavior)
        .unsupported 0 [.capabilityUnsupported, .policyUnsupportedBehaviorApplied]
        .capabilityUnsupported) ∨
    (input.temperatureCapability = .unknown ∧ evaluateThermal input =
      refuseEvaluation input .unknown (decisionForUnknown input.policy.unknownBehavior) .unknown
        (concurrencyCeiling input.policy.concurrency .unknown)
        [.policyUnknownBehaviorApplied, .capabilityUnresolved] .capabilityUnresolved) ∨
    (input.temperatureCapability ≠ .unknown ∧ ∃ reason : ThermalReasonCode, reason.value < 30 ∧
      evaluateThermal input = demandRevalidation input reason) := by
  unfold evaluateThermal
  dsimp only
  by_cases hunsupported : input.temperatureCapability = .unsupported
  · exact .inl ⟨hunsupported, if_pos hunsupported⟩
  by_cases hunknown : input.temperatureCapability = .unknown
  · exact .inr (.inl ⟨hunknown, (if_neg hunsupported).trans (if_pos hunknown)⟩)
  refine .inr (.inr ⟨hunknown, ?_⟩)
  rw [if_neg hunsupported, if_neg hunknown]
  cases hevidence : input.evidence with
  | none => exact ⟨_, by decide, rfl⟩
  | some evidence =>
    dsimp only
    by_cases hconflict : input.evidenceConflict = true
    · exact ⟨_, by decide, if_pos hconflict⟩
    · by_cases hfresh : input.freshness = .fresh
      · have hsupported : input.temperatureCapability.isSupported = true := by
          cases hcap : input.temperatureCapability <;> first | rfl | contradiction
        rw [resolvedEvidence_eq_some.mpr
          ⟨hsupported, Bool.not_eq_true _ ▸ hconflict, hfresh, hevidence⟩] at h
        cases h
      · refine ⟨_, ?_, (if_neg hconflict).trans (if_pos hfresh)⟩
        cases input.freshness <;> decide

/-- A hard predicate gives its reasons in order, and all of them are about the evidence or the
capability. -/
theorem reasons_of_refused {input : EvaluationInput} (h : resolvedEvidence input = none) :
    Ordered (evaluateThermal input).reasons ∧
    ∀ c ∈ (evaluateThermal input).reasons, c.value < 30 := by
  obtain ⟨-, heq⟩ | ⟨-, heq⟩ | ⟨-, reason, hlow, heq⟩ := refused_cases h
  · rw [heq]
    show Ordered [_, _] ∧ ∀ c ∈ [_, _], _
    decide
  · rw [heq]
    show Ordered [_, _] ∧ ∀ c ∈ [_, _], _
    decide
  · rw [heq]
    refine ⟨ordered_singleton _, fun c hc => ?_⟩
    rw [List.mem_singleton.mp hc]
    exact hlow

/-- **The reasons of an evaluation, and those of its recovery, are in order.** -/
theorem ordered_evaluateThermal (input : EvaluationInput) :
    Ordered (evaluateThermal input).reasons ∧ (evaluateThermal input).recovery.Ordered := by
  rcases evaluateThermal_cases input with ⟨evidence, _, heq⟩ | ⟨hnone, hrefuses⟩
  · rw [heq]
    exact ⟨ordered_evaluateResolved _ _, ordered_evaluateRecovery _⟩
  · rw [hrefuses.recovery]
    exact ⟨(reasons_of_refused hnone).1, ordered_nil, ordered_nil⟩

theorem ordered_verifiedRecord (input : VerificationInput) (action : ThermalAction) :
    Ordered (verifiedRecord input action).reasons := by
  unfold verifiedRecord
  dsimp only
  split
  · exact ordered_singleton _
  · exact ordered_canonicalise
      (nodup_addIf (nodup_addIf (nodup_add (nodup_addIf .nil _ _) _) _ _) _ _)

end ThermalGovernor
