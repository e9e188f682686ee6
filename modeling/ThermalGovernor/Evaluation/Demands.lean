import Mathlib.Data.Prod.Lex
import Mathlib.Data.String.Basic
import ThermalGovernor.Evaluation.Evaluate

/-!
# What an evaluation demands and prohibits

The intents an evaluation demands and those it prohibits come from two tables over the state
and the policy.  `mem_prohibitedIntentsFor` is the second one as a condition on one intent, and
`called_of_mem` says of the first what each entry asks for; that nothing demanded is prohibited
follows state by state (`Called.not_prohibited`).

A set of intents is put in canonical order by a sort that compares intent, domain and
rationale, and no table has an intent twice, so the order is strict in the intents
(`canonicalise_of_distinct`).
-/

namespace ThermalGovernor

theorem MitigationIntent.index_injective : Function.Injective MitigationIntent.index := by
  intro a b h
  revert h
  cases a <;> cases b <;> decide

/-! ### Canonical order -/

namespace MitigationIntentRecord

/-- What records are ordered by. -/
def sortKey (r : MitigationIntentRecord) : ℕ ×ₗ ℕ ×ₗ String :=
  toLex (r.intent.index, toLex (r.domain, r.rationale))

theorem before_iff {a b : MitigationIntentRecord} :
    a.before b = true ↔ a.sortKey < b.sortKey := by
  unfold before sortKey
  rw [Prod.Lex.toLex_lt_toLex, Prod.Lex.toLex_lt_toLex]
  split_ifs with hintent hdomain
  · have hindex : a.intent.index ≠ b.intent.index :=
      fun h => hintent (MitigationIntent.index_injective h)
    simp [hindex]
  · simp [not_not.mp hintent, hdomain]
  · simp [not_not.mp hintent, not_not.mp hdomain]

theorem not_before_iff {a b : MitigationIntentRecord} :
    (! b.before a) = true ↔ a.sortKey ≤ b.sortKey := by
  rw [Bool.not_eq_true', Bool.eq_false_iff, ne_eq, before_iff, not_lt]

end MitigationIntentRecord

namespace MitigationIntentSet

/-- Records of different intents are no repetitions. -/
theorem dropRepeated_of_distinct {kept : MitigationIntentRecord} {rest : MitigationIntentSet}
    (h : (kept :: rest).Pairwise fun a b => a.intent ≠ b.intent) :
    dropRepeated kept rest = kept :: rest := by
  induction rest generalizing kept with
  | nil => rfl
  | cons a rest ih =>
    obtain ⟨hkept, hrest⟩ := List.pairwise_cons.mp h
    have hsame : kept.same a = false := by
      simp [MitigationIntentRecord.same, hkept a List.mem_cons_self]
    rw [dropRepeated, hsame, ih hrest]
    rfl

/-- **Records of different intents are put in strict order, and none is dropped.** -/
theorem canonicalise_of_distinct {s : MitigationIntentSet}
    (h : s.Pairwise fun a b => a.intent ≠ b.intent) :
    (canonicalise s).Perm s ∧
      (canonicalise s).Pairwise fun a b => a.before b = true ∧ a.intent ≠ b.intent := by
  have htotal : Std.Total fun a b : MitigationIntentRecord => (! b.before a) = true :=
    ⟨fun a b => by
      rw [MitigationIntentRecord.not_before_iff, MitigationIntentRecord.not_before_iff]
      exact le_total _ _⟩
  have htrans : IsTrans MitigationIntentRecord fun a b => (! b.before a) = true :=
    ⟨fun a b c => by
      rw [MitigationIntentRecord.not_before_iff, MitigationIntentRecord.not_before_iff,
        MitigationIntentRecord.not_before_iff]
      exact le_trans⟩
  have hperm := List.perm_insertionSort (fun a b : MitigationIntentRecord => ! b.before a) s
  have hsorted := List.pairwise_insertionSort
    (fun a b : MitigationIntentRecord => (! b.before a) = true) s
  have hdistinct : (s.insertionSort fun a b => ! b.before a).Pairwise
      fun a b => a.intent ≠ b.intent := hperm.symm.pairwise h fun hne => hne.symm
  have hcanonical : canonicalise s = s.insertionSort fun a b => ! b.before a := by
    unfold canonicalise
    cases hlist : s.insertionSort fun a b => ! b.before a with
    | nil => rfl
    | cons a rest =>
      rw [hlist] at hdistinct
      exact dropRepeated_of_distinct hdistinct
  rw [hcanonical]
  refine ⟨hperm, (hsorted.and hdistinct).imp fun {a b} hboth => ⟨?_, hboth.2⟩⟩
  rw [MitigationIntentRecord.before_iff]
  refine lt_of_le_of_ne (MitigationIntentRecord.not_before_iff.mp hboth.1) fun hkey => ?_
  have hindex : a.intent.index = b.intent.index := congrArg (fun k => (ofLex k).1) hkey
  exact hboth.2 (MitigationIntent.index_injective hindex)

end MitigationIntentSet

/-! ### Prohibited intents -/

/-- **What a state prohibits**: restoration under a restriction or an unresolved condition,
containment short of critical, and what the policy forbids of migration and cooling. -/
theorem mem_prohibitedIntentsFor {state : ThermalState} {policy : ThermalPolicy}
    {intent : MitigationIntent} :
    intent ∈ prohibitedIntentsFor state policy ↔
      (intent.isRestoring = true ∧ (state.isRestrictive = true ∨ state.isUnresolved = true)) ∨
      (intent = .requestContainment ∧ state ≠ .critical) ∨
      ((intent = .requestWorkloadMigration ∨ intent = .requestCoolingIntervention) ∧
        policyAllows policy intent = false) := by
  have hrestoring : intent.isRestoring = true ↔ intent ∈ [MitigationIntent.requestClockRestore,
      .requestPowerRestore, .requestAdmissionRestore, .requestConcurrencyRestore] := by
    cases intent <;> decide
  have hguarded : ∀ (p : Prop) [Decidable p] (list : List MitigationIntent),
      intent ∈ (if p then list else []) ↔ intent ∈ list ∧ p := by
    intro p hp list
    split
    · rename_i h
      rw [and_iff_left h]
    · rename_i h
      exact iff_of_false List.not_mem_nil fun hc => h hc.2
  have hforbidden : ∀ i : MitigationIntent,
      intent ∈ (if policyAllows policy i = true then [] else [i]) ↔
        intent = i ∧ policyAllows policy intent = false := by
    intro i
    split
    · rename_i h
      refine iff_of_false List.not_mem_nil ?_
      rintro ⟨rfl, hc⟩
      rw [h] at hc
      cases hc
    · rename_i h
      rw [List.mem_singleton]
      refine ⟨?_, And.left⟩
      rintro rfl
      exact ⟨rfl, Bool.eq_false_iff.mpr h⟩
  unfold prohibitedIntentsFor
  rw [List.mem_dedup, List.mem_insertionSort, List.mem_append, List.mem_append, List.mem_append,
    hguarded, hguarded, hforbidden, hforbidden, Bool.or_eq_true, ← hrestoring,
    List.mem_singleton, or_assoc, or_assoc, ← or_and_right]

/-! ### Demanded intents -/

/-- What a state calls for, before the policy is asked. -/
def intentTable (input : EvaluationInput) (state : ThermalState)
    (recovery : RecoveryAssessment) : List MitigationIntent :=
  match state with
  | .nearLimit => [.requestConcurrencyReduction]
  | .derated => [.requestClockReduction, .requestConcurrencyReduction]
  | .throttling =>
    [.requestClockReduction, .requestConcurrencyReduction, .requestCoolingIntervention]
  | .critical =>
    (if input.policy.emergency.allowContainmentIntent then [.requestContainment] else []) ++
    (if input.policy.emergency.allowMigrationIntent then [.requestWorkloadMigration] else []) ++
    (if input.policy.emergency.allowCoolingInterventionIntent then
      [.requestCoolingIntervention] else [])
  | .warm | .normal =>
    if 0 < input.previousDerating.restrictionRank && recovery.allowed then
      [.requestClockRestore, .requestConcurrencyRestore]
    else []
  | .revalidationRequired | .unknown | .unsupported => []

theorem map_intent_permittedIntent (input : EvaluationInput) (intent : MitigationIntent)
    (rationale : String) :
    (permittedIntent input intent rationale).map MitigationIntentRecord.intent =
      [intent].filter (policyAllows input.policy) := by
  unfold permittedIntent
  rw [List.filter_singleton]
  cases policyAllows input.policy intent <;> rfl

/-- **What is demanded is what the state calls for and the policy allows.** -/
theorem map_intent_intentsFor (input : EvaluationInput) (evidence : ThermalEvidence)
    (state : ThermalState) (concurrency : ℚ) (recovery : RecoveryAssessment) :
    (intentsFor input evidence state concurrency recovery).map MitigationIntentRecord.intent =
      (intentTable input state recovery).filter (policyAllows input.policy) := by
  have hpermitted := map_intent_permittedIntent input
  have hcapped : ∀ (intent : MitigationIntent) (rationale : String)
      (f : MitigationIntentRecord → MitigationIntentRecord), (∀ r, (f r).intent = r.intent) →
      ((permittedIntent input intent rationale).map f).map MitigationIntentRecord.intent =
        [intent].filter (policyAllows input.policy) := by
    intro intent rationale f hf
    rw [List.map_map, ← hpermitted intent rationale]
    exact List.map_congr_left fun r _ => hf r
  have hguarded : ∀ (b : Bool) (intent : MitigationIntent) (rationale : String),
      (if b = true then permittedIntent input intent rationale else []).map
          MitigationIntentRecord.intent =
        (if b = true then [intent] else []).filter (policyAllows input.policy) := by
    intro b intent rationale
    cases b with
    | false => rfl
    | true => exact hpermitted intent rationale
  unfold intentsFor intentTable
  cases state with
  | nearLimit => exact hpermitted _ _
  | derated =>
    dsimp only
    rw [List.map_append, List.map_append, hcapped, hcapped, if_neg (by decide), List.map_nil,
      List.append_nil, ← List.filter_append]
    · rfl
    · exact fun _ => rfl
    · exact fun _ => rfl
  | throttling =>
    dsimp only
    rw [List.map_append, List.map_append, hcapped, hcapped, if_pos rfl, hpermitted,
      ← List.filter_append, ← List.filter_append]
    · rfl
    · exact fun _ => rfl
    · exact fun _ => rfl
  | critical =>
    dsimp only
    rw [List.map_append, List.map_append, hguarded, hguarded, hguarded, List.filter_append,
      List.filter_append]
  | normal | warm =>
    dsimp only
    split
    · rw [List.map_append, hpermitted, hpermitted, ← List.filter_append]
      rfl
    · rfl
  | revalidationRequired | unknown | unsupported => rfl

theorem nodup_intentTable (input : EvaluationInput) (state : ThermalState)
    (recovery : RecoveryAssessment) : (intentTable input state recovery).Nodup := by
  unfold intentTable
  cases state with
  | critical =>
    dsimp only
    cases input.policy.emergency.allowContainmentIntent <;>
      cases input.policy.emergency.allowMigrationIntent <;>
      cases input.policy.emergency.allowCoolingInterventionIntent <;> decide
  | normal | warm =>
    dsimp only
    split <;> decide
  | nearLimit | derated | throttling | revalidationRequired | unknown | unsupported =>
    dsimp only
    decide

/-- What a state calls for is an action; containment is called for in a critical state only,
and restoration on the way back from a restriction once recovery is allowed. -/
structure Called (input : EvaluationInput) (state : ThermalState)
    (recovery : RecoveryAssessment) (intent : MitigationIntent) : Prop where
  action : intent ≠ .noAction
  contains : intent = .requestContainment → state = .critical
  restores : intent.isRestoring = true →
    recovery.allowed = true ∧ 0 < input.previousDerating.restrictionRank ∧
      (state = .normal ∨ state = .warm)

theorem called_of_mem {input : EvaluationInput} {state : ThermalState}
    {recovery : RecoveryAssessment} {intent : MitigationIntent}
    (h : intent ∈ intentTable input state recovery) : Called input state recovery intent := by
  -- an intent that neither contains nor restores may be called for in any state
  have hplain : ∀ i : MitigationIntent, i ≠ .noAction → i ≠ .requestContainment →
      i.isRestoring = false → Called input state recovery i :=
    fun i haction hcontains hrestores =>
      ⟨haction, fun hc => absurd hc hcontains, fun hr => by rw [hrestores] at hr; cases hr⟩
  unfold intentTable at h
  cases state with
  | nearLimit =>
    rw [List.mem_singleton.mp h]
    exact hplain _ (by decide) (by decide) rfl
  | derated =>
    simp only [List.mem_cons, List.not_mem_nil, or_false] at h
    rcases h with rfl | rfl <;> exact hplain _ (by decide) (by decide) rfl
  | throttling =>
    simp only [List.mem_cons, List.not_mem_nil, or_false] at h
    rcases h with rfl | rfl | rfl <;> exact hplain _ (by decide) (by decide) rfl
  | critical =>
    have hguarded : ∀ (b : Bool) (i : MitigationIntent),
        intent ∈ (if b = true then [i] else []) → intent = i := by
      intro b i hmem
      cases b with
      | false => cases hmem
      | true => exact List.mem_singleton.mp hmem
    dsimp only at h
    rw [List.mem_append, List.mem_append] at h
    rcases h with (h | h) | h
    · rw [hguarded _ _ h]
      exact ⟨by decide, fun _ => rfl, fun hr => by cases hr⟩
    · rw [hguarded _ _ h]
      exact hplain _ (by decide) (by decide) rfl
    · rw [hguarded _ _ h]
      exact hplain _ (by decide) (by decide) rfl
  | normal | warm =>
    dsimp only at h
    split at h
    · rename_i hrestores
      rw [Bool.and_eq_true, decide_eq_true_eq] at hrestores
      simp only [List.mem_cons, List.not_mem_nil, or_false] at h
      rcases h with rfl | rfl <;>
        exact ⟨by decide, fun hc => (by cases hc), fun _ => ⟨hrestores.2, hrestores.1, by simp⟩⟩
    · cases h
  | revalidationRequired | unknown | unsupported => cases h

/-! ### The law -/

/-- What the demands of an evaluation keep to. -/
structure DemandsWithin (input : EvaluationInput) (e : ThermalEvaluation) : Prop where
  allowed : ∀ r ∈ e.intents, r.intent ≠ .noAction → policyAllows input.policy r.intent = true
  permitted : ∀ r ∈ e.intents, r.intent ∉ e.prohibitedIntents
  ordered : e.intents.Pairwise fun a b => a.before b = true ∧ a.intent ≠ b.intent
  alone : (∃ r ∈ e.intents, r.intent = .noAction) → e.intents.length = 1
  restores : ∀ r ∈ e.intents, r.intent.isRestoring = true →
    e.recovery.allowed = true ∧ 0 < input.previousDerating.restrictionRank ∧
      (e.state = .normal ∨ e.state = .warm)

/-- Nothing that a state calls for and the policy allows is prohibited. -/
theorem Called.not_prohibited {input : EvaluationInput} {state : ThermalState}
    {recovery : RecoveryAssessment} {intent : MitigationIntent}
    (h : Called input state recovery intent)
    (hallowed : policyAllows input.policy intent = true) :
    intent ∉ prohibitedIntentsFor state input.policy := by
  rw [mem_prohibitedIntentsFor]
  rintro (⟨hrestores, hstate⟩ | ⟨hcontains, hstate⟩ | ⟨-, hforbidden⟩)
  · obtain ⟨-, -, rfl | rfl⟩ := h.restores hrestores <;> rcases hstate with hc | hc <;> cases hc
  · exact hstate (h.contains hcontains)
  · rw [hallowed] at hforbidden
    cases hforbidden

/-- The intents of a resolved evaluation, before they are put in order, are the table's entries
that the policy allows. -/
theorem called_of_mem_intentsFor {input : EvaluationInput} {evidence : ThermalEvidence}
    {state : ThermalState} {concurrency : ℚ} {recovery : RecoveryAssessment}
    {r : MitigationIntentRecord} (h : r ∈ intentsFor input evidence state concurrency recovery) :
    Called input state recovery r.intent ∧ policyAllows input.policy r.intent = true := by
  have hmem := List.mem_map_of_mem (f := MitigationIntentRecord.intent) h
  rw [map_intent_intentsFor, List.mem_filter] at hmem
  exact ⟨called_of_mem hmem.1, hmem.2⟩

theorem pairwise_intentsFor (input : EvaluationInput) (evidence : ThermalEvidence)
    (state : ThermalState) (concurrency : ℚ) (recovery : RecoveryAssessment) :
    (intentsFor input evidence state concurrency recovery).Pairwise
      fun a b => a.intent ≠ b.intent := by
  have hnodup : ((intentsFor input evidence state concurrency recovery).map
      MitigationIntentRecord.intent).Nodup := by
    rw [map_intent_intentsFor]
    exact (nodup_intentTable input state recovery).filter _
  exact List.pairwise_map.mp hnodup

theorem demandsWithin_evaluateResolved (input : EvaluationInput) (evidence : ThermalEvidence) :
    DemandsWithin input (evaluateResolved input evidence) := by
  let e := evaluateResolved input evidence
  let entries := intentsFor input evidence e.state e.permittedConcurrency e.recovery
  have hintents : e.intents = (orNoAction input entries).canonicalise := rfl
  have hprohibited : e.prohibitedIntents = prohibitedIntentsFor e.state input.policy := rfl
  cases hentries : entries with
  | nil =>
    have hnone : ∃ none : MitigationIntentRecord, none.intent = .noAction ∧ e.intents = [none] := by
      rw [hintents, hentries]
      exact ⟨_, rfl, rfl⟩
    obtain ⟨none, haction, hnone⟩ := hnone
    show DemandsWithin input e
    refine ⟨fun r hr hdemands => ?_, fun r hr => ?_, ?_, fun _ => ?_, fun r hr hrestores => ?_⟩
    · rw [hnone, List.mem_singleton] at hr
      exact absurd (hr ▸ haction) hdemands
    · rw [hnone, List.mem_singleton] at hr
      rw [hr, haction, hprohibited, mem_prohibitedIntentsFor]
      simp [MitigationIntent.isRestoring]
    · rw [hnone]
      exact List.pairwise_singleton _ _
    · rw [hnone]
      rfl
    · rw [hnone, List.mem_singleton] at hr
      rw [hr, haction] at hrestores
      cases hrestores
  | cons first rest =>
    have hsame : orNoAction input entries = entries := by
      rw [hentries]
      rfl
    obtain ⟨hperm, hordered⟩ := MitigationIntentSet.canonicalise_of_distinct
      (pairwise_intentsFor input evidence e.state e.permittedConcurrency e.recovery)
    have hcalled : ∀ r ∈ e.intents, Called input e.state e.recovery r.intent ∧
        policyAllows input.policy r.intent = true := by
      intro r hr
      rw [hintents, hsame] at hr
      exact called_of_mem_intentsFor (hperm.mem_iff.mp hr)
    show DemandsWithin input e
    refine ⟨fun r hr _ => (hcalled r hr).2, fun r hr => ?_, ?_, fun ⟨r, hr, hnone⟩ => ?_,
      fun r hr => (hcalled r hr).1.restores⟩
    · rw [hprohibited]
      exact (hcalled r hr).1.not_prohibited (hcalled r hr).2
    · rw [hintents, hsame]
      exact hordered
    · exact absurd hnone (hcalled r hr).1.action

/-- **Demands and prohibitions never conflict.** -/
theorem demandsWithin_evaluateThermal (input : EvaluationInput) :
    DemandsWithin input (evaluateThermal input) := by
  rcases evaluateThermal_cases input with ⟨evidence, -, heq⟩ | ⟨-, hrefuses⟩
  · rw [heq]
    exact demandsWithin_evaluateResolved input evidence
  · have hnone : ∀ r, r ∉ (evaluateThermal input).intents := by
      rw [hrefuses.intents]
      exact fun _ => List.not_mem_nil
    refine ⟨fun r hr => absurd hr (hnone r), fun r hr => absurd hr (hnone r), ?_,
      fun ⟨r, hr, _⟩ => absurd hr (hnone r), fun r hr => absurd hr (hnone r)⟩
    rw [hrefuses.intents]
    exact .nil

end ThermalGovernor
