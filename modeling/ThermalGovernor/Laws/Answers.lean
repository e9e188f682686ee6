import ThermalGovernor.Laws.Admitting
import ThermalGovernor.Laws.AnswerOrder
import ThermalGovernor.Laws.Reporting
import ThermalGovernor.Session.Errors
import ThermalGovernor.Session.Widths

/-!
# Answers that are always short

An evaluation demands no intent twice and gives no reason twice, and why it demands something
is a text of the source (`Modest`).  That holds of every evaluation that is stored, so what the
coordinator tells of a domain, of an admission, of a verification and of its own counters is
bounded: `Session.Widths` counts the answers that are not.
-/

namespace ThermalGovernor

open Lib Format ReasonCodeSet

/-! ### What an evaluation holds -/

/-- An evaluation with few intents, each for a short reason, and no repetitions. -/
structure Modest (e : ThermalEvaluation) : Prop where
  intents : e.intents.length ≤ 12
  rationales : ∀ r ∈ e.intents, r.rationale.length ≤ 64
  prohibited : e.prohibitedIntents.Nodup
  reasons : e.reasons.Nodup

theorem MitigationIntentSet.mem_of_mem_dropRepeated {r kept : MitigationIntentRecord}
    {rest : MitigationIntentSet} (h : r ∈ dropRepeated kept rest) : r ∈ kept :: rest := by
  induction rest generalizing kept with
  | nil => exact h
  | cons a rest ih =>
    rw [dropRepeated] at h
    split at h
    · exact List.cons_subset_cons kept (List.subset_cons_self a rest) (ih h)
    · rcases List.mem_cons.mp h with rfl | hrest
      · exact List.mem_cons_self
      · exact List.mem_cons_of_mem _ (ih hrest)

theorem MitigationIntentSet.mem_of_mem_canonicalise {r : MitigationIntentRecord}
    {s : MitigationIntentSet} (h : r ∈ s.canonicalise) : r ∈ s := by
  unfold canonicalise at h
  split at h
  · cases h
  · rename_i a rest hsorted
    have hmem := mem_of_mem_dropRepeated h
    rw [← hsorted, List.mem_insertionSort] at hmem
    exact hmem

section Rationales

variable {input : EvaluationInput} {evidence : ThermalEvidence} {intent : MitigationIntent}
  {text : List Char}

/-- Every intent of the set is demanded for a short reason. -/
def ShortRationales (s : MitigationIntentSet) : Prop := ∀ r ∈ s, r.rationale.length ≤ 64

theorem shortRationales_permitted (h : text.length ≤ 64) :
    ShortRationales (permittedIntent input intent (String.ofList text)) := by
  intro r hr
  unfold permittedIntent at hr
  split at hr
  · rw [List.mem_singleton.mp hr]
    exact length_ofList_le h
  · cases hr

theorem ShortRationales.append {s s' : MitigationIntentSet} (h : ShortRationales s)
    (h' : ShortRationales s') : ShortRationales (s ++ s') :=
  List.forall_mem_append.mpr ⟨h, h'⟩

theorem ShortRationales.map {s : MitigationIntentSet} (h : ShortRationales s)
    {f : MitigationIntentRecord → MitigationIntentRecord}
    (hf : ∀ r, (f r).rationale = r.rationale) : ShortRationales (s.map f) := by
  intro r hr
  obtain ⟨r, hmem, rfl⟩ := List.mem_map.mp hr
  rw [hf]
  exact h r hmem

theorem ShortRationales.ite {s : MitigationIntentSet} (h : ShortRationales s) (p : Prop)
    [Decidable p] : ShortRationales (if p then s else []) := by
  split
  · exact h
  · exact fun r hr => by cases hr

theorem shortRationales_intentsFor (state : ThermalState) (concurrency : ℚ)
    (recovery : RecoveryAssessment) :
    ShortRationales (intentsFor input evidence state concurrency recovery) := by
  unfold intentsFor
  cases state with
  | nearLimit => exact shortRationales_permitted (by decide)
  | derated | throttling =>
    refine .append (.append (.map ?_ fun _ => rfl) (.map ?_ fun _ => rfl)) (.ite ?_ _)
    · split <;> exact shortRationales_permitted (by decide)
    all_goals exact shortRationales_permitted (by decide)
  | critical =>
    refine .append (.append (.ite ?_ _) (.ite ?_ _)) (.ite ?_ _)
    all_goals exact shortRationales_permitted (by decide)
  | warm | normal =>
    refine .ite (.append ?_ ?_) _
    all_goals exact shortRationales_permitted (by decide)
  | revalidationRequired | unknown | unsupported => exact fun r hr => by cases hr

theorem shortRationales_evaluateThermal (input : EvaluationInput) :
    ShortRationales (evaluateThermal input).intents := by
  rcases evaluateThermal_cases input with ⟨evidence, -, heq⟩ | ⟨-, hrefuses⟩
  · rw [heq]
    intro r hr
    have hmem := MitigationIntentSet.mem_of_mem_canonicalise hr
    unfold orNoAction at hmem
    split at hmem
    · rw [List.mem_singleton.mp hmem]
      exact length_ofList_le (by decide)
    · exact shortRationales_intentsFor _ _ _ r hmem
  · rw [hrefuses.intents]
    exact fun r hr => by cases hr

end Rationales

theorem modest_evaluateThermal (input : EvaluationInput) : Modest (evaluateThermal input) where
  intents := length_intents_le input
  rationales := shortRationales_evaluateThermal input
  prohibited := by
    have hnodup : ∀ state, (prohibitedIntentsFor state input.policy).Nodup := fun _ =>
      List.nodup_dedup _
    rcases evaluateThermal_cases input with ⟨evidence, -, heq⟩ | ⟨-, hrefuses⟩
    · rw [heq]
      exact hnodup _
    · rw [hrefuses.prohibited]
      exact hnodup _
  reasons := (ordered_evaluateThermal input).1.nodup

namespace Governor

variable {put : ThermalPolicy → Prop} {g g' : Governor} {e : ThermalEvaluation}

/-- The coordinator fills in nothing that counts. -/
theorem modest_of_finishes {input : EvaluationInput} (h : Finishes input e) : Modest e := by
  obtain ⟨g, policy, gathered, rfl⟩ := h
  have hmodest := modest_evaluateThermal input
  exact ⟨hmodest.intents, hmodest.rationales, hmodest.prohibited, hmodest.reasons⟩

theorem modest_of_evaluateLocked {definition : ThermalDomainDefinition}
    (h : g.evaluateLocked definition = (g', .ok e)) : Modest e := by
  unfold evaluateLocked at h
  split at h
  · cases h
  · rename_i policy _
    obtain ⟨-, he⟩ := Prod.mk.inj h
    rw [← Except.ok.inj he]
    exact modest_of_finishes ⟨g, policy, _, rfl⟩

theorem modest_of_evaluateDomain {domain : ThermalDomainId}
    (h : (g.evaluateDomain domain).2 = .ok e) : Modest e := by
  unfold evaluateDomain evaluateAndStore at h
  split at h
  · cases h
  split at h
  · cases h
  · rename_i heval
    rw [← Except.ok.inj h]
    exact modest_of_evaluateLocked heval

/-- Every stored evaluation is modest. -/
def ModestEvaluations (g : Governor) : Prop :=
  ∀ id e, g.evaluations.lookup id = some e → Modest e

theorem modestEvaluations_write (h : Write put g g') (hnoted : g'.NotedEvaluations)
    (hg : g.ModestEvaluations) : g'.ModestEvaluations := by
  intro id e hlookup
  rcases h.evaluations with
    hsame | hnone | ⟨domain, name, definition, input, stored, -, -, hevaluated, hstored⟩
  · rw [hsame] at hlookup
    exact hg id e hlookup
  · rw [hnone] at hlookup
    cases hlookup
  · rw [hstored, Table.lookup_insert_eq_ite] at hlookup
    split at hlookup
    · rw [← Option.some.inj hlookup]
      exact modest_of_finishes (hnoted input stored hevaluated)
    · exact hg id e hlookup

theorem modestEvaluations_of_reachable (hg : g.Reachable) : g.ModestEvaluations := by
  obtain ⟨config, now, hrun⟩ := hg
  have hinv : g.NotedEvaluations ∧ g.ModestEvaluations := by
    refine invariant_of_writes (I := fun g => g.NotedEvaluations ∧ g.ModestEvaluations) hrun
      (fun g g' hwrite hg => ?_) ⟨fun input e hnoted => (by cases hnoted),
        fun id e hlookup => (by cases hlookup)⟩
    have hnoted := notedEvaluations_write hwrite hg.1
    exact ⟨hnoted, modestEvaluations_write hwrite hnoted hg.2⟩
  exact hinv.2

/-! ### Admissions and verifications -/

/-- A verdict repeats no reason of the evaluation. -/
theorem nodup_verdictReasons (policy : ThermalPolicy) (request : ThermalAdmissionRequest)
    (decision : ThermalDecision) (met : Bool) (concurrency : ℚ) (permitted : ExecutionClass)
    {reasons : ReasonCodeSet} (h : reasons.Nodup) :
    (verdictReasons policy request decision met concurrency permitted reasons).Nodup := by
  have hadmit : ∀ required, (admitReasons policy request required met concurrency permitted
      reasons).Nodup := by
    intro required
    have htold := fun code => nodup_addIf (nodup_addIf (nodup_add h code)
      (request.crowded concurrency) .concurrencyCeilingApplied)
      (request.downgraded permitted) .workloadRequiresDerating
    unfold admitReasons
    split
    · exact nodup_add h _
    dsimp only
    split
    · exact nodup_add (htold _) _
    · exact (ordered_canonicalise (htold _)).nodup
  unfold verdictReasons
  split
  · exact nodup_add h _
  split
  · exact h
  · exact h
  · exact h
  · exact h
  · exact nodup_add h _
  · exact hadmit _
  · exact hadmit _

/-- An answer to an admission is as modest as the evaluation it is made for. -/
theorem modest_of_evaluateAdmission {request : ThermalAdmissionRequest}
    {r : ThermalAdmissionResult} (h : (g.evaluateAdmission request).2 = .ok r) :
    r.reasons.Nodup ∧ r.constraints.length ≤ 12 ∧ ShortRationales r.constraints := by
  obtain ⟨definition, policy, hfenced⟩ := fenced_of_ok h
  have hr := evaluateAdmission_eq_ok hfenced.registered hfenced.governed h
  have hfinishes : Finishes (g.evaluation definition policy).1
      (g.evaluationFor definition policy .unknownProfile) := ⟨g, policy, _, rfl⟩
  have hmodest := modest_of_finishes hfinishes
  clear hfinishes
  revert hr hmodest
  generalize g.evaluationFor definition policy .unknownProfile = e
  intro hr hmodest
  refine ⟨?_, ?_⟩
  · rw [hr, reasons_admissionVerdict]
    exact nodup_verdictReasons _ _ _ _ _ _ hmodest.reasons
  · obtain ⟨_, _, hanswers⟩ : Answers (g.admissionResult request definition policy e)
        (admissionVerdict policy request e (g.admissionResult request definition policy e)) :=
      answers_admissionVerdict e _
    rw [hr, hanswers]
    exact ⟨hmodest.intents, hmodest.rationales⟩

theorem nodup_of_verifyAction {id : ActionId} {fresh : ThermalEvidence}
    {record : ActionVerification} (h : (g.verifyAction id fresh).2 = .ok record) :
    record.reasons.Nodup := by
  unfold verifyAction at h
  split at h
  · cases h
  · rename_i g' _ _
    obtain ⟨action, definition, policy, before, -, -, -, -, -, -, rfl⟩ :=
      verifyCommit_eq_ok (Prod.ext rfl h)
    exact (ordered_verifiedRecord _ action).nodup

end Governor

/-! ### Names -/

@[simp] theorem brief_state (s : ThermalState) : Brief s.text := by
  cases s <;> exact brief_ofList (by decide)

@[simp] theorem brief_derating (d : DeratingLevel) : Brief d.text := by
  cases d <;> exact brief_ofList (by decide)

@[simp] theorem brief_decision (d : ThermalDecision) : Brief d.text := by
  cases d <;> exact brief_ofList (by decide)

@[simp] theorem brief_throttle (c : ThrottleClass) : Brief c.text := by
  cases c <;> exact brief_ofList (by decide)

@[simp] theorem brief_provenance (p : Provenance) : Brief p.text := by
  cases p <;> exact brief_ofList (by decide)

@[simp] theorem brief_executionClass (c : ExecutionClass) : Brief c.text := by
  cases c <;> exact brief_ofList (by decide)

@[simp] theorem brief_subjectKind (k : SubjectKind) : Brief k.text := by
  cases k <;> exact brief_ofList (by decide)

@[simp] theorem brief_profile (p : WorkloadThermalProfile) : Brief p.text := by
  cases p <;> exact brief_ofList (by decide)

@[simp] theorem brief_admission (d : AdmissionDecision) : Brief d.text := by
  cases d <;> exact brief_ofList (by decide)

@[simp] theorem brief_lifecycle (l : ActionLifecycle) : Brief l.text := by
  cases l <;> exact brief_ofList (by decide)

@[simp] theorem brief_cancellation (r : CancellationResult) : Brief r.text := by
  cases r <;> exact brief_ofList (by decide)

@[simp] theorem brief_outcome (o : VerificationOutcome) : Brief o.text := by
  cases o <;> exact brief_ofList (by decide)

@[simp] theorem brief_flag (b : Bool) : Brief (Explanation.flag b) := by
  cases b <;> exact brief_ofList (by decide)

theorem length_intentText_le (intent : MitigationIntent) : intent.text.length ≤ 64 := by
  cases intent <;> exact length_ofList_le (by decide)

theorem length_reasonText_le (code : ThermalReasonCode) : code.text.length ≤ 64 := by
  cases code <;> exact length_ofList_le (by decide)

@[simp] theorem brief_intent (intent : MitigationIntent) : Brief intent.text :=
  (length_intentText_le intent).trans (by decide)

/-- A value that may be absent. -/
theorem brief_getD {α : Type} {f : α → String} {none : String} (h : ∀ a, Brief (f a))
    (hnone : Brief none) (o : Option α) : Brief ((o.map f).getD none) := by
  cases o with
  | none => exact hnone
  | some a => exact h a

/-- Reasons without repetitions are listed in few characters. -/
theorem brief_reasons {reasons : ReasonCodeSet} (h : reasons.Nodup) : Brief reasons.render := by
  have hlength := ReasonCodeSet.length_le_of_nodup h
  have hcodes : ∀ list : ReasonCodeSet,
      (list.map fun code => 1 + code.text.length).sum ≤ list.length * 65 := fun list =>
    sum_map_le fun code _ => Nat.add_comm _ _ ▸ Nat.add_le_add_right (length_reasonText_le code) 1
  unfold Brief
  rw [length_render]
  unfold reasonsWidth
  split
  · decide
  · cases reasons with
    | nil => exact Nat.zero_le _
    | cons first rest =>
      have hfirst := length_reasonText_le first
      have hrest := hcodes rest
      rw [List.map_cons, joinWidth, List.map_map]
      rw [List.length_cons] at hlength
      have hsame : (fun n => 1 + n) ∘ (fun code : ThermalReasonCode => code.text.length) =
          fun code => 1 + code.text.length := rfl
      rw [hsame]
      omega

/-! ### Texts -/

/-- A line with a short value, in front of others. -/
theorem lines_cons {key : List Char} {value : String} {rest : List (String × String)}
    (hkey : key.length ≤ 64) (hvalue : Brief value)
    (hrest : ∀ line ∈ rest, line.1.length ≤ 64 ∧ Brief line.2) :
    ∀ line ∈ (String.ofList key, value) :: rest, line.1.length ≤ 64 ∧ Brief line.2 :=
  List.forall_mem_cons.mpr ⟨⟨length_ofList_le hkey, hvalue⟩, hrest⟩

theorem lines_nil : ∀ line ∈ ([] : List (String × String)), line.1.length ≤ 64 ∧ Brief line.2 :=
  fun _ h => by cases h

/-- A sheet of no more than twenty short lines. -/
theorem length_sheet_of_le {lines : List (String × String)} (hcount : lines.length ≤ 20)
    (h : ∀ line ∈ lines, line.1.length ≤ 64 ∧ Brief line.2) : (sheet lines).length ≤ 83260 :=
  (length_sheet_le h).trans (Nat.mul_le_mul_right 4163 hcount)

theorem length_renderSummary_le (s : GovernanceSnapshot) :
    s.renderSummary.length ≤ Wire.maxCollection := by
  unfold GovernanceSnapshot.renderSummary
  refine (length_sheet_of_le (by simp) ?_).trans (by decide)
  repeat refine lines_cons (by decide) (by simp) ?_
  exact lines_nil

theorem length_renderHeadroom_le (h : HeadroomBreakdown) :
    (renderHeadroom h).length ≤ Wire.maxCollection := by
  have hlimit : Brief ((h.vendorLimit.map printed).getD "<unsupported>") :=
    brief_getD brief_printed (brief_ofList (by decide)) _
  unfold renderHeadroom
  refine (length_sheet_of_le (by simp) ?_).trans (by decide)
  repeat refine lines_cons (by decide) (by simp [hlimit]) ?_
  exact lines_nil

theorem length_renderEvaluation_le {e : ThermalEvaluation} (h : Modest e) :
    (renderEvaluation e).length ≤ Wire.maxCollection := by
  unfold renderEvaluation
  refine (length_sheet_of_le (by simp) ?_).trans (by decide)
  repeat refine lines_cons (by decide) (by simp [brief_reasons h.reasons]) ?_
  exact lines_nil

theorem length_renderVerification_le {v : ActionVerification} (h : v.reasons.Nodup) :
    (renderVerification v).length ≤ Wire.maxCollection := by
  unfold renderVerification
  refine (length_sheet_of_le (by simp) ?_).trans (by decide)
  repeat refine lines_cons (by decide) (by simp [brief_reasons h]) ?_
  exact lines_nil

/-- Not more than twelve short items. -/
theorem length_itemized_of_le {key : List Char} {items : List String} (hkey : key.length ≤ 64)
    (hcount : items.length ≤ 12) (h : ∀ item ∈ items, Brief item) :
    (itemized (String.ofList key) items).length ≤ 49261 :=
  (length_itemized_le (length_ofList_le hkey) h).trans
    (Nat.add_le_add_left (Nat.mul_le_mul_right 4099 hcount) 73)

theorem brief_intentBullet {r : MitigationIntentRecord} (h : r.rationale.length ≤ 64) :
    Brief (Explanation.intentBullet r) := by
  have hintent := length_intentText_le r.intent
  have hdash : " - ".length = 3 := rfl
  unfold Explanation.intentBullet
  split
  · exact brief_intent _
  · unfold Brief
    rw [String.length_append, String.length_append]
    omega

theorem length_renderEnvelope_le {g : Governor} {definition : ThermalDomainDefinition}
    {e : ThermalEvaluation} (h : Modest e) :
    (renderEnvelope (g.makeEnvelope definition e)).length ≤ Wire.maxCollection := by
  generalize henvelope : g.makeEnvelope definition e = envelope
  have hprohibited : (itemized "ProhibitedIntents"
      (envelope.prohibitedIntents.map MitigationIntent.text)).length ≤ 49261 := by
    refine length_itemized_of_le (by decide) ?_ ?_
    · rw [List.length_map, ← henvelope]
      exact MitigationIntent.length_le_of_nodup h.prohibited
    · intro item hitem
      obtain ⟨intent, -, rfl⟩ := List.mem_map.mp hitem
      exact brief_intent intent
  have hrequired : (itemized "RequiredMitigation"
      (envelope.requiredMitigation.map fun record => record.intent.text)).length ≤ 49261 := by
    refine length_itemized_of_le (by decide) ?_ ?_
    · rw [List.length_map, ← henvelope]
      exact h.intents
    · intro item hitem
      obtain ⟨record, -, rfl⟩ := List.mem_map.mp hitem
      exact brief_intent record.intent
  have hreasons : Brief envelope.reasons.render := by
    rw [← henvelope]
    exact brief_reasons h.reasons
  have hlimit : Brief ((envelope.vendorTemperatureLimit.map printed).getD "<unsupported>") :=
    brief_getD brief_printed (brief_ofList (by decide)) _
  have hclock : Brief ((envelope.permittedClockCeiling.map decimal).getD "<unconstrained>") :=
    brief_getD brief_decimal (brief_ofList (by decide)) _
  unfold renderEnvelope
  rw [String.length_append, String.length_append, String.length_append]
  refine (Nat.add_le_add (Nat.add_le_add (Nat.add_le_add
    (length_sheet_of_le (by simp) ?_) hprohibited) hrequired)
    (length_sheet_of_le (by simp) ?_)).trans (by decide)
  · repeat refine lines_cons (by decide) (by simp [hlimit, hclock]) ?_
    exact lines_nil
  · repeat refine lines_cons (by decide) (by simp [hreasons]) ?_
    exact lines_nil

theorem length_renderAdmission_le {r : ThermalAdmissionResult} (hreasons : r.reasons.Nodup)
    (hcount : r.constraints.length ≤ 12) (hrationales : ShortRationales r.constraints) :
    (renderAdmission r).length ≤ Wire.maxCollection := by
  have hconstraints : (itemized "Constraints"
      (r.constraints.map Explanation.intentBullet)).length ≤ 49261 := by
    refine length_itemized_of_le (by decide) (by rwa [List.length_map]) ?_
    intro item hitem
    obtain ⟨record, hrecord, rfl⟩ := List.mem_map.mp hitem
    exact brief_intentBullet (hrationales record hrecord)
  have hclock : Brief ((r.permittedClockCeiling.map decimal).getD "<unconstrained>") :=
    brief_getD brief_decimal (brief_ofList (by decide)) _
  unfold renderAdmission
  rw [String.length_append, String.length_append]
  refine (Nat.add_le_add (Nat.add_le_add (length_sheet_of_le (by simp) ?_) hconstraints)
    (length_sheet_of_le (by simp) ?_)).trans (by decide)
  · repeat refine lines_cons (by decide) (by simp [hclock, brief_reasons hreasons]) ?_
    exact lines_nil
  · repeat refine lines_cons (by decide) (by simp) ?_
    exact lines_nil

/-- A character takes a byte or more. -/
theorem length_le_utf8Len (list : List Char) : list.length ≤ String.utf8Len list := by
  induction list with
  | nil => exact Nat.le_refl _
  | cons c list ih =>
    have hbyte := Char.utf8Size_pos c
    rw [String.utf8Len_cons, List.length_cons]
    omega

/-- An explanation is cut where the source bounds it. -/
theorem length_explanation_le (x : Explanation) : x.render.length ≤ Wire.maxCollection := by
  have hchars := length_le_utf8Len x.render.toList
  rw [← String.utf8ByteSize_ofList, String.ofList_toList, String.length_toList] at hchars
  exact (hchars.trans x.utf8ByteSize_render_le).trans (by decide)

end ThermalGovernor
