import ThermalGovernor.Server.Workers

/-!
# What a worker is told of its records

`publication_tells` : the answer to a publication tells whether the record was taken, and the
most restrictive of the domains that it concerns.  Other sessions change the domains while the
session goes through them, so each was as it was told at a moment of its own.

`welcomed_never_stale` : a record with the epoch that a worker was told is not refused for its
epoch, as long as the process runs.
-/

namespace ThermalGovernor

open Lib Steps Protocol Governor

namespace Server

variable {service : Service} {start g g' ended : Governor} {p : Process} {frame : Frame}
  {body : List Frame}

/-! ### Summaries -/

/-- The domain is evaluated at some moment between, with this result. -/
def Evaluated (g : Governor) (domain : ThermalDomainId) (P : Result ThermalEvaluation → Prop)
    (g' : Governor) : Prop :=
  ∃ middle, Served g middle ∧ P (middle.evaluateDomain domain).2 ∧
    Served (middle.evaluateDomain domain).1 g'

theorem Evaluated.between {domain : ThermalDomainId} {P : Result ThermalEvaluation → Prop}
    (h : Evaluated g domain P g') (hbefore : Served start g) (hafter : Served g' ended) :
    Evaluated start domain P ended := by
  obtain ⟨middle, hmiddle, hresult, hlast⟩ := h
  exact ⟨middle, hbefore.trans hmiddle, hresult, hlast.trans hafter⟩

/-- The summary is one of the domains', and none of them was evaluated as more restrictive. -/
structure Worst (g : Governor) (domains : List ThermalDomainId) (summary : EvaluationSummary)
    (g' : Governor) : Prop where
  told : ∃ domain ∈ domains,
    Evaluated g domain (fun r => ∃ evaluation, r = .ok evaluation ∧
      summary = Wire.summarise evaluation) g'
  worst : ∀ domain ∈ domains,
    Evaluated g domain (fun r => ∀ evaluation, r = .ok evaluation →
      evaluation.state.severity ≤ summary.state.severity) g'

theorem Worst.between {domains : List ThermalDomainId} {summary : EvaluationSummary}
    (h : Worst g domains summary g') (hbefore : Served start g) (hafter : Served g' ended) :
    Worst start domains summary ended := by
  obtain ⟨domain, hdomain, hevaluated⟩ := h.told
  exact ⟨⟨domain, hdomain, hevaluated.between hbefore hafter⟩, fun domain hdomain =>
    (h.worst domain hdomain).between hbefore hafter⟩

theorem worse_spec (summary : EvaluationSummary) (candidate : ThermalEvaluation) :
    summary.state.severity ≤ (worse summary candidate).state.severity ∧
      candidate.state.severity ≤ (worse summary candidate).state.severity ∧
      (worse summary candidate = summary ∨
        worse summary candidate = Wire.summarise candidate) := by
  unfold worse
  split
  · rename_i hlt
    exact ⟨hlt.le, le_refl _, .inr rfl⟩
  · rename_i hnot
    exact ⟨le_refl _, Nat.le_of_not_lt hnot, .inl rfl⟩

/-- **The loop over the domains keeps the most restrictive**, whatever comes between. -/
theorem outcome_worstOf {domains : List ThermalDomainId} {summary worst : EvaluationSummary}
    (h : Outcome Served (worstOf domains summary) g g' worst) :
    summary.state.severity ≤ worst.state.severity ∧
      (worst = summary ∨ ∃ domain ∈ domains,
        Evaluated g domain (fun r => ∃ evaluation, r = .ok evaluation ∧
          worst = Wire.summarise evaluation) g') ∧
      ∀ domain ∈ domains,
        Evaluated g domain (fun r => ∀ evaluation, r = .ok evaluation →
          evaluation.state.severity ≤ worst.state.severity) g' := by
  induction domains generalizing g summary with
  | nil =>
    obtain ⟨-, rfl⟩ := outcome_done_iff.mp h
    exact ⟨le_refl _, .inl rfl, fun _ hdomain => by cases hdomain⟩
  | cons domain rest ih =>
    obtain ⟨after, outcome, hfirst, hrest⟩ := outcome_bind_iff.mp h
    obtain ⟨middle, hbefore, hafter, houtcome⟩ := outcome_atomic_iff.mp hfirst
    have hlater : Served g after :=
      hbefore.trans ((middle.served_apply (.evaluateDomain domain) trivial).trans hafter)
    cases outcome with
    | error e =>
      obtain ⟨hle, hfrom, hall⟩ := ih hrest
      have hend : Served after g' := (within_worstOf rest summary).rel hrest
      refine ⟨hle, hfrom.imp_right ?_, ?_⟩
      · rintro ⟨other, hother, hevaluated⟩
        exact ⟨other, List.mem_cons_of_mem _ hother, hevaluated.between hlater .refl⟩
      · intro other hother
        rcases List.mem_cons.mp hother with rfl | hother
        · refine ⟨middle, hbefore, fun evaluation hok => ?_, hafter.trans hend⟩
          rw [houtcome] at hok
          cases hok
        · exact (hall other hother).between hlater .refl
    | ok candidate =>
      obtain ⟨hle, hfrom, hall⟩ := ih hrest
      obtain ⟨hsummary, hcandidate, hone⟩ := worse_spec summary candidate
      have hend : Served after g' := (within_worstOf rest _).rel hrest
      refine ⟨hsummary.trans hle, ?_, ?_⟩
      · rcases hfrom with hsame | ⟨other, hother, hevaluated⟩
        · rcases hone with hone | hone
          · exact .inl (hsame.trans hone)
          · exact .inr ⟨domain, List.mem_cons_self, middle, hbefore,
              ⟨candidate, houtcome, hsame.trans hone⟩, hafter.trans hend⟩
        · exact .inr ⟨other, List.mem_cons_of_mem _ hother, hevaluated.between hlater .refl⟩
      · intro other hother
        rcases List.mem_cons.mp hother with rfl | hother
        · refine ⟨middle, hbefore, fun evaluation hok => ?_, hafter.trans hend⟩
          obtain rfl := Except.ok.inj (houtcome.symm.trans hok)
          exact hcandidate.trans hle
        · exact (hall other hother).between hlater .refl

/-- There is no domain to tell of, or the first of them was refused. -/
def Silent (g : Governor) (domains : List ThermalDomainId) (g' : Governor) : Prop :=
  domains = [] ∨ ∃ front rest, domains = front :: rest ∧
    Evaluated g front (fun r => ∃ e, r = .error e) g'

theorem Silent.between {domains : List ThermalDomainId} (h : Silent g domains g')
    (hbefore : Served start g) (hafter : Served g' ended) : Silent start domains ended := by
  refine h.imp_right ?_
  rintro ⟨front, rest, hdomains, hevaluated⟩
  exact ⟨front, rest, hdomains, hevaluated.between hbefore hafter⟩

theorem outcome_summaryOf {domains : List ThermalDomainId} {summary : Option EvaluationSummary}
    (h : Outcome Served (summaryOf domains) g g' summary) :
    summary = none ∧ Silent g domains g' ∨
      ∃ worst, summary = some worst ∧ Worst g domains worst g' := by
  cases domains with
  | nil =>
    obtain ⟨-, rfl⟩ := outcome_done_iff.mp h
    exact .inl ⟨rfl, .inl rfl⟩
  | cons front rest =>
    obtain ⟨after, outcome, hfirst, hrest⟩ := outcome_bind_iff.mp h
    obtain ⟨middle, hbefore, hafter, houtcome⟩ := outcome_atomic_iff.mp hfirst
    cases outcome with
    | error e =>
      obtain ⟨hmove, rfl⟩ := outcome_done_iff.mp hrest
      exact .inl ⟨rfl, .inr ⟨front, rest, rfl, middle, hbefore, ⟨e, houtcome⟩,
        hafter.trans hmove⟩⟩
    | ok evaluation =>
      obtain ⟨worst, hworst, rfl⟩ := outcome_map_iff.mp hrest
      obtain ⟨-, hfrom, hall⟩ := outcome_worstOf hworst
      have hend : Served after g' := (within_worstOf _ _).rel hworst
      have hlater : Served g after :=
        hbefore.trans ((middle.served_apply (.evaluateDomain front) trivial).trans hafter)
      refine .inr ⟨worst, rfl, ?_, fun domain hdomain => (hall domain hdomain).between hlater .refl⟩
      rcases hfrom with hsame | ⟨domain, hdomain, hevaluated⟩
      · exact ⟨front, List.mem_cons_self, middle, hbefore, ⟨evaluation, houtcome, hsame⟩,
          hafter.trans hend⟩
      · exact ⟨domain, hdomain, hevaluated.between hlater .refl⟩

/-- **What is told of a publication.** -/
theorem outcome_publish {session : CoordinatorSession} {payload : Bytes}
    {evidence : ThermalEvidence Double}
    {answer : CommandResponse × Option EvaluationSummary}
    (hdecode : Wire.decodeEvidence payload = .ok evidence)
    (h : Outcome Served (publish session payload) g g' answer) :
    ∃ middle, Served g middle ∧
      ((∃ e, (middle.publishTemperature (session.host.inNumbers evidence)).2 = .error e ∧
          answer = (.fail e, none)) ∨
        ∃ receipt after, middle.publishTemperature (session.host.inNumbers evidence) =
            (after, .ok receipt) ∧
          ((answer = (.ok "accepted=1", none) ∧ Silent after receipt.affectedDomains g') ∨
            ∃ worst, answer = (.ok "accepted=1", some worst) ∧
              Worst after receipt.affectedDomains worst g')) := by
  unfold publish at h
  rw [hdecode] at h
  obtain ⟨after, outcome, hfirst, hrest⟩ := outcome_bind_iff.mp h
  obtain ⟨middle, hmiddle, hafter, hpublished⟩ := outcome_atomic_iff.mp hfirst
  refine ⟨middle, hmiddle, ?_⟩
  cases outcome with
  | error e =>
    obtain ⟨-, rfl⟩ := outcome_done_iff.mp hrest
    exact .inl ⟨e, hpublished, rfl⟩
  | ok receipt =>
    obtain ⟨told, summary, hsummary, hlast⟩ := outcome_bind_iff.mp hrest
    obtain ⟨hmove, rfl⟩ := outcome_done_iff.mp hlast
    refine .inr ⟨receipt, _, Prod.ext rfl hpublished, ?_⟩
    rcases outcome_summaryOf hsummary with ⟨rfl, hsilent⟩ | ⟨worst, rfl, hworst⟩
    · exact .inl ⟨rfl, hsilent.between hafter hmove⟩
    · exact .inr ⟨worst, rfl, hworst.between hafter hmove⟩

theorem outcome_of_reads_publication
    (hrun : Process.Runs service (.start start) p) (h : Reads p frame body)
    (hkind : frame.kind = .publishEvidence) :
    ∃ begun ended answer, Served start begun ∧
      Outcome Served (publish service.session frame.payload) begun ended answer ∧
      Served ended p.governor ∧
      ∃ next, acknowledging service.outNumbers answer = group body next := by
  obtain ⟨begun, ended, next, hbegun, houtcome, hended⟩ := outcome_of_reads hrun h
  unfold serve at houtcome
  rw [hkind] at houtcome
  obtain ⟨answer, hanswer, hgroup⟩ := outcome_map_iff.mp houtcome
  exact ⟨begun, ended, answer, hbegun, hanswer, hended, next, hgroup⟩

/-- The code of a check that can fail. -/
theorem code_of_runChecks {checks : List Check} {code : ThermalErrorCode} {refusal : ThermalError}
    (hchecks : ∀ check ∈ checks, check.holds = true ∨ check.code ≠ code)
    (h : runChecks checks = .error refusal) : refusal.code ≠ code := by
  obtain ⟨check, hcheck, hfails, rfl⟩ := runChecks_eq_error h
  rcases hchecks check hcheck with hholds | hcode
  · rw [hfails] at hholds
    cases hholds
  · exact hcode

theorem code_evidenceChecks (e : ThermalEvidence) :
    ∀ check ∈ evidenceChecks e, check.holds = true ∨ check.code ≠ .staleEpoch := by
  simp [evidenceChecks]

theorem code_publishChecks {e : ThermalEvidence} (hepoch : e.coordinatorEpoch = g.epoch) :
    ∀ check ∈ g.publishChecks e, check.holds = true ∨ check.code ≠ .staleEpoch := by
  have hworker : ∀ check ∈ g.workerChecks e, check.code ≠ .staleEpoch := by
    unfold workerChecks
    split
    · simp
    · split <;> simp
  have hdevice : ∀ check ∈ g.deviceGenerationChecks e, check.code ≠ .staleEpoch := by
    unfold deviceGenerationChecks
    split
    · simp
    · split <;> simp
  have hdomain : ∀ check ∈ g.domainGenerationChecks e, check.code ≠ .staleEpoch := by
    unfold domainGenerationChecks
    split
    · simp
    · split <;> simp
  intro check hcheck
  simp only [publishChecks, List.mem_append, List.mem_cons, List.not_mem_nil, or_false] at hcheck
  rcases hcheck with (((rfl | rfl) | hcheck) | hcheck) | hcheck
  · exact .inr fun hcode => by cases hcode
  · exact .inl (beq_iff_eq.mpr hepoch)
  · exact .inr (hworker check hcheck)
  · exact .inr (hdevice check hcheck)
  · exact .inr (hdomain check hcheck)

theorem code_sequenceVerdict {held : Option ThermalEvidence} {e : ThermalEvidence}
    {refusal : ThermalError} (h : sequenceVerdict held e = .refused refusal) :
    refusal.code ≠ .staleEpoch := by
  cases held with
  | none => cases h
  | some held =>
    simp only [sequenceVerdict] at h
    split at h
    · cases h
    · split at h
      · cases h
      · cases h
        decide
      · cases h
        decide
      · split at h
        · cases h
          decide
        · cases h

/-- **A record of the current epoch is not refused for its epoch.** -/
theorem publishTemperature_of_epoch {e : ThermalEvidence} {refusal : ThermalError}
    (hepoch : e.coordinatorEpoch = g.epoch) (h : (g.publishTemperature e).2 = .error refusal) :
    refusal.code ≠ .staleEpoch := by
  change (g.publishImpl e).2 = .error refusal at h
  unfold publishImpl at h
  cases hstructure : validateEvidenceStructure e with
  | error err =>
    rw [hstructure] at h
    obtain rfl := Except.error.inj h
    exact code_of_runChecks (code_evidenceChecks e) hstructure
  | ok _ =>
    rw [hstructure] at h
    dsimp only at h
    cases hchecks : runChecks (g.publishChecks e) with
    | error err =>
      rw [hchecks] at h
      obtain rfl := Except.error.inj h
      exact code_of_runChecks (code_publishChecks hepoch) hchecks
    | ok _ =>
      rw [hchecks] at h
      dsimp only at h
      cases hsequence : sequenceVerdict (g.evidence.lookup e.subject.key) e with
      | refused err =>
        rw [hsequence] at h
        obtain rfl := Except.error.inj h
        exact code_sequenceVerdict hsequence
      | duplicate held =>
        rw [hsequence] at h
        cases h
      | commit =>
        rw [hsequence] at h
        cases h

theorem value_eq_staleEpoch {code : ThermalErrorCode}
    (h : code.value = ThermalErrorCode.staleEpoch.value) : code = .staleEpoch := by
  revert h
  cases code <;> decide

/-- The frame is a publication of a record with the epoch. -/
def Publishes (service : Service) (epoch : CoordinatorEpoch) (frame : Frame) : Prop :=
  frame.kind = .publishEvidence ∧ ∃ evidence,
    Wire.decodeEvidence frame.payload = .ok evidence ∧
      (service.session.host.inNumbers evidence).coordinatorEpoch = epoch

/-- **A record with the epoch that a worker was told is not refused for its epoch**, whoever
publishes it, as long as the process runs. -/
theorem welcomed_never_stale {registration : WorkerRegistration}
    (hrun : Process.Runs service (.start start) p) (h : Reads p frame body)
    (hkind : frame.kind = .hello)
    (hdecode : Wire.decodeWorkerRegistration {} frame.payload = .ok registration) :
    ∃ status epoch, body = welcomed status epoch ∧
      ∀ frame' body', Publishes service epoch frame' → Reads p frame' body' →
        ∃ response rest, body' = acknowledged response :: rest ∧
          response.status.code ≠ ThermalErrorCode.staleEpoch.value := by
  obtain ⟨begun, ended, response, hbegun, houtcome, -, rfl⟩ :=
    outcome_of_reads_hello hrun h hkind
  obtain ⟨status, rfl, -⟩ := outcome_hello hdecode houtcome
  refine ⟨status, begun.epoch, rfl, ?_⟩
  rintro frame' body' ⟨hkind', evidence, hevidence, hepoch⟩ hreads
  obtain ⟨begun', ended', answer, hbegun', houtcome', -, next, hgroup⟩ :=
    outcome_of_reads_publication hrun hreads hkind'
  obtain ⟨g, hg, htold⟩ := outcome_publish hevidence houtcome'
  rcases htold with ⟨e, herror, rfl⟩ | ⟨receipt, after, -, ⟨rfl, -⟩ | ⟨worst, rfl, -⟩⟩
  · refine ⟨.fail e, [], (body_of_group hgroup).symm, fun hcode => ?_⟩
    refine publishTemperature_of_epoch ?_ herror (value_eq_staleEpoch hcode)
    rw [hepoch, epoch_of_served hbegun, epoch_of_served (hbegun'.trans hg)]
  · exact ⟨.ok "accepted=1", [], (body_of_group hgroup).symm, fun hcode => by cases hcode⟩
  · exact ⟨.ok "accepted=1", _, (body_of_group hgroup).symm, fun hcode => by cases hcode⟩

/-- The epoch that the worker was told is the one of its record. -/
theorem welcomed_never_stale_worker :
    ∃ status epoch, welcomed (.ok ()) 1 = welcomed status epoch ∧
      ∀ frame' body', Publishes quietService epoch frame' → Reads aProcess frame' body' →
        ∃ response rest, body' = acknowledged response :: rest ∧
          response.status.code ≠ ThermalErrorCode.staleEpoch.value :=
  welcomed_never_stale reads_aProcess.1 reads_aProcess.2.1 rfl decode_aRegistration

end Server

end ThermalGovernor
