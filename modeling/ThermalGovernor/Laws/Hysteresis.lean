import ThermalGovernor.Ledger.Run

/-!
# Hysteresis over whole runs

A restricted domain is to come back to a healthy state through an allowed recovery
only.  Over the trace this is the law `Released` with an evaluation that restricts
the domain, a later one that finds it healthy, and one in between, the last one
included, whose recovery was allowed.

The only memory an evaluation has is the state stored before it, and the gate looks
at nothing else.  While a restriction is outstanding the stored state need not be a
restricted one: the evidence may have aged, the stored evaluations may have been
discarded by a load, or the restricting evaluation was never stored.
`released_iff_latchHeld` says that this is all that can go wrong.
-/

namespace ThermalGovernor

open Lib Ledger

variable {ok : Ledger → Event → Prop} {l l' : Ledger}

/-- The recovery assessment that an input is entitled to, from its own evidence. -/
def recoveryFor (input : EvaluationInput) : RecoveryAssessment :=
  match resolvedEvidence input with
  | some evidence =>
    evaluateRecovery (recoveryInputFor input (computeHeadroom (headroomInputFor input evidence)))
  | none => {}

theorem evaluateThermal_recovery (input : EvaluationInput) :
    (evaluateThermal input).recovery = recoveryFor input := by
  unfold recoveryFor
  rcases evaluateThermal_eq input with ⟨evidence, hres, heq⟩ | ⟨hres, _, hrecovery, _⟩
  · rw [heq, hres]
    rfl
  · rw [hres]
    exact hrecovery

namespace Event

/-- An evaluation of the domain with a property. -/
def EvaluatesTo (P : EvaluationInput → ThermalEvaluation → Bool) (domain : ThermalDomainId) :
    Event → Prop
  | evaluated input e => input.domain = domain ∧ P input e = true
  | _ => False

/-- The domain was found derated, throttling or critical. -/
def Restricts : ThermalDomainId → Event → Prop := EvaluatesTo fun _ e => e.state.isRestrictive

/-- The domain was found normal, warm or near its limit. -/
def FindsHealthy : ThermalDomainId → Event → Prop := EvaluatesTo fun _ e => e.state.isHealthy

/-- The evaluation allowed recovery. -/
def AllowsRecovery : ThermalDomainId → Event → Prop := EvaluatesTo fun _ e => e.recovery.allowed

instance decidableEvaluatesTo (P : EvaluationInput → ThermalEvaluation → Bool)
    (domain : ThermalDomainId) : DecidablePred (EvaluatesTo P domain)
  | evaluated input e => inferInstanceAs (Decidable (input.domain = domain ∧ P input e = true))
  | accepted _ | retired _ _ | revived _ _ | dispatched _ _ | restored _ | restarted _ =>
    inferInstanceAs (Decidable False)

instance (domain : ThermalDomainId) : DecidablePred (Restricts domain) :=
  decidableEvaluatesTo _ domain

instance (domain : ThermalDomainId) : DecidablePred (FindsHealthy domain) :=
  decidableEvaluatesTo _ domain

instance (domain : ThermalDomainId) : DecidablePred (AllowsRecovery domain) :=
  decidableEvaluatesTo _ domain

end Event

/-- Every evaluation of the trace has the state and recovery its input determines. -/
def Ledger.EvaluationsFaithful (l : Ledger) : Prop :=
  ∀ input e, .evaluated input e ∈ l.trace → EvaluationOf input e

theorem evaluationsFaithful_move (h : Move ok l l') (hl : l.EvaluationsFaithful) :
    l'.EvaluationsFaithful := by
  intro input e he
  cases h with
  | evaluate input' e' heval =>
    rcases List.mem_cons.mp he with heq | he
    · obtain ⟨rfl, rfl⟩ := Event.evaluated.inj heq
      exact heval
    · exact hl input e he
  | accept | retire | revive | dispatch | restore | restart =>
    rcases List.mem_cons.mp he with heq | he
    · cases heq
    · exact hl input e he
  | touch | enrol | settle | authorize => exact hl input e he

/-- An evaluation made while a restriction of the domain is outstanding goes through the
gate with its memory intact: when its evidence reaches the gate, the state stored before it
is a restricted one, or its own input is entitled to a recovery. -/
def LatchHeld (domain : ThermalDomainId) (trace : List Event) : Prop :=
  ∀ newer input e older, trace = newer ++ .evaluated input e :: older → input.domain = domain →
    Pending (Event.Restricts domain) (Event.AllowsRecovery domain) older →
    reachesGate input = true →
    input.previousState.isRestrictive = true ∨ (recoveryFor input).allowed = true

namespace Governor

variable {g : Governor}

theorem evaluationsFaithful_of_reachable (h : g.Reachable) : g.ledger.EvaluationsFaithful := by
  obtain ⟨config, now, hrun⟩ := h
  exact invariant_of_runs hrun (fun _ _ => evaluationsFaithful_move) fun _ _ he => (by cases he)

/-- **A restriction is released by an allowed recovery only, exactly when no evaluation made
under it reaches the gate with neither a restricted state stored nor a recovery of its own.** -/
theorem released_iff_latchHeld (h : g.Reachable) (domain : ThermalDomainId) :
    Released (Event.Restricts domain) (Event.FindsHealthy domain) (Event.AllowsRecovery domain)
      g.trace ↔ LatchHeld domain g.trace := by
  have hfaithful := evaluationsFaithful_of_reachable h
  have hgate : ∀ newer input e older, g.trace = newer ++ .evaluated input e :: older →
      (e.state.isHealthy = true ↔ reachesGate input = true ∧
        (input.previousState.isRestrictive = true → e.recovery.allowed = true)) ∧
      e.recovery = recoveryFor input := by
    intro newer input e older htrace
    have heval : EvaluationOf input e := hfaithful input e (by
      show Event.evaluated input e ∈ g.trace
      rw [htrace]
      simp)
    rw [heval.state, heval.recovery]
    exact ⟨isHealthy_evaluateThermal input, evaluateThermal_recovery input⟩
  rw [released_iff]
  constructor
  · intro hlaw newer input e older htrace hdomain hpending hreaches
    obtain ⟨hhealthy, hrecovery⟩ := hgate newer input e older htrace
    by_cases hprevious : input.previousState.isRestrictive = true
    · exact .inl hprevious
    · have hfound : e.state.isHealthy = true :=
        hhealthy.mpr ⟨hreaches, fun hp => absurd hp hprevious⟩
      have hallowed := hlaw newer _ older htrace ⟨hdomain, hfound⟩ hpending
      exact .inr (by rw [← hrecovery]; exact hallowed.2)
  · intro hlatch newer event older htrace hfinds hpending
    cases event with
    | evaluated input e =>
      obtain ⟨hdomain, hfound⟩ := hfinds
      obtain ⟨hhealthy, hrecovery⟩ := hgate newer input e older htrace
      obtain ⟨hreaches, hrestricted⟩ := hhealthy.mp hfound
      refine ⟨hdomain, ?_⟩
      rcases hlatch newer input e older htrace hdomain hpending hreaches with hprevious | hown
      · exact hrestricted hprevious
      · show e.recovery.allowed = true
        rw [hrecovery]
        exact hown
    | accepted | retired | revived | dispatched | restored | restarted => exact absurd hfinds id

section Deployment

open Deployment

/-- A hot reading, and a cool one after it. -/
def hotThenCool : Governor :=
  after [.publishTemperature (reading 82 1 0), .publishTemperature (reading 50 2 10)]

/-- One cool reading after a hot one releases nothing, and the latch is held. -/
theorem latchHeld_hotThenCool : LatchHeld 1 hotThenCool.trace :=
  (released_iff_latchHeld (reachable_after _) 1).mp (by decide +kernel)

/-- A hot reading that grows old, is found stale, and is followed by a cool one. -/
def hotStaleCool : Governor :=
  after
    [.publishTemperature (reading 82 1 0), .tick 100000000000, .evaluateDomain 1,
      .publishTemperature (reading 50 2 100000000000)]

/-- After the evidence went stale one cool reading releases the restriction. -/
theorem not_released_hotStaleCool :
    ¬ ∀ (g : Governor) (domain : ThermalDomainId), g.Reachable →
      Released (Event.Restricts domain) (Event.FindsHealthy domain)
        (Event.AllowsRecovery domain) g.trace := by
  intro h
  have hlaw := h hotStaleCool 1 (reachable_after _)
  have hbroken : ¬ Released (Event.Restricts 1) (Event.FindsHealthy 1)
      (Event.AllowsRecovery 1) hotStaleCool.trace := by decide +kernel
  exact hbroken hlaw

end Deployment

end Governor

end ThermalGovernor
