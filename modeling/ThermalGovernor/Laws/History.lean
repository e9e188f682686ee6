import Mathlib.Data.List.Chain
import Mathlib.Data.List.Range
import ThermalGovernor.Ledger.Effects
import ThermalGovernor.Lib.Journal

/-!
# The transition history

An evaluation is stored every time it is made; a record of it is appended only when the
state, the derating or the decision is not that of the evaluation stored before.  The history
keeps the last of these records.  All that were ever made are the journal, of which the
history is what is left (`Journalled`), and the journal is a chain per domain: each record
starts where the one before it ended (`Continues`), and the last ends where the stored
evaluation stands.

The first record of a domain has nothing before it.  It is made even when the first
evaluation finds nothing out (`first_record_unchanged`).
-/

namespace ThermalGovernor

open Lib

namespace Governor

/-- What a record and an evaluation are compared by. -/
abbrev Standpoint := ThermalState × DeratingLevel × ThermalDecision

/-- What an evaluation came to. -/
def outcomeOf (e : ThermalEvaluation) : Standpoint := (e.state, e.derating, e.decision)

/-- What a record ends in. -/
def endOf (r : StateTransitionRecord) : Standpoint := (r.target, r.deratingTo, r.decision)

/-- A record starts where the one before it ended and ends elsewhere. -/
structure Continues (previous : Option StateTransitionRecord) (r : StateTransitionRecord) :
    Prop where
  source : r.source = (previous.map StateTransitionRecord.target).getD .unknown
  deratingFrom : r.deratingFrom = (previous.map StateTransitionRecord.deratingTo).getD .unknown
  changes : ∀ p ∈ previous, endOf p ≠ endOf r

/-- The journal of the transitions of a state. -/
structure Journalled (g : Governor) (log : List StateTransitionRecord) : Prop where
  retained : g.history = latest g.config.maxHistoryRecords log
  numbered : log.map StateTransitionRecord.sequence =
    (List.range log.length).map fun i => (i + 1) % wordSize
  sequence : g.sequence = log.length % wordSize
  follows : Follows StateTransitionRecord.domain Continues log
  ends : ∀ domain, (newest StateTransitionRecord.domain domain log).map endOf =
    (g.evaluations.lookup domain).map outcomeOf

variable {g g' : Governor} {log : List StateTransitionRecord} {op : Operation}

/-! ### One record -/

/-- The record that an evaluation leaves. -/
def transitionTo (g : Governor) (domain : ThermalDomainId)
    (generation : ThermalDomainGeneration) (e : ThermalEvaluation) : StateTransitionRecord :=
  let previous := g.evaluations.lookup domain
  { domain := domain
    domainGeneration := generation
    source := (previous.map ThermalEvaluation.state).getD .unknown
    target := e.state
    deratingFrom := (previous.map ThermalEvaluation.derating).getD .unknown
    deratingTo := e.derating
    decision := e.decision
    temperature := e.headroom.currentTemperature
    policyGeneration := g.policyGeneration
    telemetryGeneration := e.telemetryGeneration
    coordinatorEpoch := g.epoch
    sequence := advance g.sequence }

/-- An evaluation like the one stored replaces it; any other is recorded as well. -/
theorem recordTransition_eq (g : Governor) (domain : ThermalDomainId)
    (generation : ThermalDomainGeneration) (e : ThermalEvaluation) :
    g.recordTransition domain generation e =
      if (g.evaluations.lookup domain).map outcomeOf = some (outcomeOf e) then
        { g with evaluations := g.evaluations.insert domain e }
      else
        { g with
          evaluations := g.evaluations.insert domain e
          sequence := advance g.sequence
          history := trimHistory g.history g.config.maxHistoryRecords ++
            [g.transitionTo domain generation e] } := by
  have hunchanged : ((g.evaluations.lookup domain).any fun p =>
      p.state = e.state && p.derating = e.derating && p.decision = e.decision) = true ↔
      (g.evaluations.lookup domain).map outcomeOf = some (outcomeOf e) := by
    cases g.evaluations.lookup domain <;> simp [outcomeOf, and_assoc]
  unfold recordTransition
  exact if_congr hunchanged rfl rfl

/-- The record starts where the newest of its domain ended, and it is made only if it ends
elsewhere. -/
theorem continues_transitionTo (h : Journalled g log) {domain : ThermalDomainId}
    {generation : ThermalDomainGeneration} {e : ThermalEvaluation}
    (hchanged : (g.evaluations.lookup domain).map outcomeOf ≠ some (outcomeOf e)) :
    Continues (newest StateTransitionRecord.domain domain log)
      (g.transitionTo domain generation e) := by
  have hends := h.ends domain
  cases hnewest : newest StateTransitionRecord.domain domain log with
  | none =>
    rw [hnewest, Option.map_none, eq_comm, Option.map_eq_none_iff] at hends
    exact ⟨by rw [transitionTo, hends]; rfl, by rw [transitionTo, hends]; rfl, by simp⟩
  | some p =>
    cases hstored : g.evaluations.lookup domain with
    | none => rw [hnewest, hstored] at hends; cases hends
    | some held =>
      rw [hnewest, hstored] at hends
      rw [hstored] at hchanged
      have hsame : endOf p = outcomeOf held := Option.some.inj hends
      have htarget : p.target = held.state := congrArg Prod.fst hsame
      have hderating : p.deratingTo = held.derating := congrArg (fun s => s.2.1) hsame
      refine ⟨?_, ?_, fun q hq heq => hchanged ?_⟩
      · rw [transitionTo, hstored]
        exact htarget.symm
      · rw [transitionTo, hstored]
        exact hderating.symm
      · obtain rfl := Option.some.inj hq
        rw [Option.map_some, ← hsame, heq]
        rfl

/-- **Storing an evaluation keeps a journal.** -/
theorem journalled_recordTransition (h : Journalled g log) (hmax : 1 ≤ g.config.maxHistoryRecords)
    (domain : ThermalDomainId) (generation : ThermalDomainGeneration) (e : ThermalEvaluation) :
    ∃ log', Journalled (g.recordTransition domain generation e) log' := by
  rw [recordTransition_eq]
  split
  · -- The evaluation replaces one like it, and the newest record ends as before.
    rename_i hunchanged
    refine ⟨log, h.retained, h.numbered, h.sequence, h.follows, fun other => ?_⟩
    dsimp only
    rw [h.ends other, Table.lookup_insert_eq_ite]
    split
    · rename_i heq
      rw [heq, hunchanged]
      rfl
    · rfl
  · rename_i hchanged
    have hlaw : Continues (newest StateTransitionRecord.domain domain log)
        (g.transitionTo domain generation e) := continues_transitionTo h hchanged
    refine ⟨log ++ [g.transitionTo domain generation e], ?_, ?_, ?_, ?_, fun other => ?_⟩
    · dsimp only
      rw [latest_concat hmax, ← h.retained]
      rfl
    · have hnumber : (g.transitionTo domain generation e).sequence =
          (log.length + 1) % wordSize := by
        rw [transitionTo, advance, h.sequence, Nat.mod_add_mod]
      rw [List.map_append, h.numbered, List.length_append, List.length_singleton,
        List.range_succ, List.map_append, List.map_singleton, List.map_singleton, hnumber]
    · dsimp only
      rw [advance, h.sequence, Nat.mod_add_mod, List.length_append, List.length_singleton]
    · exact follows_concat h.follows hlaw
    · dsimp only
      have hdomain : (g.transitionTo domain generation e).domain = domain := rfl
      rw [newest_concat, Table.lookup_insert_eq_ite, hdomain]
      by_cases hother : domain = other
      · rw [if_pos hother, if_pos hother.symm]
        rfl
      · rw [if_neg hother, if_neg (Ne.symm hother), h.ends other]

/-- **An effect keeps a journal.** -/
theorem journalled_effect (heffect : Effect op g g') (hmax : 1 ≤ g.config.maxHistoryRecords)
    (h : Journalled g log) : ∃ log', Journalled g' log' := by
  cases heffect with
  | keep _ hkept =>
    refine ⟨log, ?_, h.numbered, ?_, h.follows, fun domain => ?_⟩
    · rw [hkept.history, hkept.config]
      exact h.retained
    · rw [hkept.sequence]
      exact h.sequence
    · rw [hkept.evaluations]
      exact h.ends domain
  | record domain generation e => exact journalled_recordTransition h hmax domain generation e
  | storeDomain | putPolicy | accept | authorize | revoke =>
    exact ⟨log, h.retained, h.numbered, h.sequence, h.follows, h.ends⟩

theorem journalled_create (config : GovernorConfig) (now : SteadyTimePoint) :
    Journalled (create config now) [] := by
  refine ⟨?_, rfl, rfl, follows_nil, fun domain => ?_⟩
  · rw [latest_nil]
    rfl
  · rfl

/-- **Every run without a load has a journal.** -/
theorem exists_journal {config : GovernorConfig} {now : SteadyTimePoint}
    (hmax : 1 ≤ config.maxHistoryRecords)
    (hrun : RunsUnder (fun _ op => op.isLoad = false) (create config now) g) :
    g.config = config ∧ ∃ log, Journalled g log := by
  refine RunUnder.invariant (I := fun g => g.config = config ∧ ∃ log, Journalled g log) hrun
    ⟨rfl, [], journalled_create config now⟩ fun g op hg hload => ?_
  refine (g.apply_effects op hload).invariant
    (I := fun g => g.config = config ∧ ∃ log, Journalled g log) (fun g g' heffect hg => ?_) hg
  obtain ⟨hconfig, log, hlog⟩ := hg
  refine ⟨heffect.fixed.1.trans hconfig, journalled_effect heffect ?_ hlog⟩
  rwa [hconfig]

/-! ### What the history shows -/

/-- The records of the journal are numbered one after the other. -/
theorem Journalled.isChain (h : Journalled g log) :
    log.IsChain fun r r' => r'.sequence = advance r.sequence := by
  have hnumbers : ((List.range log.length).map fun i => (i + 1) % wordSize).IsChain
      fun n n' => n' = advance n := by
    rw [List.isChain_map, List.isChain_range]
    intro i _
    rw [advance, Nat.mod_add_mod]
  rwa [← h.numbered, List.isChain_map] at hnumbers

/-- The numbers increase where the counter has not started again. -/
theorem Journalled.increasing (h : Journalled g log) (hwrap : ∀ r ∈ g.history, r.sequence ≠ 0) :
    g.history.Pairwise fun r r' => r.sequence < r'.sequence := by
  have hretained : g.history <:+ log := h.retained ▸ latest_suffix _ _
  rw [← List.pairwise_map (R := (· < ·)), ← List.isChain_iff_pairwise, List.isChain_map]
  refine (h.isChain.suffix hretained).imp_of_mem_imp fun r r' hr hr' hnext => ?_
  have hsmall : r.sequence < wordSize := by
    have hmem : r.sequence ∈ log.map StateTransitionRecord.sequence :=
      List.mem_map_of_mem (hretained.subset hr)
    rw [h.numbered, List.mem_map] at hmem
    obtain ⟨i, -, hi⟩ := hmem
    rw [← hi]
    exact Nat.mod_lt _ (by decide)
  have hnonzero : advance r.sequence ≠ 0 := hnext ▸ hwrap r' hr'
  have hadvance : advance r.sequence = r.sequence + 1 := by
    refine advance_of_lt ?_
    by_contra hlast
    have hequal : r.sequence + 1 = wordSize := by omega
    exact hnonzero (by rw [advance, hequal, Nat.mod_self])
  rw [hnext, hadvance]
  exact Nat.lt_succ_self _

/-- Two neighbours of a domain in the history meet. -/
theorem Journalled.meets (h : Journalled g log) {older mid newer : List StateTransitionRecord}
    {r r' : StateTransitionRecord} (hsplit : g.history = older ++ r :: (mid ++ r' :: newer))
    (hdomain : r'.domain = r.domain) (hmid : ∀ x ∈ mid, x.domain ≠ r.domain) :
    r'.source = r.target ∧ r'.deratingFrom = r.deratingTo := by
  have hretained : latest g.config.maxHistoryRecords log <:+ log := latest_suffix _ _
  rw [← h.retained] at hretained
  have hlaw : Continues (some r) r' := h.follows.of_suffix hretained hsplit hdomain hmid
  exact ⟨hlaw.source, hlaw.deratingFrom⟩

/-- The newest record of a domain in the history ends where the stored evaluation stands. -/
theorem Journalled.stands (h : Journalled g log) {older newer : List StateTransitionRecord}
    {r : StateTransitionRecord} (hsplit : g.history = older ++ r :: newer)
    (hnewer : ∀ x ∈ newer, x.domain ≠ r.domain) :
    ∃ e, g.evaluations.lookup r.domain = some e ∧ e.state = r.target ∧
      e.derating = r.deratingTo := by
  have hretained : latest g.config.maxHistoryRecords log <:+ log := latest_suffix _ _
  rw [← h.retained] at hretained
  have hends := h.ends r.domain
  rw [newest_of_suffix hretained hsplit hnewer, Option.map_some, eq_comm,
    Option.map_eq_some_iff] at hends
  obtain ⟨e, hstored, hsame⟩ := hends
  exact ⟨e, hstored, congrArg Prod.fst hsame, congrArg (fun s => s.2.1) hsame⟩

/-- **The history is the end of a faithful chain.**  It is bounded; its numbers are the
values of the counter in their order, and increase unless the counter has started again;
neighbours of one domain meet; every record of the journal but the first of its domain
changes something; and the newest of a domain ends where the domain stands. -/
theorem history_chain {config : GovernorConfig} {now : SteadyTimePoint}
    (hmax : 1 ≤ config.maxHistoryRecords)
    (hrun : RunsUnder (fun _ op => op.isLoad = false) (create config now) g) :
    g.history.length ≤ config.maxHistoryRecords ∧
      (g.history.IsChain fun r r' => r'.sequence = advance r.sequence) ∧
      ((∀ r ∈ g.history, r.sequence ≠ 0) →
        g.history.Pairwise fun r r' => r.sequence < r'.sequence) ∧
      (∀ older r mid r' newer, g.history = older ++ r :: (mid ++ r' :: newer) →
        r'.domain = r.domain → (∀ x ∈ mid, x.domain ≠ r.domain) →
        r'.source = r.target ∧ r'.deratingFrom = r.deratingTo) ∧
      (∃ log : List StateTransitionRecord,
        g.history = latest config.maxHistoryRecords log ∧
        (log.map StateTransitionRecord.sequence =
          (List.range log.length).map fun i => (i + 1) % wordSize) ∧
        ∀ older r newer, log = older ++ r :: newer →
          ∀ p, newest StateTransitionRecord.domain r.domain older = some p →
            p.target ≠ r.target ∨ p.deratingTo ≠ r.deratingTo ∨ p.decision ≠ r.decision) ∧
      ∀ older r newer, g.history = older ++ r :: newer → (∀ x ∈ newer, x.domain ≠ r.domain) →
        ∃ e, g.evaluations.lookup r.domain = some e ∧ e.state = r.target ∧
          e.derating = r.deratingTo := by
  obtain ⟨rfl, log, h⟩ := exists_journal hmax hrun
  have hretained : g.history <:+ log := h.retained ▸ latest_suffix _ _
  refine ⟨?_, h.isChain.suffix hretained, h.increasing, ?_, ?_, ?_⟩
  · rw [h.retained, length_latest]
    exact Nat.min_le_right _ _
  · intro older r mid r' newer hsplit hdomain hmid
    exact h.meets hsplit hdomain hmid
  · refine ⟨log, h.retained, h.numbered, fun older r newer hsplit p hp => ?_⟩
    have hchanges : endOf p ≠ endOf r := (h.follows older r newer hsplit).changes p hp
    by_contra hsame
    push Not at hsame
    exact hchanges (Prod.ext hsame.1 (Prod.ext hsame.2.1 hsame.2.2))
  · intro older r newer hsplit hnewer
    exact h.stands hsplit hnewer

/-- A domain is registered before anything is known of it, and then read. -/
def firstReading : List Operation :=
  [.registerThermalDomain Deployment.domain,
    .publishTemperature (Deployment.reading 40 1 0)]

/-- Room for one record is kept to, whatever is recorded. -/
theorem history_chain_one :
    (firstReading.foldl apply
      (create { Deployment.config with maxHistoryRecords := 1 } 0)).history.length ≤ 1 :=
  (history_chain (by decide)
    (runsUnder_foldl firstReading (fun op hop g => by
      simp only [firstReading, List.mem_cons, List.not_mem_nil, or_false] at hop
      rcases hop with rfl | rfl <;> rfl) _)).1

/-- The first record of a domain of which nothing is known: from unknown to unknown. -/
theorem first_record_unchanged :
    ∃ g, RunsUnder (fun _ op => op.isLoad = false) (create Deployment.config 0) g ∧
      ∃ r, g.history = [r] ∧ r.source = r.target ∧ r.deratingFrom = r.deratingTo ∧
        r.decision = .unknown := by
  refine ⟨(create Deployment.config 0).apply (.registerThermalDomain Deployment.domain),
    .tail _ .refl rfl, ?_⟩
  exact ⟨_, rfl, by decide +kernel, by decide +kernel, by decide +kernel⟩

end Governor

end ThermalGovernor
