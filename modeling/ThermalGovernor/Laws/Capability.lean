import ThermalGovernor.Laws.Generations
import ThermalGovernor.Ledger.Effects

/-!
# The capability behind a restriction

A domain is found restricted only where its temperature can be measured, and the operations
that change a device or a domain evaluate what they change.  So the devices behind a stored
restriction can still be read (`canMeasure_of_restrictive`), as long as nothing is loaded
from a file.
-/

namespace ThermalGovernor

open Lib

namespace Governor

variable {g g' : Governor} {id : ThermalDomainId} {definition : ThermalDomainDefinition}

/-- No device of the domain is registered, or those that are have a supported temperature. -/
def CanMeasure (g : Governor) (definition : ThermalDomainDefinition) : Prop :=
  g.memberCapabilities definition = [] ∨
    (resolveCapability .temperature (g.memberCapabilities definition)).isSupported = true

theorem temperature_domainCapabilities (h : g.memberCapabilities definition ≠ [])
    (gathered : Option DomainEvidence) :
    (g.domainCapabilities definition gathered).temperature =
      resolveCapability .temperature (g.memberCapabilities definition) := by
  unfold domainCapabilities
  split
  · rename_i hnone
    exact absurd hnone h
  · rfl

theorem canMeasure_congr (h : g'.devices = g.devices) :
    g'.CanMeasure definition ↔ g.CanMeasure definition := by
  unfold CanMeasure memberCapabilities
  rw [h]

/-- Evidence is resolved where the temperature can be measured. -/
theorem canMeasure_of_resolved {policy : ThermalPolicy} {evidence : ThermalEvidence}
    (h : resolvedEvidence (g.evaluation definition policy).1 = some evidence) :
    g.CanMeasure definition := by
  by_cases hnone : g.memberCapabilities definition = []
  · exact .inl hnone
  · have hcapability := (resolvedEvidence_eq_some.mp h).1
    exact .inr ((temperature_domainCapabilities hnone _).symm ▸ hcapability)

/-- A restriction is found only there. -/
theorem canMeasure_of_isRestrictive {policy : ThermalPolicy}
    (h : (g.evaluation definition policy).2.state.isRestrictive = true) :
    g.CanMeasure definition := by
  have hstate : (evaluateThermal (g.evaluation definition policy).1).state.isRestrictive = true := h
  rcases evaluateThermal_eq (g.evaluation definition policy).1 with
    ⟨evidence, hresolved, -⟩ | ⟨-, hunresolved, -⟩
  · exact canMeasure_of_resolved hresolved
  · rcases ThermalState.trichotomy
      (evaluateThermal (g.evaluation definition policy).1).state with hs | hs | hs
    · rw [hs.2.1] at hstate
      cases hstate
    · rw [hs.2.2] at hunresolved
      cases hunresolved
    · rw [hs.2.1] at hstate
      cases hstate

/-- So is a healthy domain. -/
theorem canMeasure_of_isHealthy {policy : ThermalPolicy}
    (h : (g.evaluation definition policy).2.state.isHealthy = true) :
    g.CanMeasure definition := by
  obtain ⟨hreaches, -⟩ := (isHealthy_evaluateThermal (g.evaluation definition policy).1).mp h
  cases hresolved : resolvedEvidence (g.evaluation definition policy).1 with
  | none =>
    rw [reachesGate, hresolved] at hreaches
    cases hreaches
  | some evidence => exact canMeasure_of_resolved hresolved

/-! ### What keeps a stored evaluation -/

/-- Nothing is stored for the domain, or what was, of the same devices and members, or what
is stored was evaluated lately. -/
def Refreshed (g g' : Governor) (id : ThermalDomainId) : Prop :=
  g'.evaluations.lookup id = none ∨
  (g'.evaluations.lookup id = g.evaluations.lookup id ∧ g'.devices = g.devices ∧
    g'.domains.find id = g.domains.find id) ∨
  g'.EvaluatedLately id

/-- **After every operation of one critical section but a load, what is stored for a domain is
what was, of the same devices and members, or was evaluated lately.** -/
theorem refreshed_apply (hg : g.Reachable) {op : Operation} (hload : op.isLoad = false)
    (hverify : ∀ id fresh, op ≠ .verifyAction id fresh) : Refreshed g (g.apply op) id := by
  cases hop : op.recomputes with
  | true =>
    rcases kept_or_evaluatedLately hg hop id with hnone | ⟨hkept, hdevices, hdomains, -⟩ | hlately
    · exact .inl hnone
    · exact .inr (.inl ⟨hkept, hdevices, hdomains⟩)
    · exact .inr (.inr hlately)
  | false =>
    have hspared : Spared g (g.apply op) id := spared_of_not_recomputes hg hop hload hverify
    rcases hspared.stored with hkept | hlately
    · exact .inr (.inl ⟨hkept, hspared.devices, by rw [hspared.domains]⟩)
    · exact .inr (.inr hlately)

/-! ### The devices behind a stored restriction -/

/-- The temperature of every domain that is stored as restricted can be measured. -/
def MeasuresRestricted (g : Governor) : Prop :=
  ∀ id definition e, g.domains.find id = some definition → g.evaluations.lookup id = some e →
    e.state.isRestrictive = true → g.CanMeasure definition

theorem measuresRestricted_of_refreshed (h : ∀ id, Refreshed g g' id)
    (hg : g.MeasuresRestricted) : g'.MeasuresRestricted := by
  intro id definition e hfind hlookup hrestrictive
  rcases h id with hnone | ⟨hkept, hdevices, hsame⟩ |
    ⟨turn, governed, policy, hturn, hgoverned, -, hstored⟩
  · rw [hnone] at hlookup
    cases hlookup
  · refine (canMeasure_congr hdevices).mpr (hg id definition e ?_ ?_ hrestrictive)
    · rw [← hsame, hfind]
    · rw [← hkept, hlookup]
  · obtain rfl : definition = governed := Option.some.inj (hfind.symm.trans hgoverned)
    obtain rfl := Option.some.inj (hlookup.symm.trans hstored)
    exact (canMeasure_congr hturn.devices).mpr (canMeasure_of_isRestrictive hrestrictive)

theorem measuresRestricted_apply (hg : g.Reachable) {op : Operation} (hload : op.isLoad = false)
    (hmeasures : g.MeasuresRestricted) : (g.apply op).MeasuresRestricted := by
  by_cases hverify : ∃ action fresh, op = .verifyAction action fresh
  · obtain ⟨action, fresh, rfl⟩ := hverify
    have hpublished : (g.apply (.publishTemperature fresh)).MeasuresRestricted :=
      measuresRestricted_of_refreshed (fun _ => refreshed_apply hg rfl fun _ _ h => by cases h)
        hmeasures
    rcases g.apply_verifyAction action fresh with h | h
    · rw [h]
      exact hpublished
    · rw [h]
      exact measuresRestricted_of_refreshed
        (fun _ => refreshed_apply (hg.apply _) rfl fun _ _ h => by cases h) hpublished
  · push Not at hverify
    exact measuresRestricted_of_refreshed (fun _ => refreshed_apply hg hload hverify) hmeasures

/-- **Without a durable file, what is stored as restricted can be measured.** -/
theorem canMeasure_of_restrictive {config : GovernorConfig} {now : SteadyTimePoint}
    (hpath : config.durablePath.isEmpty = true) (hrun : Runs (create config now) g)
    {e : ThermalEvaluation} (hfind : g.domains.find id = some definition)
    (hlookup : g.evaluations.lookup id = some e) (hrestrictive : e.state.isRestrictive = true) :
    g.CanMeasure definition := by
  obtain ⟨-, -, hmeasures⟩ := invariant_of_unsaved (I := MeasuresRestricted) hpath hrun
    (fun id definition e hfind => by cases hfind)
    fun _ _ hg _ hload hmeasures => measuresRestricted_apply hg hload hmeasures
  exact hmeasures id definition e hfind hlookup hrestrictive

end Governor

end ThermalGovernor
