import ThermalGovernor.Lib.Trace
import ThermalGovernor.Governor.Durable

/-!
# What is governed, and the writes to it

The other half of the state, beside the ledger, is what evaluations are made from and
where they are kept: policies, devices, domains, couplings, current evidence, the stored
evaluations.  `Write` lists everything that can happen to it, each write with what the
operation has made sure of before it.

As with the moves of the ledger, an invariant is proved by cases on a write, once for all
operations; that every operation is a sequence of writes is the subject of
`Governed.Refines`.
-/

namespace ThermalGovernor

open Lib

namespace Governor

/-- Nothing governed changes, and no evaluation is noted. -/
structure SameGoverned (g g' : Governor) : Prop where
  config : g'.config = g.config
  policies : g'.policies = g.policies
  devices : g'.devices = g.devices
  domains : g'.domains = g.domains
  couplings : g'.couplings = g.couplings
  evidence : g'.evidence = g.evidence
  evaluations : g'.evaluations = g.evaluations
  evaluated : ∀ input e, .evaluated input e ∈ g'.trace → Event.evaluated input e ∈ g.trace

/-- Everything that can happen to what is governed, when the policies that are put in meet a
condition. -/
inductive Write (put : ThermalPolicy → Prop) : Governor → Governor → Prop
  | keep (g g' : Governor) (h : SameGoverned g g') : Write put g g'
  | evaluate (g : Governor) (domain : ThermalDomainId) (definition : ThermalDomainDefinition)
      (policy : ThermalPolicy) (hfind : g.domains.find domain = some definition)
      (hpolicy : g.policyFor definition = some policy) :
      Write put g (g.note (.evaluated (g.evaluation definition policy).1
        (g.evaluation definition policy).2))
  /-- An evaluation that was noted is stored, under the name the domain is found by or has. -/
  | record (g : Governor) (domain name : ThermalDomainId) (definition : ThermalDomainDefinition)
      (input : EvaluationInput) (e : ThermalEvaluation)
      (hfind : g.domains.find domain = some definition)
      (hname : name = domain ∨ name = definition.id)
      (hnoted : .evaluated input e ∈ g.trace) :
      Write put g (g.recordTransition name definition.generation e)
  | putDevice (g : Governor) (device : DeviceId) (registration : DeviceRegistration)
      (h : registration.device = device ∨
        ∃ held, g.devices.lookup device = some held ∧ registration.device = held.device) :
      Write put g { g with devices := g.devices.insert device registration }
  | storeDomain (g : Governor) (definition : ThermalDomainDefinition)
      (h : g.domains.checkAdd definition = .ok () ∨ g.domains.checkUpdate definition = .ok ()) :
      Write put g { g with domains := g.domains.store definition }
  | addCoupling (g : Governor) (relation : CouplingRelation)
      (hsource : (g.domains.find relation.source).isSome = true)
      (hdestination : (g.domains.find relation.destination).isSome = true) :
      Write put g { g with couplings := g.couplings.add relation }
  | removeCoupling (g : Governor) (id : CouplingId) (couplings : CouplingGraph)
      (h : g.couplings.remove id = some couplings) :
      Write put g { g with couplings := couplings }
  | putPolicy (g : Governor) (policy : ThermalPolicy) (h : put policy) :
      Write put g { g with policies := g.policies.insert policy.id policy }
  | accept (g : Governor) (e : ThermalEvidence)
      (hstructure : validateEvidenceStructure e = .ok ())
      (hfences : runChecks (g.publishChecks e) = .ok ()) :
      Write put g { g with evidence := g.evidence.insert e.subject.key e }
  | forget (g : Governor) : Write put g { g with evidence := ∅, evaluations := ∅ }

/-- A sequence of writes. -/
abbrev Writes (put : ThermalPolicy → Prop) : Governor → Governor → Prop :=
  Relation.ReflTransGen (Write put)

variable {put : ThermalPolicy → Prop} {g g' g'' : Governor}

theorem Writes.one (h : Write put g g') : Writes put g g' := Relation.ReflTransGen.single h

/-- A write before a sequence of writes. -/
theorem Writes.after (h : Write put g g') (h' : Writes put g' g'') : Writes put g g'' :=
  Relation.ReflTransGen.head h h'

/-- **What every write preserves, every sequence of writes preserves.** -/
theorem Writes.invariant {I : Governor → Prop} (hstep : ∀ g g', Write put g g' → I g → I g')
    (h : Writes put g g') (hg : I g) : I g' := preserved_of_reflTransGen hstep h hg

theorem SameGoverned.writes (h : SameGoverned g g') : Writes put g g' := .one (.keep g g' h)

theorem sameGoverned_publishLocked (g : Governor) : SameGoverned g g.publishLocked :=
  ⟨rfl, rfl, rfl, rfl, rfl, rfl, rfl, fun _ _ h => h⟩

theorem sameGoverned_advanceTopology (g : Governor) : SameGoverned g g.advanceTopology :=
  ⟨rfl, rfl, rfl, rfl, rfl, rfl, rfl, fun _ _ h => h⟩

theorem sameGoverned_setHistory (g : Governor) (domain : ThermalDomainId)
    (history : RecoveryHistory) : SameGoverned g (g.setHistory domain history) :=
  ⟨rfl, rfl, rfl, rfl, rfl, rfl, rfl, fun _ _ h => h⟩

theorem sameGoverned_openHistory (g : Governor) (domain : ThermalDomainId) :
    SameGoverned g (g.openHistory domain) := g.sameGoverned_setHistory domain _

theorem sameGoverned_putAction (g : Governor) (id : ActionId) (action : ThermalAction) :
    SameGoverned g (g.putAction id action) :=
  ⟨rfl, rfl, rfl, rfl, rfl, rfl, rfl, fun _ _ h => h⟩

theorem SameGoverned.refl (g : Governor) : SameGoverned g g :=
  ⟨rfl, rfl, rfl, rfl, rfl, rfl, rfl, fun _ _ h => h⟩

theorem SameGoverned.trans (h : SameGoverned g g') (h' : SameGoverned g' g'') :
    SameGoverned g g'' :=
  ⟨h'.config.trans h.config, h'.policies.trans h.policies, h'.devices.trans h.devices,
    h'.domains.trans h.domains, h'.couplings.trans h.couplings, h'.evidence.trans h.evidence,
    h'.evaluations.trans h.evaluations,
    fun input e hnoted => h.evaluated input e (h'.evaluated input e hnoted)⟩

end Governor

end ThermalGovernor
