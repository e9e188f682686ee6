import ThermalGovernor.Governor.Evaluate

/-!
# Configuration: devices, domains, couplings, policies

The operations that change what is governed.  Each answers before it writes, and
each that succeeds recomputes the domains it may have affected, advances the
generation that fences older plans, and publishes a snapshot.

`setPolicy` keeps two counters apart: the generation a policy carries, which must
advance at every update of that policy, and `Governor.policyGeneration`, which
advances by one at every update of any policy.
-/

namespace ThermalGovernor

open Lib

namespace Governor

/-- The clock cannot be replaced once evidence is held. -/
def setClock (g : Governor) (clock : Option SteadyTimePoint) : Governor × Status :=
  match clock with
  | none => (g, failure .invalidArgument "clock must not be null")
  | some now =>
    if Table.size g.evidence ≠ 0 then
      (g, failure .invalidArgument
        "the clock cannot be replaced once evidence has been published")
    else (publishLocked { g with now := now }, .ok ())

/-! ### Devices -/

/-- The checks of a registration, in the order of the source. -/
def deviceChecks (g : Governor) (registration : DeviceRegistration) : List Check :=
  [ ⟨isValid registration.device && isValid registration.generation, .invalidArgument,
      "device identity and generation must be non-zero"⟩,
    ⟨registration.provenance ≠ .unknown, .invalidArgument,
      "device provenance must be declared explicitly"⟩,
    ⟨Table.size g.devices < g.config.maxDevices, .resourceExhausted, "device limit reached"⟩,
    ⟨(g.devices.lookup registration.device).all fun held =>
        held.generation ≤ registration.generation,
      .staleDeviceGeneration,
      "device registration would move the device generation backwards"⟩ ]

def registerDevice (g : Governor) (registration : DeviceRegistration) : Governor × Status :=
  match runChecks (g.deviceChecks registration) with
  | .error e => (g, .error e)
  | .ok () =>
    (publishLocked <| recomputeAllDomains
      { g with
        devices := g.devices.insert registration.device registration
        capabilityGeneration := advance g.capabilityGeneration }, .ok ())

def publishCapabilities (g : Governor) (device : DeviceId) (generation : DeviceGeneration)
    (capabilities : CapabilitySet) : Governor × Status :=
  match g.devices.lookup device with
  | none => (g, failure .unknownDevice "device is not registered")
  | some held =>
    if held.generation ≠ generation then
      (g, failure .staleDeviceGeneration
        "capability publication carries a stale device generation")
    else
      (publishLocked <| recomputeAllDomains
        { g with
          devices := g.devices.insert device { held with capabilities := capabilities }
          capabilityGeneration := advance g.capabilityGeneration }, .ok ())

/-! ### Domains -/

/-- Replace the history of one domain. -/
def setHistory (g : Governor) (domain : ThermalDomainId) (history : RecoveryHistory) : Governor :=
  { g with recoveryHistories := Function.update g.recoveryHistories domain history }

/-- Give a new domain's history the configured capacity. -/
def openHistory (g : Governor) (domain : ThermalDomainId) : Governor :=
  g.setHistory domain
    ((g.recoveryHistories domain).setCapacity g.config.maxRecoverySamples)

def advanceTopology (g : Governor) : Governor :=
  { g with topologyGeneration := advance g.topologyGeneration }

def registerThermalDomain (g : Governor) (definition : ThermalDomainDefinition) :
    Governor × Status :=
  if g.config.maxDomains ≤ g.domains.size then
    (g, failure .resourceExhausted "thermal domain limit reached")
  else
    match g.domains.add definition with
    | (_, .error e) => (g, .error e)
    | (domains, .ok ()) =>
      (publishLocked <| advanceTopology <|
        (openHistory { g with domains := domains } definition.id).recomputeDomain definition.id,
        .ok ())

/-- The keys of the records held for an earlier generation of a domain. -/
def supersededKeys (g : Governor) (definition : ThermalDomainDefinition) : Finset String :=
  g.evidence.keys.toFinset.filter fun key =>
    (g.evidence.lookup key).any fun record =>
      record.domain = definition.id && record.domainGeneration < definition.generation

def updateThermalDomain (g : Governor) (definition : ThermalDomainDefinition) :
    Governor × Status :=
  match g.domains.update definition with
  | (_, .error e) => (g, .error e)
  | (domains, .ok ()) =>
    (publishLocked <| advanceTopology <|
      recomputeDomain
        { g with
          domains := domains
          invalidatedEvidence := g.invalidatedEvidence ∪ g.supersededKeys definition }
        definition.id, .ok ())

/-! ### Couplings -/

/-- The checks of a new coupling, in the order of the source. -/
def couplingChecks (g : Governor) (relation : CouplingRelation) : List Check :=
  [ ⟨isValid relation.id, .invalidArgument, "coupling id must be non-zero"⟩,
    ⟨relation.provenance ≠ .unknown, .invalidArgument,
      "coupling provenance must be declared explicitly"⟩,
    ⟨0 < relation.weight && relation.weight ≤ 1, .invalidArgument,
      "coupling weight must lie in (0, 1]"⟩,
    ⟨g.couplings.length < g.config.maxCoupledEdges, .resourceExhausted,
      "coupling edge limit reached"⟩,
    ⟨(g.domains.find relation.source).isSome, .unknownDomain,
      "coupling source domain is not registered"⟩,
    ⟨(g.domains.find relation.destination).isSome, .unknownDomain,
      "coupling destination domain is not registered"⟩ ]

def registerCoupling (g : Governor) (relation : CouplingRelation) : Governor × Status :=
  match runChecks (g.couplingChecks relation) with
  | .error e => (g, .error e)
  | .ok () =>
    (publishLocked <| advanceTopology <|
      recomputeAllDomains { g with couplings := g.couplings.add relation }, .ok ())

def removeCoupling (g : Governor) (id : CouplingId) : Governor × Status :=
  match g.couplings.remove id with
  | none => (g, failure .unknownDomain "coupling is not registered")
  | some couplings =>
    (publishLocked <| advanceTopology <|
      recomputeAllDomains { g with couplings := couplings }, .ok ())

/-! ### Policies -/

/-- Install a policy, or a later generation of one.  The answer is the counter of all
policy updates. -/
def setPolicy (g : Governor) (policy : ThermalPolicy) :
    Governor × Result ThermalPolicyGeneration :=
  match validatePolicy policy with
  | .error e => (g, .error e)
  | .ok () =>
    if (g.policies.lookup policy.id).any fun held => policy.generation ≤ held.generation then
      (g, failure .stalePolicy "policy update must advance the policy generation")
    else
      let stored := publishLocked <| recomputeAllDomains
        { g with
          policies := g.policies.insert policy.id policy
          policyGeneration := advance g.policyGeneration }
      (stored, .ok stored.policyGeneration)

def getPolicy (g : Governor) (id : ThermalPolicyId) : Result ThermalPolicy :=
  match g.policies.lookup id with
  | none => failure .unknownPolicy "policy is not registered"
  | some policy => .ok policy

end Governor

end ThermalGovernor
