import ThermalGovernor.Evidence.Record
import ThermalGovernor.Lib.Table

/-!
# Thermal domains

A domain definition groups the subjects whose evidence governs it and names its
policy.  The registry keeps the definitions with a membership index and a
topology generation of its own; every refusal leaves it as it was, since it
answers before it writes (`DomainRegistry.add_error`, `update_error`, `remove_error`).

`computeAggregate` derives one temperature from the evidence of the members, and
says which rule and which member it came from.
-/

namespace ThermalGovernor

open Lib

/-- Scope of a thermal domain. -/
inductive ThermalDomainType
  | accelerator | acceleratorPartition | node | chassis | rack | coolingZone
  | coupledResourceGroup
  deriving DecidableEq

/-- How a domain's temperature is derived from member evidence. -/
inductive AggregationRule
  | hottestMemberGoverns | configuredWeightedRule | nodeSensorGoverns | syntheticAggregation
  deriving DecidableEq

/-- A governed device registration. -/
structure DeviceRegistration where
  device : DeviceId := 0
  generation : DeviceGeneration := 0
  node : NodeId := 0
  nodeGeneration : NodeGeneration := 0
  rack : RackId := 0
  rackGeneration : RackGeneration := 0
  label : String := ""
  capabilities : CapabilitySet := {}
  provenance : Provenance := .unknown

/-- A weighted member of a thermal domain. -/
structure DomainMember (R : Type := ℚ) where
  subject : SubjectRef := {}
  weight : R := by exact 1

/-- A stable thermal domain definition. -/
structure ThermalDomainDefinition (R : Type := ℚ) where
  id : ThermalDomainId := 0
  generation : ThermalDomainGeneration := 0
  type : ThermalDomainType := .accelerator
  label : String := ""
  members : List (DomainMember R) := []
  parent : Option ThermalDomainId := none
  children : List ThermalDomainId := []
  policy : ThermalPolicyId := 0
  policyGeneration : ThermalPolicyGeneration := 0
  provenance : Provenance := .unknown
  evidenceSource : String := ""
  aggregation : AggregationRule := .hottestMemberGoverns
  rack : RackId := 0
  rackGeneration : RackGeneration := 0
  coolingZone : CoolingZoneId := 0
  syntheticAggregateOffset : Option R := none

/-! ### The registry -/

structure DomainLimits where
  maxDomains : Nat := 100000
  maxMembersPerDomain : Nat := 10000
  maxChildrenPerDomain : Nat := 10000

/-- The definitions, the membership index over them, and the topology generation. -/
structure DomainRegistry where
  limits : DomainLimits := {}
  definitions : Table ThermalDomainId ThermalDomainDefinition := ∅
  membership : Table String (List ThermalDomainId) := ∅
  topologyGeneration : TopologyGeneration := 1

namespace DomainRegistry

def find (r : DomainRegistry) (id : ThermalDomainId) : Option ThermalDomainDefinition :=
  r.definitions.lookup id

def size (r : DomainRegistry) : Nat := Table.size r.definitions

/-- Index one membership. -/
def indexMember (id : ThermalDomainId) (index : Table String (List ThermalDomainId))
    (member : DomainMember) : Table String (List ThermalDomainId) :=
  index.insert member.subject.key ((index.lookup member.subject.key).getD [] ++ [id])

/-- Rebuild the membership index: for each subject key, the sorted ids without repetition. -/
def rebuildMembership (r : DomainRegistry) : DomainRegistry :=
  let index := (Table.values r.definitions).foldl
    (fun index d => d.members.foldl (indexMember d.id) index) ∅
  { r with membership :=
      Table.mapValues (fun _ ids => (ids.insertionSort (· ≤ ·)).dedup) index }

/-- Advance the topology generation after a structural change. -/
def bumpTopologyGeneration (r : DomainRegistry) : DomainRegistry :=
  { r with topologyGeneration := advance r.topologyGeneration }

/-- Store a definition that passed its checks. -/
def store (r : DomainRegistry) (d : ThermalDomainDefinition) : DomainRegistry :=
  { r with definitions := r.definitions.insert d.id d }.rebuildMembership.bumpTopologyGeneration

/-- The checks of a new definition, in the order of the source. -/
def checkAdd (r : DomainRegistry) (d : ThermalDomainDefinition) : Status :=
  if ! isValid d.id then failure .invalidArgument "thermal domain id must be non-zero"
  else if ! isValid d.generation then
    failure .invalidArgument "thermal domain generation must be non-zero"
  else if d.provenance = .unknown then
    failure .invalidArgument "thermal domain provenance must be declared explicitly"
  else if d.provenance = .unsupported then
    failure .invalidArgument
      "an UNSUPPORTED thermal domain cannot be registered as a governed domain"
  else if r.limits.maxDomains ≤ r.size then
    failure .resourceExhausted "thermal domain limit reached"
  else if r.limits.maxMembersPerDomain < d.members.length then
    failure .resourceExhausted "thermal domain member limit reached"
  else if r.limits.maxChildrenPerDomain < d.children.length then
    failure .resourceExhausted "thermal domain child limit reached"
  else if (r.find d.id).isSome then
    failure .duplicateConflict "thermal domain already registered"
  else if d.parent.any fun p => (r.find p).isNone then
    failure .unknownDomain "thermal domain parent is not registered"
  else if d.children.any fun c => (r.find c).isNone then
    failure .unknownDomain "thermal domain child is not registered"
  else if d.aggregation = .configuredWeightedRule && d.members.any (fun m => ! (0 < m.weight)) then
    failure .invalidArgument "weighted aggregation requires strictly positive finite weights"
  else if d.aggregation = .nodeSensorGoverns &&
      ! d.members.any (fun m => m.subject.kind = .node) then
    failure .invalidArgument "NODE_SENSOR_GOVERNS requires at least one node member"
  else .ok ()

/-- The check of one child in an update. -/
def checkChild (r : DomainRegistry) (id child : ThermalDomainId) : Status :=
  if child = id then failure .policyCycle "a thermal domain cannot be its own child"
  else if (r.find child).isNone then
    failure .unknownDomain "thermal domain child is not registered"
  else .ok ()

/-- The checks of a replacement, in the order of the source. -/
def checkUpdate (r : DomainRegistry) (d : ThermalDomainDefinition) : Status :=
  match r.find d.id with
  | none => failure .unknownDomain "thermal domain is not registered"
  | some held =>
    if d.generation ≤ held.generation then
      failure .staleDomainGeneration "thermal domain update must advance the domain generation"
    else if d.provenance = .unknown || d.provenance = .unsupported then
      failure .invalidArgument "thermal domain provenance must be REAL or SYNTHETIC"
    else if r.limits.maxMembersPerDomain < d.members.length then
      failure .resourceExhausted "thermal domain member limit reached"
    else if r.limits.maxChildrenPerDomain < d.children.length then
      failure .resourceExhausted "thermal domain child limit reached"
    else if d.parent = some d.id then
      failure .policyCycle "a thermal domain cannot parent itself"
    else if d.parent.any fun p => (r.find p).isNone then
      failure .unknownDomain "thermal domain parent is not registered"
    else d.children.foldl (fun status c => status.bind fun _ => r.checkChild d.id c) (.ok ())

/-- Register a new domain. -/
def add (r : DomainRegistry) (d : ThermalDomainDefinition) : DomainRegistry × Status :=
  match r.checkAdd d with
  | .error e => (r, .error e)
  | .ok () => (r.store d, .ok ())

/-- Replace an existing domain by one of a later generation. -/
def update (r : DomainRegistry) (d : ThermalDomainDefinition) : DomainRegistry × Status :=
  match r.checkUpdate d with
  | .error e => (r, .error e)
  | .ok () => (r.store d, .ok ())

/-- How another definition still refers to a domain. -/
def referenceTo (id : ThermalDomainId) (entry : Sigma fun _ : ThermalDomainId =>
    ThermalDomainDefinition) : Option ThermalError :=
  if entry.1 = id then none
  else if entry.2.parent = some id then
    some ⟨.duplicateConflict, "thermal domain is still referenced as a parent"⟩
  else if id ∈ entry.2.children then
    some ⟨.duplicateConflict, "thermal domain is still referenced as a child"⟩
  else none

/-- The checks of a removal: the domain is registered, and no other definition refers to it. -/
def checkRemove (r : DomainRegistry) (id : ThermalDomainId) : Status :=
  if (r.find id).isNone then failure .unknownDomain "thermal domain is not registered"
  else
    match r.definitions.entries.findSome? (referenceTo id) with
    | some e => .error e
    | none => .ok ()

/-- Forget a definition that passed its checks. -/
def drop (r : DomainRegistry) (id : ThermalDomainId) : DomainRegistry :=
  { r with definitions := r.definitions.erase id }.rebuildMembership.bumpTopologyGeneration

/-- Remove a domain that no other one refers to. -/
def remove (r : DomainRegistry) (id : ThermalDomainId) : DomainRegistry × Status :=
  match r.checkRemove id with
  | .error e => (r, .error e)
  | .ok () => (r.drop id, .ok ())

def allDomainIds (r : DomainRegistry) : List ThermalDomainId := Table.sortedKeys r.definitions

/-- Domains with the device among their members, smallest id first. -/
def domainsForDevice (r : DomainRegistry) (device : DeviceId) : List ThermalDomainId :=
  ((Table.values r.definitions).filter fun d =>
    d.members.any fun m => m.subject.kind = .device && m.subject.device = device).map
      ThermalDomainDefinition.id |>.insertionSort (· ≤ ·)

/-- Domains with the subject among their members. -/
def domainsForSubject (r : DomainRegistry) (subject : SubjectRef) : List ThermalDomainId :=
  (r.membership.lookup subject.key).getD []

/-! ### What the operations change -/

@[simp] theorem find_store (r : DomainRegistry) (d : ThermalDomainDefinition)
    (id : ThermalDomainId) : (r.store d).find id = if id = d.id then some d else r.find id :=
  Table.lookup_insert_eq_ite r.definitions d.id id d

/-- A refused registration leaves the registry as it was. -/
theorem add_error {r : DomainRegistry} {d : ThermalDomainDefinition} {e : ThermalError}
    (h : (r.add d).2 = .error e) : (r.add d).1 = r := by
  unfold add at h ⊢
  split at h
  · rfl
  · cases h

/-- A refused replacement leaves the registry as it was. -/
theorem update_error {r : DomainRegistry} {d : ThermalDomainDefinition} {e : ThermalError}
    (h : (r.update d).2 = .error e) : (r.update d).1 = r := by
  unfold update at h ⊢
  split at h
  · rfl
  · cases h

/-- A refused removal leaves the registry as it was. -/
theorem remove_error {r : DomainRegistry} {id : ThermalDomainId} {e : ThermalError}
    (h : (r.remove id).2 = .error e) : (r.remove id).1 = r := by
  unfold remove at h ⊢
  split at h
  · rfl
  · cases h

end DomainRegistry

/-! ### Aggregation -/

/-- An aggregate temperature and which rule and member produced it. -/
structure AggregateResult where
  temperature : DegreesCelsius
  rule : AggregationRule
  governingMember : SubjectRef
  provenance : Provenance
  contributingMembers : Nat

/-- The hotter of two records; the earlier one on a tie. -/
def hotter (a b : ThermalEvidence) : ThermalEvidence :=
  if a.temperature < b.temperature then b else a

/-- The weight configured for the member with the very subject of the record. -/
def memberWeight (definition : ThermalDomainDefinition) (e : ThermalEvidence) : ℚ :=
  match definition.members.find? fun m => m.subject = e.subject with
  | some m => m.weight
  | none => 1

/-- The record of the largest weight seen so far, and that weight. -/
def heavier (definition : ThermalDomainDefinition) (acc : ThermalEvidence × ℚ)
    (e : ThermalEvidence) : ThermalEvidence × ℚ :=
  if acc.2 < memberWeight definition e then (e, memberWeight definition e) else acc

/-- The aggregate of a domain from the evidence of its members. -/
def computeAggregate (definition : ThermalDomainDefinition) (usable : List ThermalEvidence) :
    Result AggregateResult :=
  match usable with
  | [] => failure .evidenceUnknown "no member thermal evidence is available for aggregation"
  | first :: rest =>
    let combined := rest.foldl (fun p e => Provenance.combine p e.provenance) first.provenance
    let hottest := usable.foldl hotter first
    let result (temperature : DegreesCelsius) (member : SubjectRef) (provenance : Provenance) :
        AggregateResult :=
      ⟨temperature, definition.aggregation, member, provenance, usable.length⟩
    match definition.aggregation with
    | .hottestMemberGoverns => .ok (result hottest.temperature hottest.subject combined)
    | .configuredWeightedRule =>
      let sum := (usable.map fun e => e.temperature * memberWeight definition e).sum
      let total := (usable.map (memberWeight definition)).sum
      let heaviest := (usable.foldl (heavier definition) (first, -1)).1
      if ! (0 < total) then
        failure .policyInvalid "weighted aggregation produced a non-positive weight total"
      else
        let aggregate : DegreesCelsius := sum / total
        if ! aggregate.valid then
          failure .temperatureInvalid "weighted aggregation produced an invalid temperature"
        else
          .ok (result aggregate heaviest.subject
            (if definition.provenance = .real then .synthetic
              else Provenance.combine combined .synthetic))
    | .nodeSensorGoverns =>
      match usable.find? fun e => e.subject.kind = .node with
      | none =>
        failure .evidenceUnknown "node sensor evidence is unavailable for this domain"
      | some sensor => .ok (result sensor.temperature sensor.subject sensor.provenance)
    | .syntheticAggregation =>
      let modelled : DegreesCelsius :=
        hottest.temperature + definition.syntheticAggregateOffset.getD 0
      if ! modelled.valid then
        failure .temperatureInvalid "synthetic aggregation produced an invalid temperature"
      else
        .ok (result modelled hottest.subject
          (if definition.provenance = .synthetic then .synthetic
            else Provenance.combine combined .synthetic))

/-- Without member evidence there is no aggregate. -/
theorem computeAggregate_nil (definition : ThermalDomainDefinition) :
    computeAggregate definition [] =
      failure .evidenceUnknown "no member thermal evidence is available for aggregation" := rfl

end ThermalGovernor
