import Mathlib.Data.Rat.Defs
import Mathlib.Algebra.Order.Field.Rat
import Mathlib.Order.Basic

/-!
# Identities, errors, time and quantities

The value types every other module speaks in.  The source gives each identity
and each generation a type of its own over a 64-bit word; here they are
abbreviations of `Nat`, so that a signature still says which one is meant, and
the zero identity is the invalid one.  Only `advance` computes with such a word,
and it wraps as the word does.

A reading of the steady clock is a 64-bit count of nanoseconds.  Instants are
integers, and the difference of two of them is wrapped (`elapsed`), because the
source subtracts them in the signed word.  Temperatures are degrees Celsius; the
source's doubles are rationals here.
-/

namespace ThermalGovernor

abbrev CoordinatorId := Nat
abbrev WorkerId := Nat
abbrev WorkloadId := Nat
abbrev ActionId := Nat
abbrev DeviceId := Nat
abbrev NodeId := Nat
abbrev RackId := Nat
abbrev CoolingZoneId := Nat
abbrev ChassisId := Nat
abbrev ThermalDomainId := Nat
abbrev ThermalPolicyId := Nat
abbrev EvidenceId := Nat
abbrev CouplingId := Nat
abbrev CoordinatorEpoch := Nat
abbrev WorkerBootId := Nat
abbrev DeviceGeneration := Nat
abbrev NodeGeneration := Nat
abbrev RackGeneration := Nat
abbrev ThermalDomainGeneration := Nat
abbrev ThermalPolicyGeneration := Nat
abbrev TelemetryGeneration := Nat
abbrev ActionGeneration := Nat
abbrev VerificationGeneration := Nat
abbrev CapabilityGeneration := Nat
abbrev TopologyGeneration := Nat
abbrev CouplingGeneration := Nat

/-- An identity is valid when it is not the zero word. -/
def isValid (id : Nat) : Bool := id != 0

@[simp] theorem isValid_eq_true {id : Nat} : isValid id = true ↔ id ≠ 0 := by
  simp [isValid]

@[simp] theorem isValid_eq_false {id : Nat} : isValid id = false ↔ id = 0 := by
  simp [isValid]

/-- The number of values of an identity. -/
def wordSize : Nat := 2 ^ 64

/-- The next generation; the largest one is followed by the invalid zero. -/
def advance (current : Nat) : Nat := (current + 1) % wordSize

/-- Adopt an observed generation only when it is strictly newer. -/
def observe (current observed : Nat) : Nat :=
  if current < observed then observed else current

theorem advance_of_lt {current : Nat} (h : current + 1 < wordSize) :
    advance current = current + 1 := Nat.mod_eq_of_lt h

theorem le_observe (current observed : Nat) : current ≤ observe current observed := by
  unfold observe
  split <;> omega

/-! ### Errors -/

/-- Typed thermal-governance error codes. -/
inductive ThermalErrorCode
  | none
  | staleEpoch | staleWorker | staleDeviceGeneration | staleDomainGeneration | staleTelemetry
  | stalePolicy | staleAction | staleTopology | staleCapability | staleVerification
  | unknownDevice | unknownDomain | unknownWorkload | unknownNode | unknownRack | unknownAction
  | unknownPolicy | unknownCoordinator
  | capabilityUnsupported | evidenceUnknown | evidenceStale | evidenceConflict
  | temperatureInvalid | evidenceDuplicate
  | policyInvalid | policyCycle | policyLimitExceeded
  | thermalWarning | thermalDeratingRequired | thermalCritical | noSafeThermalEnvelope
  | recoveryForbidden | revalidationRequired
  | actionInfeasible | actionIneffective | actionSuperseded | actionCancelled | backendFailure
  | secondaryViolation
  | persistenceCorrupt | persistenceUnsupportedVersion | persistenceIo | persistenceTruncated
  | persistenceTrailingGarbage | persistenceIntegrity
  | frameCorrupt | frameTooLarge | frameTruncated | protocolUnsupported | transportIo
  | transportClosed
  | duplicateConflict | resourceExhausted | outcomeUnknown | invalidArgument | notImplemented
  | internal
  deriving DecidableEq

def ThermalErrorCode.text : ThermalErrorCode → String
  | none => "NONE"
  | staleEpoch => "STALE_EPOCH"
  | staleWorker => "STALE_WORKER"
  | staleDeviceGeneration => "STALE_DEVICE_GENERATION"
  | staleDomainGeneration => "STALE_DOMAIN_GENERATION"
  | staleTelemetry => "STALE_TELEMETRY"
  | stalePolicy => "STALE_POLICY"
  | staleAction => "STALE_ACTION"
  | staleTopology => "STALE_TOPOLOGY"
  | staleCapability => "STALE_CAPABILITY"
  | staleVerification => "STALE_VERIFICATION"
  | unknownDevice => "UNKNOWN_DEVICE"
  | unknownDomain => "UNKNOWN_DOMAIN"
  | unknownWorkload => "UNKNOWN_WORKLOAD"
  | unknownNode => "UNKNOWN_NODE"
  | unknownRack => "UNKNOWN_RACK"
  | unknownAction => "UNKNOWN_ACTION"
  | unknownPolicy => "UNKNOWN_POLICY"
  | unknownCoordinator => "UNKNOWN_COORDINATOR"
  | capabilityUnsupported => "CAPABILITY_UNSUPPORTED"
  | evidenceUnknown => "EVIDENCE_UNKNOWN"
  | evidenceStale => "EVIDENCE_STALE"
  | evidenceConflict => "EVIDENCE_CONFLICT"
  | temperatureInvalid => "TEMPERATURE_INVALID"
  | evidenceDuplicate => "EVIDENCE_DUPLICATE"
  | policyInvalid => "POLICY_INVALID"
  | policyCycle => "POLICY_CYCLE"
  | policyLimitExceeded => "POLICY_LIMIT_EXCEEDED"
  | thermalWarning => "THERMAL_WARNING"
  | thermalDeratingRequired => "THERMAL_DERATING_REQUIRED"
  | thermalCritical => "THERMAL_CRITICAL"
  | noSafeThermalEnvelope => "NO_SAFE_THERMAL_ENVELOPE"
  | recoveryForbidden => "RECOVERY_FORBIDDEN"
  | revalidationRequired => "REVALIDATION_REQUIRED"
  | actionInfeasible => "ACTION_INFEASIBLE"
  | actionIneffective => "ACTION_INEFFECTIVE"
  | actionSuperseded => "ACTION_SUPERSEDED"
  | actionCancelled => "ACTION_CANCELLED"
  | backendFailure => "BACKEND_FAILURE"
  | secondaryViolation => "SECONDARY_VIOLATION"
  | persistenceCorrupt => "PERSISTENCE_CORRUPT"
  | persistenceUnsupportedVersion => "PERSISTENCE_UNSUPPORTED_VERSION"
  | persistenceIo => "PERSISTENCE_IO"
  | persistenceTruncated => "PERSISTENCE_TRUNCATED"
  | persistenceTrailingGarbage => "PERSISTENCE_TRAILING_GARBAGE"
  | persistenceIntegrity => "PERSISTENCE_INTEGRITY"
  | frameCorrupt => "FRAME_CORRUPT"
  | frameTooLarge => "FRAME_TOO_LARGE"
  | frameTruncated => "FRAME_TRUNCATED"
  | protocolUnsupported => "PROTOCOL_UNSUPPORTED"
  | transportIo => "TRANSPORT_IO"
  | transportClosed => "TRANSPORT_CLOSED"
  | duplicateConflict => "DUPLICATE_CONFLICT"
  | resourceExhausted => "RESOURCE_EXHAUSTED"
  | outcomeUnknown => "OUTCOME_UNKNOWN"
  | invalidArgument => "INVALID_ARGUMENT"
  | notImplemented => "NOT_IMPLEMENTED"
  | internal => "INTERNAL"

/-- A typed error value with its human-readable detail. -/
structure ThermalError where
  code : ThermalErrorCode
  detail : String
  deriving DecidableEq

/-- The text of an error: its code, then its detail when there is one. -/
def ThermalError.render (e : ThermalError) : String :=
  if e.detail.isEmpty then e.code.text else e.code.text ++ ": " ++ e.detail

/-- The source's `Result<T>`. -/
abbrev Result (α : Type) := Except ThermalError α

/-- The source's `Status`: a result with no payload. -/
abbrev Status := Result Unit

/-- A refused operation. -/
def failure {α : Type} (code : ThermalErrorCode) (detail : String) : Result α :=
  .error ⟨code, detail⟩

/-- The code of a result, `none` for a success. -/
def codeOf {α : Type} : Result α → ThermalErrorCode
  | .ok _ => .none
  | .error e => e.code

/-- A decided property of a value that is there. -/
theorem exists_of_any {α : Type} (o : Option α) (p : α → Prop) [DecidablePred p]
    (h : o.any (fun a => decide (p a)) = true) : ∃ a, o = some a ∧ p a := by
  obtain ⟨a, ha, hp⟩ := (Option.any_eq_true _ _).mp h
  exact ⟨a, ha, of_decide_eq_true hp⟩

/-- A decided property of the value of a successful operation. -/
theorem exists_of_ok {α : Type} (r : Result α) (p : α → Prop) [DecidablePred p]
    (h : r.toOption.any (fun a => decide (p a)) = true) : ∃ a, r = .ok a ∧ p a := by
  cases r with
  | error e => cases h
  | ok a => exact ⟨a, rfl, of_decide_eq_true h⟩

/-- A chain succeeds exactly when each of its links does. -/
theorem bind_eq_ok {α β : Type} {r : Result α} {f : α → Result β} {b : β} :
    r.bind f = .ok b ↔ ∃ a, r = .ok a ∧ f a = .ok b := by
  cases r with
  | error e => exact ⟨fun h => (by cases h), fun ⟨_, h, _⟩ => (by cases h)⟩
  | ok a =>
    refine ⟨fun h => ⟨a, rfl, h⟩, fun ⟨a', ha, h⟩ => ?_⟩
    rw [← Except.ok.inj ha] at h
    exact h

theorem map_eq_ok {α β : Type} {r : Result α} {f : α → β} {b : β} :
    r.map f = .ok b ↔ ∃ a, r = .ok a ∧ f a = b := by
  cases r with
  | error e => exact ⟨fun h => (by cases h), fun ⟨_, h, _⟩ => (by cases h)⟩
  | ok a => exact ⟨fun h => ⟨a, rfl, Except.ok.inj h⟩, fun ⟨_, h, hb⟩ => by cases h; rw [← hb]; rfl⟩

/-- One check of a request: what must hold, and the error when it does not. -/
structure Check where
  holds : Bool
  code : ThermalErrorCode
  detail : String

/-- The first check that fails decides. -/
def runChecks : List Check → Status
  | [] => .ok ()
  | check :: rest =>
    if check.holds then runChecks rest else failure check.code check.detail

/-- **A request is accepted exactly when every check holds.** -/
theorem runChecks_eq_ok {checks : List Check} :
    runChecks checks = .ok () ↔ ∀ check ∈ checks, check.holds = true := by
  induction checks with
  | nil => simp [runChecks]
  | cons check rest ih =>
    rw [runChecks, List.forall_mem_cons]
    split
    · rename_i h
      rw [ih]
      exact ⟨fun hr => ⟨h, hr⟩, And.right⟩
    · rename_i h
      exact ⟨fun hc => (by cases hc), fun hc => absurd hc.1 h⟩

/-- A refusal names a check that does not hold. -/
theorem runChecks_eq_error {checks : List Check} {e : ThermalError}
    (h : runChecks checks = .error e) :
    ∃ check ∈ checks, check.holds = false ∧ e = ⟨check.code, check.detail⟩ := by
  induction checks with
  | nil => cases h
  | cons check rest ih =>
    rw [runChecks] at h
    split at h
    · obtain ⟨c, hc, hcheck⟩ := ih h
      exact ⟨c, List.mem_cons_of_mem _ hc, hcheck⟩
    · rename_i hfalse
      exact ⟨check, List.mem_cons_self, by simpa using hfalse, (Except.error.inj h).symm⟩

/-! ### Time -/

/-- A reading of the steady clock, in nanoseconds. -/
abbrev SteadyTimePoint := Int

/-- A span of time in milliseconds. -/
abbrev Milliseconds := Int

/-- The value of an integer in the signed 64-bit word. -/
def wrap64 (x : Int) : Int := Int.bmod x wordSize

/-- The time from `since` to `now`, in nanoseconds. -/
def elapsed (now since : SteadyTimePoint) : Int := wrap64 (now - since)

/-- A span in milliseconds as nanoseconds. -/
def nanoseconds (span : Milliseconds) : Int := wrap64 (span * 1000000)

/-- A span in nanoseconds as whole milliseconds, rounded toward zero. -/
def milliseconds (span : Int) : Milliseconds := span.tdiv 1000000

/-! ### Quantities -/

/-- An absolute temperature in degrees Celsius. -/
abbrev DegreesCelsius := ℚ

/-- A frequency in megahertz. -/
abbrev MegaHertz := Nat

namespace DegreesCelsius

/-- Absolute zero, the least reading that can be represented. -/
def absoluteZero : DegreesCelsius := -5463 / 20

/-- The plausibility bound of a thermal sensor. -/
def maxPlausible : DegreesCelsius := 1500

/-- A reading between the two bounds. -/
def valid (t : DegreesCelsius) : Bool := absoluteZero ≤ t && t ≤ maxPlausible

end DegreesCelsius

end ThermalGovernor
