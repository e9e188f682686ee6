import ThermalGovernor.Lib.Trace
import ThermalGovernor.Governor.Durable

/-!
# The ledger: what authority rests on

The coordinator exists to keep authority in order: who may publish, which record
is current, which action was promised under which generations.  `Ledger` is the
part of its state that this is about, and `Move` lists everything that can happen
to it, each move with the condition under which it is taken.  Nothing here looks
at temperatures, policies or topology.

The operations of the coordinator are sequences of moves (`Ledger.Refines`), so an
invariant of the ledger is proved by cases on a move, once for all operations.  The
argument `ok` of a move says which records may be accepted, which incarnations
revived, which actions restored and when the epoch advances; a law that holds of
some runs only is a law of the moves with a narrower `ok`.
-/

namespace ThermalGovernor

open Lib

/-- Epoch, workers, current evidence, actions and their allocator, and the trace. -/
structure Ledger where
  epoch : CoordinatorEpoch
  workers : Table WorkerId WorkerRecord
  evidence : Table String ThermalEvidence
  actionGeneration : ActionGeneration
  actions : Table ActionId ThermalAction
  maxActions : Nat
  trace : List Event

/-- The ledger of a state. -/
def Governor.ledger (g : Governor) : Ledger where
  epoch := g.epoch
  workers := g.workers
  evidence := g.evidence
  actionGeneration := g.actionGeneration
  actions := g.actions
  maxActions := g.config.maxActions
  trace := g.trace

/-- The evaluation has the state and the recovery that its input determines. -/
structure EvaluationOf (input : EvaluationInput) (e : ThermalEvaluation) : Prop where
  state : e.state = (evaluateThermal input).state
  recovery : e.recovery = (evaluateThermal input).recovery

/-- The action was dispatched and has not ended. -/
def ActionLifecycle.isAwaiting : ActionLifecycle → Bool
  | .dispatched | .acknowledged | .verifying => true
  | _ => false

/-- What may become of the lifecycle of an action after its authorisation, dispatch aside:
it ends, or it stays among the positions that wait for a verification. -/
def ActionLifecycle.mayBecome (source target : ActionLifecycle) : Prop :=
  target = source ∨ target.isTerminal = true ∨
    (source.isAwaiting = true ∧ target.isAwaiting = true)

/-- The later record of an action carries the same binding. -/
structure ThermalAction.Settles (a b : ThermalAction) : Prop where
  id : b.id = a.id
  generation : b.generation = a.generation
  authority : b.authority = a.authority
  dispatchedAt : b.dispatchedAt = a.dispatchedAt
  lifecycle : a.lifecycle.mayBecome b.lifecycle

namespace Ledger

/-- The incarnation named by the record, if any, is the live one of its worker. -/
def Fenced (l : Ledger) (e : ThermalEvidence) : Prop :=
  e.worker ≠ 0 → ∃ held, l.workers.lookup e.worker = some held ∧
    held.boot = e.workerBoot ∧ held.alive = true

/-- The record is later in sequence than the one it replaces, when both are of one
incarnation. -/
def Later (l : Ledger) (e : ThermalEvidence) : Prop :=
  ∀ held, l.evidence.lookup e.subject.key = some held → held.sameIncarnation e = true →
    held.measurementSequence < e.measurementSequence

/-- The new table differs from the old one by settling actions in place. -/
def SettledInto (l : Ledger) (actions : Table ActionId ThermalAction) : Prop :=
  ∀ id, Option.Rel ThermalAction.Settles (l.actions.lookup id) (actions.lookup id)

/-- Everything that can happen to the ledger. -/
inductive Move (ok : Ledger → Event → Prop) : Ledger → Ledger → Prop
  | evaluate (l : Ledger) (input : EvaluationInput) (e : ThermalEvaluation)
      (h : EvaluationOf input e) :
      Move ok l { l with trace := .evaluated input e :: l.trace }
  | accept (l : Ledger) (e : ThermalEvidence) (hok : ok l (.accepted e))
      (hfence : l.Fenced e) (hlater : l.Later e) :
      Move ok l
        { l with
          evidence := l.evidence.insert e.subject.key e
          trace := .accepted e :: l.trace }
  /-- A record of a worker is written over; it may lose its life, not its boot. -/
  | touch (l : Ledger) (worker : WorkerId) (held record : WorkerRecord)
      (hheld : l.workers.lookup worker = some held) (hworker : record.worker = held.worker)
      (hboot : record.boot = held.boot) (halive : record.alive = true → held.alive = true) :
      Move ok l { l with workers := l.workers.insert worker record }
  | enrol (l : Ledger) (worker : WorkerId) (record : WorkerRecord) (hvalid : worker ≠ 0)
      (hworker : record.worker = worker)
      (hboot : ∀ held, l.workers.lookup worker = some held → held.boot < record.boot) :
      Move ok l { l with workers := l.workers.insert worker record }
  | retire (l : Ledger) (worker : WorkerId) (held : WorkerRecord)
      (hheld : l.workers.lookup worker = some held) :
      Move ok l
        { l with
          workers := Table.mapValues (fun _ r => r.retire worker held.boot) l.workers
          trace := .retired worker held.boot :: l.trace }
  | revive (l : Ledger) (worker : WorkerId) (held record : WorkerRecord)
      (hok : ok l (.revived worker held.boot))
      (hheld : l.workers.lookup worker = some held) (hworker : record.worker = held.worker)
      (hboot : record.boot = held.boot) :
      Move ok l
        { l with
          workers := l.workers.insert worker record
          trace := .revived worker held.boot :: l.trace }
  | settle (l : Ledger) (actions : Table ActionId ThermalAction) (h : l.SettledInto actions) :
      Move ok l { l with actions := actions }
  | authorize (l : Ledger) (action : ThermalAction) (hroom : Table.size l.actions < l.maxActions)
      (hid : action.id = advance l.actionGeneration) (hgeneration : action.generation = action.id)
      (hauthority : action.authority.actionId = action.id ∧
        action.authority.actionGeneration = action.id)
      (hlifecycle : action.lifecycle = .authorized) :
      Move ok l
        { l with
          actionGeneration := advance l.actionGeneration
          actions := l.actions.insert (advance l.actionGeneration) action }
  | dispatch (l : Ledger) (id : ActionId) (action : ThermalAction) (now : SteadyTimePoint)
      (hheld : l.actions.lookup id = some action) (hlifecycle : action.lifecycle = .authorized) :
      Move ok l
        { l with
          actions := l.actions.insert id
            { action with lifecycle := .dispatched, dispatchedAt := now }
          trace := .dispatched id now :: l.trace }
  | restore (l : Ledger) (action : ThermalAction) (hok : ok l (.restored action.id))
      (hterminal : action.lifecycle.isTerminal = true) :
      Move ok l
        { l with
          actions := l.actions.insert action.id action
          trace := .restored action.id :: l.trace }
  | restart (l : Ledger) (hok : ok l (.restarted (advance l.epoch))) :
      Move ok l
        { l with
          epoch := advance l.epoch
          evidence := ∅
          trace := .restarted (advance l.epoch) :: l.trace }

/-- A sequence of moves. -/
abbrev Moves (ok : Ledger → Event → Prop) : Ledger → Ledger → Prop :=
  Relation.ReflTransGen (Move ok)

variable {ok ok' : Ledger → Event → Prop} {l l' l'' : Ledger}

theorem Move.mono (hok : ∀ l e, ok l e → ok' l e) (h : Move ok l l') : Move ok' l l' := by
  cases h with
  | evaluate input e h => exact .evaluate l input e h
  | accept e h hfence hlater => exact .accept l e (hok _ _ h) hfence hlater
  | touch worker held record hheld hworker hboot halive =>
    exact .touch l worker held record hheld hworker hboot halive
  | enrol worker record hvalid hworker hboot =>
    exact .enrol l worker record hvalid hworker hboot
  | retire worker held hheld => exact .retire l worker held hheld
  | revive worker held record h hheld hworker hboot =>
    exact .revive l worker held record (hok _ _ h) hheld hworker hboot
  | settle actions h => exact .settle l actions h
  | authorize action hroom hid hgeneration hauthority hlifecycle =>
    exact .authorize l action hroom hid hgeneration hauthority hlifecycle
  | dispatch id action now hheld hlifecycle => exact .dispatch l id action now hheld hlifecycle
  | restore action h hterminal => exact .restore l action (hok _ _ h) hterminal
  | restart h => exact .restart l (hok _ _ h)

namespace Moves

theorem one (h : Move ok l l') : Moves ok l l' := Relation.ReflTransGen.single h

theorem mono (hok : ∀ l e, ok l e → ok' l e) (h : Moves ok l l') : Moves ok' l l' :=
  Relation.ReflTransGen.mono (fun _ _ => Move.mono hok) _ _ h

/-- **What every move preserves, every sequence of moves preserves.** -/
theorem invariant {I : Ledger → Prop} (hstep : ∀ l l', Move ok l l' → I l → I l')
    (h : Moves ok l l') (hl : I l) : I l' := preserved_of_reflTransGen hstep h hl

end Moves

/-! ### Settling -/

theorem settles_refl (a : ThermalAction) : a.Settles a := ⟨rfl, rfl, rfl, rfl, .inl rfl⟩

/-- An action of the settled table settles one of the table before. -/
theorem exists_settles {actions : Table ActionId ThermalAction} (h : l.SettledInto actions)
    {id : ActionId} {b : ThermalAction} (hb : actions.lookup id = some b) :
    ∃ a, l.actions.lookup id = some a ∧ a.Settles b := by
  have hrel := h id
  rw [hb] at hrel
  cases ha : l.actions.lookup id with
  | none =>
    rw [ha] at hrel
    cases hrel
  | some a =>
    rw [ha] at hrel
    cases hrel with
    | some hsettles => exact ⟨a, rfl, hsettles⟩

/-- Settling keeps the identities of the table. -/
theorem mem_settledInto {actions : Table ActionId ThermalAction} (h : l.SettledInto actions)
    {id : ActionId} : id ∈ actions ↔ id ∈ l.actions := by
  have hrel := h id
  rw [← AList.lookup_isSome, ← AList.lookup_isSome]
  generalize l.actions.lookup id = before at hrel ⊢
  generalize actions.lookup id = after at hrel ⊢
  cases hrel with
  | some hsettles => simp
  | none => simp

/-- Rewriting every action of the table settles it, when each rewriting does. -/
theorem settledInto_mapValues (l : Ledger) {f : ActionId → ThermalAction → ThermalAction}
    (h : ∀ id a, l.actions.lookup id = some a → a.Settles (f id a)) :
    l.SettledInto (Table.mapValues f l.actions) := by
  intro id
  rw [Table.lookup_mapValues]
  cases hheld : l.actions.lookup id with
  | none => exact .none
  | some a => exact .some (h id a hheld)

/-- Writing one action back settles the table, when it settles that action. -/
theorem settledInto_insert (l : Ledger) {id : ActionId} {a b : ThermalAction}
    (hheld : l.actions.lookup id = some a) (h : a.Settles b) :
    l.SettledInto (l.actions.insert id b) := by
  intro other
  rw [Table.lookup_insert_eq_ite]
  split
  · rename_i hother
    rw [hother, hheld]
    exact .some h
  · cases l.actions.lookup other with
    | none => exact .none
    | some c => exact .some (settles_refl c)

end Ledger

end ThermalGovernor
