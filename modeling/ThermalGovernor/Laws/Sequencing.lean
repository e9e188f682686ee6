import ThermalGovernor.Ledger.Run

/-!
# Sequences of one incarnation on one subject

Within one incarnation the sequence of a subject is to increase from one accepted
record to the next.  The coordinator compares a record with the one it holds for
the subject, and only when both are of one incarnation; of an incarnation whose
record was replaced it remembers nothing.

So the law is carried by an invariant about the held record alone (`HeldLater`), and
it holds in the runs in which an incarnation that published on a subject still owns
the record held for it whenever it publishes there again.
-/

namespace ThermalGovernor

open Lib Ledger

variable {ok : Ledger → Event → Prop} {l l' : Ledger} {e : ThermalEvidence}

theorem ThermalEvidence.sameIncarnation_iff {a b : ThermalEvidence} :
    a.sameIncarnation b = true ↔ a.worker = b.worker ∧ a.workerBoot = b.workerBoot := by
  simp [sameIncarnation]

/-- Two records are of one incarnation on one subject. -/
def ThermalEvidence.SameStream (a b : ThermalEvidence) : Prop :=
  a.subject.key = b.subject.key ∧ a.sameIncarnation b = true

namespace Ledger

/-- The record held for the subject is of the incarnation of `e`. -/
def Owns (l : Ledger) (e : ThermalEvidence) : Prop :=
  ∃ held, l.evidence.lookup e.subject.key = some held ∧ e.sameIncarnation held = true

/-- When the record held for the subject of `e` is of its incarnation, it is `e` or a later
one. -/
def HeldLater (e : ThermalEvidence) (l : Ledger) : Prop :=
  ∀ held, l.evidence.lookup e.subject.key = some held → e.sameIncarnation held = true →
    e.measurementSequence ≤ held.measurementSequence

/-- A record of the stream of `e` is accepted only where its incarnation owns the subject. -/
def AcceptsOwned (e : ThermalEvidence) (l : Ledger) : Event → Prop
  | .accepted incoming => e.SameStream incoming → l.Owns e
  | _ => True

/-- A record accepted in the stream of `e` where its incarnation owns the subject is later
than `e`. -/
theorem lt_of_heldLater (hl : HeldLater e l) {incoming : ThermalEvidence}
    (hstream : e.SameStream incoming) (howns : l.Owns e) (hlater : l.Later incoming) :
    e.measurementSequence < incoming.measurementSequence := by
  obtain ⟨held, hheld, hsame⟩ := howns
  have hle : e.measurementSequence ≤ held.measurementSequence := hl held hheld hsame
  have hlookup : l.evidence.lookup incoming.subject.key = some held := by
    rw [← hstream.1]
    exact hheld
  have hinc : held.sameIncarnation incoming = true := by
    have h := ThermalEvidence.sameIncarnation_iff.mp hsame
    have h' := ThermalEvidence.sameIncarnation_iff.mp hstream.2
    exact ThermalEvidence.sameIncarnation_iff.mpr ⟨h.1.symm.trans h'.1, h.2.symm.trans h'.2⟩
  exact lt_of_le_of_lt hle (hlater held hlookup hinc)

theorem heldLater_move (h : Move (AcceptsOwned e) l l') (hl : HeldLater e l) :
    HeldLater e l' := by
  cases h with
  | accept incoming hok hfence hlater =>
    intro held hheld hsame
    rw [Table.lookup_insert_eq_ite] at hheld
    split at hheld
    · rename_i hkey
      obtain rfl := Option.some.inj hheld
      have hstream : e.SameStream incoming := ⟨hkey, hsame⟩
      exact le_of_lt (lt_of_heldLater hl hstream (hok hstream) hlater)
    · exact hl held hheld hsame
  | restart =>
    intro held hheld
    cases hheld
  | evaluate | touch | enrol | retire | revive | settle | authorize | dispatch | restore =>
    exact hl

end Ledger

namespace Governor

variable {g g₁ g₂ : Governor}

/-- A record of the stream of `e` reaches the coordinator only while the record held for
the subject is of that incarnation. -/
def KeepsOwnership (e : ThermalEvidence) (g : Governor) (op : Operation) : Prop :=
  ∀ incoming, op.publication = some incoming → e.SameStream incoming → g.ledger.Owns e

theorem evidence_refresh (e : ThermalEvidence) (g : Governor) (domain : ThermalDomainId) :
    (refreshDomain e g domain).evidence = g.evidence := by
  unfold refreshDomain
  split
  · rfl
  · rw [(recomputeDomain_same _ domain).evidence]
    rfl

theorem evidence_foldl_refresh (e : ThermalEvidence) (domains : List ThermalDomainId)
    (g : Governor) : (domains.foldl (refreshDomain e) g).evidence = g.evidence := by
  induction domains generalizing g with
  | nil => rfl
  | cons domain rest ih => exact (ih _).trans (evidence_refresh e g domain)

theorem evidence_countPublication (g : Governor) (e : ThermalEvidence) :
    (g.countPublication e).evidence = g.evidence := by
  unfold countPublication
  split
  · rfl
  · split <;> rfl

theorem evidence_publishLocked (g : Governor) : g.publishLocked.evidence = g.evidence := rfl

/-- A commit stores the record, and what it recomputes leaves the evidence alone. -/
theorem evidence_commitEvidence (g : Governor) (e : ThermalEvidence) :
    (g.commitEvidence e).1.evidence = g.evidence.insert e.subject.key e := by
  have haccepted : (g.acceptEvidence e).evidence = g.evidence.insert e.subject.key e := rfl
  unfold commitEvidence
  dsimp only
  rw [evidence_publishLocked, (recomputeDomains_same _ _).evidence, evidence_foldl_refresh,
    evidence_countPublication, haccepted]

/-- An accepted record becomes the record held for its subject. -/
theorem lookup_evidence_of_accepts (h : g.accepts e = true) :
    (g.publishImpl e).1.evidence.lookup e.subject.key = some e := by
  rw [publishImpl_of_accepts h, evidence_commitEvidence]
  exact AList.lookup_insert g.evidence

/-- **Two records of one incarnation on one subject are accepted in the order of their
sequence**, in every run in which that incarnation owns the subject whenever it publishes
there. -/
theorem lt_of_accepts (hfirst : g.accepts e = true)
    (hrun : RunsUnder (KeepsOwnership e) (g.publishImpl e).1 g₂) {later : ThermalEvidence}
    (hstream : e.SameStream later) (howns : g₂.ledger.Owns e) (hlater : g₂.accepts later = true) :
    e.measurementSequence < later.measurementSequence := by
  have hheld : HeldLater e (g.publishImpl e).1.ledger := by
    intro held hlookup _
    have hself := lookup_evidence_of_accepts hfirst
    obtain rfl : held = e := Option.some.inj (hlookup.symm.trans hself)
    exact le_refl _
  have hheld₂ : HeldLater e g₂.ledger := by
    refine invariant_of_runsUnder hrun ?_ (fun _ _ => heldLater_move) hheld
    intro g op l event hkeeps hnotes
    cases event with
    | accepted incoming =>
      obtain ⟨hpublication, rfl⟩ := hnotes
      exact hkeeps incoming hpublication
    | evaluated | retired | revived | dispatched | restored | restarted => trivial
  exact lt_of_heldLater hheld₂ hstream howns (later_of_commit (accepts_eq_true.mp hlater).2.2)

section Deployment

open Deployment

/-- The deployment with two workers. -/
def twoWorkers : Governor := after [.registerWorker 1 1 "first", .registerWorker 2 1 "second"]

/-- One worker after the other, on a subject the first one owns. -/
theorem lt_of_accepts_twoWorkers :
    (readingBy 1 1 50 5 0).measurementSequence < (readingBy 1 1 51 6 10).measurementSequence := by
  have hself : (readingBy 1 1 50 5 0).SameStream (readingBy 1 1 51 6 10) := ⟨rfl, rfl⟩
  have hfirst : twoWorkers.accepts (readingBy 1 1 50 5 0) = true := by decide +kernel
  exact lt_of_accepts hfirst .refl hself ⟨_, lookup_evidence_of_accepts hfirst, rfl⟩
    (by decide +kernel)

/-- After a record of the second worker the first one's sequence may go back. -/
theorem accepts_replayed :
    ¬ ∀ (g g₂ : Governor) (e later : ThermalEvidence), g.Reachable → g.accepts e = true →
      Runs (g.publishImpl e).1 g₂ → e.SameStream later → g₂.accepts later = true →
        e.measurementSequence < later.measurementSequence := by
  intro h
  have hrun : Runs (twoWorkers.publishImpl (readingBy 1 1 50 5 0)).1
      ((twoWorkers.publishImpl (readingBy 1 1 50 5 0)).1.apply
        (.publishTemperature (readingBy 2 1 60 1 10))) :=
    RunUnder.tail (Operation.publishTemperature _) .refl trivial
  have hreplayed := h twoWorkers _ (readingBy 1 1 50 5 0) (readingBy 1 1 50 3 20)
    (reachable_after _) (by decide +kernel) hrun ⟨rfl, rfl⟩ (by decide +kernel)
  exact absurd hreplayed (by decide)

end Deployment

end Governor

end ThermalGovernor
