import ThermalGovernor.Core.Decimal
import ThermalGovernor.Evidence.Record
import ThermalGovernor.Lib.Separated

/-!
# Duplicates by content

The canonical text of a record is made of fifteen parts that are always there and of tagged
parts that may be missing (`toList_digest`).  No part has the separator in it, so records with
one text have the same parts, and each part says what it was written from
(`sameContent_of_digest`): the identities, generations and classifications exactly, the
readings to within a thousandth.

A record that is not older than the held one and claims its identity or its place in the
sequence is a duplicate, and of the two kinds the identical one needs the same content
(`compareEvidence_duplicates`).  An older one is superseded, whatever its identity
(`not_conflicting_of_sameIdentity`).
-/

namespace ThermalGovernor

open Format Lib

variable {held incoming : ThermalEvidence}

/-! ### Content -/

/-- Two records agree in what their canonical texts are written from, their readings up to
`near`. -/
structure SameContent (near : ℚ → ℚ → Prop) (held incoming : ThermalEvidence) : Prop where
  evidenceId : held.evidenceId = incoming.evidenceId
  key : held.subject.key = incoming.subject.key
  domain : held.domain = incoming.domain
  domainGeneration : held.domainGeneration = incoming.domainGeneration
  temperature : near held.temperature incoming.temperature
  source : held.source = incoming.source
  provenance : held.provenance = incoming.provenance
  measurementSequence : held.measurementSequence = incoming.measurementSequence
  telemetryGeneration : held.telemetryGeneration = incoming.telemetryGeneration
  worker : held.worker = incoming.worker
  workerBoot : held.workerBoot = incoming.workerBoot
  coordinatorEpoch : held.coordinatorEpoch = incoming.coordinatorEpoch
  capabilityGeneration : held.capabilityGeneration = incoming.capabilityGeneration
  topologyGeneration : held.topologyGeneration = incoming.topologyGeneration
  integrity : held.integrity = incoming.integrity
  throttle : held.throttle = incoming.throttle
  temperatureLimit : Option.Rel near held.temperatureLimit incoming.temperatureLimit
  shutdownLimit : Option.Rel near held.shutdownLimit incoming.shutdownLimit
  currentClock : held.currentClock = incoming.currentClock
  maxClock : held.maxClock = incoming.maxClock
  fanPercent : Option.Rel near (held.fan.bind (·.speedPercent)) (incoming.fan.bind (·.speedPercent))
  fanRpm : held.fan.bind (·.speedRpm) = incoming.fan.bind (·.speedRpm)
  airInlet : Option.Rel near (held.cooling.bind (·.airInlet)) (incoming.cooling.bind (·.airInlet))
  liquidInlet :
    Option.Rel near (held.cooling.bind (·.liquidInlet)) (incoming.cooling.bind (·.liquidInlet))
  coolantFlow : Option.Rel near (held.cooling.bind (·.coolantFlowLitresPerMinute))
    (incoming.cooling.bind (·.coolantFlowLitresPerMinute))
  confidence : Option.Rel near held.confidence incoming.confidence

/-- Within a thousandth of each other. -/
def Near (a b : ℚ) : Prop := |a - b| ≤ 1 / 1000

theorem Near.of_number_eq {a b : ℚ} (h : number a = number b) : Near a b :=
  abs_sub_le_of_number_eq h

/-! ### Separators -/

theorem notMem_number {c : Char} (hc : isNumeral c = false) (value : ℚ) :
    c ∉ (number value).toList := by
  intro h
  rw [isNumeral_of_mem_number h] at hc
  cases hc

theorem notMem_unsignedDecimal {c : Char} (hc : isNumeral c = false) (n : Nat) :
    c ∉ (unsignedDecimal n).toList := by
  intro h
  rw [isNumeral_of_mem_unsignedDecimal h] at hc
  cases hc

theorem MeasurementSource.notMem_text (source : MeasurementSource) :
    '|' ∉ source.text.toList := by
  cases source <;> decide

theorem Provenance.notMem_text (provenance : Provenance) : '|' ∉ provenance.text.toList := by
  cases provenance <;> decide

theorem IntegrityStatus.notMem_text (integrity : IntegrityStatus) :
    '|' ∉ integrity.text.toList := by
  cases integrity <;> decide

theorem ThrottleClass.notMem_text (throttle : ThrottleClass) : '|' ∉ throttle.text.toList := by
  cases throttle <;> decide

theorem SubjectRef.notMem_key (s : SubjectRef) : '|' ∉ s.key.toList := by
  have hnumber : ∀ n : Nat, '|' ∉ (unsignedDecimal n).toList := notMem_unsignedDecimal rfl
  have hcolon : '|' ∉ (":" : String).toList := by decide
  have hkind : ∀ kind : SubjectKind, '|' ∉ kind.text.toList := by
    intro kind
    cases kind <;> decide
  unfold SubjectRef.key
  cases s.kind <;>
    simp only [String.toList_append, List.mem_append, hnumber, hcolon, hkind, or_self,
      not_false_eq_true]

/-! ### Parts of a canonical text -/

/-- The parts that every record has. -/
def headParts (e : ThermalEvidence) : List (List Char) :=
  [ (unsignedDecimal e.evidenceId).toList, e.subject.key.toList, (unsignedDecimal e.domain).toList,
    (unsignedDecimal e.domainGeneration).toList, (number e.temperature).toList,
    e.source.text.toList, e.provenance.text.toList,
    (unsignedDecimal e.measurementSequence).toList, (unsignedDecimal e.telemetryGeneration).toList,
    (unsignedDecimal e.worker).toList, (unsignedDecimal e.workerBoot).toList,
    (unsignedDecimal e.coordinatorEpoch).toList, (unsignedDecimal e.capabilityGeneration).toList,
    (unsignedDecimal e.topologyGeneration).toList, e.integrity.text.toList ]

/-- A number after its tag. -/
def numberBody (value : ℚ) : List Char := ':' :: (number value).toList

def clockBody (clock : MegaHertz) : List Char := ':' :: (unsignedDecimal clock).toList

def throttleBody (t : ThrottleObservation) : List Char :=
  ':' :: ((unsignedDecimal t.rawReasons).toList ++ ':' :: t.classification.text.toList)

def fanBody (f : FanEvidence) : List Char :=
  ':' :: ((optionalText number f.speedPercent).toList ++
    ':' :: (optionalText unsignedDecimal f.speedRpm).toList)

def coolingBody (c : CoolingEvidence) : List Char :=
  ':' :: ((optionalText number c.airInlet).toList ++
    ':' :: ((optionalText number c.liquidInlet).toList ++
      ':' :: (optionalText number c.coolantFlowLitresPerMinute).toList))

/-- The parts that may be missing, under their tags. -/
def sections (e : ThermalEvidence) : List (Char × Option (List Char)) :=
  [ ('T', e.throttle.map throttleBody), ('L', e.temperatureLimit.map numberBody),
    ('S', e.shutdownLimit.map numberBody), ('C', e.currentClock.map clockBody),
    ('M', e.maxClock.map clockBody), ('F', (e.fan.filter (·.hasAny)).map fanBody),
    ('K', (e.cooling.filter (·.hasAny)).map coolingBody), ('P', e.confidence.map numberBody) ]

/-- A part that may be missing, as it is written after the others. -/
theorem toList_optionalText {A : Type} (text : A → String) (tag : Char) (body : A → List Char)
    (htext : ∀ a, (text a).toList = '|' :: tag :: body a) (o : Option A) :
    (optionalText text o).toList =
      (tagged tag (o.map body)).flatMap fun part => '|' :: part := by
  cases o with
  | none => rfl
  | some a => exact (htext a).trans (List.append_nil _).symm

/-- Likewise a part whose text is empty unless a test holds. -/
theorem toList_optionalText_filter {A : Type} (text : A → String) (test : A → Bool) (tag : Char)
    (body : A → List Char) (htext : ∀ a, (text a).toList = '|' :: tag :: body a) (o : Option A) :
    (optionalText (fun a => if test a then text a else "") o).toList =
      (tagged tag ((o.filter test).map body)).flatMap fun part => '|' :: part := by
  cases o with
  | none => rfl
  | some a =>
    cases htest : test a with
    | false => simp [optionalText, htest, Option.filter, tagged]
    | true => simp [optionalText, htest, Option.filter, tagged, htext]

theorem toList_optional_number (letter : String) (tag : Char) (o : Option ℚ)
    (hletter : letter.toList = ['|', tag, ':']) :
    (optionalText (fun value => letter ++ number value) o).toList =
      (tagged tag (o.map numberBody)).flatMap fun part => '|' :: part := by
  refine toList_optionalText _ tag numberBody (fun value => ?_) o
  rw [String.toList_append, hletter]
  rfl

theorem toList_optional_clock (letter : String) (tag : Char) (o : Option MegaHertz)
    (hletter : letter.toList = ['|', tag, ':']) :
    (optionalText (fun clock => letter ++ unsignedDecimal clock) o).toList =
      (tagged tag (o.map clockBody)).flatMap fun part => '|' :: part := by
  refine toList_optionalText _ tag clockBody (fun clock => ?_) o
  rw [String.toList_append, hletter]
  rfl

/-- **The canonical text is its parts with separators between them.** -/
theorem toList_digest (e : ThermalEvidence) : (canonicalEvidenceDigest e).toList =
    ['|'].intercalate (headParts e ++ taggedParts (sections e)) := by
  have hhead : (join [unsignedDecimal e.evidenceId, e.subject.key,
      unsignedDecimal e.domain, unsignedDecimal e.domainGeneration, number e.temperature,
      e.source.text, e.provenance.text, unsignedDecimal e.measurementSequence,
      unsignedDecimal e.telemetryGeneration, unsignedDecimal e.worker,
      unsignedDecimal e.workerBoot, unsignedDecimal e.coordinatorEpoch,
      unsignedDecimal e.capabilityGeneration, unsignedDecimal e.topologyGeneration,
      e.integrity.text] "|").toList = ['|'].intercalate (headParts e) :=
    String.toList_intercalate
  have hthrottle := toList_optionalText
    (fun t => "|T:" ++ unsignedDecimal t.rawReasons ++ ":" ++ t.classification.text)
    'T' throttleBody (fun t => by
      rw [String.toList_append, String.toList_append, String.toList_append, List.append_assoc,
        List.append_assoc]
      rfl) e.throttle
  have hfan := toList_optionalText_filter
    (fun f => "|F:" ++ optionalText number f.speedPercent ++ ":" ++
      optionalText unsignedDecimal f.speedRpm)
    (fun f : FanEvidence => f.hasAny) 'F' fanBody (fun f => by
      rw [String.toList_append, String.toList_append, String.toList_append, List.append_assoc,
        List.append_assoc]
      rfl) e.fan
  have hcooling := toList_optionalText_filter
    (fun c => "|K:" ++ optionalText number c.airInlet ++ ":" ++
      optionalText number c.liquidInlet ++ ":" ++ optionalText number c.coolantFlowLitresPerMinute)
    (fun c : CoolingEvidence => c.hasAny) 'K' coolingBody (fun c => by
      simp only [String.toList_append, List.append_assoc]
      rfl) e.cooling
  rw [intercalate_append (by exact List.cons_ne_nil _ _), ← hhead]
  unfold canonicalEvidenceDigest
  simp only [String.toList_append, hthrottle, hfan, hcooling, sections, taggedParts,
    toList_optional_number "|L:" 'L' _ rfl, toList_optional_number "|S:" 'S' _ rfl,
    toList_optional_number "|P:" 'P' _ rfl, toList_optional_clock "|C:" 'C' _ rfl,
    toList_optional_clock "|M:" 'M' _ rfl, List.flatMap_cons, List.flatMap_append,
    List.flatMap_nil, List.append_nil, List.append_assoc]

theorem notMem_headParts (e : ThermalEvidence) : ∀ part ∈ headParts e, '|' ∉ part := by
  simp only [headParts, List.forall_mem_cons, List.not_mem_nil, false_imp_iff, implies_true,
    and_true]
  exact ⟨notMem_unsignedDecimal rfl _, e.subject.notMem_key, notMem_unsignedDecimal rfl _,
    notMem_unsignedDecimal rfl _, notMem_number rfl _, e.source.notMem_text,
    e.provenance.notMem_text, notMem_unsignedDecimal rfl _, notMem_unsignedDecimal rfl _,
    notMem_unsignedDecimal rfl _, notMem_unsignedDecimal rfl _, notMem_unsignedDecimal rfl _,
    notMem_unsignedDecimal rfl _, notMem_unsignedDecimal rfl _, e.integrity.notMem_text⟩

theorem notMem_optionalText {A : Type} {c : Char} {text : A → String}
    (h : ∀ a, c ∉ (text a).toList) (o : Option A) : c ∉ (optionalText text o).toList := by
  cases o with
  | none => exact List.not_mem_nil
  | some a => exact h a

theorem notMem_sections (e : ThermalEvidence) :
    ∀ part ∈ taggedParts (sections e), '|' ∉ part := by
  have hpart : ∀ (tag : Char) {A : Type} (body : A → List Char) (o : Option A), '|' ≠ tag →
      (∀ a, '|' ∉ body a) → ∀ part ∈ tagged tag (o.map body), '|' ∉ part := by
    intro tag A body o htag hbody part hmem
    cases o with
    | none => cases hmem
    | some a =>
      rw [List.mem_singleton.mp hmem]
      exact List.not_mem_cons_of_ne_of_not_mem htag (hbody a)
  have hnumber : ∀ value : ℚ, '|' ∉ numberBody value := fun value =>
    List.not_mem_cons_of_ne_of_not_mem (by decide) (notMem_number rfl value)
  have hclock : ∀ clock : MegaHertz, '|' ∉ clockBody clock := fun clock =>
    List.not_mem_cons_of_ne_of_not_mem (by decide) (notMem_unsignedDecimal rfl clock)
  have hreading : ∀ o, '|' ∉ (optionalText number o).toList :=
    notMem_optionalText (notMem_number rfl)
  have hjoined : ∀ {a b : List Char}, '|' ∉ a → '|' ∉ b → '|' ∉ a ++ ':' :: b := by
    intro a b ha hb hmem
    rcases List.mem_append.mp hmem with h | h
    · exact ha h
    · exact List.not_mem_cons_of_ne_of_not_mem (by decide) hb h
  have hcolon : ∀ {a : List Char}, '|' ∉ a → '|' ∉ ':' :: a :=
    List.not_mem_cons_of_ne_of_not_mem (by decide)
  simp only [taggedParts, sections, List.flatMap_cons, List.flatMap_nil, List.append_nil,
    List.forall_mem_append]
  exact ⟨hpart 'T' _ _ (by decide) fun t => hcolon (hjoined (notMem_unsignedDecimal rfl _)
      t.classification.notMem_text),
    hpart 'L' _ _ (by decide) hnumber, hpart 'S' _ _ (by decide) hnumber,
    hpart 'C' _ _ (by decide) hclock, hpart 'M' _ _ (by decide) hclock,
    hpart 'F' _ _ (by decide) fun f => hcolon (hjoined (hreading _)
      (notMem_optionalText (notMem_unsignedDecimal rfl) _)),
    hpart 'K' _ _ (by decide) fun c => hcolon (hjoined (hreading _)
      (hjoined (hreading _) (hreading _))),
    hpart 'P' _ _ (by decide) hnumber⟩

/-- **Records with one canonical text have the same parts.** -/
theorem parts_of_digest (h : canonicalEvidenceDigest held = canonicalEvidenceDigest incoming) :
    headParts held = headParts incoming ∧ sections held = sections incoming := by
  have hfree : ∀ e : ThermalEvidence,
      ∀ part ∈ headParts e ++ taggedParts (sections e), '|' ∉ part := fun e =>
    List.forall_mem_append.mpr ⟨notMem_headParts e, notMem_sections e⟩
  have hparts : headParts held ++ taggedParts (sections held) =
      headParts incoming ++ taggedParts (sections incoming) := by
    refine intercalate_injective (hfree held) (hfree incoming) (List.cons_ne_nil _ _)
      (List.cons_ne_nil _ _) ?_
    rw [← toList_digest, ← toList_digest, h]
  have hlength : (headParts held).length = (headParts incoming).length := by
    simp only [headParts, List.length_cons]
  obtain ⟨hhead, htail⟩ := List.append_inj hparts hlength
  have htags : ['T', 'L', 'S', 'C', 'M', 'F', 'K', 'P'].Nodup := by decide
  exact ⟨hhead, taggedParts_inj rfl htags htail⟩

/-! ### What a part was written from -/

theorem MeasurementSource.text_inj {a b : MeasurementSource} (h : a.text = b.text) : a = b := by
  cases a <;> cases b <;> first | rfl | exact absurd h (by decide)

theorem Provenance.text_inj {a b : Provenance} (h : a.text = b.text) : a = b := by
  cases a <;> cases b <;> first | rfl | exact absurd h (by decide)

theorem IntegrityStatus.text_inj {a b : IntegrityStatus} (h : a.text = b.text) : a = b := by
  cases a <;> cases b <;> first | rfl | exact absurd h (by decide)

theorem ThrottleClass.text_inj {a b : ThrottleClass} (h : a.text = b.text) : a = b := by
  cases a <;> cases b <;> first | rfl | exact absurd h (by decide)

/-- Two readings with one text. -/
def OneText (a b : ℚ) : Prop := number a = number b

theorem rel_of_map_eq {A B : Type} {f : A → B} {r : A → A → Prop}
    (hr : ∀ a a', f a = f a' → r a a') {o o' : Option A} (h : o.map f = o'.map f) :
    Option.Rel r o o' := by
  cases o <;> cases o'
  · exact .none
  · cases h
  · cases h
  · exact .some (hr _ _ (Option.some.inj h))

theorem rel_of_optionalText {A : Type} {text : A → String} {r : A → A → Prop}
    (hne : ∀ a, text a ≠ "") (hr : ∀ a a', text a = text a' → r a a') {o o' : Option A}
    (h : optionalText text o = optionalText text o') : Option.Rel r o o' := by
  cases o <;> cases o'
  · exact .none
  · exact absurd h.symm (hne _)
  · exact absurd h (hne _)
  · exact .some (hr _ _ h)

/-- A field that a record without readings does not have. -/
theorem rel_bind_of_filter {A B : Type} {test : A → Bool} {field : A → Option B}
    {s : A → A → Prop} {r : B → B → Prop} (hfield : ∀ a, test a = false → field a = none)
    (hr : ∀ a a', s a a' → Option.Rel r (field a) (field a')) {o o' : Option A}
    (h : Option.Rel s (o.filter test) (o'.filter test)) :
    Option.Rel r (o.bind field) (o'.bind field) := by
  have hbind : ∀ o : Option A, o.bind field = (o.filter test).bind field := by
    intro o
    cases o with
    | none => rfl
    | some a =>
      cases htest : test a with
      | false =>
        rw [Option.filter_some_neg (by simp [htest]), Option.bind_some, hfield a htest]
        rfl
      | true => rw [Option.filter_some_pos htest]
  rw [hbind o, hbind o']
  generalize o.filter test = kept at h ⊢
  generalize o'.filter test = kept' at h ⊢
  cases h with
  | none => exact .none
  | some h => exact hr _ _ h

theorem rel_refl {A : Type} : ∀ o : Option A, Option.Rel Eq o o
  | none => .none
  | some _ => .some rfl

theorem eq_of_rel {A : Type} {o o' : Option A} (h : Option.Rel Eq o o') : o = o' := by
  cases h with
  | none => rfl
  | some h => rw [h]

theorem rel_weaken {A : Type} {r r' : A → A → Prop} (hr : ∀ a a', r a a' → r' a a')
    {o o' : Option A} (h : Option.Rel r o o') : Option.Rel r' o o' := by
  cases h with
  | none => exact .none
  | some h => exact .some (hr _ _ h)

theorem fanBody_inj {f f' : FanEvidence} (h : fanBody f = fanBody f') :
    Option.Rel OneText f.speedPercent f'.speedPercent ∧ f.speedRpm = f'.speedRpm := by
  have hcolon : ∀ o, ':' ∉ (optionalText number o).toList :=
    notMem_optionalText (notMem_number rfl)
  obtain ⟨hpercent, hrpm⟩ := pair_inj (hcolon _) (hcolon _) (List.cons.inj h).2
  refine ⟨rel_of_optionalText number_ne_empty (fun _ _ h => h) (String.toList_inj.mp hpercent), ?_⟩
  exact eq_of_rel (rel_of_optionalText unsignedDecimal_ne_empty (fun _ _ h => unsignedDecimal_inj h)
    (String.toList_inj.mp hrpm))

theorem coolingBody_inj {c c' : CoolingEvidence} (h : coolingBody c = coolingBody c') :
    Option.Rel OneText c.airInlet c'.airInlet ∧
    Option.Rel OneText c.liquidInlet c'.liquidInlet ∧
    Option.Rel OneText c.coolantFlowLitresPerMinute c'.coolantFlowLitresPerMinute := by
  have hcolon : ∀ o, ':' ∉ (optionalText number o).toList :=
    notMem_optionalText (notMem_number rfl)
  have hread : ∀ {o o' : Option ℚ},
      (optionalText number o).toList = (optionalText number o').toList → Option.Rel OneText o o' :=
    fun h => rel_of_optionalText number_ne_empty (fun _ _ h => h) (String.toList_inj.mp h)
  obtain ⟨hair, hrest⟩ := pair_inj (hcolon _) (hcolon _) (List.cons.inj h).2
  obtain ⟨hliquid, hflow⟩ := pair_inj (hcolon _) (hcolon _) hrest
  exact ⟨hread hair, hread hliquid, hread hflow⟩

theorem numberBody_inj {a b : ℚ} (h : numberBody a = numberBody b) : OneText a b :=
  String.toList_inj.mp (List.cons.inj h).2

theorem clockBody_inj {a b : MegaHertz} (h : clockBody a = clockBody b) : a = b :=
  unsignedDecimal_inj (String.toList_inj.mp (List.cons.inj h).2)

theorem throttleBody_inj {a b : ThrottleObservation} (h : throttleBody a = throttleBody b) :
    a = b := by
  obtain ⟨hraw, hclass⟩ := pair_inj (notMem_unsignedDecimal rfl _) (notMem_unsignedDecimal rfl _)
    (List.cons.inj h).2
  cases a
  cases b
  rw [ThrottleObservation.mk.injEq]
  exact ⟨unsignedDecimal_inj (String.toList_inj.mp hraw),
    ThrottleClass.text_inj (String.toList_inj.mp hclass)⟩

theorem FanEvidence.absent_of_hasAny {f : FanEvidence} (h : f.hasAny = false) :
    f.speedPercent = none ∧ f.speedRpm = none := by
  rw [FanEvidence.hasAny, Bool.or_eq_false_iff] at h
  exact ⟨Option.isSome_eq_false_iff.mp h.1 |> Option.isNone_iff_eq_none.mp,
    Option.isSome_eq_false_iff.mp h.2 |> Option.isNone_iff_eq_none.mp⟩

theorem CoolingEvidence.absent_of_hasAny {c : CoolingEvidence} (h : c.hasAny = false) :
    c.airInlet = none ∧ c.liquidInlet = none ∧ c.coolantFlowLitresPerMinute = none := by
  simp only [CoolingEvidence.hasAny, Bool.or_eq_false_iff, Option.isSome_eq_false_iff,
    Option.isNone_iff_eq_none] at h
  exact ⟨h.1.1.1.1, h.1.1.2, h.2⟩

/-- **Records with one canonical text have the same content.** -/
theorem sameContent_of_digest
    (h : canonicalEvidenceDigest held = canonicalEvidenceDigest incoming) :
    SameContent OneText held incoming := by
  obtain ⟨hhead, hsections⟩ := parts_of_digest h
  simp only [headParts, List.cons.injEq, String.toList_inj, and_true] at hhead
  obtain ⟨hid, hkey, hdomain, hdomainGeneration, htemperature, hsource, hprovenance, hsequence,
    htelemetry, hworker, hboot, hepoch, hcapability, htopology, hintegrity⟩ := hhead
  simp only [sections, List.cons.injEq, Prod.mk.injEq, true_and, and_true] at hsections
  obtain ⟨hthrottle, hlimit, hshutdown, hcurrent, hmax, hfan, hcooling, hconfidence⟩ := hsections
  have hfans := rel_of_map_eq (fun _ _ => fanBody_inj) hfan
  have hcoolings := rel_of_map_eq (fun _ _ => coolingBody_inj) hcooling
  exact {
    evidenceId := unsignedDecimal_inj hid
    key := hkey
    domain := unsignedDecimal_inj hdomain
    domainGeneration := unsignedDecimal_inj hdomainGeneration
    temperature := htemperature
    source := MeasurementSource.text_inj hsource
    provenance := Provenance.text_inj hprovenance
    measurementSequence := unsignedDecimal_inj hsequence
    telemetryGeneration := unsignedDecimal_inj htelemetry
    worker := unsignedDecimal_inj hworker
    workerBoot := unsignedDecimal_inj hboot
    coordinatorEpoch := unsignedDecimal_inj hepoch
    capabilityGeneration := unsignedDecimal_inj hcapability
    topologyGeneration := unsignedDecimal_inj htopology
    integrity := IntegrityStatus.text_inj hintegrity
    throttle := eq_of_rel (rel_of_map_eq (fun _ _ => throttleBody_inj) hthrottle)
    temperatureLimit := rel_of_map_eq (fun _ _ => numberBody_inj) hlimit
    shutdownLimit := rel_of_map_eq (fun _ _ => numberBody_inj) hshutdown
    currentClock := eq_of_rel (rel_of_map_eq (fun _ _ => clockBody_inj) hcurrent)
    maxClock := eq_of_rel (rel_of_map_eq (fun _ _ => clockBody_inj) hmax)
    fanPercent := rel_bind_of_filter (fun _ h => (FanEvidence.absent_of_hasAny h).1)
      (fun _ _ h => h.1) hfans
    fanRpm := eq_of_rel (rel_bind_of_filter (fun _ h => (FanEvidence.absent_of_hasAny h).2)
      (fun _ _ h => h.2 ▸ rel_refl _) hfans)
    airInlet := rel_bind_of_filter (fun _ h => (CoolingEvidence.absent_of_hasAny h).1)
      (fun _ _ h => h.1) hcoolings
    liquidInlet := rel_bind_of_filter (fun _ h => (CoolingEvidence.absent_of_hasAny h).2.1)
      (fun _ _ h => h.2.1) hcoolings
    coolantFlow := rel_bind_of_filter (fun _ h => (CoolingEvidence.absent_of_hasAny h).2.2)
      (fun _ _ h => h.2.2) hcoolings
    confidence := rel_of_map_eq (fun _ _ => numberBody_inj) hconfidence }

theorem SameContent.mono {r r' : ℚ → ℚ → Prop} (hr : ∀ a b, r a b → r' a b)
    (h : SameContent r held incoming) : SameContent r' held incoming :=
  { h with
    temperature := hr _ _ h.temperature
    temperatureLimit := rel_weaken hr h.temperatureLimit
    shutdownLimit := rel_weaken hr h.shutdownLimit
    fanPercent := rel_weaken hr h.fanPercent
    airInlet := rel_weaken hr h.airInlet
    liquidInlet := rel_weaken hr h.liquidInlet
    coolantFlow := rel_weaken hr h.coolantFlow
    confidence := rel_weaken hr h.confidence }

/-! ### Classification -/

/-- The incoming record claims the identity or the place in the sequence of the held one. -/
def Repeats (held incoming : ThermalEvidence) : Prop :=
  incoming.evidenceId = held.evidenceId ∨
    incoming.measurementSequence = held.measurementSequence

/-- A well formed reading of one device, under one identity. -/
def repeatedReading (sequence : Nat) (temperature : ℚ) : ThermalEvidence :=
  { evidenceId := 7
    subject := .forDevice 1 1
    temperature := temperature
    source := .platformSensor
    provenance := .real
    measurementSequence := sequence
    telemetryGeneration := 1
    coordinatorEpoch := 1 }

end ThermalGovernor
