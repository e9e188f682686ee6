import Mathlib.Data.List.GetD
import ThermalGovernor.Durable.RoundTrip
import ThermalGovernor.Wire.Sound

/-!
# Laws of the wire format

`roundTrips` : what is within the bounds of the decoders comes back, in each of the five formats.
`acceptsImage_iff` : which buffers the decoder of evidence is right about.  It accepts what the
encoder writes, and the nine bytes of an identity and of a kind that names none.
-/

namespace ThermalGovernor

open Lib Lib.Bytes Lib.Decoder Lib.Input

namespace Wire

/-! ### There and back -/

/-- **Whatever is within the bounds of the decoders comes back from the wire.**  Evidence comes
back without its freshness, and an action with the fields that the format carries. -/
theorem roundTrips (limits : WireLimits) :
    (∀ e : ThermalEvidence Double, FitsAll Reader (writeEvidence e) → EvidenceBounds e →
      decodeEvidence (encodeEvidence e) = .ok (forgetFreshness e)) ∧
    (∀ action : ThermalAction Double, FitsAll Reader (writeAction action) →
      ActionBounds limits action →
      decodeAction limits (encodeAction action) = .ok (carried action)) ∧
    (∀ ack : ActionAck, FitsAll Reader (writeAck ack) →
      ack.detail.length ≤ limits.maxStringBytes →
      decodeActionAck limits (encodeActionAck ack) = .ok ack) ∧
    (∀ result : ActionResult, FitsAll Reader (writeResult result) →
      result.detail.length ≤ limits.maxStringBytes →
      decodeActionResult limits (encodeActionResult result) = .ok result) ∧
    (∀ registration : WorkerRegistration, FitsAll Reader (writeRegistration registration) →
      RegistrationBounds limits registration →
      decodeWorkerRegistration limits (encodeWorkerRegistration registration) =
        .ok registration) := by
  refine ⟨fun e hfits => ?_, fun action hfits => ?_, fun ack hfits => ?_,
    fun result hfits => ?_, fun registration hfits => ?_⟩
  · exact decodeWith_of_exact (exact_evidence hfits)
  · exact decodeWith_of_exact (exact_action hfits)
  · exact decodeWith_of_exact (exact_ack hfits)
  · exact decodeWith_of_exact (exact_result hfits)
  · exact decodeWith_of_exact (exact_registration hfits)

/-- Forty degrees, with a fan at half its speed. -/
def fanned : ThermalEvidence Double where
  evidenceId := 1
  temperature := ⟨0x4044000000000000⟩
  temperatureLimit := some ⟨0x4056800000000000⟩
  fan := some { fanCount := 2, speedPercent := some ⟨0x4049000000000000⟩ }

/-- Half of the admission, and no limit on the clock. -/
def halved : ThermalAction Double where
  id := 1
  intent := .requestAdmissionReduction
  requestedAdmission := some ⟨0x4049000000000000⟩
  detail := "warm"

def announced : WorkerRegistration where
  worker := 1
  boot := 1
  label := "rack"
  devices := [{ device := 1, label := "gpu" }, { device := 2, label := "gpu" }]

theorem roundTrips_values :
    decodeEvidence (encodeEvidence fanned) = .ok fanned ∧
    decodeAction {} (encodeAction halved) = .ok halved ∧
    decodeActionAck {} (encodeActionAck { actionId := 1 }) = .ok { actionId := 1 } ∧
    decodeActionResult {} (encodeActionResult { actionId := 1 }) = .ok { actionId := 1 } ∧
    decodeWorkerRegistration {} (encodeWorkerRegistration announced) = .ok announced := by
  obtain ⟨hevidence, haction, hack, hresult, hregistration⟩ := roundTrips {}
  refine ⟨hevidence fanned (by decide +kernel) ⟨by decide +kernel, ?_, ?_, ?_⟩,
    haction halved (by decide +kernel) ⟨?_, ?_, by decide +kernel⟩,
    hack _ (by decide +kernel) (by decide +kernel),
    hresult _ (by decide +kernel) (by decide +kernel),
    hregistration announced (by decide +kernel) ⟨by decide +kernel, by decide, ?_⟩⟩
  · rintro _ ⟨⟩
    decide +kernel
  · rintro _ ⟨⟩
  · rintro _ ⟨⟩
  · rintro _ ⟨⟩
  · rintro _ ⟨⟩
    decide +kernel
  · simp only [announced, List.forall_mem_cons]
    exact ⟨⟨by decide +kernel, by decide +kernel⟩, ⟨by decide +kernel, by decide +kernel⟩,
      List.forall_mem_nil _⟩

/-! ### What is accepted -/

/-- A buffer that is accepted as evidence is the encoding of what it is decoded to. -/
def AcceptsImage (bytes : Bytes) : Prop :=
  ∀ e, decodeEvidence bytes = .ok e → encodeEvidence e = bytes

/-- The buffer ends with the kind of the subject, and the kind names none. -/
def StopsAtKind (bytes : Bytes) : Prop :=
  bytes.length = 9 ∧ SubjectKind.thermalDomain.ctorIdx < (bytes.getD 8 0).toNat

theorem canonical_optionalPayload {α : Type} {w : α → Payload Double}
    (h : ∀ a, ∀ f ∈ w a, f.Canonical) (o : Option α) :
    ∀ f ∈ optionalPayload w o, f.Canonical := by
  cases o with
  | none => exact List.forall_mem_singleton.mpr trivial
  | some a => exact List.forall_mem_cons.mpr ⟨trivial, h a⟩

theorem canonical_optionalField {α : Type} {k : α → Lib.Field Double}
    (h : ∀ a, (k a).Canonical) (o : Option α) : ∀ f ∈ optionalField k o, f.Canonical := by
  rw [optionalField_eq]
  exact canonical_optionalPayload (fun a => List.forall_mem_singleton.mpr (h a)) o

theorem canonical_writeThrottle (observation : ThrottleObservation) :
    ∀ f ∈ (writeThrottle observation : Payload Double), f.Canonical := by
  simp [writeThrottle, Lib.Field.Canonical]

theorem canonical_real (o : Option Double) : ∀ f ∈ optionalField .real o, f.Canonical :=
  canonical_optionalField (k := .real) (fun _ => trivial) o

theorem canonical_u32 (o : Option Nat) :
    ∀ f ∈ (optionalField .u32 o : Payload Double), f.Canonical :=
  canonical_optionalField (k := .u32) (fun _ => trivial) o

theorem canonical_writeCooling (cooling : CoolingEvidence Double) :
    ∀ f ∈ writeCooling cooling, f.Canonical := by
  simp only [writeCooling, List.forall_mem_append, List.forall_mem_singleton]
  exact ⟨⟨⟨⟨⟨⟨trivial, canonical_real _⟩, canonical_real _⟩, canonical_real _⟩,
    canonical_real _⟩, canonical_real _⟩, trivial⟩

theorem canonical_writeFan (fan : FanEvidence Double) :
    ∀ f ∈ writeFan fan, f.Canonical := by
  simp only [writeFan, List.forall_mem_append, List.forall_mem_singleton]
  exact ⟨⟨⟨trivial, canonical_real _⟩, canonical_u32 _⟩, trivial⟩

/-- Evidence has no field that could be written otherwise. -/
theorem canonical_writeEvidence (e : ThermalEvidence Double) :
    ∀ f ∈ writeEvidence e, f.Canonical := by
  simp only [writeEvidence, List.forall_mem_append]
  refine ⟨⟨⟨⟨⟨⟨⟨⟨⟨⟨?_, ?_⟩, ?_⟩, ?_⟩, canonical_real _⟩, canonical_real _⟩, canonical_u32 _⟩,
    canonical_u32 _⟩, ?_⟩, ?_⟩, canonical_real _⟩
  · simp [Lib.Field.Canonical]
  · simp [Durable.writeSubject, Lib.Field.Canonical]
  · simp [Lib.Field.Canonical]
  · exact canonical_optionalPayload canonical_writeThrottle e.throttle
  · exact canonical_optionalPayload canonical_writeCooling e.cooling
  · exact canonical_optionalPayload canonical_writeFan e.fan

/-- The identity and the subject alone are longer than what stops at the kind. -/
theorem lt_length_encodeEvidence (e : ThermalEvidence Double) : 9 < (encodeEvidence e).length := by
  rw [encodeEvidence, Payload.length_bytes, writeEvidence_eq]
  simp only [Durable.writeSubject, List.cons_append, List.nil_append, Payload.byteSize,
    Lib.Field.byteSize]
  omega

/-- A buffer that stops at the kind is accepted, with its identity and nothing else. -/
theorem decodeEvidence_of_stopsAtKind {bytes : Bytes} (h : StopsAtKind bytes) :
    ∃ id, decodeEvidence bytes = .ok { evidenceId := id, temperature := 0 } := by
  obtain ⟨hlength, hkind⟩ := h
  have hlast : (bytes.drop 8).length = 1 := by
    rw [List.length_drop]
    omega
  obtain ⟨kind, hdrop⟩ := List.length_eq_one_iff.mp hlast
  have hbytes : bytes = bytes.take 8 ++ [kind] := by rw [← hdrop, List.take_append_drop]
  have hfirst : (bytes.take 8).length = 8 := by
    rw [List.length_take]
    omega
  rw [hbytes, List.getD_append_right _ _ _ _ hfirst.le, hfirst] at hkind
  refine ⟨ofWord (bytes.take 8), ?_⟩
  rw [decodeEvidence, decodeWith_eq_ok]
  simp only [readEvidence, u64, yields_field_iff, yields_bind (d := readSubject), Kind.field,
    Kind.Accepts, true_and]
  refine ⟨ofWord (bytes.take 8), ⟨[kind], true⟩, ⟨bytes.take 8, ⟨hfirst, rfl⟩, ?_⟩, none,
    Input.empty, yields_readSubject_none.mpr ⟨kind.toNat, ⟨[kind], ⟨rfl, ?_⟩, rfl⟩, hkind, rfl⟩,
    yields_pure.mpr ⟨rfl, rfl, rfl⟩⟩
  · rw [← hbytes]
  · rw [ofWord, ofWord, Nat.mul_zero, Nat.add_zero]

/-- **Everything that is accepted as evidence is the encoding of what it is decoded to, except for
the buffers that stop at a kind that names none.** -/
theorem acceptsImage_iff (bytes : Bytes) : AcceptsImage bytes ↔ ¬ StopsAtKind bytes := by
  constructor
  · intro himage hstops
    obtain ⟨id, hdecode⟩ := decodeEvidence_of_stopsAtKind hstops
    have hlt := lt_length_encodeEvidence { evidenceId := id, temperature := 0 }
    rw [himage _ hdecode, hstops.1] at hlt
    exact absurd hlt (lt_irrefl _)
  · intro hstops e hdecode
    rw [decodeEvidence, decodeWith_eq_ok] at hdecode
    obtain hfront | ⟨id, kind, c₁, ⟨first, hid, hbytes⟩, ⟨last, hkind, hc₁⟩, hlt⟩ :=
      yields_readEvidence hdecode
    · have hreader := Reader.eq_of_front (canonical_writeEvidence e) hfront
      exact (List.append_nil _).symm.trans (congrArg Reader.rest hreader).symm
    · obtain ⟨hfirst, -⟩ := hid
      obtain ⟨hlast, rfl⟩ := hkind
      subst hc₁
      obtain rfl : bytes = first ++ (last ++ []) := congrArg Reader.rest hbytes
      obtain ⟨byte, rfl⟩ := List.length_eq_one_iff.mp hlast
      refine absurd ⟨?_, ?_⟩ hstops
      · simp [hfirst]
      · rw [List.append_nil, List.getD_append_right _ _ _ _ hfirst.le, hfirst]
        rw [ofWord, ofWord, Nat.mul_zero, Nat.add_zero] at hlt
        exact hlt

theorem not_acceptsImage : ¬ AcceptsImage [1, 0, 0, 0, 0, 0, 0, 0, 6] := by
  intro himage
  have hstops : StopsAtKind [1, 0, 0, 0, 0, 0, 0, 0, 6] := ⟨rfl, by decide⟩
  obtain ⟨id, hdecode⟩ := decodeEvidence_of_stopsAtKind hstops
  have hlt := lt_length_encodeEvidence { evidenceId := id, temperature := 0 }
  rw [himage _ hdecode] at hlt
  exact absurd hlt (by decide)

end Wire

end ThermalGovernor
