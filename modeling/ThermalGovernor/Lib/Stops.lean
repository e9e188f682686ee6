import ThermalGovernor.Lib.Fields

/-!
# The error a decoder stops with

`StopsWith d e` says that the decoder stops with no other error than `e`.  Reads do not stop, so
a decoder put together from reads and from requirements with one error stops with that error.
-/

namespace ThermalGovernor.Lib.Decoder

open Input

variable {R C ε α β : Type} [Input R C] {d : Decoder C ε α} {f : α → Decoder C ε β} {e : ε}

/-- The decoder stops with this error, wherever it stops. -/
def StopsWith (d : Decoder C ε α) (e : ε) : Prop := ∀ c e', d.run c = .error e' → e' = e

theorem stopsWith_pure (a : α) : StopsWith (pure a : Decoder C ε α) e := fun _ _ h => by cases h

theorem stopsWith_field (k : Kind R α) : StopsWith (field k : Decoder C ε α) e :=
  fun _ _ h => by cases h

theorem stopsWith_isOk : StopsWith (isOk : Decoder C ε Bool) e := fun _ _ h => by cases h

theorem stopsWith_spoil : StopsWith (spoil : Decoder C ε Unit) e := fun _ _ h => by cases h

theorem stopsWith_stop : StopsWith (stop e : Decoder C ε α) e := by
  rintro c e' ⟨⟩
  rfl

theorem StopsWith.bind (h : StopsWith d e) (hf : ∀ a, StopsWith (f a) e) :
    StopsWith (d >>= f) e := by
  intro c e' hrun
  rw [run_bind] at hrun
  cases hd : d.run c with
  | error e'' =>
    rw [hd] at hrun
    obtain rfl := Except.error.inj hrun
    exact h c _ hd
  | ok read =>
    rw [hd] at hrun
    exact hf read.1 read.2 e' hrun

theorem stopsWith_require (condition : Bool) :
    StopsWith (require condition e : Decoder C ε Unit) e := by
  unfold require
  split
  · exact stopsWith_pure ()
  · exact stopsWith_stop

theorem stopsWith_requireOk : StopsWith (requireOk e : Decoder C ε Unit) e := by
  intro c e' hrun
  rw [requireOk] at hrun
  dsimp only at hrun
  split at hrun
  · cases hrun
  · exact (Except.error.inj hrun).symm

theorem stopsWith_presence : StopsWith (presence : Decoder C ε Bool) e := by
  refine .bind (stopsWith_field _) fun value => ?_
  split
  · exact .bind stopsWith_spoil fun _ => stopsWith_pure _
  · exact stopsWith_pure _

theorem StopsWith.optional (h : StopsWith d e) : StopsWith (optional d) e := by
  refine .bind stopsWith_presence fun present => ?_
  split
  · exact h.bind fun _ => stopsWith_pure _
  · exact stopsWith_pure _

end ThermalGovernor.Lib.Decoder
