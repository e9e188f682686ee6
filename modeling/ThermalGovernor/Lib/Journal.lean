import Mathlib.Data.List.Infix

/-!
# Journals

A journal lists entries in the order they were made, each under a key.  `Follows R` is a law
about each entry and the one before it under the same key (`newest`), if there is one; it is
kept by appending an entry that obeys it (`follows_concat`).

Of a long journal only the last entries may be at hand.  What is at hand is a suffix, and the
law holds of any two entries of one key in it that have none between them
(`Follows.of_suffix`).  A journal of which a fixed number of entries is kept is trimmed before
an entry is appended (`latest_concat`), and as many entries as are kept push all others out
(`latest_append_of_length`).
-/

namespace ThermalGovernor.Lib

variable {ε κ : Type} [DecidableEq κ] {key : ε → κ} {R : Option ε → ε → Prop}
  {log window : List ε} {e : ε} {k : κ}

/-- The newest entry under a key. -/
def newest (key : ε → κ) (k : κ) (log : List ε) : Option ε := log.reverse.find? fun e => key e = k

@[simp] theorem newest_nil : newest key k [] = none := rfl

theorem newest_concat (log : List ε) (e : ε) :
    newest key k (log ++ [e]) = if key e = k then some e else newest key k log := by
  rw [newest, List.reverse_concat, List.find?_cons]
  by_cases h : key e = k
  · rw [if_pos h, decide_eq_true h]
  · rw [if_neg h, decide_eq_false h]
    rfl

/-- Entries under other keys are passed over. -/
theorem newest_append_of_ne {newer : List ε} (h : ∀ x ∈ newer, key x ≠ k) (log : List ε) :
    newest key k (log ++ newer) = newest key k log := by
  induction newer using List.reverseRecOn with
  | nil => rw [List.append_nil]
  | append_singleton newer x ih =>
    rw [← List.append_assoc, newest_concat, if_neg (h x (by simp))]
    exact ih fun y hy => h y (by simp [hy])

theorem newest_append_cons (older : List ε) (e : ε) {newer : List ε}
    (h : ∀ x ∈ newer, key x ≠ key e) : newest key (key e) (older ++ e :: newer) = some e := by
  rw [List.append_cons, newest_append_of_ne h, newest_concat, if_pos rfl]

/-- Every entry follows the one before it under its key as the law says. -/
def Follows (key : ε → κ) (R : Option ε → ε → Prop) (log : List ε) : Prop :=
  ∀ older e newer, log = older ++ e :: newer → R (newest key (key e) older) e

theorem follows_nil : Follows key R [] := by
  intro older e newer h
  cases older <;> cases h

/-- **The law is kept by an entry that obeys it.** -/
theorem follows_concat (h : Follows key R log) (he : R (newest key (key e) log) e) :
    Follows key R (log ++ [e]) := by
  intro older x newer hlog
  induction newer using List.reverseRecOn with
  | nil =>
    obtain ⟨rfl, hlast⟩ := List.append_inj' hlog rfl
    obtain rfl := List.singleton_injective hlast
    exact he
  | append_singleton newer y _ =>
    rw [← List.cons_append, ← List.append_assoc] at hlog
    exact h older x newer (List.append_inj' hlog rfl).1

/-- **Two entries of one key in a suffix, with none of it between them, obey the law.** -/
theorem Follows.of_suffix (h : Follows key R log) (hwindow : window <:+ log)
    {older mid newer : List ε} {e e' : ε} (hsplit : window = older ++ e :: (mid ++ e' :: newer))
    (hkey : key e' = key e) (hmid : ∀ x ∈ mid, key x ≠ key e) : R (some e) e' := by
  obtain ⟨lost, rfl⟩ := hwindow
  have hlaw := h (lost ++ older ++ e :: mid) e' newer (by rw [hsplit]; simp)
  rwa [hkey, newest_append_cons _ e hmid] at hlaw

/-- The newest entry of a suffix is the newest of all. -/
theorem newest_of_suffix (hwindow : window <:+ log) {older newer : List ε} {e : ε}
    (hsplit : window = older ++ e :: newer) (hnewer : ∀ x ∈ newer, key x ≠ key e) :
    newest key (key e) log = some e := by
  obtain ⟨lost, rfl⟩ := hwindow
  rw [hsplit, ← List.append_assoc]
  exact newest_append_cons _ e hnewer

/-! ### A bounded journal -/

/-- The last entries of a journal, up to a number. -/
def latest (n : ℕ) (log : List ε) : List ε := log.drop (log.length - n)

@[simp] theorem latest_nil (n : ℕ) : latest n ([] : List ε) = [] := List.drop_nil

theorem latest_suffix (n : ℕ) (log : List ε) : latest n log <:+ log := List.drop_suffix _ _

theorem length_latest (n : ℕ) (log : List ε) : (latest n log).length = min log.length n := by
  rw [latest, List.length_drop]
  omega

theorem latest_of_length_le {n : ℕ} (h : log.length ≤ n) : latest n log = log := by
  rw [latest, Nat.sub_eq_zero_of_le h, List.drop_zero]

/-- What has been cut before is not missed by a later cut. -/
theorem latest_latest_append (n : ℕ) (log newer : List ε) :
    latest n (latest n log ++ newer) = latest n (log ++ newer) := by
  have hprefix : latest n log ++ newer = (log ++ newer).drop (log.length - n) := by
    rw [latest, List.drop_append_of_le_length (Nat.sub_le _ _)]
  have hremains : (log.length - n) + ((latest n log ++ newer).length - n) =
      (log ++ newer).length - n := by
    rw [List.length_append, length_latest, List.length_append]
    omega
  calc latest n (latest n log ++ newer)
      = ((log ++ newer).drop (log.length - n)).drop ((latest n log ++ newer).length - n) := by
        rw [latest, ← hprefix]
    _ = latest n (log ++ newer) := by rw [List.drop_drop, hremains, latest]

/-- As many entries as are kept leave nothing of what was before. -/
theorem latest_append_of_length {n : ℕ} {newer : List ε} (h : newer.length = n) (log : List ε) :
    latest n (log ++ newer) = newer := by
  rw [latest, List.length_append, h, Nat.add_sub_cancel, List.drop_left]

/-- **An entry is appended to what is left of a full journal without its oldest.** -/
theorem latest_concat {n : ℕ} (hn : 1 ≤ n) (log : List ε) (e : ε) :
    latest n (log ++ [e]) =
      (if n ≤ (latest n log).length then (latest n log).drop ((latest n log).length - n + 1)
        else latest n log) ++ [e] := by
  have hlength : (log ++ [e]).length = log.length + 1 := by simp
  by_cases hfull : n ≤ log.length
  · have hlatest : (latest n log).length = n := by rw [length_latest, Nat.min_eq_right hfull]
    have hdrop : (latest n log).drop 1 = log.drop (log.length + 1 - n) := by
      rw [latest, List.drop_drop, Nat.sub_add_comm hfull]
    rw [hlatest, if_pos le_rfl, Nat.sub_self, Nat.zero_add, hdrop, latest, hlength,
      List.drop_append_of_le_length (by omega)]
  · rw [latest_of_length_le (by omega), latest_of_length_le (by omega), if_neg hfull]

end ThermalGovernor.Lib
