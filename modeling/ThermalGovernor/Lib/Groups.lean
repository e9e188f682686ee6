import Mathlib.Data.List.Basic

/-!
# Streams of groups

A stream is read in groups: the items up to an end, and the end with them, are one group.
`groups` are the groups that a stream holds completely; what is behind the last end is not among
them.  A longer stream has the same groups and perhaps more (`groups_isPrefix`).
-/

namespace ThermalGovernor.Lib

variable {α : Type*} (isEnd : α → Bool)

/-- The groups of a stream, the items of the first having begun before it. -/
def groupsFrom (begun : List α) : List α → List (List α)
  | [] => []
  | a :: rest => if isEnd a then begun :: groupsFrom [] rest else groupsFrom (begun ++ [a]) rest

/-- The complete groups of a stream, without their ends. -/
def groups (stream : List α) : List (List α) := groupsFrom isEnd [] stream

variable {isEnd} {begun body stream more : List α} {last : α}

theorem groupsFrom_append_end (hbody : ∀ a ∈ body, isEnd a = false) (hlast : isEnd last = true) :
    groupsFrom isEnd begun (body ++ last :: stream) = (begun ++ body) :: groups isEnd stream := by
  induction body generalizing begun with
  | nil =>
    rw [List.nil_append, List.append_nil, groupsFrom, if_pos hlast]
    rfl
  | cons a rest ih =>
    have ha := hbody a List.mem_cons_self
    rw [List.cons_append, groupsFrom, if_neg (by rw [ha]; decide),
      ih fun b hb => hbody b (List.mem_cons_of_mem _ hb), List.append_assoc]
    rfl

/-- **The first group of a stream is what stands before the first end.** -/
theorem groups_append_end (hbody : ∀ a ∈ body, isEnd a = false) (hlast : isEnd last = true) :
    groups isEnd (body ++ last :: stream) = body :: groups isEnd stream :=
  groupsFrom_append_end hbody hlast

theorem groupsFrom_append (begun stream more : List α) :
    ∃ rest, groupsFrom isEnd begun (stream ++ more) = groupsFrom isEnd begun stream ++ rest := by
  induction stream generalizing begun with
  | nil => exact ⟨_, rfl⟩
  | cons a stream ih =>
    rw [List.cons_append]
    unfold groupsFrom
    split
    · obtain ⟨rest, h⟩ := ih []
      exact ⟨rest, by rw [h, List.cons_append]⟩
    · exact ih _

/-- **Groups that are complete stay the groups of the stream.** -/
theorem groups_isPrefix (h : stream <+: more) : groups isEnd stream <+: groups isEnd more := by
  obtain ⟨rest, rfl⟩ := h
  obtain ⟨groups', h⟩ := groupsFrom_append [] stream rest
  exact ⟨groups', h.symm⟩

end ThermalGovernor.Lib
