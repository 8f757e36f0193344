import Mathlib.Data.List.Basic

/-!
# Delimited streams

A delimiter cuts a list into runs: those it closes, and the one still open at the end.
A list read piece by piece is cut where the whole list is, if each piece is read after
the open run of what came before.
-/

namespace Daft.Logic.Delimited

variable {α : Type} [DecidableEq α] (z : α)

/-- The runs that a delimiter closes, in order. -/
def closed (s : List α) : List (List α) := (s.splitOn z).dropLast

/-- The run after the last delimiter. -/
def trailing (s : List α) : List α := (s.splitOn z).getLast (List.splitOn_ne_nil z s)

variable {z} {s run : List α}

/-- A list is its closed pieces and what trails. -/
theorem closed_append_trailing (s : List α) : closed z s ++ [trailing z s] = s.splitOn z :=
  List.dropLast_append_getLast _

/-- Without a delimiter nothing is closed. -/
theorem closed_of_clean (clean : z ∉ s) : closed z s = [] := by
  rw [closed, List.splitOn_eq_singleton clean]
  rfl

/-- Without a delimiter all of it trails. -/
theorem trailing_of_clean (clean : z ∉ s) : trailing z s = s := by
  simp [trailing, List.splitOn_eq_singleton clean]

/-- A piece up to a delimiter is closed. -/
theorem closed_run (clean : z ∉ run) (s : List α) :
    closed z (run ++ z :: s) = run :: closed z s := by
  rw [closed, List.splitOn_append_cons_self_of_not_mem clean,
    List.dropLast_cons_of_ne_nil (List.splitOn_ne_nil z s), closed]

theorem trailing_run (clean : z ∉ run) (s : List α) :
    trailing z (run ++ z :: s) = trailing z s := by
  simp only [trailing, List.splitOn_append_cons_self_of_not_mem clean]
  exact List.getLast_cons (List.splitOn_ne_nil z s)

/-- The first delimiter closes a run. -/
theorem split_first (delimited : z ∈ s) :
    z ∉ s.take (s.idxOf z) ∧ s = s.take (s.idxOf z) ++ z :: s.drop (s.idxOf z + 1) := by
  obtain ⟨run, rest, rfl, clean⟩ := List.eq_append_cons_of_mem delimited
  have first : (run ++ z :: rest).idxOf z = run.length := by
    rw [List.idxOf_append_of_notMem clean, List.idxOf_cons_self, Nat.add_zero]
  have dropped : (run ++ z :: rest).drop (run.length + 1) = rest := by simp
  rw [first, List.take_left, dropped]
  exact ⟨clean, rfl⟩

/-- Lists are built of an open run by closing runs in front of it. -/
@[elab_as_elim]
theorem induction {motive : List α → Prop} (opened : ∀ s, z ∉ s → motive s)
    (closes : ∀ run s, z ∉ run → motive s → motive (run ++ z :: s)) (s : List α) : motive s := by
  by_cases delimited : z ∈ s
  · obtain ⟨run, rest, split, clean⟩ := List.eq_append_cons_of_mem delimited
    have shorter : rest.length < s.length := by
      rw [split, List.length_append, List.length_cons]
      omega
    rw [split]
    exact closes run rest clean (induction opened closes rest)
  · exact opened s delimited
termination_by s.length

/-- What trails has no delimiter. -/
theorem trailing_clean (s : List α) : z ∉ trailing z s := by
  induction s using induction (z := z) with
  | opened s clean => rwa [trailing_of_clean clean]
  | closes run s clean ih => rwa [trailing_run clean]

theorem trailing_length_le (s : List α) : (trailing z s).length ≤ s.length := by
  induction s using induction (z := z) with
  | opened s clean => exact Nat.le_of_eq (congrArg List.length (trailing_of_clean clean))
  | closes run s clean ih =>
    rw [trailing_run clean, List.length_append, List.length_cons]
    omega

/-! ## Reading on -/

/-- A list cut anywhere: what trails in the first part begins the second. -/
theorem closed_append (s later : List α) :
    closed z (s ++ later) = closed z s ++ closed z (trailing z s ++ later) := by
  induction s using induction (z := z) with
  | opened s clean => rw [closed_of_clean clean, trailing_of_clean clean, List.nil_append]
  | closes run s clean ih =>
    rw [List.append_assoc, List.cons_append, closed_run clean, closed_run clean, trailing_run clean,
      ih, List.cons_append]

/-- What trails in a list cut anywhere. -/
theorem trailing_append (s later : List α) :
    trailing z (s ++ later) = trailing z (trailing z s ++ later) := by
  induction s using induction (z := z) with
  | opened s clean => rw [trailing_of_clean clean]
  | closes run s clean ih =>
    rw [List.append_assoc, List.cons_append, trailing_run clean, trailing_run clean, ih]

/-- The pieces of a list cut anywhere. -/
theorem splitOn_append (s later : List α) :
    (s ++ later).splitOn z = closed z s ++ (trailing z s ++ later).splitOn z := by
  rw [← closed_append_trailing, closed_append, trailing_append, List.append_assoc,
    closed_append_trailing]

/-- The open run begins a run of whatever is read on. -/
theorem trailing_prefix (s later : List α) :
    ∃ run ∈ (s ++ later).splitOn z, trailing z s <+: run := by
  have clean := trailing_clean (z := z) s
  rw [splitOn_append]
  by_cases delimited : z ∈ later
  · obtain ⟨run, rest, rfl, whole⟩ := List.eq_append_cons_of_mem delimited
    have longer : z ∉ trailing z s ++ run := by simp [clean, whole]
    refine ⟨trailing z s ++ run, ?_, List.prefix_append ..⟩
    rw [← List.append_assoc, List.splitOn_append_cons_self_of_not_mem longer]
    simp
  · refine ⟨trailing z s ++ later, ?_, List.prefix_append ..⟩
    rw [List.splitOn_eq_singleton (by simp [clean, delimited])]
    simp

/-- A closed run has a place in the list, with no open run before it. -/
theorem mem_closed (member : run ∈ closed z s) :
    z ∉ run ∧ ∃ before after, s = before ++ (run ++ z :: after) ∧
      (before = [] ∨ ∃ init, before = init ++ [z]) := by
  induction s using induction (z := z) with
  | opened s clean =>
    rw [closed_of_clean clean] at member
    cases member
  | closes first s clean ih =>
    rw [closed_run clean, List.mem_cons] at member
    rcases member with rfl | later
    · exact ⟨clean, [], s, rfl, .inl rfl⟩
    · obtain ⟨whole, before, after, rfl, rfl | ⟨init, rfl⟩⟩ := ih later
      · exact ⟨whole, first ++ [z], after, by simp, .inr ⟨first, rfl⟩⟩
      · exact ⟨whole, first ++ z :: (init ++ [z]), after, by simp, .inr ⟨first ++ z :: init, by simp⟩⟩

/-! ## Prefixes -/

/-- A prefix of closed runs closes as many of them as it has delimiters; the run it leaves
open begins the next of them, and is empty where there is none. -/
theorem prefix_runs {runs : List (List α)} (clean : ∀ run ∈ runs, z ∉ run)
    (begins : s <+: runs.flatMap (· ++ [z])) :
    closed z s = runs.take (s.count z) ∧ trailing z s <+: runs[s.count z]?.getD [] := by
  induction runs generalizing s with
  | nil =>
    obtain rfl : s = [] := by simpa using begins
    exact ⟨closed_of_clean (by simp), by simp [trailing_of_clean]⟩
  | cons run runs ih =>
    obtain ⟨whole, later⟩ := List.forall_mem_cons.mp clean
    rw [List.flatMap_cons] at begins
    rcases Nat.lt_or_ge run.length s.length with longer | short
    · have opens : run ++ [z] <+: s := by
        refine List.prefix_of_prefix_length_le (List.prefix_append ..) begins ?_
        rw [List.length_append, List.length_singleton]
        exact longer
      obtain ⟨rest, rfl⟩ := opens
      obtain ⟨closes, begun⟩ := ih later ((List.prefix_append_right_inj _).mp begins)
      have split : run ++ [z] ++ rest = run ++ z :: rest := by simp
      have counted : (run ++ z :: rest).count z = rest.count z + 1 := by
        rw [List.count_append, List.count_eq_zero_of_not_mem whole, List.count_cons_self,
          Nat.zero_add]
      rw [split, closed_run whole, trailing_run whole, closes, counted]
      exact ⟨rfl, begun⟩
    · have inside : s <+: run :=
        List.prefix_of_prefix_length_le begins (by simp) short
      have open' : z ∉ s := fun member => whole (inside.subset member)
      rw [List.count_eq_zero_of_not_mem open', closed_of_clean open', trailing_of_clean open']
      exact ⟨rfl, inside⟩

end Daft.Logic.Delimited
