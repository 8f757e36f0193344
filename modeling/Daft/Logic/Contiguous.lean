import Mathlib.Data.Finset.Card
import Mathlib.Order.Interval.Finset.Nat

/-!
# Lists without gaps

A list of numbers whose neighbours are equal or one apart holds every number between
one of its members and its last. So few different members are close to each other.
-/

namespace Daft.Logic

/-- Neighbours are equal or one apart. -/
def Contiguous : List ℕ → Prop := List.IsChain fun x y => y = x ∨ y = x + 1

namespace Contiguous

variable {l front back : List ℕ} {x y z : ℕ}

theorem mem_of_between (contiguous : Contiguous l) (member : x ∈ l) (last : z ∈ l.getLast?)
    (low : x ≤ y) (high : y ≤ z) : y ∈ l := by
  induction l generalizing x with
  | nil => cases member
  | cons a l ih =>
    cases l with
    | nil =>
      obtain rfl := List.mem_singleton.mp member
      obtain rfl : x = z := by simpa using last
      exact List.mem_singleton.mpr (by omega)
    | cons b l =>
      have next : b = a ∨ b = a + 1 := (List.isChain_cons_cons.mp contiguous).1
      have rest : Contiguous (b :: l) := (List.isChain_cons_cons.mp contiguous).2
      have last : z ∈ (b :: l).getLast? := by simpa using last
      rcases List.mem_cons.mp member with rfl | later
      · by_cases here : y = x
        · exact here ▸ member
        · exact List.mem_cons_of_mem _ (ih rest List.mem_cons_self last (by omega))
      · exact List.mem_cons_of_mem _ (ih rest later last low)

theorem le_last (contiguous : Contiguous l) (member : x ∈ l) (last : z ∈ l.getLast?) : x ≤ z := by
  induction l generalizing x with
  | nil => cases member
  | cons a l ih =>
    cases l with
    | nil =>
      obtain rfl := List.mem_singleton.mp member
      obtain rfl : x = z := by simpa using last
      exact Nat.le_refl x
    | cons b l =>
      have next : b = a ∨ b = a + 1 := (List.isChain_cons_cons.mp contiguous).1
      have rest : Contiguous (b :: l) := (List.isChain_cons_cons.mp contiguous).2
      have last : z ∈ (b :: l).getLast? := by simpa using last
      rcases List.mem_cons.mp member with rfl | later
      · have above := ih rest List.mem_cons_self last
        omega
      · exact ih rest later last

/-- From a member to the last there are no more steps than different members. -/
theorem last_lt (contiguous : Contiguous l) (member : x ∈ l) (last : z ∈ l.getLast?) :
    z < x + l.toFinset.card := by
  have within : Finset.Icc x z ⊆ l.toFinset := by
    intro y between
    obtain ⟨low, high⟩ := Finset.mem_Icc.mp between
    exact List.mem_toFinset.mpr (contiguous.mem_of_between member last low high)
  have few := Finset.card_le_card within
  rw [Nat.card_Icc] at few
  have ordered := contiguous.le_last member last
  omega

theorem tail (contiguous : Contiguous (x :: l)) : Contiguous l := List.IsChain.tail contiguous

/-- A number after the last, equal to it or one more. -/
theorem concat (contiguous : Contiguous l) (next : ∀ z ∈ l.getLast?, y = z ∨ y = z + 1) :
    Contiguous (l ++ [y]) := by
  refine List.isChain_append.mpr ⟨contiguous, .singleton y, ?_⟩
  intro z last y' first
  obtain rfl : y = y' := by simpa using first
  exact next z last

/-- A member repeated in its place. -/
theorem repeated (contiguous : Contiguous (front ++ x :: back)) :
    Contiguous (front ++ x :: x :: back) := by
  obtain ⟨before, after, joint⟩ := List.isChain_append.mp contiguous
  exact List.isChain_append.mpr ⟨before, List.isChain_cons_cons.mpr ⟨.inl rfl, after⟩, joint⟩

end Contiguous

end Daft.Logic
