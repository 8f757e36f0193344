import Mathlib.Logic.Relation

/-!
# Simulations

A transition system is a relation between states. One system simulates another through a
relation between their states that its steps keep up: a step below is matched by steps
above, or by none, so what a run below reaches a run above explains.
-/

namespace Daft.Logic

open Relation

variable {σ τ : Type}

/-- Every step below is matched by some steps above. -/
def Simulates (lower : σ → σ → Prop) (upper : τ → τ → Prop) (R : σ → τ → Prop) : Prop :=
  ∀ s s' t, R s t → lower s s' → ∃ t', ReflTransGen upper t t' ∧ R s' t'

variable {lower : σ → σ → Prop} {upper : τ → τ → Prop} {R : σ → τ → Prop} {s s' : σ} {t : τ}

/-- A step below that changes nothing above. -/
theorem Simulates.stutter (related : R s' t) : ∃ t', ReflTransGen upper t t' ∧ R s' t' :=
  ⟨t, .refl, related⟩

/-- A step below that is one step above. -/
theorem Simulates.one {t' : τ} (taken : upper t t') (related : R s' t') :
    ∃ t', ReflTransGen upper t t' ∧ R s' t' :=
  ⟨t', .single taken, related⟩

/-- Every run below is matched by a run above. -/
theorem Simulates.run (simulates : Simulates lower upper R) (related : R s t)
    (run : ReflTransGen lower s s') : ∃ t', ReflTransGen upper t t' ∧ R s' t' := by
  induction run with
  | refl => exact ⟨t, .refl, related⟩
  | tail _ taken ih =>
    obtain ⟨middle, before, related⟩ := ih
    obtain ⟨t', after, related⟩ := simulates _ _ _ related taken
    exact ⟨t', before.trans after, related⟩

end Daft.Logic
