import Daft.Logic.History

/-!
# Runs of a deterministic machine

A machine is a step function over inputs. `Along` states a condition on every
step of one run, so a run lemma may assume something of the inputs it meets
and of the state each of them meets.
-/

namespace Daft.Logic

variable {σ ι : Type} (step : σ → ι → σ)

/-- The state after the inputs, oldest first. -/
def run (s : σ) (inputs : List ι) : σ := inputs.foldl step s

@[simp] theorem run_nil (s : σ) : run step s [] = s := rfl

@[simp] theorem run_cons (s : σ) (i : ι) (inputs : List ι) :
    run step s (i :: inputs) = run step (step s i) inputs := rfl

theorem run_append (s : σ) (first later : List ι) :
    run step s (first ++ later) = run step (run step s first) later :=
  List.foldl_append

/-- `P` holds of every state and input the run meets. -/
def Along (P : σ → ι → Prop) : σ → List ι → Prop
  | _, [] => True
  | s, i :: inputs => P s i ∧ Along P (step s i) inputs

variable {step} {P : σ → ι → Prop} {I : σ → Prop}

theorem Along.and {Q : σ → ι → Prop} :
    ∀ {s : σ} {inputs : List ι}, Along step P s inputs → Along step Q s inputs →
      Along step (fun s i => P s i ∧ Q s i) s inputs
  | _, [], _, _ => trivial
  | _, _ :: _, ⟨here, later⟩, ⟨also, further⟩ => ⟨⟨here, also⟩, later.and further⟩

theorem Along.mono {Q : σ → ι → Prop} (imp : ∀ s i, P s i → Q s i) :
    ∀ {s : σ} {inputs : List ι}, Along step P s inputs → Along step Q s inputs
  | _, [], _ => trivial
  | _, _ :: _, ⟨here, later⟩ => ⟨imp _ _ here, later.mono imp⟩

/-- A condition that every step meets holds along every run. -/
theorem along_of_always (always : ∀ s i, P s i) (s : σ) (inputs : List ι) :
    Along step P s inputs := by
  induction inputs generalizing s with
  | nil => trivial
  | cons i inputs ih => exact ⟨always s i, ih _⟩

/-- A condition on every input alone holds along every run of such inputs. -/
theorem along_of_forall {Q : ι → Prop} {inputs : List ι} (each : ∀ i ∈ inputs, Q i) (s : σ) :
    Along step (fun _ i => Q i) s inputs := by
  induction inputs generalizing s with
  | nil => trivial
  | cons i inputs ih =>
    exact ⟨each i (by simp), ih (fun j member => each j (by simp [member])) _⟩

/-- What every step meeting `P` preserves holds at the end of a run along `P`. -/
theorem Along.invariant (preserves : ∀ s i, P s i → I s → I (step s i)) {s : σ} {inputs : List ι}
    (along : Along step P s inputs) (initial : I s) : I (run step s inputs) := by
  induction inputs generalizing s with
  | nil => exact initial
  | cons i inputs ih => exact ih along.2 (preserves s i along.1 initial)

/-- What every step preserves holds at the end of every run. -/
theorem run_invariant (preserves : ∀ s i, I s → I (step s i)) {s : σ} (initial : I s)
    (inputs : List ι) : I (run step s inputs) := by
  induction inputs generalizing s with
  | nil => exact initial
  | cons i inputs ih => exact ih (preserves s i initial)

/-- A relation that every step meeting `P` establishes, composed along a run. -/
theorem Along.relates {R : σ → σ → Prop} (refl : ∀ s, R s s)
    (trans : ∀ {a b c}, R a b → R b c → R a c) (steps : ∀ s i, P s i → I s → R s (step s i))
    (preserves : ∀ s i, P s i → I s → I (step s i)) {s : σ} {inputs : List ι}
    (along : Along step P s inputs) (initial : I s) : R s (run step s inputs) := by
  induction inputs generalizing s with
  | nil => exact refl s
  | cons i inputs ih =>
    exact trans (steps s i along.1 initial) (ih along.2 (preserves s i along.1 initial))

/-! ## Notes -/

/-- A note kept along the run, which every step may change by what it sees. -/
def noted {γ : Type} (step : σ → ι → σ) (note : σ → ι → γ → γ) : σ → γ → List ι → γ
  | _, g, [] => g
  | s, g, i :: inputs => noted step note (step s i) (note s i g) inputs

/-- What every step preserves together with the note on it. -/
theorem Along.noted {γ : Type} {note : σ → ι → γ → γ} {J : σ → γ → Prop}
    (preserves : ∀ s i g, P s i → J s g → J (step s i) (note s i g)) {s : σ} {g : γ}
    {inputs : List ι} (along : Along step P s inputs) (initial : J s g) :
    J (run step s inputs) (noted step note s g inputs) := by
  induction inputs generalizing s g with
  | nil => exact initial
  | cons i inputs ih => exact ih along.2 (preserves s i g along.1 initial)

/-! ## What was met -/

/-- An invariant of what is told, kept by every step when the states met tell it, holds of
what the states before some of the inputs told. -/
theorem run_met {τ : Type} (tells : σ → τ → Prop) (I : (τ → Prop) → σ → Prop)
    (mono : ∀ {told told' : τ → Prop} {s : σ}, (∀ x, told x → told' x) → I told s → I told' s)
    (preserves : ∀ {told : τ → Prop} (s i), (∀ x, tells s x → told x) → I told s →
      I told (step s i)) {told : τ → Prop} {s : σ} (initial : I told s) (inputs : List ι) :
    I (fun x => told x ∨ ∃ earlier, earlier <+: inputs ∧ tells (run step s earlier) x)
      (run step s inputs) := by
  induction inputs generalizing s told with
  | nil => exact mono (fun _ => .inl) initial
  | cons i inputs ih =>
    have here : I (fun x => told x ∨ tells s x) s := mono (fun _ => .inl) initial
    refine mono ?_ (ih (preserves s i (fun _ => .inr) here))
    rintro x ((before | now) | ⟨earlier, begins, later⟩)
    · exact .inl before
    · exact .inr ⟨[], List.nil_prefix, now⟩
    · exact .inr ⟨i :: earlier, (List.prefix_cons_inj i).mpr begins, later⟩

/-- What the steps of a run add to a history, each as required of the state it was taken
from. -/
theorem Along.since {α : Type} {history : σ → List α} {Q : σ → ι → α → List α → Prop}
    (adds : ∀ s i, P s i → I s → Since (Q s i) (history s) (history (step s i)))
    (preserves : ∀ s i, P s i → I s → I (step s i)) {s : σ} {inputs : List ι}
    (along : Along step P s inputs) (initial : I s) :
    Since (fun a past => ∃ earlier i, earlier ++ [i] <+: inputs ∧ Q (run step s earlier) i a past)
      (history s) (history (run step s inputs)) := by
  induction inputs generalizing s with
  | nil => exact .refl
  | cons i inputs ih =>
    have here := (adds s i along.1 initial).mono fun a past added =>
      (⟨[], i, List.prefix_append [i] inputs, added⟩ :
        ∃ earlier i', earlier ++ [i'] <+: i :: inputs ∧ Q (run step s earlier) i' a past)
    refine here.trans ((ih along.2 (preserves s i along.1 initial)).mono ?_)
    rintro a past ⟨earlier, i', begins, added⟩
    exact ⟨i :: earlier, i', (List.prefix_cons_inj i).mpr begins, added⟩

end Daft.Logic
