/-!
# Histories

A history lists what happened, newest first; what was known when an entry was
made is the list after it. `Since` is a property of every new entry against its
own past. `Adds q h cs h'` says that `h'` extends `h` and that, of the new
entries, those satisfying `q` are exactly `cs`: a step is described by the
entries that matter and may make any others in between.
-/

namespace Daft.Logic

variable {α : Type}

/-- Every entry of `h'` newer than `h` satisfies `P` against its past. -/
inductive Since (P : α → List α → Prop) (h : List α) : List α → Prop where
  | refl : Since P h h
  | cons {a : α} {past : List α} : P a past → Since P h past → Since P h (a :: past)

namespace Since

variable {P : α → List α → Prop} {h h' h'' : List α}

theorem trans (first : Since P h h') (later : Since P h' h'') : Since P h h'' := by
  induction later with
  | refl => exact first
  | cons here _ ih => exact .cons here ih

theorem mono {Q : α → List α → Prop} (since : Since P h h')
    (imp : ∀ a past, P a past → Q a past) : Since Q h h' := by
  induction since with
  | refl => exact .refl
  | cons here _ ih => exact ih.cons (imp _ _ here)

/-- What holds of every new entry, taken one by one. -/
theorem all (since : Since P [] h) : ∀ a ∈ h, ∃ past, P a past := by
  induction since with
  | refl => simp
  | cons here _ ih => exact List.forall_mem_cons.mpr ⟨⟨_, here⟩, ih⟩

/-- What each entry adds to a reading of the history, together. -/
theorem carry {β : Type} {f : List α → List β} {Q : β → List β → Prop} (since : Since P h h')
    (carries : ∀ a past, P a past → Since Q (f past) (f (a :: past))) : Since Q (f h) (f h') := by
  induction since with
  | refl => exact .refl
  | cons here _ ih => exact ih.trans (carries _ _ here)

end Since

/-- What is outside a class is outside every class within it. -/
theorem absent_of_silent {p q : α → Bool} (within : ∀ a, p a = true → q a = true) {a : α}
    (silent : q a = false) : p a = false :=
  eq_false_of_ne_true fun seen => by simp [within a seen] at silent

/-- `h'` extends `h`, and its new entries that satisfy `q` are `cs`, newest first. -/
inductive Adds (q : α → Bool) (h : List α) : List α → List α → Prop where
  | refl : Adds q h [] h
  | quiet {cs h' : List α} {a : α} : q a = false → Adds q h cs h' → Adds q h cs (a :: h')
  | entry {cs h' : List α} {a : α} : q a = true → Adds q h cs h' → Adds q h (a :: cs) (a :: h')

namespace Adds

variable {q : α → Bool} {h h' h'' cs ds : List α}

theorem trans (first : Adds q h cs h') (later : Adds q h' ds h'') : Adds q h (ds ++ cs) h'' := by
  induction later with
  | refl => exact first
  | quiet silent _ ih => exact .quiet silent ih
  | entry seen _ ih => exact .entry seen ih

/-- What matters before or after a stretch without entries that matter. -/
theorem after_quiet (first : Adds q h [] h') (later : Adds q h' cs h'') : Adds q h cs h'' :=
  List.append_nil cs ▸ first.trans later

/-- The new entries as a list. -/
theorem split (adds : Adds q h cs h') : ∃ new, h' = new ++ h ∧ new.filter q = cs := by
  induction adds with
  | refl => exact ⟨[], rfl, rfl⟩
  | quiet silent _ ih =>
    obtain ⟨new, rfl, filtered⟩ := ih
    exact ⟨_ :: new, rfl, by simp [silent, filtered]⟩
  | entry seen _ ih =>
    obtain ⟨new, rfl, filtered⟩ := ih
    exact ⟨_ :: new, rfl, by simp [seen, filtered]⟩

/-- What entries failing a `p` within `q` preserve, when no new entry satisfies `p`. -/
theorem invariant {I : List α → Prop} {p : α → Bool} (adds : Adds q h cs h')
    (within : ∀ a, p a = true → q a = true) (absent : ∀ a ∈ cs, p a = false)
    (preserves : ∀ a past, p a = false → I past → I (a :: past)) (initial : I h) : I h' := by
  induction adds with
  | refl => exact initial
  | quiet silent _ ih => exact preserves _ _ (absent_of_silent within silent) (ih absent)
  | entry _ _ ih =>
    obtain ⟨here, before⟩ := List.forall_mem_cons.mp absent
    exact preserves _ _ here (ih before)

/-- A `p` within `q` that fails on the entries that matter fails on all new ones. -/
theorem none (adds : Adds q h cs h') {p : α → Bool} (within : ∀ a, p a = true → q a = true)
    (absent : ∀ a ∈ cs, p a = false) : ∃ new, h' = new ++ h ∧ ∀ a ∈ new, p a = false := by
  refine adds.invariant (I := fun h' => ∃ new, h' = new ++ h ∧ ∀ a ∈ new, p a = false) within absent
    ?_ ⟨[], rfl, by simp⟩
  rintro a past here ⟨new, rfl, before⟩
  exact ⟨a :: new, rfl, List.forall_mem_cons.mpr ⟨here, before⟩⟩

/-- The latest entry satisfying a `p` within `q` is found among the entries
that matter. -/
theorem find? (adds : Adds q h cs h') {p : α → Bool} (within : ∀ a, p a = true → q a = true) :
    h'.find? p = (cs ++ h).find? p := by
  induction adds with
  | refl => rfl
  | quiet silent _ ih =>
    rw [List.find?_cons_of_neg (by simp [absent_of_silent within silent]), ih]
  | @entry _ _ a _ _ ih =>
    cases seen : p a
    · simp [seen, ih]
    · simp [seen]

/-- A reading of a history that is taken entry by entry, and ignores the entries that do
not matter, is the same along the entries that matter alone. -/
theorem reads {β : Type} {f : List α → β} (adds : Adds q h cs h')
    (ignores : ∀ a past, q a = false → f (a :: past) = f past)
    (entrywise : ∀ a past past', f past = f past' → f (a :: past) = f (a :: past')) :
    f h' = f (cs ++ h) := by
  induction adds with
  | refl => rfl
  | quiet silent _ ih => rw [ignores _ _ silent, ih]
  | entry _ _ ih => exact entrywise _ _ _ ih

/-- Where no new entry is in a class, all new ones are as required of that class. -/
theorem since_of_absent {p : α → Bool} {P : α → List α → Prop} (adds : Adds q h cs h')
    (within : ∀ a, p a = true → q a = true) (absent : ∀ a ∈ cs, p a = false) :
    Since (fun a past => p a = true → P a past) h h' :=
  adds.invariant within absent
    (fun a past outside since => .cons (fun inside => by simp [outside] at inside) since) .refl

/-- What holds of the entries that matter holds of all new ones in a class of them. -/
theorem since_of_members {p : α → Bool} {P : α → Prop} (adds : Adds q h cs h')
    (within : ∀ a, p a = true → q a = true) (each : ∀ a ∈ cs, p a = true → P a) :
    Since (fun a _ => p a = true → P a) h h' := by
  induction adds with
  | refl => exact .refl
  | quiet silent _ ih =>
    refine .cons (fun inside => ?_) (ih each)
    rw [within _ inside] at silent
    cases silent
  | entry _ _ ih =>
    obtain ⟨here, before⟩ := List.forall_mem_cons.mp each
    exact .cons here (ih before)

/-- What holds of every new entry holds of those that matter. -/
theorem member_of_since {P : α → List α → Prop} {a : α} (adds : Adds q h cs h')
    (since : Since P h h') (member : a ∈ cs) : ∃ past, P a past := by
  induction adds with
  | refl => cases member
  | quiet _ before ih =>
    cases since with
    | refl =>
      obtain ⟨new, longer, -⟩ := before.split
      have lengths := congrArg List.length longer
      simp at lengths
      omega
    | cons _ since => exact ih since member
  | entry _ before ih =>
    cases since with
    | refl =>
      obtain ⟨new, longer, -⟩ := before.split
      have lengths := congrArg List.length longer
      simp at lengths
      omega
    | cons here since =>
      rcases List.mem_cons.mp member with rfl | member
      · exact ⟨_, here⟩
      · exact ih since member

/-- The last entry that matters, with what came before and after it. -/
theorem last {a : α} (adds : Adds q h (a :: cs) h') :
    ∃ past, Adds q h cs past ∧ Adds q (a :: past) [] h' := by
  generalize listed : a :: cs = all at adds
  induction adds with
  | refl => cases listed
  | quiet silent _ ih =>
    obtain ⟨past, before, after⟩ := ih listed
    exact ⟨past, before, .quiet silent after⟩
  | @entry _ past _ _ before _ =>
    cases listed
    exact ⟨past, before, .refl⟩

/-- A stretch without entries that matter has none of a class of them. -/
theorem quiet_of_within {p : α → Bool} (within : ∀ a, p a = true → q a = true)
    (adds : Adds q h [] h') : Adds p h [] h' := by
  generalize listed : ([] : List α) = all at adds
  induction adds with
  | refl => exact .refl
  | quiet silent _ ih => exact .quiet (absent_of_silent within silent) (ih listed)
  | entry => cases listed

/-- An extension in two parts. -/
theorem between {all later earlier : List α} (adds : Adds q h all h')
    (parts : all = later ++ earlier) :
    ∃ middle, Adds q h earlier middle ∧ Adds q middle later h' := by
  induction adds generalizing later with
  | refl =>
    obtain ⟨rfl, rfl⟩ := List.append_eq_nil_iff.mp parts.symm
    exact ⟨h, .refl, .refl⟩
  | quiet silent _ ih =>
    obtain ⟨middle, first, rest⟩ := ih parts
    exact ⟨middle, first, .quiet silent rest⟩
  | entry seen before ih =>
    cases later with
    | nil =>
      obtain rfl : _ = earlier := parts
      exact ⟨_, .entry seen before, .refl⟩
    | cons first later =>
      obtain ⟨rfl, rest⟩ := List.cons.inj parts
      obtain ⟨middle, before, after⟩ := ih rest
      exact ⟨middle, before, .entry seen after⟩

/-- Of the entries that matter only the last is in a class. -/
theorem since_of_last {p : α → Bool} {P : α → List α → Prop} {a : α}
    (adds : Adds q h (a :: cs) h') (within : ∀ a, p a = true → q a = true)
    (absent : ∀ a ∈ cs, p a = false) (here : ∀ past, Adds q h cs past → P a past) :
    Since (fun a past => p a = true → P a past) h h' := by
  obtain ⟨past, before, after⟩ := adds.last
  have since := (before.since_of_absent (P := P) within absent).cons fun _ => here past before
  exact since.trans (after.since_of_absent within (by simp))

end Adds

end Daft.Logic
