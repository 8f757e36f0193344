/-!
# Two-slot stores

A value is kept in one of two slots while its successor is written into the
other. The slots carry generations; the newer of two readable slots counts, and
a write goes to the one that does not. However a write ends, the store reads as
before it or as the value written: to its reader it is a single register.
-/

namespace Daft.Logic

inductive Side where
  | first | second
  deriving DecidableEq

def Side.other : Side → Side
  | .first => .second
  | .second => .first

@[simp] theorem Side.other_other (side : Side) : side.other.other = side := by
  cases side <;> rfl

theorem Side.other_eq {side damaged : Side} (different : damaged ≠ side) :
    damaged.other = side := by
  cases damaged <;> cases side <;> first | rfl | exact absurd rfl different

structure Slots (S : Type) where
  first : S
  second : S

namespace Slots

variable {S : Type}

def get (s : Slots S) : Side → S
  | .first => s.first
  | .second => s.second

def set (s : Slots S) (x : S) : Side → Slots S
  | .first => { s with first := x }
  | .second => { s with second := x }

@[simp] theorem get_set (s : Slots S) (x : S) (side : Side) : (s.set x side).get side = x := by
  cases side <;> rfl

@[simp] theorem get_set_other (s : Slots S) (x : S) (side : Side) :
    (s.set x side).get side.other = s.get side.other := by
  cases side <;> rfl

end Slots

/-- How slots are read and their generations compared. -/
structure SlotStore (S V G : Type) where
  decode : S → Option (V × G)
  newer : G → G → Bool
  next : G → G
  start : G
  next_newer : ∀ g, newer (next g) g = true
  not_newer_next : ∀ g, newer g (next g) = false

namespace SlotStore

variable {S V G : Type} (store : SlotStore S V G)

/-- The newer of two readings; the first slot wins ties. -/
def pick : Option (V × G) → Option (V × G) → Option (V × G)
  | none, second => second
  | some first, none => some first
  | some first, some second => if store.newer second.2 first.2 then some second else some first

/-- What the store reads as. -/
def load (s : Slots S) : Option (V × G) := store.pick (store.decode s.first) (store.decode s.second)

/-- The slot a write goes to, by the readings of both. -/
def aim : Option (V × G) → Option (V × G) → Side
  | none, _ => .first
  | some _, none => .second
  | some first, some second => if store.newer second.2 first.2 then .first else .second

def target (s : Slots S) : Side := store.aim (store.decode s.first) (store.decode s.second)

/-- The generation after a reading. -/
def generationAfter : Option (V × G) → G
  | none => store.start
  | some (_, g) => store.next g

variable {store} {s : Slots S} {x : S} {v : V}

/-- What the store reads as is read from one of the slots. -/
theorem load_decoded {reading : V × G} (loaded : store.load s = some reading) :
    store.decode s.first = some reading ∨ store.decode s.second = some reading := by
  simp only [load] at loaded
  cases first : store.decode s.first with
  | none =>
    rw [first] at loaded
    exact .inr loaded
  | some reading' =>
    cases second : store.decode s.second with
    | none =>
      rw [first, second] at loaded
      exact .inl loaded
    | some reading'' =>
      rw [first, second, pick] at loaded
      split at loaded
      · exact .inr loaded
      · exact .inl loaded

/-- An unreadable target hides nothing: the other slot is the one that counted. -/
theorem load_unreadable (unreadable : store.decode x = none) :
    store.load (s.set x (store.target s)) = store.load s := by
  simp only [load, target]
  cases first : store.decode s.first with
  | none => simp [aim, Slots.set, pick, unreadable]
  | some reading =>
    cases second : store.decode s.second with
    | none => simp [aim, Slots.set, pick, first, unreadable]
    | some reading' =>
      cases newer : store.newer reading'.2 reading.2 <;>
        simp [aim, Slots.set, pick, first, second, newer, unreadable]

/-- A readable target of the next generation is what counts. -/
theorem load_written
    (readable : store.decode x = some (v, store.generationAfter (store.load s))) :
    store.load (s.set x (store.target s)) = some (v, store.generationAfter (store.load s)) := by
  simp only [load, target] at readable ⊢
  cases first : store.decode s.first with
  | none =>
    cases second : store.decode s.second with
    | none => simp_all [aim, Slots.set, pick]
    | some reading =>
      simp_all [aim, Slots.set, pick, generationAfter, store.not_newer_next]
  | some reading =>
    cases second : store.decode s.second with
    | none => simp_all [aim, Slots.set, pick, generationAfter, store.next_newer]
    | some reading' =>
      cases newer : store.newer reading'.2 reading.2 <;>
        simp_all [aim, Slots.set, pick, generationAfter, store.next_newer, store.not_newer_next]

/-- Whatever is put into the target, what counted still counts, or else the target does. -/
theorem load_any (x : S) :
    store.load (s.set x (store.target s)) = store.load s ∨
      store.load (s.set x (store.target s)) = store.decode x := by
  simp only [load, target]
  cases first : store.decode s.first with
  | none =>
    cases second : store.decode s.second with
    | none => exact .inr (by cases read : store.decode x <;> simp [aim, Slots.set, pick, second, read])
    | some reading =>
      cases read : store.decode x with
      | none => exact .inl (by simp [aim, Slots.set, pick, second, read])
      | some reading' =>
        cases newer : store.newer reading.2 reading'.2 <;>
          simp [aim, Slots.set, pick, second, read, newer]
  | some reading =>
    cases second : store.decode s.second with
    | none =>
      cases read : store.decode x with
      | none => exact .inl (by simp [aim, Slots.set, pick, first, read])
      | some reading' =>
        cases newer : store.newer reading'.2 reading.2 <;>
          simp [aim, Slots.set, pick, first, read, newer]
    | some reading' =>
      cases newer : store.newer reading'.2 reading.2 <;>
        cases read : store.decode x <;>
          simp [aim, Slots.set, pick, first, second, newer, read] <;> grind

/-- A slot that reads the same changes nothing. -/
theorem load_congr {s' : Slots S} (same : ∀ side, store.decode (s'.get side) = store.decode (s.get side)) :
    store.load s' = store.load s := by
  have first : store.decode s'.first = store.decode s.first := same .first
  have second : store.decode s'.second = store.decode s.second := same .second
  rw [load, load, first, second]

/-- The write after a completed one goes to the other slot. -/
theorem target_written
    (readable : store.decode x = some (v, store.generationAfter (store.load s))) :
    store.target (s.set x (store.target s)) = (store.target s).other := by
  simp only [load, target] at readable ⊢
  cases first : store.decode s.first with
  | none =>
    cases second : store.decode s.second with
    | none => simp_all [aim, Slots.set, pick, Side.other]
    | some reading =>
      simp_all [aim, Slots.set, pick, generationAfter, store.not_newer_next, Side.other]
  | some reading =>
    cases second : store.decode s.second with
    | none => simp_all [aim, Slots.set, pick, generationAfter, store.next_newer, Side.other]
    | some reading' =>
      cases newer : store.newer reading'.2 reading.2 <;>
        simp_all [aim, Slots.set, pick, generationAfter, store.next_newer, store.not_newer_next,
          Side.other]

/-- After two completed writes one slot reads as the last and the other as the one before. -/
theorem spare_written {y : S} {w : V}
    (before : store.decode x = some (v, store.generationAfter (store.load s)))
    (last : store.decode y = some (w, store.next (store.generationAfter (store.load s)))) :
    let written := s.set x (store.target s)
    let after := written.set y (store.target written)
    store.decode (after.get (store.target written)) =
        some (w, store.next (store.generationAfter (store.load s))) ∧
      store.decode (after.get (store.target written).other) =
        some (v, store.generationAfter (store.load s)) := by
  intro written after
  have turned : store.target written = (store.target s).other := target_written before
  constructor
  · rw [Slots.get_set]
    exact last
  · rw [Slots.get_set_other, turned, Side.other_other, Slots.get_set]
    exact before

/-- How a write of `v` may leave the slots: untouched, with an unreadable target,
or written; and what the register holds then. -/
inductive Writes (store : SlotStore S V G) (s : Slots S) (v : V) :
    Slots S → Option (V × G) → Prop where
  | untouched : Writes store s v s (store.load s)
  | torn {x : S} (unreadable : store.decode x = none) :
      Writes store s v (s.set x (store.target s)) (store.load s)
  | written {x : S}
      (readable : store.decode x = some (v, store.generationAfter (store.load s))) :
      Writes store s v (s.set x (store.target s))
        (some (v, store.generationAfter (store.load s)))

theorem Writes.load {s' : Slots S} {register : Option (V × G)}
    (writes : store.Writes s v s' register) : store.load s' = register := by
  cases writes with
  | untouched => rfl
  | torn unreadable => exact load_unreadable unreadable
  | written readable => exact load_written readable

end SlotStore

end Daft.Logic
