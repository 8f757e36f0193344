/-!
# Readers with a running offset

A reader takes the entries of a buffer one after another, over any way of reading one
entry. Read plainly, what stands beyond the buffer is read too; read within the buffer,
an index beyond it is an error. `Consumes` compares the two readings of one reader, and
is composed as the reader is.
-/

namespace Daft.Logic

variable {α β γ : Type}

/-- Entry `i` of `data`, or the index itself where `data` has no such entry. -/
def entryWithin (data : List β) (i : Nat) : Except Nat β :=
  match data[i]? with
  | some entry => .ok entry
  | none => .error i

/-- The entry at the offset, which moves past it. -/
def nextEntry {m : Type → Type} [Monad m] (entryAt : Nat → m β) : StateT Nat m β := fun offset => do
  let entry ← entryAt offset
  return (entry, offset + 1)

/-- Inside, the entry is read. -/
theorem entryWithin_of_lt (data : List β) (filler : β) {i : Nat} (inside : i < data.length) :
    entryWithin data i = .ok (data.getD i filler) := by
  simp [entryWithin, inside]

/-- Right behind the end, nothing is. -/
theorem entryWithin_length (data : List β) : entryWithin data data.length = .error data.length := by
  simp [entryWithin]

/-- Two readings of a reader that takes `n` entries: from a buffer of `size` entries the
checked one reads as the plain one does if it ends within the buffer, and otherwise stops
at the first index beyond it. -/
structure Consumes (size n : Nat) (plain : StateT Nat Id α) (checked : StateT Nat (Except Nat) α) :
    Prop where
  advances : ∀ offset, (plain.run offset).run.2 = offset + n
  within : ∀ offset, offset + n ≤ size → checked.run offset = .ok (plain.run offset).run
  beyond : ∀ offset, offset ≤ size → size < offset + n → checked.run offset = .error size

namespace Consumes

variable {size n k : Nat} {plain : StateT Nat Id α} {checked : StateT Nat (Except Nat) α}
  {next : α → StateT Nat Id γ} {nextChecked : α → StateT Nat (Except Nat) γ}

theorem pure (a : α) : Consumes size 0 (Pure.pure a) (Pure.pure a) where
  advances _ := rfl
  within _ _ := rfl
  beyond _ inside past := absurd past (Nat.not_lt.mpr inside)

/-- One entry takes one place. -/
theorem nextEntry (data : List β) (filler : β) :
    Consumes data.length 1 (Logic.nextEntry (m := Id) fun i => data.getD i filler)
      (Logic.nextEntry (entryWithin data)) where
  advances _ := rfl
  within offset inside := by
    show (entryWithin data offset >>= fun entry => _) = _
    rw [entryWithin_of_lt data filler inside]
    rfl
  beyond offset inside past := by
    obtain rfl : offset = data.length := by omega
    show (entryWithin data data.length >>= fun entry => _) = _
    rw [entryWithin_length]
    rfl

/-- A reader takes what its parts take. -/
theorem bind (first : Consumes size n plain checked)
    (rest : ∀ a, Consumes size k (next a) (nextChecked a)) :
    Consumes size (n + k) (plain >>= next) (checked >>= nextChecked) where
  advances offset := by
    calc ((plain >>= next).run offset).run.2
      _ = ((next (plain.run offset).run.1).run (plain.run offset).run.2).run.2 := rfl
      _ = offset + n + k := by rw [(rest _).advances, first.advances]
      _ = offset + (n + k) := Nat.add_assoc ..
  within offset inside := by
    have advances := first.advances offset
    rw [StateT.run_bind, first.within offset (by omega)]
    exact (rest _).within _ (by omega)
  beyond offset inside past := by
    have advances := first.advances offset
    rw [StateT.run_bind]
    by_cases fits : offset + n ≤ size
    · rw [first.within offset fits]
      exact (rest _).beyond _ (by omega) (by omega)
    · rw [first.beyond offset inside (by omega)]
      rfl

/-- What is computed from the entries takes nothing further. -/
theorem map (reader : Consumes size n plain checked) (f : α → γ) :
    Consumes size n (plain >>= fun a => Pure.pure (f a)) (checked >>= fun a => Pure.pure (f a)) :=
  reader.bind fun a => .pure (f a)

end Consumes

end Daft.Logic
