import Mathlib.Algebra.BigOperators.Fin
import Mathlib.Algebra.Field.ZMod
import Mathlib.Logic.Function.Iterate

/-!
# Shift registers with feedback

A register of `w` bits holds the remainder of what was shifted into it, modulo a polynomial
of degree `w`. The remainder of a sum is the sum of the remainders, so an error goes
unnoticed exactly where its own remainder is zero. Where the polynomial has an even number
of terms and its period exceeds the length, no error of one, two or three bits does.
-/

namespace Daft.Logic

variable {w : ℕ}

/-- One shift; `poly` is the polynomial without its leading term. -/
def shift (poly v : BitVec w) : BitVec w := if v.msb then (v <<< 1) ^^^ poly else v <<< 1

/-- The register after the bits were shifted into `v`. -/
def shiftIn (poly v : BitVec w) (bits : List Bool) : BitVec w :=
  bits.foldl (fun v bit => shift poly v ^^^ if bit then 1#w else 0#w) v

/-- The sum of the bits. -/
def parity (v : BitVec w) : ZMod 2 := ∑ i : Fin w, if v[i] then 1 else 0

/-- None of the next `rounds` shifts makes `v` the register that holds one. -/
def staysOff (poly : BitVec w) : ℕ → BitVec w → Bool
  | 0, _ => true
  | rounds + 1, v => v ≠ 1#w && staysOff poly rounds (shift poly v)

/-! ## Shifts -/

section

variable {poly : BitVec w}

/-- Shifting is linear. -/
theorem shift_xor (u v : BitVec w) : shift poly (u ^^^ v) = shift poly u ^^^ shift poly v := by
  simp only [shift, BitVec.msb_xor, BitVec.shiftLeft_xor_distrib]
  cases u.msb <;> cases v.msb <;> simp <;> grind

theorem shift_zero : shift poly 0#w = 0#w := by simp [shift]

/-- Without a leading bit a shift is a shift. -/
theorem shift_of_msb {v : BitVec w} (clear : v.msb = false) : shift poly v = v <<< 1 := by
  simp [shift, clear]

/-- A polynomial with a constant term loses nothing. -/
theorem shift_eq_zero (constant : poly.getLsbD 0 = true) {v : BitVec w}
    (zero : shift poly v = 0#w) : v = 0#w := by
  cases top : v.msb with
  | true =>
    have last := congrArg (BitVec.getLsbD · 0) zero
    simp [shift, top, constant] at last
  | false =>
    rw [shift_of_msb top] at zero
    apply BitVec.eq_of_getLsbD_eq
    intro i bound
    rw [BitVec.getLsbD_zero]
    by_cases last : i + 1 = w
    · obtain rfl : i = w - 1 := by omega
      rwa [BitVec.msb_eq_getLsbD_last] at top
    · have next := congrArg (BitVec.getLsbD · (i + 1)) zero
      rw [BitVec.getLsbD_eq_getElem bound]
      simpa [show i + 1 < w by omega] using next

/-- No information is lost where the polynomial has a constant term. -/
theorem shift_injective (constant : poly.getLsbD 0 = true) :
    Function.Injective (shift poly) := by
  intro u v same
  have zero : shift poly (u ^^^ v) = 0#w := by rw [shift_xor, same, BitVec.xor_self]
  exact BitVec.xor_eq_zero_iff.mp (shift_eq_zero constant zero)

/-- Any number of shifts is linear. -/
theorem shifts_xor (n : ℕ) (u v : BitVec w) :
    (shift poly)^[n] (u ^^^ v) = (shift poly)^[n] u ^^^ (shift poly)^[n] v := by
  induction n generalizing u v with
  | zero => rfl
  | succ n ih => rw [Function.iterate_succ_apply, shift_xor, ih]; rfl

theorem shifts_zero (n : ℕ) : (shift poly)^[n] 0#w = 0#w :=
  Function.iterate_fixed shift_zero n

/-- The check visits every round. -/
theorem staysOff_shifts {rounds : ℕ} {v : BitVec w} (off : staysOff poly rounds v = true) :
    ∀ n < rounds, (shift poly)^[n] v ≠ 1#w := by
  induction rounds generalizing v with
  | zero => simp
  | succ rounds ih =>
    simp only [staysOff, ne_eq, decide_not, Bool.and_eq_true, Bool.not_eq_true',
      decide_eq_false_iff_not] at off
    intro n bound
    cases n with
    | zero => exact off.1
    | succ n => exact ih off.2 n (by omega)

end

/-! ## Parity -/

/-- Parity is linear. -/
theorem parity_xor (u v : BitVec w) : parity (u ^^^ v) = parity u + parity v := by
  rw [parity, parity, parity, ← Finset.sum_add_distrib]
  refine Finset.sum_congr rfl fun i _ => ?_
  simp only [Fin.getElem_fin, BitVec.getElem_xor]
  cases u[i.val] <;> cases v[i.val] <;> decide

/-- What a shift without feedback drops is the highest bit. -/
theorem parity_shiftLeft (v : BitVec w) :
    parity (v <<< 1) + (if v.msb then 1 else 0) = parity v := by
  cases w with
  | zero => simp [BitVec.eq_nil v, parity]
  | succ n =>
    have lowest : (v <<< 1)[(0 : Fin (n + 1))] = false := by simp
    have next : ∀ i : Fin n, (v <<< 1)[i.succ] = v[i.castSucc] := by simp
    have top : v.msb = v[Fin.last n] := by simp [BitVec.msb_eq_getLsbD_last]
    rw [parity, parity, Fin.sum_univ_succ, Fin.sum_univ_castSucc, lowest, top]
    simp [next]

/-- A polynomial with an even number of terms keeps the parity. -/
theorem parity_shift {poly : BitVec w} (even : parity poly = 1) (v : BitVec w) :
    parity (shift poly v) = parity v := by
  have dropped := parity_shiftLeft v
  unfold shift
  split
  case isTrue top =>
    rw [top, if_pos rfl] at dropped
    rw [parity_xor, even, dropped]
  case isFalse top =>
    rw [if_neg top, add_zero] at dropped
    exact dropped

theorem parity_zero : parity (0#w) = 0 := by simp [parity]

theorem parity_one {poly : BitVec w} (even : parity poly = 1) : parity (1#w) = 1 := by
  cases w with
  | zero => cases even
  | succ n =>
    have next : ∀ i : Fin n, (1#(n + 1))[i.succ] = false := by simp
    rw [parity, Fin.sum_univ_succ]
    simp [next]

/-! ## Remainders -/

section

variable {poly : BitVec w}

@[simp] theorem shiftIn_cons (v : BitVec w) (bit : Bool) (bits : List Bool) :
    shiftIn poly v (bit :: bits) =
      shiftIn poly (shift poly v ^^^ if bit then 1#w else 0#w) bits := rfl

/-- Bits are shifted in one after the other. -/
theorem shiftIn_append (v : BitVec w) (first later : List Bool) :
    shiftIn poly v (first ++ later) = shiftIn poly (shiftIn poly v first) later :=
  List.foldl_append

/-- What the register held and what was shifted in add up. -/
theorem shiftIn_eq (v : BitVec w) (bits : List Bool) :
    shiftIn poly v bits = (shift poly)^[bits.length] v ^^^ shiftIn poly 0#w bits := by
  induction bits generalizing v with
  | nil => exact (BitVec.xor_zero).symm
  | cons bit bits ih =>
    rw [shiftIn_cons, shiftIn_cons, ih, ih (shift poly 0#w ^^^ _), shifts_xor, shifts_xor, shift_zero,
      shifts_zero, BitVec.zero_xor, BitVec.xor_assoc]
    rfl

/-- Clear bits shift only. -/
theorem shiftIn_clear {bits : List Bool} (clear : bits.count true = 0) (v : BitVec w) :
    shiftIn poly v bits = (shift poly)^[bits.length] v := by
  induction bits generalizing v with
  | nil => rfl
  | cons bit bits ih =>
    cases bit with
    | true => simp at clear
    | false =>
      rw [shiftIn_cons, ih (by simpa using clear), if_neg (by simp), BitVec.xor_zero]
      rfl

/-- Over an even polynomial the parity counts the bits shifted in. -/
theorem parity_shiftIn (even : parity poly = 1) (v : BitVec w) (bits : List Bool) :
    parity (shiftIn poly v bits) = parity v + (bits.count true : ZMod 2) := by
  induction bits generalizing v with
  | nil => simp [shiftIn]
  | cons bit bits ih =>
    rw [shiftIn_cons, ih, parity_xor, parity_shift even]
    cases bit with
    | true =>
      rw [if_pos rfl, parity_one even, List.count_cons_self, Nat.cast_succ, add_assoc,
        add_comm (1 : ZMod 2)]
    | false => simp [parity_zero]

/-- The remainder of two bits is never zero within the period. -/
theorem shiftIn_two_ne_zero (constant : poly.getLsbD 0 = true) {rounds : ℕ}
    (off : staysOff poly rounds (shift poly 1#w) = true) {bits : List Bool}
    (long : bits.length ≤ rounds) (two : bits.count true = 2) : shiftIn poly 0#w bits ≠ 0#w := by
  intro zero
  have member : true ∈ bits := List.count_pos_iff.mp (by omega)
  obtain ⟨before, rest, rfl, first⟩ := List.eq_append_cons_of_mem member
  have leading : before.count true = 0 := List.count_eq_zero_of_not_mem first
  have one : rest.count true = 1 := by
    rw [List.count_append, leading, List.count_cons_self] at two
    omega
  have member' : true ∈ rest := List.count_pos_iff.mp (by omega)
  obtain ⟨between, after, rfl, second⟩ := List.eq_append_cons_of_mem member'
  have apart : between.count true = 0 := List.count_eq_zero_of_not_mem second
  have trailing : after.count true = 0 := by
    rw [List.count_append, apart, List.count_cons_self] at one
    omega
  -- The first bit goes round the register until the second meets it.
  rw [shiftIn_append, shiftIn_clear leading, shifts_zero, shiftIn_cons, shift_zero, if_pos rfl,
    BitVec.zero_xor, shiftIn_append, shiftIn_clear apart, shiftIn_cons, if_pos rfl,
    shiftIn_clear trailing, ← shifts_zero after.length] at zero
  have meets := (shift_injective constant).iterate after.length zero
  have returned : (shift poly)^[between.length] (shift poly 1#w) = 1#w := by
    rw [← Function.iterate_succ_apply, Function.iterate_succ_apply']
    exact BitVec.xor_eq_zero_iff.mp meets
  refine staysOff_shifts off between.length ?_ returned
  simp at long
  omega

/-- No one, two or three bits have the remainder zero within the period of a polynomial
with an even number of terms. -/
theorem clear_of_remainder (constant : poly.getLsbD 0 = true) (even : parity poly = 1) {rounds : ℕ}
    (off : staysOff poly rounds (shift poly 1#w) = true) {bits : List Bool}
    (long : bits.length ≤ rounds) (few : bits.count true ≤ 3)
    (zero : shiftIn poly 0#w bits = 0#w) : bits.count true = 0 := by
  have even := parity_shiftIn even 0#w bits
  rw [zero, parity_zero, zero_add] at even
  have two : bits.count true ≠ 2 := fun two => shiftIn_two_ne_zero constant off long two zero
  generalize bits.count true = weight at *
  have divides : 2 ∣ weight := (ZMod.natCast_eq_zero_iff weight 2).mp even.symm
  omega

end

end Daft.Logic
