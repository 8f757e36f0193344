import Daft.Logic.Cobs

/-!
# Byte stuffing in the firmware

`cobs_encode` writes into a buffer of the caller, patching each code byte once
its block is known; `cobs_decode` stops as soon as its output buffer is full.
Both compute the frames of `Logic.Cobs`, as far as the buffers reach.
-/

namespace Daft

open Logic

/-- The loop of `cobs_encode`: the buffer `output`, `write_index`, `code_index`
and `code`. The result is the buffer and the length returned, 0 on failure. -/
def cobsEncodeLoop : List UInt8 → List UInt8 → Nat → Nat → UInt8 → List UInt8 × Nat
  | [], output, writeIndex, codeIndex, code => (output.set codeIndex code, writeIndex)
  | byte :: input, output, writeIndex, codeIndex, code =>
    if writeIndex ≥ output.length then (output, 0)
    else if byte = 0 then
      cobsEncodeLoop input (output.set codeIndex code) (writeIndex + 1) writeIndex 1
    else
      let output := output.set writeIndex byte
      let writeIndex := writeIndex + 1
      let code := code + 1
      if code = 0xFF then
        if writeIndex ≥ output.length then (output, 0)
        else cobsEncodeLoop input (output.set codeIndex code) (writeIndex + 1) writeIndex 1
      else cobsEncodeLoop input output writeIndex codeIndex code

/-- `cobs_encode` into a buffer of `output_capacity` bytes. -/
def cobsEncode (input output : List UInt8) : List UInt8 × Nat :=
  if output.length = 0 then (output, 0) else cobsEncodeLoop input output 1 0 1

/-- The loop of `cobs_decode` on the input from `read_index` on, with the bytes
written so far. Every round reads a byte, so `rounds` need not exceed the input. -/
def cobsDecodeLoop (capacity : Nat) : Nat → List UInt8 → List UInt8 → Option (List UInt8)
  | _, [], written => some written
  | 0, _ :: _, _ => none
  | rounds + 1, code :: input, written =>
    if code = 0 then none
    else
      let copyLength := code.toNat - 1
      if copyLength > input.length ∨ written.length + copyLength > capacity then none
      else
        let written := written ++ input.take copyLength
        let input := input.drop copyLength
        if code < 0xFF ∧ input ≠ [] then
          if written.length ≥ capacity then none
          else cobsDecodeLoop capacity rounds input (written ++ [0])
        else cobsDecodeLoop capacity rounds input written

/-- `cobs_decode`: the bytes written, `none` where it returns false. -/
def cobsDecode (input : List UInt8) (capacity : Nat) : Option (List UInt8) :=
  cobsDecodeLoop capacity input.length input []

/-! ## Encoding -/

/-- The loop with `block` open after the blocks `done`: in place of the code of
`block` the buffer still holds `hole`, and `free` follows what is written. -/
def encodeFrom (input done block free : List UInt8) (hole : UInt8) : List UInt8 × Nat :=
  cobsEncodeLoop input (done ++ hole :: (block ++ free)) (done.length + (block.length + 1))
    done.length (blockCode block)

section

variable {input done block free used rest : List UInt8} {byte hole next last : UInt8}

theorem set_hole (code : UInt8) :
    (done ++ hole :: (block ++ free)).set done.length code = done ++ code :: (block ++ free) := by
  simp

theorem set_next (byte : UInt8) :
    (done ++ hole :: (block ++ next :: free)).set (done.length + (block.length + 1)) byte =
      done ++ hole :: (block ++ byte :: free) := by
  simp

theorem encodeFrom_nil :
    encodeFrom [] done block free hole =
      (done ++ blockCode block :: (block ++ free), done.length + (block.length + 1)) := by
  rw [encodeFrom, cobsEncodeLoop, set_hole]

theorem encodeFrom_exhausted : (encodeFrom (byte :: input) done block [] hole).2 = 0 := by
  rw [encodeFrom, cobsEncodeLoop, if_pos (by simp)]

/-- There is a byte left to write. -/
theorem not_exhausted :
    ¬ done.length + (block.length + 1) ≥ (done ++ hole :: (block ++ next :: free)).length := by
  simp only [List.length_append, List.length_cons]
  omega

theorem encodeFrom_zero :
    encodeFrom (0 :: input) done block (next :: free) hole =
      encodeFrom input (done ++ blockCode block :: block) [] free next := by
  rw [encodeFrom, cobsEncodeLoop, if_neg not_exhausted, if_pos rfl, set_hole, encodeFrom]
  simp [blockCode]

/-- One more byte joins the block. -/
theorem snoc_block :
    done ++ hole :: (block ++ byte :: free) = done ++ hole :: ((block ++ [byte]) ++ free) := by
  simp

theorem snoc_index (byte : UInt8) :
    done.length + (block.length + 1) + 1 = done.length + ((block ++ [byte]).length + 1) := by
  simp [Nat.add_assoc]

theorem encodeFrom_more (nonzero : byte ≠ 0) (more : block.length + 1 < 254) :
    encodeFrom (byte :: input) done block (next :: free) hole =
      encodeFrom input done (block ++ [byte]) free hole := by
  have unfilled : blockCode (block ++ [byte]) ≠ 0xFF := blockCode_ne_full (by simpa using more)
  rw [encodeFrom, cobsEncodeLoop, if_neg not_exhausted, if_neg nonzero]
  simp only [set_next, ← blockCode_snoc byte, if_neg unfilled]
  rw [encodeFrom, snoc_block, snoc_index byte]

/-- The byte that fills its block needs room for the code after it. -/
theorem encodeFrom_full (nonzero : byte ≠ 0) (full : block.length + 1 = 254) :
    encodeFrom (byte :: input) done block (next :: last :: free) hole =
      encodeFrom input (done ++ blockCode (block ++ [byte]) :: (block ++ [byte])) [] free last := by
  have filled : blockCode (block ++ [byte]) = 0xFF := blockCode_full (by simp [full])
  rw [encodeFrom, cobsEncodeLoop, if_neg not_exhausted, if_neg nonzero]
  simp only [set_next, ← blockCode_snoc byte, if_pos filled]
  rw [snoc_block, snoc_index byte, if_neg not_exhausted, set_hole, encodeFrom]
  simp [blockCode]

theorem encodeFrom_full_exhausted (nonzero : byte ≠ 0) (full : block.length + 1 = 254) :
    (encodeFrom (byte :: input) done block [next] hole).2 = 0 := by
  have filled : blockCode (block ++ [byte]) = 0xFF := blockCode_full (by simp [full])
  rw [encodeFrom, cobsEncodeLoop, if_neg not_exhausted, if_neg nonzero]
  simp only [set_next, ← blockCode_snoc byte, if_pos filled]
  rw [if_pos (by simp [Nat.add_assoc])]

/-- With exactly the room `used` for the rest of the frame, it is laid out there. -/
theorem encodeFrom_fits (short : block.length < 254)
    (fits : block.length + 1 + used.length = (stuff block input).length) :
    encodeFrom input done block (used ++ rest) hole =
      (done ++ (stuff block input ++ rest), done.length + (stuff block input).length) := by
  induction input generalizing done block used hole with
  | nil =>
    obtain rfl : used = [] := List.length_eq_zero_iff.mp (by simpa [stuff] using fits)
    rw [List.nil_append, encodeFrom_nil, stuff, List.cons_append, List.length_cons]
  | cons byte input ih =>
    have frame := le_length_stuff block (byte :: input)
    rw [List.length_cons] at frame
    cases used with
    | nil =>
      rw [List.length_nil] at fits
      omega
    | cons next used =>
      rw [List.length_cons] at fits
      by_cases zero : byte = 0
      · subst zero
        rw [stuff, if_pos rfl, List.length_cons, List.length_append] at fits
        rw [List.cons_append, encodeFrom_zero, ih (by decide) (by rw [List.length_nil]; omega),
          stuff, if_pos rfl]
        simp [Nat.add_assoc, Nat.add_comm 1]
      · rw [stuff, if_neg zero] at fits ⊢
        by_cases full : block.length + 1 = 254
        · rw [if_pos full] at fits ⊢
          rw [List.length_cons, List.length_append, List.length_cons] at fits
          have more := le_length_stuff [] input
          cases used with
          | nil =>
            rw [List.length_nil] at fits
            omega
          | cons last used =>
            rw [List.length_cons] at fits
            rw [List.cons_append, List.cons_append, encodeFrom_full zero full,
              ih (by decide) (by rw [List.length_nil]; omega)]
            simp only [List.append_assoc, List.cons_append, List.nil_append, List.length_append,
              List.length_cons, List.length_nil, Prod.mk.injEq, true_and]
            omega
        · rw [if_neg full] at fits ⊢
          have grown : (block ++ [byte]).length = block.length + 1 := by simp
          rw [List.cons_append, encodeFrom_more zero (by omega), ih (by omega) (by omega)]

/-- A frame longer than the buffer is given up. -/
theorem encodeFrom_overflows (short : block.length < 254)
    (overflows : block.length + 1 + free.length < (stuff block input).length) :
    (encodeFrom input done block free hole).2 = 0 := by
  induction input generalizing done block free hole with
  | nil =>
    rw [stuff, List.length_cons] at overflows
    omega
  | cons byte input ih =>
    cases free with
    | nil => exact encodeFrom_exhausted
    | cons next free =>
      rw [List.length_cons] at overflows
      by_cases zero : byte = 0
      · subst zero
        rw [stuff, if_pos rfl, List.length_cons, List.length_append] at overflows
        rw [encodeFrom_zero]
        apply ih (by decide)
        rw [List.length_nil]
        omega
      · rw [stuff, if_neg zero] at overflows
        by_cases full : block.length + 1 = 254
        · rw [if_pos full, List.length_cons, List.length_append, List.length_cons] at overflows
          cases free with
          | nil => exact encodeFrom_full_exhausted zero full
          | cons last free =>
            rw [List.length_cons] at overflows
            rw [encodeFrom_full zero full]
            apply ih (by decide)
            rw [List.length_nil]
            omega
        · rw [if_neg full] at overflows
          have grown : (block ++ [byte]).length = block.length + 1 := by simp
          rw [encodeFrom_more zero (by omega)]
          apply ih <;> omega

end

/-- The loop starts with an empty block at the start of the buffer. -/
theorem cobsEncode_cons (input : List UInt8) (hole : UInt8) (free : List UInt8) :
    cobsEncode input (hole :: free) = encodeFrom input [] [] free hole := rfl

/-- `cobs_encode` lays out the frame at the start of the buffer if it fits there. -/
theorem cobsEncode_fits {input used : List UInt8} (fits : used.length = (stuff [] input).length)
    (rest : List UInt8) :
    cobsEncode input (used ++ rest) = (stuff [] input ++ rest, (stuff [] input).length) := by
  cases used with
  | nil => exact absurd (List.length_eq_zero_iff.mp fits.symm) (stuff_ne_nil [] input)
  | cons hole used =>
    rw [List.length_cons] at fits
    rw [List.cons_append, cobsEncode_cons, encodeFrom_fits (by decide)]
    · rw [List.nil_append, List.length_nil, Nat.zero_add]
    · rw [List.length_nil]
      omega

/-- `cobs_encode` returns 0 if the frame does not fit. -/
theorem cobsEncode_overflows {input output : List UInt8}
    (overflows : output.length < (stuff [] input).length) : (cobsEncode input output).2 = 0 := by
  cases output with
  | nil => rfl
  | cons hole free =>
    rw [cobsEncode_cons]
    apply encodeFrom_overflows (by decide)
    rw [List.length_cons] at overflows
    rw [List.length_nil]
    omega

/-! ## Decoding -/

/-- Data that starts with more than the buffer holds does not fit in it. -/
theorem filter_overfull {capacity : Nat} {written block : List UInt8}
    (exceeds : capacity < written.length + block.length) (data : Option (List UInt8)) :
    (data.map fun data => written ++ (block ++ data)).filter (·.length ≤ capacity) = none := by
  rw [Option.filter_eq_none_iff]
  intro bytes some
  obtain ⟨data, -, rfl⟩ := Option.map_eq_some_iff.mp some
  simp only [List.length_append, decide_eq_true_eq]
  omega

/-- The loop appends the data of the remaining frame if the buffer holds it all. -/
theorem cobsDecodeLoop_eq {capacity rounds : Nat} {input written : List UInt8}
    (enough : input.length ≤ rounds) (within : written.length ≤ capacity) :
    cobsDecodeLoop capacity rounds input written =
      ((unstuff input).map (written ++ ·)).filter (·.length ≤ capacity) := by
  induction rounds generalizing input written with
  | zero =>
    obtain rfl : input = [] := List.length_eq_zero_iff.mp (Nat.le_zero.mp enough)
    simp [cobsDecodeLoop, unstuff, Option.filter_some, within]
  | succ rounds ih =>
    cases input with
    | nil => simp [cobsDecodeLoop, unstuff, Option.filter_some, within]
    | cons code input =>
      rw [List.length_cons] at enough
      by_cases refused : code = 0 ∨ input.length < code.toNat - 1
      · rw [unstuff, if_pos refused]
        rcases refused with zero | truncated
        · simp [cobsDecodeLoop, zero]
        · simp [cobsDecodeLoop, truncated]
      obtain ⟨nonzero, there⟩ := not_or.mp refused
      have counted : (input.take (code.toNat - 1)).length = code.toNat - 1 := by
        rw [List.length_take]
        omega
      have shorter : (input.drop (code.toNat - 1)).length ≤ rounds := by
        rw [List.length_drop]
        omega
      rw [cobsDecodeLoop, if_neg nonzero, unstuff, if_neg refused, Option.map_map]
      simp only [gt_iff_lt, there, false_or]
      generalize input.take (code.toNat - 1) = block at *
      generalize input.drop (code.toNat - 1) = later at *
      rw [← counted]
      have shape : ∀ data, ((written ++ ·) ∘ fun data => block ++ gap code later ++ data) data =
          written ++ (block ++ (gap code later ++ data)) := by simp
      rw [funext shape]
      by_cases exceeds : capacity < written.length + block.length
      · rw [if_pos exceeds]
        have overfull := filter_overfull exceeds ((unstuff later).map (gap code later ++ ·))
        rw [Option.map_map] at overfull
        exact overfull.symm
      rw [if_neg exceeds]
      by_cases more : code < 0xFF ∧ later ≠ []
      · have zero : gap code later = [0] := gap_short more.1 more.2
        rw [if_pos more, zero]
        by_cases full : capacity ≤ (written ++ block).length
        · rw [if_pos full]
          have exceeds : capacity < written.length + (block ++ [0]).length := by
            simp at full ⊢
            omega
          simpa using (filter_overfull exceeds (unstuff later)).symm
        · rw [if_neg full, ih shorter (by simp at full ⊢; omega)]
          simp
      · have nothing : gap code later = [] := if_neg more
        rw [if_neg more, nothing, ih shorter (by simp; omega)]
        simp

theorem cobsDecode_eq (input : List UInt8) (capacity : Nat) :
    cobsDecode input capacity = (unstuff input).filter (·.length ≤ capacity) := by
  rw [cobsDecode, cobsDecodeLoop_eq (Nat.le_refl _) (Nat.zero_le _)]
  simp

end Daft
