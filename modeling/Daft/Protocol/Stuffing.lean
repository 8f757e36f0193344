import Daft.Protocol.Cobs

/-!
# Byte stuffing of any length

A packet never fills a block of 254 bytes. `cobs_encode` and `cobs_decode` do not depend
on that: they are exact for data of any length and for every buffer.
-/

namespace Daft

open Logic

/-! ## Writes -/

/-- `output[index] = byte`, `none` beyond the buffer. -/
def writeAt (output : List UInt8) (index : Nat) (byte : UInt8) : Option (List UInt8) :=
  if index < output.length then some (output.set index byte) else none

/-- The loop of `cobs_encode`, `none` where it writes beyond the buffer. -/
def cobsEncodeLoopWithin :
    List UInt8 → List UInt8 → Nat → Nat → UInt8 → Option (List UInt8 × Nat)
  | [], output, writeIndex, codeIndex, code =>
    (writeAt output codeIndex code).map fun output => (output, writeIndex)
  | byte :: input, output, writeIndex, codeIndex, code =>
    if writeIndex ≥ output.length then some (output, 0)
    else if byte = 0 then do
      let output ← writeAt output codeIndex code
      cobsEncodeLoopWithin input output (writeIndex + 1) writeIndex 1
    else do
      let output ← writeAt output writeIndex byte
      let writeIndex := writeIndex + 1
      let code := code + 1
      if code = 0xFF then
        if writeIndex ≥ output.length then some (output, 0)
        else
          let output ← writeAt output codeIndex code
          cobsEncodeLoopWithin input output (writeIndex + 1) writeIndex 1
      else cobsEncodeLoopWithin input output writeIndex codeIndex code

/-- `cobs_encode`, `none` where it writes beyond the buffer. -/
def cobsEncodeWithin (input output : List UInt8) : Option (List UInt8 × Nat) :=
  if output.length = 0 then some (output, 0) else cobsEncodeLoopWithin input output 1 0 1

theorem writeAt_within {output : List UInt8} {index : Nat} (within : index < output.length)
    (byte : UInt8) : writeAt output index byte = some (output.set index byte) :=
  if_pos within

/-- The code byte of the open block is within the buffer all along. -/
theorem cobsEncodeLoopWithin_eq (input output : List UInt8) (writeIndex codeIndex : Nat) (code : UInt8)
    (within : codeIndex < output.length) :
    cobsEncodeLoopWithin input output writeIndex codeIndex code =
      some (cobsEncodeLoop input output writeIndex codeIndex code) := by
  induction input generalizing output writeIndex codeIndex code with
  | nil => rw [cobsEncodeLoopWithin, writeAt_within within, cobsEncodeLoop, Option.map_some]
  | cons byte input ih =>
    rw [cobsEncodeLoopWithin, cobsEncodeLoop]
    by_cases exhausted : writeIndex ≥ output.length
    · rw [if_pos exhausted, if_pos exhausted]
    rw [if_neg exhausted, if_neg exhausted, writeAt_within within,
      writeAt_within (Nat.not_le.mp exhausted)]
    simp only [Option.bind_eq_bind, Option.bind_some]
    by_cases zero : byte = 0
    · rw [if_pos zero, if_pos zero]
      exact ih _ _ _ _ (by simpa using exhausted)
    rw [if_neg zero, if_neg zero]
    by_cases full : code + 1 = 0xFF
    · rw [if_pos full, if_pos full]
      by_cases exhausted' : writeIndex + 1 ≥ (output.set writeIndex byte).length
      · rw [if_pos exhausted', if_pos exhausted']
      · rw [if_neg exhausted', if_neg exhausted', writeAt_within (by simpa using within),
          Option.bind_some]
        exact ih _ _ _ _ (by simpa using exhausted')
    · rw [if_neg full, if_neg full]
      exact ih _ _ _ _ (by simpa using within)

/-- `cobs_encode` never writes beyond its buffer. -/
theorem cobsEncodeWithin_eq (input output : List UInt8) :
    cobsEncodeWithin input output = some (cobsEncode input output) := by
  unfold cobsEncodeWithin cobsEncode
  split
  case isTrue => rfl
  case isFalse nonempty => exact cobsEncodeLoopWithin_eq _ _ _ _ _ (Nat.pos_of_ne_zero nonempty)

/-! ## Main result -/

/-- The length of the frame of some data: a code more than bytes, and one for each full block. -/
def encodedLength (data : List UInt8) : Nat := 1 + data.length + fullBlocks data

theorem encodedLength_eq (data : List UInt8) : (stuff [] data).length = encodedLength data :=
  length_stuff_blocks List.not_mem_nil (by decide)

theorem cobsEncode_room {data output : List UInt8} (room : encodedLength data ≤ output.length) :
    (cobsEncode data output).2 = encodedLength data ∧
      (cobsEncode data output).1.take (encodedLength data) = stuff [] data := by
  have used : (output.take (encodedLength data)).length = (stuff [] data).length := by
    rw [List.length_take, Nat.min_eq_left room, encodedLength_eq]
  have written := cobsEncode_fits used (output.drop (encodedLength data))
  rw [List.take_append_drop, encodedLength_eq] at written
  rw [written]
  exact ⟨rfl, by rw [← encodedLength_eq, List.take_left]⟩

/-- `cobs_encode` fails exactly where the frame does not fit, and otherwise writes bytes
without zeros that `cobs_decode` maps back. What `cobs_decode` accepts without zeros is what
`cobs_encode` writes for it, but for the empty block after a full one at the end. -/
theorem cobs_exact (data output : List UInt8) :
    cobsEncodeWithin data output = some (cobsEncode data output) ∧
    ((cobsEncode data output).2 = 0 ↔ output.length < encodedLength data) ∧
    (encodedLength data ≤ output.length →
      (cobsEncode data output).2 = encodedLength data ∧
        0 ∉ (cobsEncode data output).1.take (encodedLength data) ∧
        (blockCodes ((cobsEncode data output).1.take (encodedLength data))).count 0xFF =
          fullBlocks data ∧
        cobsDecode ((cobsEncode data output).1.take (encodedLength data)) data.length = some data) ∧
    ∀ frame capacity, frame ≠ [] → 0 ∉ frame → cobsDecode frame capacity = some data →
      encodedLength data ≤ output.length →
      ((blockCodes frame).getLast? = some 0xFF →
        (cobsEncode data output).1.take (encodedLength data) = frame ++ [1]) ∧
      ((blockCodes frame).getLast? ≠ some 0xFF →
        (cobsEncode data output).1.take (encodedLength data) = frame) := by
  refine ⟨cobsEncodeWithin_eq data output, ⟨?_, ?_⟩, ?_, ?_⟩
  · intro failed
    apply Nat.not_le.mp
    intro room
    have written := (cobsEncode_room room).1
    rw [failed, encodedLength] at written
    omega
  · intro overflows
    exact cobsEncode_overflows (by rwa [encodedLength_eq])
  · intro room
    obtain ⟨length, written⟩ := cobsEncode_room room
    rw [length, written, cobsDecode_eq, unstuff_stuff (by decide), List.nil_append, Option.filter_some]
    refine ⟨rfl, zero_notMem_stuff List.not_mem_nil (by decide), ?_, by simp⟩
    exact count_blockCodes List.not_mem_nil (by decide)
  · intro frame capacity nonempty clean accepted room
    rw [cobsDecode_eq, Option.filter_eq_some_iff] at accepted
    have laidOut := stuff_unstuff_blocks frame clean nonempty accepted.1
    rw [(cobsEncode_room room).2, laidOut]
    constructor
    · intro full
      rw [if_pos full]
    · intro unfilled
      rw [if_neg unfilled, List.append_nil]

end Daft
