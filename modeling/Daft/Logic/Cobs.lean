/-!
# Consistent overhead byte stuffing

A frame is a sequence of blocks, each a code byte and the data bytes it counts.
A block of fewer than 254 bytes stands for its bytes and a zero, except at the
end of the frame; one of 254 stands for its bytes alone. `stuff` lays out the
frame of some data, `unstuff` reads any frame. Reading takes back what was laid
out, and a frame without zeros and full blocks is laid out in one way only.
-/

namespace Daft.Logic

/-- The code byte of a block. -/
def blockCode (block : List UInt8) : UInt8 := UInt8.ofNat (block.length + 1)

/-- The frame of `data`, with `block` the part of its first block already read. -/
def stuff : List UInt8 → List UInt8 → List UInt8
  | block, [] => blockCode block :: block
  | block, byte :: data =>
    if byte = 0 then blockCode block :: (block ++ stuff [] data)
    else if block.length + 1 = 254 then
      blockCode (block ++ [byte]) :: (block ++ byte :: stuff [] data)
    else stuff (block ++ [byte]) data

/-- What the end of a block stands for. -/
def gap (code : UInt8) (frame : List UInt8) : List UInt8 :=
  if code < 0xFF ∧ frame ≠ [] then [0] else []

/-- The data of a frame, `none` where a code is zero or counts more than is there. -/
def unstuff : List UInt8 → Option (List UInt8)
  | [] => some []
  | code :: rest =>
    if code = 0 ∨ rest.length < code.toNat - 1 then none
    else
      (unstuff (rest.drop (code.toNat - 1))).map fun data =>
        rest.take (code.toNat - 1) ++ gap code (rest.drop (code.toNat - 1)) ++ data
termination_by frame => frame.length
decreasing_by
  rw [List.length_drop, List.length_cons]
  omega

/-! ## Codes -/

variable {block data frame : List UInt8}

theorem blockCode_toNat (short : block.length ≤ 254) :
    (blockCode block).toNat = block.length + 1 := by
  rw [blockCode, UInt8.toNat_ofNat', Nat.mod_eq_of_lt]
  omega

theorem blockCode_ne_zero (short : block.length ≤ 254) : blockCode block ≠ 0 := by
  intro zero
  have counted := blockCode_toNat short
  rw [zero] at counted
  cases counted

theorem blockCode_lt_full (short : block.length < 254) : blockCode block < 0xFF := by
  rw [UInt8.lt_iff_toNat_lt, blockCode_toNat (Nat.le_of_lt short)]
  exact Nat.succ_lt_succ short

theorem blockCode_ne_full (short : block.length < 254) : blockCode block ≠ 0xFF :=
  fun full => UInt8.lt_irrefl 0xFF (full ▸ blockCode_lt_full short)

theorem blockCode_snoc (byte : UInt8) : blockCode (block ++ [byte]) = blockCode block + 1 := by
  simp [blockCode, UInt8.ofNat_add]

theorem blockCode_full (full : block.length = 254) : blockCode block = 0xFF := by
  rw [blockCode, full]
  rfl

/-- A code is that of the bytes it counts. -/
theorem blockCode_of_count {code : UInt8} (nonzero : code ≠ 0)
    (counted : block.length = code.toNat - 1) : blockCode block = code := by
  have positive : code.toNat ≠ 0 := fun zero => nonzero (UInt8.toNat_inj.mp zero)
  have bound := code.toNat_lt
  apply UInt8.toNat_inj.mp
  rw [blockCode_toNat (by omega)]
  omega

/-! ## Frames -/

theorem stuff_ne_nil (block data : List UInt8) : stuff block data ≠ [] := by
  induction data generalizing block with
  | nil => simp [stuff]
  | cons byte data ih =>
    unfold stuff
    split
    · simp
    · split
      · simp
      · exact ih _

theorem le_length_stuff (block data : List UInt8) :
    block.length + data.length + 1 ≤ (stuff block data).length := by
  induction data generalizing block with
  | nil => simp [stuff]
  | cons byte data ih =>
    have fresh := ih []
    have grown := ih (block ++ [byte])
    simp only [List.length_append, List.length_cons, List.length_nil] at fresh grown ⊢
    unfold stuff
    split
    · simp only [List.length_cons, List.length_append]
      omega
    · split
      · simp only [List.length_cons, List.length_append]
        omega
      · omega

/-- Short data takes one code byte more. -/
theorem length_stuff (short : block.length + data.length < 254) :
    (stuff block data).length = block.length + data.length + 1 := by
  induction data generalizing block with
  | nil => simp [stuff]
  | cons byte data ih =>
    rw [List.length_cons] at short ⊢
    unfold stuff
    split
    · have rest : (stuff [] data).length = _ := ih (by rw [List.length_nil]; omega)
      rw [List.length_cons, List.length_append, rest, List.length_nil]
      omega
    · rw [if_neg (by omega), ih (by rw [List.length_append, List.length_singleton]; omega)]
      rw [List.length_append, List.length_singleton]
      omega

/-- A frame holds no zero. -/
theorem zero_notMem_stuff (clean : 0 ∉ block) (short : block.length < 254) :
    0 ∉ stuff block data := by
  have counted : ∀ {block : List UInt8}, block.length ≤ 254 → (0 : UInt8) ≠ blockCode block :=
    fun short => (blockCode_ne_zero short).symm
  induction data generalizing block with
  | nil =>
    rw [stuff, List.mem_cons, not_or]
    exact ⟨counted (Nat.le_of_lt short), clean⟩
  | cons byte data ih =>
    have fresh : 0 ∉ stuff [] data := ih (by simp) (by decide)
    unfold stuff
    split
    · simp [counted (Nat.le_of_lt short), clean, fresh]
    case isFalse nonzero =>
      split
      case isTrue full =>
        have code : 0 ≠ blockCode (block ++ [byte]) := counted (by simp [full])
        simp [code, clean, Ne.symm nonzero, fresh]
      case isFalse more =>
        apply ih
        · simp [clean, Ne.symm nonzero]
        · rw [List.length_append, List.length_singleton]
          omega

/-- Bytes other than zero join the open block. -/
theorem stuff_run {run : List UInt8} (clean : 0 ∉ run)
    (short : block.length + run.length < 254) :
    stuff block (run ++ data) = stuff (block ++ run) data := by
  induction run generalizing block with
  | nil => simp
  | cons byte run ih =>
    rw [List.mem_cons, not_or] at clean
    obtain ⟨nonzero, clean⟩ := clean
    rw [List.length_cons] at short
    have room : block.length + 1 ≠ 254 := by omega
    rw [List.cons_append, stuff, if_neg (Ne.symm nonzero), if_neg room, ih clean]
    · rw [List.append_assoc, List.singleton_append]
    · rw [List.length_append, List.length_singleton]
      omega

/-! ## Reading -/

theorem gap_nil (code : UInt8) : gap code [] = [] := by simp [gap]

theorem gap_full (frame : List UInt8) : gap 0xFF frame = [] := by simp [gap]

theorem gap_short {code : UInt8} (short : code < 0xFF) (more : frame ≠ []) : gap code frame = [0] :=
  if_pos ⟨short, more⟩

/-- One block and the frame after it. -/
theorem unstuff_block (frame : List UInt8) (short : block.length ≤ 254) :
    unstuff (blockCode block :: (block ++ frame)) =
      (unstuff frame).map fun data => block ++ gap (blockCode block) frame ++ data := by
  have counted : (blockCode block).toNat - 1 = block.length := by
    rw [blockCode_toNat short]
    rfl
  have there : ¬ (blockCode block = 0 ∨ (block ++ frame).length < (blockCode block).toNat - 1) := by
    rw [counted, List.length_append]
    rintro (zero | truncated)
    · exact blockCode_ne_zero short zero
    · omega
  rw [unstuff, if_neg there, counted, List.drop_left, List.take_left]

/-- Reading takes back what was laid out. -/
theorem unstuff_stuff (short : block.length < 254) :
    unstuff (stuff block data) = some (block ++ data) := by
  induction data generalizing block with
  | nil =>
    have single := unstuff_block [] (Nat.le_of_lt short)
    rw [List.append_nil] at single
    rw [stuff, single, unstuff, gap_nil]
    simp
  | cons byte data ih =>
    have fresh : unstuff (stuff [] data) = some data := ih (by decide)
    unfold stuff
    split
    case isTrue zero =>
      rw [unstuff_block _ (Nat.le_of_lt short), fresh,
        gap_short (blockCode_lt_full short) (stuff_ne_nil [] data)]
      simp [zero]
    case isFalse nonzero =>
      split
      case isTrue full =>
        have length : (block ++ [byte]).length = 254 := by simp [full]
        have snoc : block ++ byte :: stuff [] data = (block ++ [byte]) ++ stuff [] data := by simp
        rw [snoc, unstuff_block _ (Nat.le_of_eq length), fresh, blockCode_full length, gap_full]
        simp
      case isFalse more =>
        rw [ih (by rw [List.length_append, List.length_singleton]; omega), List.append_assoc,
          List.singleton_append]

/-! ## Blocks -/

/-- The full blocks of data: every 254 bytes of a run without zeros fill one. -/
def fullBlocks (data : List UInt8) : Nat :=
  (data.splitOn 0).foldr (fun run blocks => run.length / 254 + blocks) 0

/-- The codes of a frame. -/
def blockCodes : List UInt8 → List UInt8
  | [] => []
  | code :: rest => code :: blockCodes (rest.drop (code.toNat - 1))
termination_by frame => frame.length
decreasing_by
  rw [List.length_drop, List.length_cons]
  omega

variable {run : List UInt8}

theorem fullBlocks_clean (clean : 0 ∉ run) : fullBlocks run = run.length / 254 := by
  simp [fullBlocks, List.splitOn_eq_singleton clean]

theorem fullBlocks_zero (clean : 0 ∉ run) (data : List UInt8) :
    fullBlocks (run ++ 0 :: data) = run.length / 254 + fullBlocks data := by
  rw [fullBlocks, List.splitOn_append_cons_self_of_not_mem clean, List.foldr_cons, fullBlocks]

theorem fullBlocks_full (clean : 0 ∉ run) (full : run.length = 254) (data : List UInt8) :
    fullBlocks (run ++ data) = fullBlocks data + 1 := by
  have more : ∀ rest : List UInt8, (run ++ rest).length / 254 = rest.length / 254 + 1 := by
    intro rest
    rw [List.length_append, full]
    omega
  by_cases zero : 0 ∈ data
  · obtain ⟨rest, data, rfl, cleanRest⟩ := List.eq_append_cons_of_mem zero
    rw [← List.append_assoc, fullBlocks_zero (by simp [clean, cleanRest]), fullBlocks_zero cleanRest,
      more]
    omega
  · rw [fullBlocks_clean (by simp [clean, zero]), fullBlocks_clean zero, more]

/-- A frame has a code more than its data is long, and one for every full block. -/
theorem length_stuff_blocks (clean : 0 ∉ block) (short : block.length < 254) :
    (stuff block data).length = 1 + (block ++ data).length + fullBlocks (block ++ data) := by
  induction data generalizing block with
  | nil =>
    rw [stuff, List.append_nil, fullBlocks_clean clean, List.length_cons]
    omega
  | cons byte data ih =>
    have fresh : (stuff [] data).length = 1 + data.length + fullBlocks data :=
      ih List.not_mem_nil (by decide)
    rw [stuff]
    split
    case isTrue zero =>
      rw [zero, fullBlocks_zero clean, List.length_cons, List.length_append, fresh, List.length_append,
        List.length_cons]
      omega
    case isFalse nonzero =>
      have snoc : block ++ byte :: data = (block ++ [byte]) ++ data := by simp
      have grown : 0 ∉ block ++ [byte] := by simp [clean, Ne.symm nonzero]
      have length : (block ++ [byte]).length = block.length + 1 := by simp
      rw [snoc]
      split
      case isTrue full =>
        rw [fullBlocks_full grown (length.trans full), List.length_cons, List.length_append,
          List.length_cons, fresh, List.length_append, length]
        omega
      case isFalse more => exact ih grown (by omega)

theorem blockCodes_block (short : block.length ≤ 254) (frame : List UInt8) :
    blockCodes (blockCode block :: (block ++ frame)) = blockCode block :: blockCodes frame := by
  rw [blockCodes, blockCode_toNat short, Nat.add_sub_cancel, List.drop_left]

theorem blockCodes_ne_nil (nonempty : frame ≠ []) : blockCodes frame ≠ [] := by
  cases frame with
  | nil => exact absurd rfl nonempty
  | cons code rest =>
    rw [blockCodes]
    exact List.cons_ne_nil _ _

/-- The full blocks are those with the code `0xFF`. -/
theorem count_blockCodes (clean : 0 ∉ block) (short : block.length < 254) :
    (blockCodes (stuff block data)).count 0xFF = fullBlocks (block ++ data) := by
  induction data generalizing block with
  | nil =>
    have single := blockCodes_block (Nat.le_of_lt short) []
    rw [List.append_nil] at single
    rw [stuff, single, blockCodes, List.append_nil, fullBlocks_clean clean,
      List.count_cons_of_ne (blockCode_ne_full short)]
    simp [Nat.div_eq_of_lt short]
  | cons byte data ih =>
    have fresh : (blockCodes (stuff [] data)).count 0xFF = fullBlocks data :=
      ih List.not_mem_nil (by decide)
    rw [stuff]
    split
    case isTrue zero =>
      rw [zero, fullBlocks_zero clean, blockCodes_block (Nat.le_of_lt short),
        List.count_cons_of_ne (blockCode_ne_full short), fresh, Nat.div_eq_of_lt short, Nat.zero_add]
    case isFalse nonzero =>
      have snoc : ∀ rest, block ++ byte :: rest = (block ++ [byte]) ++ rest := by simp
      have grown : 0 ∉ block ++ [byte] := by simp [clean, Ne.symm nonzero]
      have length : (block ++ [byte]).length = block.length + 1 := by simp
      rw [snoc data]
      split
      case isTrue full =>
        have filled := length.trans full
        rw [snoc (stuff [] data), fullBlocks_full grown filled,
          blockCodes_block (Nat.le_of_eq filled), blockCode_full filled, List.count_cons_self, fresh]
      case isFalse more => exact ih grown (by omega)

/-- A run that fills a block closes it. -/
theorem stuff_full (clean : 0 ∉ run) (full : run.length = 254) (data : List UInt8) :
    stuff [] (run ++ data) = 0xFF :: (run ++ stuff [] data) := by
  rcases List.eq_nil_or_concat run with rfl | ⟨front, byte, rfl⟩
  · cases full
  obtain ⟨cleanFront, nonzero⟩ : 0 ∉ front ∧ byte ≠ 0 := by simpa [eq_comm] using clean
  have length : front.length + 1 = 254 := by simpa using full
  have short : ([] : List UInt8).length + front.length < 254 := by
    rw [List.length_nil]
    omega
  have code : blockCode (front ++ [byte]) = 0xFF := blockCode_full (by simpa using full)
  rw [List.concat_eq_append, List.append_assoc, stuff_run cleanFront short, List.nil_append,
    List.singleton_append, stuff, if_neg nonzero, if_pos length, code]
  simp

/-- What a frame without zeros reads as is laid out as that frame, but for the empty block
that follows a full one at the end. -/
theorem stuff_unstuff_blocks (frame : List UInt8) (clean : 0 ∉ frame) (nonempty : frame ≠ [])
    (read : unstuff frame = some data) :
    stuff [] data = frame ++ if (blockCodes frame).getLast? = some 0xFF then [1] else [] := by
  induction frame using unstuff.induct generalizing data with
  | case1 => exact absurd rfl nonempty
  | case2 code rest refused => simp [unstuff, refused] at read
  | case3 code rest accepted ih =>
    rw [unstuff, if_neg accepted] at read
    obtain ⟨later, readLater, rfl⟩ := Option.map_eq_some_iff.mp read
    rw [List.mem_cons, not_or] at clean
    obtain ⟨nonzero, clean⟩ := clean
    have split : rest.take (code.toNat - 1) ++ rest.drop (code.toNat - 1) = rest :=
      List.take_append_drop ..
    have counted : (rest.take (code.toNat - 1)).length = code.toNat - 1 := by
      rw [List.length_take]
      omega
    rw [blockCodes]
    generalize rest.take (code.toNat - 1) = block at *
    generalize rest.drop (code.toNat - 1) = frame at *
    subst split
    obtain rfl : blockCode block = code := blockCode_of_count (Ne.symm nonzero) counted
    obtain ⟨cleanBlock, cleanFrame⟩ : 0 ∉ block ∧ 0 ∉ frame := by simpa using clean
    have filled : ¬ block.length < 254 → block.length = 254 := fun full => by
      have bound := (blockCode block).toNat_lt
      omega
    cases frame with
    | nil =>
      obtain rfl : later = [] := by simpa [unstuff] using readLater
      rw [gap_nil, blockCodes, List.getLast?_singleton, List.append_assoc]
      by_cases short : block.length < 254
      · have single : ([] : List UInt8).length + block.length < 254 := by simpa using short
        rw [stuff_run cleanBlock single, if_neg (by simpa using blockCode_ne_full short)]
        simp [stuff]
      · have full := filled short
        rw [stuff_full cleanBlock full, blockCode_full full, if_pos rfl]
        simp [stuff, blockCode]
    | cons next frame =>
      have readOn := ih cleanFrame (by simp) readLater
      rw [List.getLast?_cons_of_ne_nil (blockCodes_ne_nil (List.cons_ne_nil next frame)),
        List.append_assoc]
      by_cases short : block.length < 254
      · have single : ([] : List UInt8).length + block.length < 254 := by simpa using short
        rw [gap_short (blockCode_lt_full short) (List.cons_ne_nil next frame),
          stuff_run cleanBlock single, List.singleton_append, stuff, if_pos rfl, List.nil_append, readOn]
        simp
      · have full := filled short
        rw [blockCode_full full, gap_full, List.nil_append, stuff_full cleanBlock full, readOn]
        simp

/-- A frame is longer than what it reads as. -/
theorem length_unstuff (frame : List UInt8) (nonempty : frame ≠ [])
    (read : unstuff frame = some data) : data.length < frame.length := by
  induction frame using unstuff.induct generalizing data with
  | case1 => exact absurd rfl nonempty
  | case2 code rest refused => simp [unstuff, refused] at read
  | case3 code rest accepted ih =>
    rw [unstuff, if_neg accepted] at read
    obtain ⟨later, readLater, rfl⟩ := Option.map_eq_some_iff.mp read
    have split := List.length_append.symm.trans
      (congrArg List.length (List.take_append_drop (code.toNat - 1) rest))
    generalize rest.take (code.toNat - 1) = block at *
    generalize rest.drop (code.toNat - 1) = frame at *
    rw [List.length_append, List.length_append, List.length_cons]
    cases frame with
    | nil =>
      obtain rfl : later = [] := by simpa [unstuff] using readLater
      rw [gap_nil, List.length_nil]
      omega
    | cons next frame =>
      have shorter := ih (List.cons_ne_nil next frame) readLater
      have gap : (gap code (next :: frame)).length ≤ 1 := by
        unfold gap
        split <;> simp
      omega

/-- A frame without zeros that reads as short data is the frame of that data. -/
theorem stuff_unstuff (frame : List UInt8) (clean : 0 ∉ frame) (nonempty : frame ≠ [])
    (read : unstuff frame = some data) (short : data.length < 254) :
    stuff [] data = frame := by
  have laidOut := stuff_unstuff_blocks frame clean nonempty read
  have counted : (stuff [] data).length = data.length + 1 := by
    rw [length_stuff (by simpa using short), List.length_nil, Nat.zero_add]
  split at laidOut
  case isTrue =>
    have longer := length_unstuff frame nonempty read
    rw [laidOut, List.length_append, List.length_singleton] at counted
    omega
  case isFalse => rw [laidOut, List.append_nil]

end Daft.Logic
