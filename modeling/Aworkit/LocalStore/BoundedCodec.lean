import Mathlib

/-! The byte codec of local evidence (`bounded_codec.rs`). The encoder's cursor is given by the bytes from it on; a
panic is `none`. -/
namespace Aworkit.LocalStore.BoundedCodec
open List

inductive CodecError where
  | invalidHeader | truncatedBlock | outputLimitExceeded

/-- `AWKRLE1` and a zero byte. -/
def magic : List UInt8 := [65, 87, 75, 82, 76, 69, 49, 0]

def maxBlock : Nat := 128

/-- The number of equal bytes at the cursor, up to a block. -/
def repeated : List UInt8 → Nat
  | [] => 0
  | byte :: rest => (((byte :: rest).take maxBlock).takeWhile (· == byte)).length

/-- `u8::try_from(..).expect(..)`. -/
def toByte (n : Nat) : Option UInt8 := if n < 256 then some (UInt8.ofNat n) else none

/-- The length of a literal block that can go on with these bytes. -/
def literalLength (input : List UInt8) (length : Nat) : Nat :=
  if _h : input ≠ [] ∧ length < maxBlock ∧ repeated input < 3 then
    let step := min (max (repeated input) 1) (maxBlock - length)
    literalLength (input.drop step) (length + step)
  else length
termination_by maxBlock - length

theorem le_literalLength (input : List UInt8) (length : Nat) : length ≤ literalLength input length := by
  fun_induction literalLength input length with
  | case1 => omega
  | case2 => exact le_rfl

/-- The blocks from the cursor on. -/
def compressFrom (input : List UInt8) : Option (List UInt8) :=
  match input with
  | [] => some []
  | byte :: tail =>
    let run := repeated (byte :: tail)
    if _h : 3 ≤ run then do
      let length := min run maxBlock
      let header ← toByte (length - 1)
      let blocks ← compressFrom ((byte :: tail).drop length)
      return (0x80 ||| header) :: byte :: blocks
    else do
      let length := literalLength ((byte :: tail).drop (max run 1)) (max run 1)
      let header ← toByte (length - 1)
      guard (length ≤ (byte :: tail).length)
      let blocks ← compressFrom ((byte :: tail).drop length)
      return header :: (byte :: tail).take length ++ blocks
termination_by input.length
decreasing_by
  · simp only [length_drop, length_cons, maxBlock]
    omega
  · rw [length_drop]
    exact Nat.sub_lt (Nat.succ_pos _) ((Nat.le_max_right _ 1).trans (le_literalLength _ _))

def compress (input : List UInt8) : Option (List UInt8) := (compressFrom input).map (magic ++ ·)

/-- The bytes decoded so far and those still to be read; lengths are far below the bound of `usize`. -/
def decompressFrom (maxOutput : Nat) (decoded remaining : List UInt8) : Except CodecError (List UInt8) :=
  match remaining with
  | [] => .ok decoded
  | header :: remaining =>
    let length := (header &&& 0x7f).toNat + 1
    if maxOutput < decoded.length + length then .error .outputLimitExceeded
    else if header &&& 0x80 = 0 then
      if remaining.length < length then .error .truncatedBlock
      else decompressFrom maxOutput (decoded ++ remaining.take length) (remaining.drop length)
    else
      match remaining with
      | [] => .error .truncatedBlock
      | byte :: tail => decompressFrom maxOutput (decoded ++ replicate length byte) tail
termination_by remaining.length

def decompress (encoded : List UInt8) (maxOutput : Nat) : Except CodecError (List UInt8) :=
  match magic.isPrefixOf? encoded with
  | none => .error .invalidHeader
  | some remaining => decompressFrom maxOutput [] remaining

variable {input blocks : List UInt8} {byte header : UInt8} {length maxOutput : Nat}

theorem repeated_le (input : List UInt8) : repeated input ≤ input.length ∧ repeated input ≤ maxBlock := by
  cases input with
  | nil => simp [repeated]
  | cons byte rest =>
    have htaken : repeated (byte :: rest) ≤ ((byte :: rest).take maxBlock).length := ( takeWhile_prefix _).length_le
    rw [length_take] at htaken
    omega

theorem one_le_repeated (byte : UInt8) (rest : List UInt8) : 1 ≤ repeated (byte :: rest) := by
  simp [repeated, maxBlock]

/-- The bytes that `repeated` counts are equal. -/
theorem take_repeated (byte : UInt8) (rest : List UInt8) :
    (byte :: rest).take (repeated (byte :: rest)) = replicate (repeated (byte :: rest)) byte := by
  have hrun := ( takeWhile_prefix (· == byte)).trans ( take_prefix maxBlock (byte :: rest))
  rw [repeated, ← prefix_iff_eq_take.mp hrun, eq_replicate_iff]
  refine ⟨rfl, fun other hother => ?_⟩
  simpa using mem_takeWhile_imp hother

/-- Where a literal block ends: full, at the end of the input or before a run. -/
theorem literalLength_ends (hrest : rest = input.drop length) (hinside : length ≤ input.length)
    (hblock : length ≤ maxBlock) :
    literalLength rest length ≤ input.length ∧ literalLength rest length ≤ maxBlock ∧
      (literalLength rest length = maxBlock ∨ literalLength rest length = input.length ∨
        3 ≤ repeated (input.drop (literalLength rest length))) := by
  fun_induction literalLength rest length with
  | case1 rest length h step ih =>
    have hrun := (repeated_le rest).1
    have hlength : rest.length = input.length - length := by rw [hrest, length_drop]
    have hsome : 0 < rest.length := length_pos_iff.mpr h.1
    exact ih (by rw [hrest, drop_drop]) (by omega) (by omega)
  | case2 rest length h =>
    refine ⟨hinside, hblock, ?_⟩
    rw [← hrest]
    by_cases hempty : rest = []
    · rw [hempty, eq_comm, drop_eq_nil_iff] at hrest
      exact .inr (.inl (hinside.antisymm hrest))
    · simp only [ne_eq, hempty, not_false_eq_true, true_and, not_and, not_lt] at h
      exact hblock.lt_or_eq.elim (fun hlt => .inr (.inr (h hlt))) .inl

theorem toByte_eq (h : length ≤ maxBlock) : toByte (length - 1) = some (UInt8.ofNat (length - 1)) :=
  if_pos (by unfold maxBlock at h; omega)

/-- The encoder's output: the decoder reads it back, and it is hardly longer. -/
structure Encodes (input blocks : List UInt8) : Prop where
  decoded : ∀ maxOutput before, before.length ≤ maxOutput → decompressFrom maxOutput before blocks =
    if before.length + input.length ≤ maxOutput then .ok (before ++ input) else .error .outputLimitExceeded
  sized : blocks.length ≤ input.length + (input.length + 127) / 128
  ran : 3 ≤ repeated input → blocks.length + 1 ≤ input.length + (input.length + 127) / 128

theorem header_bits : ∀ n : Fin 128, (UInt8.ofNat n &&& 0x7f).toNat = n ∧ UInt8.ofNat n &&& 0x80 = 0 ∧
    ((0x80 ||| UInt8.ofNat n) &&& 0x7f).toNat = n ∧ (0x80 ||| UInt8.ofNat n) &&& 0x80 ≠ 0 := by
  decide

section
variable (h : Encodes (input.drop length) blocks) (hinside : length ≤ input.length)
include h hinside

/-- A first block that stands for `length` bytes of the input. -/
theorem Encodes.decoded_block
    (hblock : decompressFrom maxOutput before encoded =
      if maxOutput < before.length + length then .error .outputLimitExceeded
      else decompressFrom maxOutput (before ++ input.take length) blocks) :
    decompressFrom maxOutput before encoded =
      if before.length + input.length ≤ maxOutput then .ok (before ++ input) else .error .outputLimitExceeded := by
  rw [hblock]
  split
  · rw [if_neg (by omega)]
  · have hlength : (before ++ input.take length).length = before.length + length := by
      rw [length_append, length_take_of_le hinside]
    rw [h.decoded _ _ (by omega), hlength, length_drop, append_assoc, take_append_drop,
      Nat.add_assoc, Nat.add_sub_cancel' hinside]

theorem Encodes.run (hrun : 3 ≤ length)
    (hblock : length ≤ 128) (hequal : input.take length = replicate length byte) :
    Encodes input ((0x80 ||| UInt8.ofNat (length - 1)) :: byte :: blocks) := by
  obtain ⟨_, _, hlow, hhigh⟩ := header_bits ⟨length - 1, by omega⟩
  have hsized := h.sized
  rw [length_drop] at hsized
  refine ⟨fun maxOutput before _ => h.decoded_block hinside ?_, ?_, ?_⟩
  · rw [decompressFrom]
    simp only [hlow, hhigh, if_false, Nat.sub_add_cancel (Nat.one_le_of_lt hrun), hequal]
  all_goals
    simp only [length_cons]
    omega

theorem Encodes.literal (hsome : 1 ≤ length)
    (hblock : length ≤ 128) (hend : length = 128 ∨ length = input.length ∨ 3 ≤ repeated (input.drop length))
    (hrun : ¬3 ≤ repeated input) : Encodes input (UInt8.ofNat (length - 1) :: input.take length ++ blocks) := by
  obtain ⟨hlow, hhigh, _⟩ := header_bits ⟨length - 1, by omega⟩
  have hlength := length_take_of_le hinside
  refine ⟨fun maxOutput before _ => h.decoded_block hinside ?_, ?_, fun hcontra => absurd hcontra hrun⟩
  · rw [cons_append, decompressFrom.eq_def]
    simp only [hlow, hhigh, if_true, Nat.sub_add_cancel hsome, length_append, hlength]
    rw [if_neg (by omega : ¬length + blocks.length < length), take_left' hlength, drop_left' hlength]
  · rw [cons_append, length_cons, length_append, hlength]
    have hsized := h.sized
    have hran := h.ran
    rw [length_drop] at hsized hran
    rcases hend with rfl | rfl | hnext
    · omega
    · omega
    · have := hran hnext
      omega

end

private theorem compressFrom_encodes (input : List UInt8) : ∃ blocks, compressFrom input = some blocks ∧ Encodes input blocks := by
  fun_induction compressFrom input with
  | case1 =>
    refine ⟨[], rfl, fun maxOutput before hbefore => ?_, le_rfl, by simp [repeated]⟩
    rw [decompressFrom, append_nil, length_nil, Nat.add_zero, if_pos hbefore]
  | case2 byte tail run h length ih =>
    obtain ⟨blocks, hblocks, hencodes⟩ := ih
    obtain ⟨hinside, hblock⟩ := repeated_le (byte :: tail)
    have hlength : length = run := min_eq_left hblock
    rw [hlength] at hblocks hencodes ⊢
    refine ⟨_, ?_, hencodes.run hinside h hblock (take_repeated byte tail)⟩
    rw [toByte_eq hblock, hblocks]
    rfl
  | case3 byte tail run h length ih =>
    obtain ⟨blocks, hblocks, hencodes⟩ := ih
    obtain ⟨hrunInside, hrunBlock⟩ := repeated_le (byte :: tail)
    have hone := one_le_repeated byte tail
    have hgrown := le_literalLength ((byte :: tail).drop (max run 1)) (max run 1)
    obtain ⟨hinside, hblock, hend⟩ := literalLength_ends (rfl : (byte :: tail).drop (max run 1) = _) (by omega) (by omega)
    change max run 1 ≤ length at hgrown
    refine ⟨_, ?_, hencodes.literal hinside (by omega) hblock hend h⟩
    rw [toByte_eq hblock, hblocks, guard, if_pos hinside]
    rfl

private theorem decompressFrom_bounded (hbefore : before.length ≤ maxOutput)
    (h : decompressFrom maxOutput before encoded = .ok decoded) : decoded.length ≤ maxOutput := by
  fun_induction decompressFrom maxOutput before encoded with
  | case1 before =>
    cases h
    exact hbefore
  | case2 | case3 | case5 => cases h
  | case4 before header remaining length hroom hliteral hwhole ih =>
    refine ih ?_ h
    rw [length_append, length_take]
    omega
  | case6 before header length hroom hliteral byte tail ih =>
    refine ih ?_ h
    rw [length_append, length_replicate]
    omega

/-- The codec reads back what it wrote within the bound and refuses it beyond, adds at most a byte per started block,
and never writes past the bound. -/
theorem codec_exact : (∀ input, ∃ encoded, compress input = some encoded ∧
      encoded.length ≤ 8 + input.length + (input.length + 127) / 128 ∧ ∀ maxOutput, decompress encoded maxOutput =
        if input.length ≤ maxOutput then .ok input else .error .outputLimitExceeded) ∧
    ∀ encoded maxOutput decoded, decompress encoded maxOutput = .ok decoded → decoded.length ≤ maxOutput := by
  constructor
  · intro input
    obtain ⟨blocks, hblocks, hencodes⟩ := compressFrom_encodes input
    refine ⟨magic ++ blocks, by rw [compress, hblocks]; rfl, ?_, fun maxOutput => ?_⟩
    · have hsized := hencodes.sized
      have hmagic : magic.length = 8 := rfl
      rw [length_append]
      omega
    · have hdecoded := hencodes.decoded maxOutput [] (Nat.zero_le _)
      rwa [length_nil, Nat.zero_add, nil_append] at hdecoded
  · intro encoded maxOutput decoded h
    unfold decompress at h
    split at h
    · cases h
    · exact decompressFrom_bounded (Nat.zero_le _) h

end Aworkit.LocalStore.BoundedCodec
