import Mathlib.Data.List.Basic
import Mathlib.Algebra.Group.Int

/-! The AMCOM checksum `AMCOM_UpdateCRC` of `amcom.c`, folded from `AMCOM_INITIAL_CRC`, and the
bit-serial register it refines, whose linearity gives detection of every burst of at most sixteen
bits. -/
namespace Mniam.AMCOM

/-- `AMCOM_INITIAL_CRC`. -/
def initialCRC : BitVec 16 := 0xFFFF

/-- `AMCOM_UpdateCRC`, the integer promotions of C written out as widenings and truncations. -/
def updateCRC (byte : BitVec 8) (crc : BitVec 16) : BitVec 16 :=
  let byte := byte ^^^ (crc &&& 0x00ff).setWidth 8
  let byte := byte ^^^ byte <<< 4
  (byte.setWidth 16 <<< 8 ||| ((crc >>> 8).setWidth 8).setWidth 16) ^^^
    (byte >>> 4).setWidth 16 ^^^ byte.setWidth 16 <<< 3

/-- The checksum of a message: `AMCOM_UpdateCRC` folded over its bytes from the initial value. -/
def checksum (message : List (BitVec 8)) : BitVec 16 :=
  message.foldl (fun crc byte => updateCRC byte crc) initialCRC

/-- The CRC-16/MCRF4XX check value. -/
example : checksum [0x31, 0x32, 0x33, 0x34, 0x35, 0x36, 0x37, 0x38, 0x39] = 0x6F91 := by decide

/-! ## The bit-serial register -/

/-- The generator `x^16 + x^12 + x^5 + 1`, bit-reversed. -/
def generator : BitVec 16 := 0x8408

/-- One input bit into the reflected register: shift down, and add the generator when the bit
leaving the register differs from the input. -/
def shiftIn (crc : BitVec 16) (bit : Bool) : BitVec 16 :=
  if Bool.xor (crc.getLsbD 0) bit then crc >>> 1 ^^^ generator else crc >>> 1

/-- A byte's bits, least significant first. -/
def bits (byte : BitVec 8) : List Bool := (List.range 8).map byte.getLsbD

/-- A message's bits: bit `i` of byte `j` at position `8 * j + i`. -/
def stream (message : List (BitVec 8)) : List Bool := message.flatMap bits

def register (crc : BitVec 16) (input : List Bool) : BitVec 16 := input.foldl shiftIn crc

@[simp] theorem register_nil (crc : BitVec 16) : register crc [] = crc := rfl

@[simp] theorem register_cons (crc : BitVec 16) (bit : Bool) (input : List Bool) :
    register crc (bit :: input) = register (shiftIn crc bit) input := rfl

theorem register_append (crc : BitVec 16) (first second : List Bool) :
    register crc (first ++ second) = register (register crc first) second :=
  List.foldl_append _ _ _ _

/-! ## The byte update is eight register steps -/

theorem updateCRC_table (byte : BitVec 8) (crc : BitVec 16) :
    updateCRC byte crc = updateCRC (byte ^^^ crc.setWidth 8) 0 ^^^ crc >>> 8 := by
  have low : (crc &&& 0x00ff).setWidth 8 = crc.setWidth 8 := by
    have ones : ∀ i : Fin 8, (0xff#8).getLsbD i = true := by decide
    ext i
    simp [ones]
  have high : ((crc >>> 8).setWidth 8).setWidth 16 = crc >>> 8 := by
    ext i
    simpa using fun set => by have := BitVec.lt_of_getLsbD set; omega
  have disjoint (b : BitVec 8) :
      b.setWidth 16 <<< 8 ||| crc >>> 8 = b.setWidth 16 <<< 8 ^^^ crc >>> 8 := by
    ext i
    by_cases lowBits : (i : Nat) < 8
    · simp [lowBits]
    · simp [lowBits, BitVec.getLsbD_ge crc (8 + i) (by omega)]
  simp only [updateCRC, low, high, disjoint]
  simp only [BitVec.ofNat_eq_ofNat, BitVec.zero_and, BitVec.setWidth_zero, BitVec.xor_zero,
    BitVec.zero_ushiftRight, BitVec.or_zero]
  ac_rfl

private theorem xor_cancel (x y z : BitVec w) : x ^^^ z ^^^ (y ^^^ z) = x ^^^ y := by
  rw [BitVec.xor_assoc, BitVec.xor_comm y, ← BitVec.xor_assoc z, BitVec.xor_self, BitVec.zero_xor]

theorem shiftIn_xor (a b : BitVec 16) (x y : Bool) :
    shiftIn (a ^^^ b) (Bool.xor x y) = shiftIn a x ^^^ shiftIn b y := by
  simp only [shiftIn, BitVec.getLsbD_xor, BitVec.ushiftRight_xor_distrib]
  cases a.getLsbD 0 <;> cases b.getLsbD 0 <;> cases x <;> cases y <;> simp [xor_cancel] <;> ac_rfl

theorem register_xor (a b : BitVec 16) (s t : List Bool) (same : s.length = t.length) :
    register (a ^^^ b) (List.zipWith Bool.xor s t) = register a s ^^^ register b t := by
  induction s generalizing a b t with
  | nil => cases t <;> simp_all
  | cons x s ih =>
    cases t with
    | nil => simp at same
    | cons y t =>
      simp only [List.zipWith_cons_cons, register_cons, shiftIn_xor,
        ih _ _ t (by simpa using same)]

theorem bits_xor (a b : BitVec 8) : bits (a ^^^ b) = List.zipWith Bool.xor (bits a) (bits b) := by
  simp [bits, List.zipWith_map]

set_option maxRecDepth 4000 in
theorem updateCRC_zero (byte : BitVec 8) : updateCRC byte 0 = register 0 (bits byte) := by
  have table : ∀ n < 256,
      updateCRC (BitVec.ofNat 8 n) 0 = register 0 (bits (BitVec.ofNat 8 n)) := by
    decide
  simpa using table byte.toNat byte.isLt

theorem register_high (crc : BitVec 16) :
    ∀ k ≤ 8, register (crc >>> 8 <<< 8) (List.replicate k false) = crc >>> 8 <<< 8 >>> k
  | 0, _ => by simp [BitVec.ushiftRight_zero]
  | k + 1, bound => by
    rw [List.replicate_succ', register_append, register_high crc k (by omega)]
    have low : (crc >>> 8 <<< 8 >>> k).getLsbD 0 = false := by simp; omega
    simp [shiftIn, low, BitVec.shiftRight_add]

theorem length_bits (byte : BitVec 8) : (bits byte).length = 8 := by simp [bits]

private theorem zipWith_false (s : List Bool) (n : Nat) (same : s.length = n) :
    List.zipWith Bool.xor (List.replicate n false) s = s := by
  subst same
  induction s with
  | nil => rfl
  | cons b s ih => simp [List.replicate_succ, ih]

theorem register_input_xor (crc : BitVec 16) (s t : List Bool) (same : s.length = t.length) :
    register crc (List.zipWith Bool.xor s t) = register crc s ^^^ register 0 t := by
  simpa using register_xor crc 0 s t same

theorem register_matching (input : List Bool) (crc : BitVec 16)
    (agree : ∀ i (h : i < input.length), crc.getLsbD i = input[i]) :
    register crc input = crc >>> input.length := by
  induction input generalizing crc with
  | nil => simp [BitVec.ushiftRight_zero]
  | cons bit rest ih =>
    have quiet : shiftIn crc bit = crc >>> 1 := by simp [shiftIn, agree 0 (by simp)]
    rw [register_cons, quiet, ih _ fun i h => by
      rw [BitVec.getLsbD_ushiftRight, Nat.add_comm]; exact agree (i + 1) (by simp; omega),
      ← BitVec.shiftRight_add, List.length_cons, Nat.add_comm]

theorem register_low (byte : BitVec 8) :
    register (byte.setWidth 16) (List.replicate 8 false) = register 0 (bits byte) := by
  have own : register (byte.setWidth 16) (bits byte) = 0 := by
    rw [register_matching _ _ fun i h => by simp [bits]; simp [length_bits] at h; omega]
    ext i
    simp [length_bits]
  have split := register_input_xor (byte.setWidth 16) (List.replicate 8 false) (bits byte)
    (by simp [length_bits])
  rw [zipWith_false _ _ (length_bits byte), own] at split
  calc register (byte.setWidth 16) (List.replicate 8 false)
      = register (byte.setWidth 16) (List.replicate 8 false) ^^^ register 0 (bits byte) ^^^
          register 0 (bits byte) := by rw [BitVec.xor_assoc, BitVec.xor_self, BitVec.xor_zero]
    _ = register 0 (bits byte) := by rw [← split]; simp

private theorem split_byte (crc : BitVec 16) :
    crc = (crc.setWidth 8).setWidth 16 ^^^ crc >>> 8 <<< 8 := by
  ext i
  simp only [BitVec.getLsbD_xor, BitVec.getLsbD_setWidth, BitVec.getLsbD_shiftLeft,
    BitVec.getLsbD_ushiftRight]
  by_cases low : (i : Nat) < 8 <;> simp [low]
  congr 1
  omega

theorem register_zeros (crc : BitVec 16) :
    register crc (List.replicate 8 false) = register 0 (bits (crc.setWidth 8)) ^^^ crc >>> 8 := by
  have high : crc >>> 8 <<< 8 >>> 8 = crc >>> 8 := by
    ext i
    simpa using BitVec.lt_of_getLsbD
  conv => lhs; rw [split_byte crc, ← zipWith_false (List.replicate 8 false) 8 (by simp)]
  rw [register_xor _ _ _ _ (by simp), register_low, register_high crc 8 le_rfl, high]

/-- `AMCOM_UpdateCRC` is eight steps of the bit-serial register, least significant bit first. -/
theorem updateCRC_serial (byte : BitVec 8) (crc : BitVec 16) :
    updateCRC byte crc = register crc (bits byte) := by
  have same : (bits byte).length = (bits (crc.setWidth 8)).length := by simp [length_bits]
  calc updateCRC byte crc
      = register 0 (bits (byte ^^^ crc.setWidth 8)) ^^^ crc >>> 8 := by
        rw [updateCRC_table, updateCRC_zero]
    _ = register 0 (bits byte) ^^^ register crc (List.replicate 8 false) := by
        rw [bits_xor, register_input_xor _ _ _ same, register_zeros, BitVec.xor_assoc]
    _ = register crc (bits byte) := by
        rw [BitVec.xor_comm, ← register_input_xor _ _ _ (by simp [length_bits]),
          zipWith_false _ _ (length_bits byte)]

/-! ## Burst detection -/

@[simp] theorem stream_cons (byte : BitVec 8) (rest : List (BitVec 8)) :
    stream (byte :: rest) = bits byte ++ stream rest := rfl

theorem foldl_updateCRC (crc : BitVec 16) (message : List (BitVec 8)) :
    message.foldl (fun crc byte => updateCRC byte crc) crc = register crc (stream message) := by
  induction message generalizing crc with
  | nil => rfl
  | cons byte rest ih =>
    rw [List.foldl_cons, ih, updateCRC_serial, stream_cons, register_append]

/-- The table-free byte update of the code is the bit-serial CRC-16 register for
`x^16 + x^12 + x^5 + 1`, least significant bit first: on every byte and every register value it
is eight register steps, so the checksum of every message is the register run over the message's
bits from `AMCOM_INITIAL_CRC`. -/
theorem checksum_eq_register :
    (∀ byte crc, updateCRC byte crc = register crc (bits byte)) ∧
      ∀ message, checksum message = register initialCRC (stream message) :=
  ⟨updateCRC_serial, foldl_updateCRC initialCRC⟩

theorem length_stream (message : List (BitVec 8)) :
    (stream message).length = 8 * message.length := by
  induction message with
  | nil => rfl
  | cons byte rest ih =>
    simp only [stream_cons, List.length_append, length_bits, ih, List.length_cons]
    omega

theorem stream_xor (message error : List (BitVec 8)) (same : message.length = error.length) :
    stream (List.zipWith (· ^^^ ·) message error) =
      List.zipWith Bool.xor (stream message) (stream error) := by
  induction message generalizing error with
  | nil => rfl
  | cons a rest ih =>
    cases error with
    | nil => simp at same
    | cons b error =>
      simp only [List.zipWith_cons_cons, stream_cons]
      rw [List.zipWith_append _ _ _ _ _ (by simp [length_bits]), bits_xor,
        ih error (by simpa using same)]

theorem stream_getElem? (message : List (BitVec 8)) (j : Nat) (hj : j < message.length)
    (i : Nat) (hi : i < 8) : (stream message)[8 * j + i]? = some (message[j].getLsbD i) := by
  induction message generalizing j with
  | nil => simp at hj
  | cons byte rest ih =>
    rw [stream_cons]
    cases j with
    | zero =>
      rw [List.getElem?_append_left (by simp [length_bits]; omega)]
      simp [bits, hi]
    | succ j =>
      rw [List.getElem?_append_right (by simp [length_bits]; omega)]
      simpa [length_bits, Nat.mul_succ, Nat.add_right_comm] using ih j (by simpa using hj)

theorem checksum_xor (message error : List (BitVec 8)) (same : message.length = error.length) :
    checksum (List.zipWith (· ^^^ ·) message error) =
      checksum message ^^^ register 0 (stream error) := by
  rw [checksum, checksum, foldl_updateCRC, foldl_updateCRC, stream_xor _ _ same,
    register_input_xor _ _ _ (by simp [length_stream, same])]

theorem feedback_bound (crc : BitVec 16) : 2 ^ 15 ≤ (crc >>> 1 ^^^ generator).toNat := by
  have top : (crc >>> 1 ^^^ generator).getLsbD 15 = true := by simp [generator]
  by_contra small
  rw [← BitVec.testBit_toNat, Nat.testBit_lt_two_pow (by omega)] at top
  exact Bool.false_ne_true top

private theorem ne_zero_iff (crc : BitVec 16) : crc ≠ 0 ↔ 0 < crc.toNat := by
  rw [Ne, BitVec.toNat_eq]
  simp [Nat.pos_iff_ne_zero]

theorem shiftIn_false_ne_zero (crc : BitVec 16) (nonzero : crc ≠ 0) : shiftIn crc false ≠ 0 := by
  rw [ne_zero_iff] at nonzero ⊢
  unfold shiftIn
  split
  · exact lt_of_lt_of_le (by decide) (feedback_bound crc)
  · rename_i even
    have : crc.toNat % 2 = 0 := by simpa [← BitVec.testBit_toNat] using even
    rw [BitVec.toNat_ushiftRight, Nat.shiftRight_eq_div_pow]
    omega

theorem shiftIn_bound (crc : BitVec 16) (bit : Bool) (j : Nat) (early : j < 15)
    (bound : 2 ^ (15 - j) ≤ crc.toNat) : 2 ^ (15 - (j + 1)) ≤ (shiftIn crc bit).toNat := by
  have halve : 2 ^ (15 - j) = 2 * 2 ^ (15 - (j + 1)) := by
    rw [← Nat.pow_succ']
    congr 1
    omega
  unfold shiftIn
  split
  · exact le_trans (Nat.pow_le_pow_right (by decide) (by omega)) (feedback_bound crc)
  · rw [BitVec.toNat_ushiftRight, Nat.shiftRight_eq_div_pow]
    omega

theorem register_window (input : List Bool) (crc : BitVec 16) (j : Nat)
    (bound : 2 ^ (15 - j) ≤ crc.toNat)
    (late : ∀ i (h : i < input.length), input[i] = true → j + i < 15) :
    register crc input ≠ 0 := by
  induction input generalizing crc j with
  | nil => exact (ne_zero_iff crc).mpr (lt_of_lt_of_le (Nat.two_pow_pos _) bound)
  | cons bit rest ih =>
    refine ih _ (j + 1) ?_ fun i h one => ?_
    · by_cases early : j < 15
      · exact shiftIn_bound crc bit j early bound
      · have quiet : bit = false := by
          by_contra one
          have := late 0 (by simp) (by simpa using one)
          omega
        have nonzero := shiftIn_false_ne_zero crc
          ((ne_zero_iff crc).mpr (lt_of_lt_of_le (Nat.two_pow_pos _) bound))
        rw [ne_zero_iff] at nonzero
        rw [quiet, show 15 - (j + 1) = 0 by omega]
        exact nonzero
    · have := late (i + 1) (by simp; omega) (by simpa using one)
      omega

/-- A nonzero burst of at most sixteen bits leaves a zero register nonzero. -/
theorem register_burst (input : List Bool) (w : Nat)
    (window : ∀ i (h : i < input.length), input[i] = true → w ≤ i ∧ i < w + 16)
    (hit : true ∈ input) : register 0 input ≠ 0 := by
  induction input generalizing w with
  | nil => simp at hit
  | cons bit rest ih =>
    cases bit with
    | false =>
      have still : shiftIn 0 false = 0 := by decide
      rw [register_cons, still]
      refine ih (w - 1) (fun i h one => ?_) (by simpa using hit)
      have := window (i + 1) (by simp; omega) (by simpa using one)
      omega
    | true =>
      have first : shiftIn 0 true = generator := by decide
      have start := window 0 (by simp) rfl
      rw [register_cons, first]
      refine register_window rest generator 0 (by decide) fun i h one => ?_
      have := window (i + 1) (by simp; omega) (by simpa using one)
      omega

/-- The checksum detects every error burst of at most sixteen consecutive bits, bit `i` of byte
`j` standing at position `8 * j + i`, in a message of any length. -/
theorem checksum_detects_burst (message error : List (BitVec 8))
    (same : message.length = error.length)
    (nonzero : ∃ j, ∃ h : j < error.length, error[j] ≠ 0)
    (burst : ∃ w, ∀ j (h : j < error.length), ∀ i < 8,
      error[j].getLsbD i = true → w ≤ 8 * j + i ∧ 8 * j + i < w + 16) :
    checksum (List.zipWith (· ^^^ ·) message error) ≠ checksum message := by
  obtain ⟨w, burst⟩ := burst
  obtain ⟨j, hj, flipped⟩ := nonzero
  have hit : true ∈ stream error := by
    obtain ⟨i, hi, one⟩ : ∃ i < 8, error[j].getLsbD i = true := by
      by_contra none
      push_neg at none
      exact flipped (BitVec.eq_of_getLsbD_eq fun i => by simpa using none i i.isLt)
    exact List.getElem?_mem (by rw [stream_getElem? error j hj i hi, one])
  have window : ∀ k (h : k < (stream error).length), (stream error)[k] = true →
      w ≤ k ∧ k < w + 16 := by
    intro k h one
    have below : k / 8 < error.length := by rw [length_stream] at h; omega
    have at_k := stream_getElem? error (k / 8) below (k % 8) (Nat.mod_lt _ (by decide))
    rw [Nat.div_add_mod, List.getElem?_eq_getElem h, one, Option.some.injEq] at at_k
    have := burst (k / 8) below (k % 8) (Nat.mod_lt _ (by decide)) at_k.symm
    rwa [Nat.div_add_mod] at this
  rw [checksum_xor _ _ same]
  intro unchanged
  apply register_burst _ w window hit
  simpa [← BitVec.xor_assoc] using congrArg (checksum message ^^^ ·) unchanged

/-- Bits 7 of the first byte and 0 of the second, adjacent in the stream, flipped together. -/
theorem checksum_detects_burst_flip :
    checksum (List.zipWith (· ^^^ ·) [0x31, 0x32] [0x80, 0x01]) ≠ checksum [0x31, 0x32] :=
  checksum_detects_burst _ _ rfl ⟨0, by decide, by decide⟩
    ⟨0, fun j h _ _ _ => ⟨Nat.zero_le _, by simp at h; omega⟩⟩

end Mniam.AMCOM
