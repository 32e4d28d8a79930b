import CompactSchema.Fingerprint

/-!
Contract: the Rabin fingerprint bit by bit.

A byte is put into the low end of a register of 64 bits and eight bits are shifted
out, each of which feeds the polynomial back if it is set. Shifting is linear in
exclusive or and loses nothing, because the polynomial has its top bit. So a register
remembers up to eight bytes exactly: absorbing them is the same as putting their word
into the register at once and shifting all its bits out.

Owns: the fingerprint of a stream of bytes, and the algebra of shifting and absorbing.

Does not own: the stream of a schema, see `Proofs.Fingerprint.Stream`.
-/

set_option autoImplicit false

namespace CompactSchema.Fingerprint.Rabin

/-- Start value and feedback polynomial. -/
def polynomial : BitVec 64 := 0xc15d213aa4d7a795

/-- Shift one bit out; if it is set, the polynomial is fed back. -/
def shift (register : BitVec 64) : BitVec 64 :=
  if register.getLsbD 0 then (register >>> 1) ^^^ polynomial else register >>> 1

def shifts : Nat → BitVec 64 → BitVec 64
  | 0, register => register
  | count + 1, register => shifts count (shift register)

/-- Put a byte into the low bits and shift eight bits out. -/
def absorb (register : BitVec 64) (byte : UInt8) : BitVec 64 :=
  shifts 8 (register ^^^ byte.toBitVec.setWidth 64)

/-- The fingerprint of a stream of bytes. -/
def fingerprint (bytes : List UInt8) : BitVec 64 := bytes.foldl absorb polynomial

/-! ## Shifting -/

theorem shift_of_odd {register : BitVec 64} (odd : register.getLsbD 0 = true) :
    shift register = (register >>> 1) ^^^ polynomial := if_pos odd

theorem shift_of_even {register : BitVec 64} (even : register.getLsbD 0 = false) :
    shift register = register >>> 1 := by
  rw [shift, even]
  rfl

theorem shift_xor (first second : BitVec 64) :
    shift (first ^^^ second) = shift first ^^^ shift second := by
  unfold shift
  rw [BitVec.getLsbD_xor, BitVec.ushiftRight_xor_distrib]
  cases first.getLsbD 0 <;> cases second.getLsbD 0
  · rfl
  · exact BitVec.xor_assoc _ _ _
  · show (first >>> 1) ^^^ (second >>> 1) ^^^ polynomial =
      ((first >>> 1) ^^^ polynomial) ^^^ (second >>> 1)
    ac_rfl
  · show (first >>> 1) ^^^ (second >>> 1) =
      ((first >>> 1) ^^^ polynomial) ^^^ ((second >>> 1) ^^^ polynomial)
    have twice : ((first >>> 1) ^^^ polynomial) ^^^ ((second >>> 1) ^^^ polynomial) =
        ((first >>> 1) ^^^ (second >>> 1)) ^^^ (polynomial ^^^ polynomial) := by ac_rfl
    rw [twice, BitVec.xor_self, BitVec.xor_zero]

theorem shifts_xor (count : Nat) (first second : BitVec 64) :
    shifts count (first ^^^ second) = shifts count first ^^^ shifts count second := by
  induction count generalizing first second with
  | zero => rfl
  | succ count inductionHypothesis => rw [shifts, shift_xor, inductionHypothesis, shifts, shifts]

theorem shifts_add (first second : Nat) (register : BitVec 64) :
    shifts (first + second) register = shifts second (shifts first register) := by
  induction first generalizing register with
  | zero => rw [Nat.zero_add, shifts]
  | succ first inductionHypothesis =>
      rw [Nat.succ_add, shifts, inductionHypothesis, shifts]

/-- Only an empty register is emptied: a bit that is shifted out shows in the top
bit, where the polynomial is set and nothing else can be. -/
theorem eq_zero_of_shift {register : BitVec 64} (emptied : shift register = 0#64) :
    register = 0#64 := by
  cases low : register.getLsbD 0 with
  | true =>
      rw [shift_of_odd low] at emptied
      have top := congrArg (·.getLsbD 63) emptied
      simp [polynomial] at top
  | false =>
      rw [shift_of_even low] at emptied
      apply BitVec.eq_of_getLsbD_eq
      intro index below
      cases index with
      | zero => simpa using low
      | succ index =>
          have bit := congrArg (·.getLsbD index) emptied
          simpa [Nat.add_comm] using bit

theorem eq_zero_of_shifts {count : Nat} {register : BitVec 64}
    (emptied : shifts count register = 0#64) : register = 0#64 := by
  induction count generalizing register with
  | zero => exact emptied
  | succ count inductionHypothesis => exact eq_zero_of_shift (inductionHypothesis emptied)

theorem shifts_injective (count : Nat) : Function.Injective (shifts count) := by
  intro first second same
  have difference : shifts count (first ^^^ second) = 0#64 := by
    rw [shifts_xor, same, BitVec.xor_self]
  exact BitVec.xor_eq_zero_iff.1 (eq_zero_of_shifts difference)

/-- What was moved up by as many bits as are shifted out comes back unchanged. -/
theorem shifts_shiftLeft {count : Nat} {register : BitVec 64}
    (room : ∀ index, 64 ≤ index + count → register.getLsbD index = false) :
    shifts count (register <<< count) = register := by
  induction count with
  | zero => rw [BitVec.shiftLeft_zero, shifts]
  | succ count inductionHypothesis =>
      have even : (register <<< (count + 1)).getLsbD 0 = false := by simp
      have halved : (register <<< (count + 1)) >>> 1 = register <<< count := by
        apply BitVec.eq_of_getLsbD_eq
        intro index below
        rw [BitVec.getLsbD_ushiftRight, BitVec.getLsbD_shiftLeft, BitVec.getLsbD_shiftLeft,
          Nat.add_comm 1 index, Nat.add_sub_add_right]
        by_cases inside : index + 1 < 64
        · simp [inside, below]
        · simp [inside, room (index - count) (by omega)]
      rw [shifts, shift_of_even even, halved]
      exact inductionHypothesis fun index beyond => room index (by omega)

/-- A register is what lies above its low byte and the low byte. -/
theorem split_low (register : BitVec 64) :
    register = ((register >>> 8) <<< 8) ^^^ (register.setWidth 8).setWidth 64 := by
  apply BitVec.eq_of_getLsbD_eq
  intro index below
  by_cases low : index < 8
  · simp [low, below]
  · have above : 8 + (index - 8) = index := by omega
    simp [low, below, above]

/-- Shifting eight bits out moves the others down and adds what the low byte alone
would become. -/
theorem shifts_eight (register : BitVec 64) :
    shifts 8 register = (register >>> 8) ^^^ shifts 8 ((register.setWidth 8).setWidth 64) := by
  have moved : shifts 8 ((register >>> 8) <<< 8) = register >>> 8 := by
    apply shifts_shiftLeft
    intro index beyond
    rw [BitVec.getLsbD_ushiftRight]
    exact BitVec.getLsbD_of_ge register _ (by omega)
  calc shifts 8 register
      = shifts 8 (((register >>> 8) <<< 8) ^^^ (register.setWidth 8).setWidth 64) :=
        congrArg (shifts 8) (split_low register)
    _ = (register >>> 8) ^^^ shifts 8 ((register.setWidth 8).setWidth 64) := by
        rw [shifts_xor, moved]

/-! ## Absorbing -/

theorem absorb_injective (byte : UInt8) : Function.Injective (absorb · byte) := by
  intro first second same
  exact (BitVec.xor_left_inj _).1 (shifts_injective 8 same)

theorem foldl_absorb_injective (bytes : List UInt8) :
    Function.Injective fun register => bytes.foldl absorb register := by
  intro first second same
  induction bytes generalizing first second with
  | nil => exact same
  | cons byte rest inductionHypothesis => exact absorb_injective byte (inductionHypothesis same)

/-! ## Words -/

/-- Bytes side by side in a register, the first of them lowest. -/
def word : List UInt8 → BitVec 64
  | [] => 0
  | byte :: rest => byte.toBitVec.setWidth 64 ^^^ (word rest <<< 8)

theorem getLsbD_word {bytes : List UInt8} {index : Nat} (beyond : 8 * bytes.length ≤ index) :
    (word bytes).getLsbD index = false := by
  induction bytes generalizing index with
  | nil => simp [word]
  | cons byte rest inductionHypothesis =>
      rw [List.length_cons] at beyond
      have later : (word rest).getLsbD (index - 8) = false := inductionHypothesis (by omega)
      have outside : byte.toBitVec.getLsbD index = false := BitVec.getLsbD_of_ge _ _ (by omega)
      simp [word, later, outside]

/-- A register that absorbs at most eight bytes forgets nothing of them. -/
theorem foldl_absorb {bytes : List UInt8} (short : bytes.length ≤ 8) (register : BitVec 64) :
    bytes.foldl absorb register = shifts (8 * bytes.length) (register ^^^ word bytes) := by
  induction bytes generalizing register with
  | nil => simp [word, shifts]
  | cons byte rest inductionHypothesis =>
      rw [List.length_cons] at short
      have moved : word rest = shifts 8 (word rest <<< 8) := by
        rw [shifts_shiftLeft]
        intro index beyond
        exact getLsbD_word (by omega)
      calc (byte :: rest).foldl absorb register
          = shifts (8 * rest.length) (absorb register byte ^^^ word rest) :=
            inductionHypothesis (by omega) _
        _ = shifts (8 * rest.length) (shifts 8 (register ^^^ word (byte :: rest))) := by
            rw [moved, absorb, ← shifts_xor, word, BitVec.xor_assoc]
        _ = shifts (8 * (byte :: rest).length) (register ^^^ word (byte :: rest)) := by
            rw [← shifts_add, List.length_cons, Nat.mul_succ, Nat.add_comm]

theorem setWidth_word (byte : UInt8) (rest : List UInt8) :
    (word (byte :: rest)).setWidth 8 = byte.toBitVec := by
  apply BitVec.eq_of_getLsbD_eq
  intro index below
  simp [word, below]

theorem word_ushiftRight (byte : UInt8) {rest : List UInt8} (short : rest.length ≤ 7) :
    word (byte :: rest) >>> 8 = word rest := by
  apply BitVec.eq_of_getLsbD_eq
  intro index below
  have outside : byte.toBitVec.getLsbD (8 + index) = false := BitVec.getLsbD_of_ge _ _ (by omega)
  have notLow : ¬ 8 + index < 8 := by omega
  rw [BitVec.getLsbD_ushiftRight, word, BitVec.getLsbD_xor, BitVec.getLsbD_setWidth, outside,
    BitVec.getLsbD_shiftLeft, Nat.add_sub_cancel_left]
  by_cases inside : 8 + index < 64
  · simp [inside, notLow]
  · simp [inside, getLsbD_word (show 8 * rest.length ≤ index by omega)]

/-- The word of at most eight bytes determines them. -/
theorem word_injective {first second : List UInt8} (sameLength : first.length = second.length)
    (short : first.length ≤ 8) (same : word first = word second) : first = second := by
  induction first generalizing second with
  | nil => exact (List.length_eq_zero_iff.1 sameLength.symm).symm
  | cons byte rest inductionHypothesis =>
      cases second with
      | nil => cases sameLength
      | cons other others =>
          rw [List.length_cons] at short
          have lengths : rest.length = others.length := Nat.succ.inj sameLength
          have low := congrArg (BitVec.setWidth 8) same
          have above := congrArg (fun register : BitVec 64 => register >>> 8) same
          simp only [setWidth_word] at low
          simp only [word_ushiftRight byte (show rest.length ≤ 7 by omega),
            word_ushiftRight other (show others.length ≤ 7 by omega)] at above
          rw [UInt8.toBitVec_inj.1 low, inductionHypothesis lengths (by omega) above]

end CompactSchema.Fingerprint.Rabin
