import CompactSchema.Number.Binary
import Mathlib.Algebra.Ring.Nat

/-!
Contract: a number of 32 bits keeps its value in 64 bits.

The mantissa of a finite number is moved up until its first bit is the hidden bit of the
wide format. The wide format has room for all bits below and for every exponent that can
come about, so the number that is read back is the one that was given.

Owns: the classification of numbers that are put together from fields, and the widened
form of each class.

Does not own: how numbers are written, see `Number.Style`.
-/

set_option autoImplicit false

namespace CompactSchema

namespace BinaryFormat

variable {format : BinaryFormat} {bits exponent fraction : Nat} {negative : Bool}

/-- A field that is neither zero nor the top one stands for a number with a hidden bit. -/
theorem classify_of_normal (fields : format.split bits = (negative, exponent, fraction))
    (positive : 0 < exponent) (notTop : exponent ≠ format.topExponent) :
    format.classify bits = .finite negative (twoTo format.fractionBits + fraction)
      (-(format.bias + format.fractionBits : Nat) + exponent) := by
  have notZero : exponent ≠ 0 := by omega
  unfold classify
  rw [fields]
  simp only [if_neg notTop, if_neg notZero]

/-- A finite number has its fraction field for mantissa, with the hidden bit or without. -/
theorem finite_of_classify {mantissa : Nat} {power : Int}
    (isFinite : format.classify bits = .finite negative mantissa power) :
    ∃ exponent fraction, format.split bits = (negative, exponent, fraction) ∧
      (mantissa = fraction ∧ power = -(format.bias + format.fractionBits : Nat) + 1 ∨
        mantissa = twoTo format.fractionBits + fraction ∧ 0 < exponent ∧
          exponent ≠ format.topExponent ∧
          power = -(format.bias + format.fractionBits : Nat) + exponent) := by
  rcases fields : format.split bits with ⟨sign, exponent, fraction⟩
  unfold classify at isFinite
  rw [fields] at isFinite
  by_cases top : exponent = format.topExponent
  · by_cases empty : fraction = 0 <;> simp [top, empty] at isFinite
  · by_cases zero : exponent = 0
    · subst zero
      simp only [if_neg top, if_true, BinaryClass.finite.injEq] at isFinite
      obtain ⟨rfl, rfl, rfl⟩ := isFinite
      exact ⟨_, _, rfl, .inl ⟨rfl, rfl⟩⟩
    · simp only [if_neg top, if_neg zero, BinaryClass.finite.injEq] at isFinite
      obtain ⟨rfl, rfl, rfl⟩ := isFinite
      exact ⟨_, _, rfl, .inr ⟨rfl, Nat.pos_of_ne_zero zero, top, rfl⟩⟩

end BinaryFormat

namespace Binary64

variable {exponent fraction : Nat}

/-- The bits of fields that fit do not overlap. -/
theorem toNat_bits_ofFields (negative : Bool) (exponentFits : exponent < 2 ^ 11)
    (fractionFits : fraction < 2 ^ 52) :
    (ofFields negative exponent fraction).bits.toNat =
      negative.toNat * 2 ^ 63 + exponent * 2 ^ 52 + fraction := by
  cases negative <;> simp only [ofFields, twoTo, Nat.pow_eq, UInt64.toNat_ofNat', if_true,
    if_false, Bool.false_eq_true, Bool.toNat_true, Bool.toNat_false] <;> omega

theorem split_ofFields (negative : Bool) (exponentFits : exponent < 2 ^ 11)
    (fractionFits : fraction < 2 ^ 52) :
    BinaryFormat.binary64.split (ofFields negative exponent fraction).bits.toNat =
      (negative, exponent, fraction) := by
  rw [toNat_bits_ofFields negative exponentFits fractionFits]
  unfold BinaryFormat.split BinaryFormat.binary64
  simp only [twoTo, Nat.pow_eq, Prod.mk.injEq]
  refine ⟨?_, ?_, ?_⟩
  · cases negative <;> simp only [Bool.toNat_true, Bool.toNat_false, beq_iff_eq,
      beq_eq_false_iff_ne] <;> omega
  · cases negative <;> simp only [Bool.toNat_true, Bool.toNat_false] <;> omega
  · omega

theorem classify_ofFields (negative : Bool) (positive : 0 < exponent)
    (exponentFits : exponent < 2047) (fractionFits : fraction < 2 ^ 52) :
    (ofFields negative exponent fraction).classify =
      .finite negative (2 ^ 52 + fraction) (exponent - 1075) := by
  have fields := split_ofFields negative (Nat.lt_succ_of_lt exponentFits) fractionFits
  have normal := BinaryFormat.classify_of_normal fields positive (Nat.ne_of_lt exponentFits)
  have unit : (-(BinaryFormat.binary64.bias + BinaryFormat.binary64.fractionBits : Nat) : Int) =
      -1075 := rfl
  rw [unit, Int.add_comm] at normal
  exact normal

end Binary64

namespace Binary32

variable {number : Binary32} {negative : Bool} {mantissa : Nat} {exponent : Int}

/-- The finite numbers of 32 bits. -/
theorem bounds_of_classify (isFinite : number.classify = .finite negative mantissa exponent) :
    mantissa < 2 ^ 24 ∧ -149 ≤ exponent ∧ exponent ≤ 104 := by
  obtain ⟨field, fraction, fields, form⟩ := BinaryFormat.finite_of_classify isFinite
  have unit : (-(BinaryFormat.binary32.bias + BinaryFormat.binary32.fractionBits : Nat) : Int) =
      -150 := rfl
  have top : BinaryFormat.binary32.topExponent = 255 := rfl
  have hidden : twoTo BinaryFormat.binary32.fractionBits = 2 ^ 23 := rfl
  rw [unit, top, hidden] at form
  have fieldFits : field < 2 ^ 8 := by
    rw [← (Prod.mk.inj (Prod.mk.inj fields).2).1]
    exact Nat.mod_lt _ (Nat.two_pow_pos 8)
  have fractionFits : fraction < 2 ^ 23 := by
    rw [← (Prod.mk.inj (Prod.mk.inj fields).2).2]
    exact Nat.mod_lt _ (Nat.two_pow_pos 23)
  omega

/-- Moving the mantissa up by some bits and the exponent down by as many keeps the value. -/
theorem classify_widen (isFinite : number.classify = .finite negative mantissa exponent) :
    ∃ shift : Nat, number.widen.classify =
      .finite negative (mantissa * 2 ^ shift) (exponent - shift) := by
  obtain ⟨small, low, high⟩ := bounds_of_classify isFinite
  have widened : number.widen = if mantissa = 0 then .ofFields negative 0 0
      else .ofFields negative (exponent + Nat.log2 mantissa + 1023).toNat
        (mantissa * 2 ^ (52 - Nat.log2 mantissa) - 2 ^ 52) := by
    unfold widen
    rw [isFinite]
    rfl
  by_cases zero : mantissa = 0
  · refine ⟨(exponent + 1074).toNat, ?_⟩
    have subnormal : (-1074 : Int) = exponent - (exponent + 1074).toNat := by omega
    rw [widened, if_pos zero, zero, Nat.zero_mul, ← subnormal]
    cases negative <;> rfl
  · have topBound : Nat.log2 mantissa < 24 := (Nat.log2_lt zero).2 small
    have shifted : 2 ^ Nat.log2 mantissa * 2 ^ (52 - Nat.log2 mantissa) = 2 ^ 52 := by
      rw [← Nat.pow_add, Nat.add_sub_cancel' (by omega)]
    have hidden : 2 ^ 52 ≤ mantissa * 2 ^ (52 - Nat.log2 mantissa) := by
      rw [← shifted]
      exact Nat.mul_le_mul_right _ (Nat.log2_self_le zero)
    have within : mantissa * 2 ^ (52 - Nat.log2 mantissa) < 2 * 2 ^ 52 := by
      rw [← shifted, ← Nat.mul_assoc, ← Nat.pow_succ']
      exact Nat.mul_lt_mul_of_pos_right Nat.lt_log2_self (Nat.two_pow_pos _)
    refine ⟨52 - Nat.log2 mantissa, ?_⟩
    rw [widened, if_neg zero, Binary64.classify_ofFields negative (by omega) (by omega) (by omega),
      Nat.add_sub_cancel' hidden]
    congr 1
    omega

theorem classify_widen_nan (isNaN : number.classify = .nan) : number.widen.classify = .nan := by
  unfold widen
  rw [isNaN]
  rfl

theorem classify_widen_infinite (isInfinite : number.classify = .infinite negative) :
    number.widen.classify = .infinite negative := by
  unfold widen
  rw [isInfinite]
  cases negative <;> rfl

end Binary32

end CompactSchema
