import CompactSchema.Number.Decimal
import CompactSchema.Proofs.Text.Digits

/-!
Contract: the text of a decimal tells its sign, its digits and its scale.

Owns: what is read back from the text.

Does not own: equality of decimals by value.
-/

set_option autoImplicit false

namespace CompactSchema.Decimal

/-- The digits that are written, in front of the point and behind it. -/
def digits (decimal : Decimal) : List Char :=
  Text.paddedDigits (decimal.scale + 1) decimal.mantissa.natAbs

/-- How many of the digits stand in front of the point. -/
def wholeLength (decimal : Decimal) : Nat := decimal.digits.length - decimal.scale

variable (decimal : Decimal)

theorem scale_lt_length_digits : decimal.scale < decimal.digits.length :=
  Text.le_length_paddedDigits (decimal.scale + 1) decimal.mantissa.natAbs

theorem not_mem_digits {char : Char} (notDigit : char.isDigit = false) :
    char ∉ decimal.digits := by
  have notPadded := Text.not_mem_padded notDigit (decimal.scale + 1) decimal.mantissa.natAbs
  rwa [Text.toList_padded] at notPadded

theorem text_eq : decimal.text = (if decimal.mantissa < 0 then "-" else "") ++
    String.ofList (decimal.digits.take decimal.wholeLength) ++
    (if decimal.scale = 0 then ""
      else "." ++ String.ofList (decimal.digits.drop decimal.wholeLength)) :=
  rfl

theorem digitsIn_text : Text.digitsIn decimal.text = decimal.digits := by
  have areDigits : ∀ char ∈ decimal.digits, char.isDigit = true :=
    fun _ => Text.isDigit_of_mem_paddedDigits
  have sign : Text.digitsIn (if decimal.mantissa < 0 then "-" else "") = [] := by
    split <;> rfl
  have fraction : Text.digitsIn (if decimal.scale = 0 then ""
      else "." ++ String.ofList (decimal.digits.drop decimal.wholeLength)) =
        decimal.digits.drop decimal.wholeLength := by
    split
    next noFraction =>
      rw [wholeLength, noFraction, Nat.sub_zero, List.drop_length]
      rfl
    next =>
      rw [Text.digitsIn_append,
        Text.digitsIn_ofList fun char member => areDigits char (List.mem_of_mem_drop member)]
      rfl
  rw [text_eq, Text.digitsIn_append, Text.digitsIn_append, sign, fraction, List.nil_append,
    Text.digitsIn_ofList fun char member => areDigits char (List.mem_of_mem_take member),
    List.take_append_drop]

theorem minus_mem_text_iff : '-' ∈ decimal.text.toList ↔ decimal.mantissa < 0 := by
  have notDigit := decimal.not_mem_digits (show '-'.isDigit = false from rfl)
  have notWhole : '-' ∉ decimal.digits.take decimal.wholeLength :=
    fun member => notDigit (List.mem_of_mem_take member)
  have notFraction : '-' ∉ decimal.digits.drop decimal.wholeLength :=
    fun member => notDigit (List.mem_of_mem_drop member)
  rw [text_eq]
  split_ifs with isNegative <;> simp [isNegative, notWhole, notFraction]

/-- How many characters stand behind the point. -/
def readScale (text : String) : Nat := (text.toList.dropWhile (· != '.')).tail.length

theorem readScale_text : readScale decimal.text = decimal.scale := by
  have noPoint := decimal.not_mem_digits (show '.'.isDigit = false from rfl)
  have inFront : ∀ char ∈ (if decimal.mantissa < 0 then "-" else "").toList ++
      decimal.digits.take decimal.wholeLength, (char != '.') = true := by
    intro char member
    rw [bne_iff_ne]
    rintro rfl
    rcases List.mem_append.1 member with inSign | inDigits
    · split_ifs at inSign <;> simp at inSign
    · exact noPoint (List.mem_of_mem_take inDigits)
  rw [readScale, text_eq, String.toList_append, String.toList_append, String.toList_ofList,
    List.dropWhile_append_of_pos inFront]
  split
  next noFraction => exact noFraction.symm
  next =>
    have behind := decimal.scale_lt_length_digits
    have chars : ("." ++ String.ofList (decimal.digits.drop decimal.wholeLength)).toList =
        '.' :: decimal.digits.drop decimal.wholeLength := by
      simp
    rw [chars, List.dropWhile_cons_of_neg (by decide), List.tail_cons, List.length_drop,
      wholeLength]
    omega

theorem text_injective : Function.Injective text := by
  intro first second isSame
  have sameScale : first.scale = second.scale := by
    rw [← readScale_text, isSame, readScale_text]
  have sameDigits : first.digits = second.digits := by
    rw [← digitsIn_text, isSame, digitsIn_text]
  have sameSign : first.mantissa < 0 ↔ second.mantissa < 0 := by
    rw [← minus_mem_text_iff, isSame, minus_mem_text_iff]
  obtain ⟨firstMantissa, scale, _, _⟩ := first
  obtain ⟨secondMantissa, _, _, _⟩ := second
  obtain rfl := sameScale
  have sameSize := Text.eq_of_paddedDigits_eq sameDigits
  obtain rfl : firstMantissa = secondMantissa := by
    dsimp only at sameSize sameSign
    omega
  rfl

end CompactSchema.Decimal
