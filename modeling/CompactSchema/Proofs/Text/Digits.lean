import CompactSchema.Text.Digits
import Mathlib.Algebra.Ring.Nat
import Mathlib.Data.List.Basic

/-!
Contract: a number can be read back from its padded digits.

Digits read back whatever the width. A number that is not longer than its width takes up
just this width, so a text that has one at its start or at its end can be taken apart
there.

Owns: what padded digits look like, and taking texts apart at them.

Does not own: the texts that are made of numbers.
-/

set_option autoImplicit false

namespace CompactSchema.Text

variable {width number other : Nat}

theorem ofDigitChars_paddedDigits (width number : Nat) :
    Nat.ofDigitChars 10 (paddedDigits width number) 0 = number := by
  rw [paddedDigits, decimalDigits, Nat.ofDigitChars_append, Nat.ofDigitChars_replicate_zero,
    Nat.mul_zero, Nat.ofDigitChars_ten_toDigits]

theorem eq_of_paddedDigits_eq (isSame : paddedDigits width number = paddedDigits width other) :
    number = other := by
  rw [← ofDigitChars_paddedDigits width number, isSame, ofDigitChars_paddedDigits]

theorem isDigit_of_mem_paddedDigits {char : Char} (member : char ∈ paddedDigits width number) :
    char.isDigit = true := by
  rcases List.mem_append.1 member with isZero | isDigit
  · rw [List.eq_of_mem_replicate isZero]
    rfl
  · exact Nat.isDigit_of_mem_toDigits (by decide) (by decide) isDigit

theorem le_length_paddedDigits (width number : Nat) :
    width ≤ (paddedDigits width number).length := by
  rw [paddedDigits, List.length_append, List.length_replicate]
  omega

theorem length_paddedDigits (isPositive : 0 < width) (isShort : number < 10 ^ width) :
    (paddedDigits width number).length = width := by
  have fits := (Nat.length_toDigits_le_iff (by decide) isPositive).2 isShort
  rw [paddedDigits, decimalDigits, List.length_append, List.length_replicate]
  omega

theorem toList_padded (width number : Nat) :
    (padded width number).toList = paddedDigits width number :=
  String.toList_ofList

theorem not_mem_padded {char : Char} (notDigit : char.isDigit = false) (width number : Nat) :
    char ∉ (padded width number).toList := by
  rw [toList_padded]
  intro member
  exact Bool.false_ne_true (notDigit.symm.trans (isDigit_of_mem_paddedDigits member))

/-- The digits in a text, whatever stands between them. -/
def digitsIn (text : String) : List Char := text.toList.filter Char.isDigit

theorem digitsIn_append (text rest : String) :
    digitsIn (text ++ rest) = digitsIn text ++ digitsIn rest := by
  rw [digitsIn, String.toList_append, List.filter_append]
  rfl

theorem digitsIn_ofList {chars : List Char} (areDigits : ∀ char ∈ chars, char.isDigit = true) :
    digitsIn (String.ofList chars) = chars := by
  rw [digitsIn, String.toList_ofList]
  exact List.filter_eq_self.2 areDigits

theorem digitsIn_padded (width number : Nat) :
    digitsIn (padded width number) = paddedDigits width number :=
  digitsIn_ofList fun _ => isDigit_of_mem_paddedDigits

/-- A text can be taken apart after a number of a fixed width. -/
theorem padded_append_inj {rest otherRest : String} (isPositive : 0 < width)
    (isShort : number < 10 ^ width) (otherIsShort : other < 10 ^ width)
    (isSame : padded width number ++ rest = padded width other ++ otherRest) :
    number = other ∧ rest = otherRest := by
  have sameChars := congrArg String.toList isSame
  rw [String.toList_append, String.toList_append, toList_padded, toList_padded] at sameChars
  obtain ⟨sameDigits, sameRest⟩ := List.append_inj sameChars
    ((length_paddedDigits isPositive isShort).trans
      (length_paddedDigits isPositive otherIsShort).symm)
  exact ⟨eq_of_paddedDigits_eq sameDigits, String.toList_inj.1 sameRest⟩

/-- A text can be taken apart before a number of a fixed width. -/
theorem append_padded_inj {start otherStart : String} (isPositive : 0 < width)
    (isShort : number < 10 ^ width) (otherIsShort : other < 10 ^ width)
    (isSame : start ++ padded width number = otherStart ++ padded width other) :
    start = otherStart ∧ number = other := by
  have sameChars := congrArg String.toList isSame
  rw [String.toList_append, String.toList_append, toList_padded, toList_padded] at sameChars
  obtain ⟨sameStart, sameDigits⟩ := List.append_inj' sameChars
    ((length_paddedDigits isPositive isShort).trans
      (length_paddedDigits isPositive otherIsShort).symm)
  exact ⟨String.toList_inj.1 sameStart, eq_of_paddedDigits_eq sameDigits⟩

end CompactSchema.Text
