import CompactSchema.Calendar
import CompactSchema.Proofs.Text.Digits

/-!
Contract: the texts of dates, times and timestamps tell them apart.

A text is taken apart from the end at which its parts have a fixed width: a time from the
left, as its fraction has no fixed width, and a date from the right, as its year has none.

Owns: what can be read back from these texts, and which leap seconds and offsets can be.

Does not own: equality of instants.
-/

set_option autoImplicit false

namespace CompactSchema

namespace Calendar

/-! ## Fractions of a second -/

/-- Read a fraction back: the digits behind the point, moved to the place of nanoseconds. -/
def readFraction (text : String) : Nat :=
  let digits := text.toList.drop 1
  Nat.ofDigitChars 10 digits 0 * 10 ^ (9 - digits.length)

theorem readFraction_point_padded {width number : Nat} (isPositive : 0 < width)
    (isShort : number < 10 ^ width) :
    readFraction ("." ++ Text.padded width number) = number * 10 ^ (9 - width) := by
  have digits : ("." ++ Text.padded width number).toList.drop 1 =
      Text.paddedDigits width number := by
    rw [String.toList_append, Text.toList_padded]
    rfl
  rw [readFraction, digits, Text.ofDigitChars_paddedDigits,
    Text.length_paddedDigits isPositive isShort]

theorem readFraction_fractionText {nanosecond : Nat} (isFraction : nanosecond < 1000000000) :
    readFraction (fractionText nanosecond) = nanosecond := by
  unfold fractionText
  split_ifs with isZero
  · exact isZero.symm
  -- The digits that are left out are zeros in each of the three forms.
  all_goals
    rw [readFraction_point_padded (by decide) (by omega)]
    omega

theorem eq_of_fractionText_eq {first second : Nat} (isFraction : first < 1000000000)
    (isFractionToo : second < 1000000000) (isSame : fractionText first = fractionText second) :
    first = second := by
  rw [← readFraction_fractionText isFraction, isSame, readFraction_fractionText isFractionToo]

/-! ## Years -/

theorem digitsIn_yearText (year : Int) :
    Text.digitsIn (yearText year) = Text.paddedDigits 4 year.natAbs := by
  have ofSigned (sign : String) (noDigits : Text.digitsIn sign = []) :
      Text.digitsIn (sign ++ Text.padded 4 year.natAbs) = Text.paddedDigits 4 year.natAbs := by
    rw [Text.digitsIn_append, noDigits, Text.digitsIn_padded, List.nil_append]
  unfold yearText
  split_ifs
  · exact ofSigned "-" rfl
  · exact Text.digitsIn_padded 4 year.natAbs
  · exact ofSigned "+" rfl

theorem minus_mem_yearText_iff (year : Int) : '-' ∈ (yearText year).toList ↔ year < 0 := by
  have notDigit := Text.not_mem_padded (show '-'.isDigit = false from rfl) 4 year.natAbs
  unfold yearText
  split_ifs with isNegative <;> simp [notDigit, isNegative]

theorem yearText_injective : Function.Injective yearText := by
  intro first second isSame
  have sameDigits := congrArg Text.digitsIn isSame
  rw [digitsIn_yearText, digitsIn_yearText] at sameDigits
  have sameSize := Text.eq_of_paddedDigits_eq sameDigits
  have sameSign : first < 0 ↔ second < 0 := by
    rw [← minus_mem_yearText_iff, isSame, minus_mem_yearText_iff]
  omega

end Calendar

/-! ## Dates -/

theorem Calendar.ValidDate.day_lt {year : Int} {month day : Nat}
    (valid : ValidDate year month day) : day < 32 := by
  have longest : monthLength year month ≤ 31 := by
    unfold monthLength
    split_ifs <;> decide
  have inMonth : day ≤ monthLength year month := valid.2.2.2
  omega

theorem Date.text_injective : Function.Injective Date.text := by
  rintro ⟨firstYear, firstMonth, firstDay, firstValid⟩
    ⟨secondYear, secondMonth, secondDay, secondValid⟩ isSame
  have firstBound := firstValid.day_lt
  have secondBound := secondValid.day_lt
  have firstLast : firstMonth ≤ 12 := firstValid.2.1.2
  have secondLast : secondMonth ≤ 12 := secondValid.2.1.2
  simp only [text] at isSame
  obtain ⟨sameRest, rfl⟩ := Text.append_padded_inj (by decide) (by omega) (by omega) isSame
  obtain ⟨sameStart, rfl⟩ := Text.append_padded_inj (by decide) (by omega) (by omega)
    ((String.append_left_inj _).1 sameRest)
  obtain rfl := Calendar.yearText_injective ((String.append_left_inj _).1 sameStart)
  rfl

/-! ## Times of day -/

namespace TimeOfDay

/-- If this is a leap second, it is at the end of a minute. -/
def LeapsAtMinuteEnd (time : TimeOfDay) : Prop := 1000000000 ≤ time.nanosecond → time.second = 59

/-- Times whose leap seconds are at the end of a minute can be told from their texts. -/
theorem eq_of_text_eq {first second : TimeOfDay} (firstLeaps : first.LeapsAtMinuteEnd)
    (secondLeaps : second.LeapsAtMinuteEnd) (isSame : first.text = second.text) :
    first = second := by
  obtain ⟨firstHour, firstMinute, firstSecond, firstNano, firstValid⟩ := first
  obtain ⟨secondHour, secondMinute, secondSecond, secondNano, secondValid⟩ := second
  unfold Calendar.ValidTime at firstValid secondValid
  simp only [LeapsAtMinuteEnd] at firstLeaps secondLeaps
  simp only [text, String.append_assoc] at isSame
  obtain ⟨rfl, sameMinutes⟩ := Text.padded_append_inj (by decide) (by omega) (by omega) isSame
  obtain ⟨rfl, sameSeconds⟩ := Text.padded_append_inj (by decide) (by omega) (by omega)
    ((String.append_right_inj _).1 sameMinutes)
  obtain ⟨sameSecond, sameFractions⟩ := Text.padded_append_inj (by decide) (by omega) (by omega)
    ((String.append_right_inj _).1 sameSeconds)
  have sameFraction := Calendar.eq_of_fractionText_eq (by omega) (by omega) sameFractions
  -- Second 60 is written for a leap second only, which has second 59.
  obtain rfl : firstSecond = secondSecond := by omega
  obtain rfl : firstNano = secondNano := by omega
  rfl

-- Any other leap second is written like the second after it.
example : text ⟨0, 0, 7, 1000000000, by decide⟩ = text ⟨0, 0, 8, 0, by decide⟩ := rfl

end TimeOfDay

/-! ## Timestamps -/

theorem Date.T_not_mem_text (date : Date) : 'T' ∉ date.text.toList := by
  have notDigit := Text.not_mem_padded (show 'T'.isDigit = false from rfl)
  unfold text Calendar.yearText
  split_ifs <;> simp [notDigit]

theorem TimeOfDay.T_not_mem_text (time : TimeOfDay) : 'T' ∉ time.text.toList := by
  have notDigit := Text.not_mem_padded (show 'T'.isDigit = false from rfl)
  simp only [text, Calendar.fractionText]
  split_ifs <;> simp [notDigit]

theorem Timestamp.eq_of_text_eq {first second : Timestamp}
    (firstLeaps : first.time.LeapsAtMinuteEnd) (secondLeaps : second.time.LeapsAtMinuteEnd)
    (isSame : first.text = second.text) : first = second := by
  obtain ⟨firstDate, firstTime⟩ := first
  obtain ⟨secondDate, secondTime⟩ := second
  have sameChars : firstDate.text.toList ++ 'T' :: firstTime.text.toList =
      secondDate.text.toList ++ 'T' :: secondTime.text.toList := by
    simpa [text] using congrArg String.toList isSame
  obtain ⟨sameDate, _, sameTime⟩ := (List.append_cons_inj_of_notMem firstDate.T_not_mem_text
    firstTime.T_not_mem_text).1 sameChars
  obtain rfl := Date.text_injective (String.toList_inj.1 sameDate)
  obtain rfl := TimeOfDay.eq_of_text_eq firstLeaps secondLeaps (String.toList_inj.1 sameTime)
  rfl

/-! ## Offsets -/

namespace ZonedTimestamp

theorem signText_eq_minus_iff (offset : Int) : signText offset = "-" ↔ offset < 0 := by
  unfold signText
  split
  next isNegative => exact iff_of_true rfl isNegative
  next notNegative => exact iff_of_false (by decide) notNegative

theorem length_minuteOffsetText {offset : Int} (inDay : offset.natAbs < 86400) :
    (minuteOffsetText offset).toList.length = 6 := by
  have sign : (signText offset).toList.length = 1 := by
    unfold signText
    split <;> rfl
  have hours : (Text.paddedDigits 2 ((offset.natAbs + 30) / 60 / 60)).length = 2 :=
    Text.length_paddedDigits (by decide) (by omega)
  have minutes : (Text.paddedDigits 2 ((offset.natAbs + 30) / 60 % 60)).length = 2 :=
    Text.length_paddedDigits (by decide) (by omega)
  simp only [minuteOffsetText, String.toList_append, Text.toList_padded, List.length_append, sign,
    hours, minutes]
  rfl

/-- Offsets of whole minutes can be told from their texts. -/
theorem eq_of_minuteOffsetText_eq {first second : Int} (firstInDay : first.natAbs < 86400)
    (secondInDay : second.natAbs < 86400) (firstWhole : 60 ∣ first) (secondWhole : 60 ∣ second)
    (isSame : minuteOffsetText first = minuteOffsetText second) : first = second := by
  simp only [minuteOffsetText] at isSame
  obtain ⟨sameRest, sameMinutes⟩ := Text.append_padded_inj (by decide) (by omega) (by omega) isSame
  obtain ⟨sameSign, sameHours⟩ := Text.append_padded_inj (by decide) (by omega) (by omega)
    ((String.append_left_inj _).1 sameRest)
  have sameSide : first < 0 ↔ second < 0 := by
    rw [← signText_eq_minus_iff, sameSign, signText_eq_minus_iff]
  omega

-- Seconds of an offset are rounded away.
example : minuteOffsetText 29 = minuteOffsetText 0 := rfl

theorem eq_of_text_eq {first second : ZonedTimestamp}
    (firstLeaps : first.localTime.time.LeapsAtMinuteEnd)
    (secondLeaps : second.localTime.time.LeapsAtMinuteEnd) (firstWhole : 60 ∣ first.offset)
    (secondWhole : 60 ∣ second.offset) (isSame : first.text = second.text) : first = second := by
  obtain ⟨firstLocal, firstOffset, firstInDay⟩ := first
  obtain ⟨secondLocal, secondOffset, secondInDay⟩ := second
  have sameChars : firstLocal.text.toList ++ (minuteOffsetText firstOffset).toList =
      secondLocal.text.toList ++ (minuteOffsetText secondOffset).toList := by
    simpa only [text, String.toList_append] using congrArg String.toList isSame
  obtain ⟨sameLocal, sameOffset⟩ := List.append_inj' sameChars
    ((length_minuteOffsetText firstInDay).trans (length_minuteOffsetText secondInDay).symm)
  obtain rfl := Timestamp.eq_of_text_eq firstLeaps secondLeaps (String.toList_inj.1 sameLocal)
  obtain rfl := eq_of_minuteOffsetText_eq firstInDay secondInDay firstWhole secondWhole
    (String.toList_inj.1 sameOffset)
  rfl

end ZonedTimestamp

end CompactSchema
