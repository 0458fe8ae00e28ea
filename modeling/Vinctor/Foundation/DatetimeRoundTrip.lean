import Mathlib.Data.List.Basic
import Mathlib.Tactic.Ring
import Vinctor.Foundation.Datetime

/-!
# Instants survive formatting and reading

The calendar date of an ordinal has that ordinal, and a date and time in
coordinated universal time is read back from its ISO 8601 text.
-/

namespace Foundation

/-! ## Dates of ordinals -/

namespace Calendar

/-- Days before a month of a leap year or a common one. -/
def daysBefore (leap : Bool) (month : Nat) : Nat :=
  commonDaysBeforeMonth.getD month 0 + (month > 2 && leap).toNat

def daysIn (leap : Bool) (month : Nat) : Nat :=
  if month == 2 && leap then 29 else commonDaysInMonth.getD month 0

/-- Month of a day of a year, by the estimate of the algorithm. -/
def monthOf (leap : Bool) (offset : Nat) : Nat :=
  let estimate := (offset + 50) / 32
  if offset < daysBefore leap estimate then estimate - 1 else estimate

theorem monthOf_spec :
    ∀ leap : Bool, ∀ offset < 365 + leap.toNat,
      1 ≤ monthOf leap offset ∧ monthOf leap offset ≤ 12 ∧
        daysBefore leap (monthOf leap offset) ≤ offset ∧
        offset - daysBefore leap (monthOf leap offset) + 1 ≤
          daysIn leap (monthOf leap offset) := by
  decide +kernel

/-- A year by its place in cycles of 400, 100 and 4 years. -/
theorem daysBeforeYear_cycles
    (n400 n100 n4 n1 : Nat)
    (few100 : n100 ≤ 3)
    (few4 : n4 ≤ 24)
    (few1 : n1 ≤ 3) :
    daysBeforeYear (n400 * 400 + 1 + n100 * 100 + n4 * 4 + n1) =
      n400 * 146097 + n100 * 36524 + n4 * 1461 + n1 * 365 := by
  unfold daysBeforeYear
  dsimp only
  omega

theorem isLeap_cycles
    (n400 n100 n4 n1 : Nat)
    (few100 : n100 ≤ 3)
    (few4 : n4 ≤ 24)
    (few1 : n1 ≤ 3) :
    isLeap (n400 * 400 + 1 + n100 * 100 + n4 * 4 + n1) =
      decide (n1 = 3 ∧ (n4 ≠ 24 ∨ n100 = 3)) := by
  unfold isLeap
  rw [Bool.eq_iff_iff]
  simp only [Bool.and_eq_true, Bool.or_eq_true, beq_iff_eq, bne_iff_ne, decide_eq_true_eq]
  omega

/-- A date of the calendar with a given ordinal. -/
structure IsDateOf (ordinal : Nat) (date : Nat × Nat × Nat) : Prop where
  ordinal : ymd2ord date.1 date.2.1 date.2.2 = ordinal
  year : 1 ≤ date.1
  month : 1 ≤ date.2.1 ∧ date.2.1 ≤ 12
  day : 1 ≤ date.2.2 ∧ date.2.2 ≤ daysInMonth date.1 date.2.1

/-- The last day of a leap year. -/
theorem isDateOf_lastDay
    {ordinal year : Nat}
    (positive : 1 ≤ year)
    (leap : isLeap year = true)
    (last : daysBeforeYear year + 366 = ordinal) :
    IsDateOf ordinal (year, 12, 31) where
  ordinal := by
    simp only [ymd2ord, daysBeforeMonth, leap]
    rw [← last]
    rfl
  year := positive
  month := ⟨by simp, le_refl 12⟩
  day := ⟨by simp, le_refl 31⟩

/-- A day of a year that is given by the days before it. -/
theorem isDateOf_offset
    {ordinal year offset : Nat}
    (positive : 1 ≤ year)
    (inYear : offset < 365 + (isLeap year).toNat)
    (placed : daysBeforeYear year + offset + 1 = ordinal) :
    IsDateOf ordinal
      (year, monthOf (isLeap year) offset,
        offset - daysBefore (isLeap year) (monthOf (isLeap year) offset) + 1) := by
  obtain ⟨first, last, before, inMonth⟩ := monthOf_spec (isLeap year) offset inYear
  have sameBefore : daysBeforeMonth year (monthOf (isLeap year) offset) =
      daysBefore (isLeap year) (monthOf (isLeap year) offset) := rfl
  refine ⟨?_, positive, ⟨first, last⟩, ⟨Nat.le_add_left 1 _, inMonth⟩⟩
  simp only [ymd2ord, sameBefore]
  omega

theorem isDateOf_ord2ymd
    {ordinal : Nat}
    (positive : 1 ≤ ordinal) :
    IsDateOf ordinal (ord2ymd ordinal) := by
  unfold ord2ymd
  dsimp only
  generalize place400 : (ordinal - 1) / 146097 = n400
  generalize rest400 : (ordinal - 1) % 146097 = r400
  generalize place100 : r400 / 36524 = n100
  generalize rest100 : r400 % 36524 = r100
  generalize place4 : r100 / 1461 = n4
  generalize rest4 : r100 % 1461 = r4
  generalize place1 : r4 / 365 = n1
  generalize rest1 : r4 % 365 = offset
  split
  · next last =>
      -- The last day of a cycle of 4 years, or of 400.
      rcases last with four | four
      · have few100 : n100 ≤ 3 := by omega
        have few4 : n4 ≤ 23 := by omega
        have year : n400 * 400 + 1 + n100 * 100 + n4 * 4 + n1 - 1 =
            n400 * 400 + 1 + n100 * 100 + n4 * 4 + 3 := by omega
        rw [year]
        apply isDateOf_lastDay
        · omega
        · rw [isLeap_cycles n400 n100 n4 3 few100 (by omega) (by omega)]
          simp
          omega
        · rw [daysBeforeYear_cycles n400 n100 n4 3 few100 (by omega) (by omega)]
          omega
      · have year : n400 * 400 + 1 + n100 * 100 + n4 * 4 + n1 - 1 =
            n400 * 400 + 1 + 3 * 100 + 24 * 4 + 3 := by omega
        rw [year]
        apply isDateOf_lastDay
        · omega
        · rw [isLeap_cycles n400 3 24 3 (by omega) (by omega) (by omega)]
          rfl
        · rw [daysBeforeYear_cycles n400 3 24 3 (by omega) (by omega) (by omega)]
          omega
  · next inside =>
      rw [not_or] at inside
      have few100 : n100 ≤ 3 := by omega
      have few4 : n4 ≤ 24 := by omega
      have few1 : n1 ≤ 3 := by omega
      apply isDateOf_offset
      · omega
      · have short : offset < 365 := by omega
        omega
      · rw [daysBeforeYear_cycles n400 n100 n4 n1 few100 few4 few1]
        omega

/-- Ordinal of the last day of year 9999. -/
def maxOrdinal : Nat := 3652059

theorem IsDateOf.isValidDate
    {ordinal : Nat}
    {date : Nat × Nat × Nat}
    (isDate : IsDateOf ordinal date)
    (bounded : ordinal ≤ maxOrdinal) :
    isValidDate date.1 date.2.1 date.2.2 = true := by
  obtain ⟨placed, year, month, day⟩ := isDate
  have early : date.1 ≤ 9999 := by
    unfold ymd2ord daysBeforeYear at placed
    unfold maxOrdinal at bounded
    dsimp only at placed
    omega
  simp only [Calendar.isValidDate, Bool.and_eq_true, decide_eq_true_eq]
  exact ⟨⟨⟨⟨⟨year, early⟩, month.1⟩, month.2⟩, day.1⟩, day.2⟩

end Calendar

namespace Datetime

/-! ## Instants of dates -/

/-- Instants of the years that dates have. -/
def Representable (instant : Int) : Prop :=
  1 ≤ instant / microsecondsPerDay + epochOrdinal ∧
    instant / microsecondsPerDay + epochOrdinal ≤ Calendar.maxOrdinal

theorem representable_epoch : Representable 0 := by
  unfold Representable
  decide +kernel

/-- The clock of the date that a clock shows. -/
theorem wallClock_ofWallClock
    {clock : Int}
    (representable : Representable clock)
    (offset : Option Int) :
    (ofWallClock clock offset).wallClock = clock := by
  have late : 1 ≤ (clock / microsecondsPerDay + epochOrdinal).toNat := by
    have := representable.1
    omega
  have placed := (Calendar.isDateOf_ord2ymd late).ordinal
  have time : 0 ≤ clock % microsecondsPerDay ∧ clock % microsecondsPerDay < 86400000000 :=
    ⟨Int.emod_nonneg _ (by decide), Int.emod_lt_of_pos _ (by decide)⟩
  have split := Int.mul_ediv_add_emod clock microsecondsPerDay
  have positive := representable.1
  simp only [wallClock, ofWallClock, placed]
  unfold microsecondsPerDay at *
  omega

/-! ## Digits -/

/-- A number in a given count of decimal digits. -/
structure Digits (width value : Nat) (text : List Char) : Prop where
  length : text.length = width
  digits : ∀ character ∈ text, character.isDigit = true
  value : Nat.ofDigitChars 10 text 0 = value

theorem digits_padded
    {width value : Nat}
    (positive : 0 < width)
    (bound : value < 10 ^ width) :
    Digits width value (padded width value) where
  length := by
    have short := (Nat.length_toDigits_le_iff (b := 10) (by decide) positive).mpr bound
    simp only [padded, List.length_append, List.length_replicate]
    omega
  digits := by
    intro character present
    simp only [padded, List.mem_append, List.mem_replicate] at present
    rcases present with ⟨-, rfl⟩ | listed
    · rfl
    · exact Nat.isDigit_of_mem_toDigits (by decide) (by decide) listed
  value := by
    simp only [padded, Nat.ofDigitChars_append, Nat.ofDigitChars_replicate_zero, Nat.mul_zero,
      Nat.ofDigitChars_ten_toDigits]

theorem digitsAt_append
    {width value : Nat}
    {digits : List Char}
    (isNumber : Digits width value digits)
    (positive : 0 < width)
    (before after : List Char) :
    digitsAt (before ++ digits ++ after) before.length width = some value := by
  have taken : ((before ++ digits ++ after).drop before.length).take width = digits := by
    rw [List.append_assoc, List.drop_left, ← isNumber.length, List.take_left]
  unfold digitsAt
  dsimp only
  rw [taken, if_pos ⟨isNumber.length, positive, List.all_eq_true.mpr isNumber.digits⟩,
    isNumber.value]

/-- A digit is none of the marks between numbers. -/
theorem Digits.ne
    {width value : Nat}
    {digits : List Char}
    (isNumber : Digits width value digits)
    (mark : Char)
    (notDigit : mark.isDigit = false) :
    ∀ character ∈ digits, character ≠ mark := by
  intro character present same
  rw [← same, isNumber.digits character present] at notDigit
  cases notDigit

/-! ## Reading back -/

theorem parseIsoformatDate_digits
    {year month day : Nat}
    {yearText monthText dayText : List Char}
    (isYear : Digits 4 year yearText)
    (isMonth : Digits 2 month monthText)
    (isDay : Digits 2 day dayText) :
    parseIsoformatDate (yearText ++ ['-'] ++ monthText ++ ['-'] ++ dayText) =
      some (year, month, day) := by
  have yearAt := digitsAt_append isYear (by decide) [] (['-'] ++ monthText ++ ['-'] ++ dayText)
  have monthAt := digitsAt_append isMonth (by decide) (yearText ++ ['-']) (['-'] ++ dayText)
  have dayAt := digitsAt_append isDay (by decide) (yearText ++ ['-'] ++ monthText ++ ['-']) []
  have notWeek := isMonth.ne 'W' (by decide)
  obtain ⟨y0, y1, y2, y3, rfl⟩ := List.length_eq_four.mp isYear.length
  obtain ⟨m0, m1, rfl⟩ := List.length_eq_two.mp isMonth.length
  obtain ⟨d0, d1, rfl⟩ := List.length_eq_two.mp isDay.length
  simp only [List.cons_append, List.nil_append, List.append_nil, List.length_cons,
    List.length_nil] at yearAt monthAt dayAt ⊢
  have monthMark : m0 ≠ 'W' := notWeek m0 (by simp)
  simp [parseIsoformatDate, yearAt, monthAt, dayAt, monthMark]

/-- Texts of a fraction of a second: none, or a mark and six digits. -/
inductive FractionOf : Nat → List Char → Prop
  | none : FractionOf 0 []
  | digits
      {microsecond : Nat}
      {text : List Char}
      (isNumber : Digits 6 microsecond text) :
      FractionOf microsecond ('.' :: text)

theorem parseTimeTail_fraction
    {microsecond : Nat}
    {text : List Char}
    (fraction : FractionOf microsecond text)
    (count : Nat) :
    parseTimeTail true count text = some ([], microsecond) := by
  cases fraction with
  | none => rw [parseTimeTail]
  | @digits _ text isNumber =>
      have nonempty : text.isEmpty = false := by
        cases text with
        | nil => cases isNumber.length
        | cons => rfl
      have full : text.take 6 = text := List.take_of_length_le (le_of_eq isNumber.length)
      have parsed : parseFraction text = some microsecond := by
        simp [parseFraction, nonempty, List.all_eq_true.mpr isNumber.digits, full,
          isNumber.length, isNumber.value]
      rw [parseTimeTail.eq_def]
      simp [parsed]

theorem parseTimeTail_component
    {component count : Nat}
    {text rest : List Char}
    {tail : List Nat × Nat}
    (isNumber : Digits 2 component text)
    (parsed : parseTimeTail true count rest = some tail) :
    parseTimeTail true (count + 1) (':' :: (text ++ rest)) =
      some (component :: tail.1, tail.2) := by
  have componentAt := digitsAt_append isNumber (by decide) [] rest
  have dropped : (text ++ rest).drop 2 = rest := by rw [← isNumber.length, List.drop_left]
  rw [List.nil_append, List.length_nil] at componentAt
  simp [parseTimeTail, componentAt, dropped, parsed]

theorem parseTime_tail
    {hour : Nat}
    {hourText tailText : List Char}
    {tail : List Nat × Nat}
    (isHour : Digits 2 hour hourText)
    (parsed : parseTimeTail true 2 (':' :: tailText) = some tail) :
    parseTime (hourText ++ ':' :: tailText) =
      some (hour, tail.1.getD 0 0, tail.1.getD 1 0, tail.2) := by
  have hourAt := digitsAt_append isHour (by decide) [] (':' :: tailText)
  obtain ⟨h0, h1, rfl⟩ := List.length_eq_two.mp isHour.length
  simp only [List.cons_append, List.nil_append, List.length_nil] at hourAt ⊢
  simp [parseTime, hourAt, parsed]

theorem parseTime_digits
    {hour minute second microsecond : Nat}
    {hourText minuteText secondText fractionText : List Char}
    (isHour : Digits 2 hour hourText)
    (isMinute : Digits 2 minute minuteText)
    (isSecond : Digits 2 second secondText)
    (isFraction : FractionOf microsecond fractionText) :
    parseTime (hourText ++ (':' :: (minuteText ++ (':' :: (secondText ++ fractionText))))) =
      some (hour, minute, second, microsecond) := by
  rw [parseTime_tail isHour (parseTimeTail_component isMinute
    (parseTimeTail_component isSecond (parseTimeTail_fraction isFraction 0)))]
  rfl

theorem FractionOf.ne
    {microsecond : Nat}
    {text : List Char}
    (fraction : FractionOf microsecond text)
    (mark : Char)
    (notDigit : mark.isDigit = false)
    (notPoint : mark ≠ '.') :
    ∀ character ∈ text, character ≠ mark := by
  cases fraction with
  | none =>
      intro character present
      cases present
  | digits isNumber =>
      intro character present
      rcases List.mem_cons.mp present with rfl | later
      · exact notPoint.symm
      · exact isNumber.ne mark notDigit character later

/-! ## Zones -/

/-- The text of an offset behind its sign. -/
def offsetBody (magnitude : Nat) : List Char :=
  padded 2 (magnitude / 3600000000) ++ ':' :: (padded 2 (magnitude / 60000000 % 60) ++
    ((if magnitude / 1000000 % 60 = 0 ∧ magnitude % 1000000 = 0 then []
      else ':' :: padded 2 (magnitude / 1000000 % 60)) ++
    if magnitude % 1000000 = 0 then [] else '.' :: padded 6 (magnitude % 1000000)))

theorem formatOffset_eq (offset : Int) :
    formatOffset offset = (if offset < 0 then '-' else '+') :: offsetBody offset.natAbs := by
  simp only [formatOffset, offsetBody, List.append_assoc, List.cons_append, List.nil_append]

theorem fractionOf_microseconds {microsecond : Nat} (small : microsecond < 1000000) :
    FractionOf microsecond (if microsecond = 0 then [] else '.' :: padded 6 microsecond) := by
  split
  · next zero =>
      subst zero
      exact .none
  · exact .digits (digits_padded (by decide) small)

theorem parseTime_offsetBody
    {magnitude : Nat}
    (small : magnitude < 86400000000) :
    parseTime (offsetBody magnitude) =
      some (magnitude / 3600000000, magnitude / 60000000 % 60, magnitude / 1000000 % 60,
        magnitude % 1000000) := by
  have isHour : Digits 2 (magnitude / 3600000000) (padded 2 (magnitude / 3600000000)) :=
    digits_padded (by decide) (by omega)
  have isMinute : Digits 2 (magnitude / 60000000 % 60) (padded 2 (magnitude / 60000000 % 60)) :=
    digits_padded (by decide) (by omega)
  have isSecond : Digits 2 (magnitude / 1000000 % 60) (padded 2 (magnitude / 1000000 % 60)) :=
    digits_padded (by decide) (by omega)
  have isFraction := fractionOf_microseconds (Nat.mod_lt magnitude (by decide : 0 < 1000000))
  unfold offsetBody
  generalize (if magnitude % 1000000 = 0 then [] else '.' :: padded 6 (magnitude % 1000000)) =
    fractionText at isFraction
  split
  · next whole =>
      rw [whole.2] at isFraction ⊢
      rw [List.nil_append, parseTime_tail isHour
        (parseTimeTail_component isMinute (parseTimeTail_fraction isFraction 1)), whole.1]
      rfl
  · exact parseTime_digits isHour isMinute isSecond isFraction

theorem length_padded_two {value : Nat} (small : value < 100) : (padded 2 value).length = 2 :=
  (digits_padded (by decide) small : Digits 2 value _).length

theorem parseOffset_offsetBody
    (negative : Bool)
    {magnitude : Nat}
    (small : magnitude < 86400000000) :
    parseOffset negative (offsetBody magnitude) =
      some (if negative then -(magnitude : Int) else magnitude) := by
  have long : 5 ≤ (offsetBody magnitude).length := by
    simp only [offsetBody, List.length_append, List.length_cons]
    rw [length_padded_two (by omega), length_padded_two (by omega)]
    omega
  have notShort : (offsetBody magnitude).length ∉ [0, 1, 3] := by
    simp only [List.mem_cons, List.not_mem_nil, or_false]
    omega
  have whole : ((magnitude / 3600000000 * 60 + magnitude / 60000000 % 60) * 60 +
      magnitude / 1000000 % 60) * 1000000 + magnitude % 1000000 = magnitude := by
    omega
  have bounded : (magnitude : Int) < microsecondsPerDay := by
    unfold microsecondsPerDay
    omega
  rw [parseOffset, if_neg notShort, parseTime_offsetBody small]
  dsimp only
  rw [whole, if_pos bounded]

/-- Only digits, colons and a point stand in an offset behind its sign. -/
theorem ne_of_mem_offsetBody
    {magnitude : Nat}
    (small : magnitude < 86400000000)
    (mark : Char)
    (notDigit : mark.isDigit = false)
    (notPoint : mark ≠ '.')
    (notColon : mark ≠ ':') :
    ∀ character ∈ offsetBody magnitude, character ≠ mark := by
  have isHour : Digits 2 (magnitude / 3600000000) (padded 2 (magnitude / 3600000000)) :=
    digits_padded (by decide) (by omega)
  have isMinute : Digits 2 (magnitude / 60000000 % 60) (padded 2 (magnitude / 60000000 % 60)) :=
    digits_padded (by decide) (by omega)
  have isSecond : Digits 2 (magnitude / 1000000 % 60) (padded 2 (magnitude / 1000000 % 60)) :=
    digits_padded (by decide) (by omega)
  have isFraction := fractionOf_microseconds (Nat.mod_lt magnitude (by decide : 0 < 1000000))
  intro character present
  simp only [offsetBody, List.mem_append, List.mem_cons] at present
  rcases present with inHour | rfl | inMinute | inSecond | inFraction
  · exact isHour.ne mark notDigit character inHour
  · exact notColon.symm
  · exact isMinute.ne mark notDigit character inMinute
  · split at inSecond
    · cases inSecond
    · rcases List.mem_cons.mp inSecond with rfl | inDigits
      · exact notColon.symm
      · exact isSecond.ne mark notDigit character inDigits
  · exact isFraction.ne mark notDigit notPoint character inFraction

/-- The first mark of a kind stands behind a text without it. -/
theorem findIdx?_mark
    {text : List Char}
    {mark : Char}
    (absent : ∀ character ∈ text, character ≠ mark)
    (behind : List Char) :
    (text ++ mark :: behind).findIdx? (· = mark) = some text.length := by
  have notInText : text.findIdx? (· = mark) = none := by
    rw [List.findIdx?_eq_none_iff]
    intro character present
    simpa using absent character present
  rw [List.findIdx?_append, notInText, List.findIdx?_cons]
  simp

theorem findIdx?_no_mark
    {text : List Char}
    {mark : Char}
    (absent : ∀ character ∈ text, character ≠ mark) :
    text.findIdx? (· = mark) = none := by
  rw [List.findIdx?_eq_none_iff]
  intro character present
  simpa using absent character present

/-- A time of day and the zone behind it, if there is one. -/
theorem parseIsoformatTime_zone
    {text : List Char}
    {time : Nat × Nat × Nat × Nat}
    (parsed : parseTime text = some time)
    (unmarked : ∀ mark ∈ ['-', '+', 'Z'], ∀ character ∈ text, character ≠ mark)
    {offset : Option Int}
    (within : ∀ value ∈ offset, value.natAbs < 86400000000) :
    parseIsoformatTime (text ++ (offset.map formatOffset).getD []) = some (time, offset) := by
  have noMinus := unmarked '-' (by decide)
  have noPlus := unmarked '+' (by decide)
  cases offset with
  | none =>
      have position : zonePosition text = none := by
        rw [zonePosition, findIdx?_no_mark noMinus, findIdx?_no_mark noPlus,
          findIdx?_no_mark (unmarked 'Z' (by decide))]
        rfl
      simp [parseIsoformatTime, position, parsed]
  | some value =>
      have small := within value rfl
      have read := fun negative => parseOffset_offsetBody negative small
      rw [Option.map_some, Option.getD_some, formatOffset_eq]
      split
      · next isNegative =>
          have position : zonePosition (text ++ '-' :: offsetBody value.natAbs) =
              some text.length := by
            rw [zonePosition, findIdx?_mark noMinus]
            rfl
          have magnitude : -(value.natAbs : Int) = value := by omega
          generalize value.natAbs = size at position read magnitude ⊢
          simp [parseIsoformatTime, position, parsed, read, magnitude]
      · next notNegative =>
          have clean := ne_of_mem_offsetBody small '-' (by decide) (by decide) (by decide)
          have noMinus' : ∀ character ∈ text ++ '+' :: offsetBody value.natAbs,
              character ≠ '-' := by
            intro character present
            rcases List.mem_append.mp present with inText | inZone
            · exact noMinus character inText
            · rcases List.mem_cons.mp inZone with rfl | inBody
              · decide
              · exact clean character inBody
          have position : zonePosition (text ++ '+' :: offsetBody value.natAbs) =
              some text.length := by
            rw [zonePosition, findIdx?_no_mark noMinus', findIdx?_mark noPlus]
            rfl
          have magnitude : (value.natAbs : Int) = value := by omega
          generalize value.natAbs = size at position read magnitude ⊢
          simp [parseIsoformatTime, position, parsed, read, magnitude]

theorem findIsoformatDatetimeSeparator_digits
    {month : Nat}
    {yearText monthText rest : List Char}
    (years : yearText.length = 4)
    (isMonth : Digits 2 month monthText)
    (long : 2 ≤ rest.length) :
    findIsoformatDatetimeSeparator (yearText ++ ['-'] ++ monthText ++ rest) = some 10 := by
  have notWeek := isMonth.ne 'W' (by decide)
  obtain ⟨y0, y1, y2, y3, rfl⟩ := List.length_eq_four.mp years
  obtain ⟨m0, m1, rfl⟩ := List.length_eq_two.mp isMonth.length
  have monthMark : m0 ≠ 'W' := notWeek m0 (by simp)
  simp only [findIsoformatDatetimeSeparator, List.cons_append, List.nil_append,
    List.length_cons]
  rw [if_neg (by omega), if_neg (by omega)]
  simp [monthMark]

/-- A date and time in coordinated universal time whose fields are in range. -/
structure InRange (datetime : Datetime) : Prop where
  date : Calendar.isValidDate datetime.year datetime.month datetime.day = true
  hour : datetime.hour < 24
  minute : datetime.minute < 60
  second : datetime.second < 60
  microsecond : datetime.microsecond < 1000000
  offset : datetime.offset = some 0

theorem daysInMonth_le (year month : Nat) : Calendar.daysInMonth year month ≤ 31 := by
  unfold Calendar.daysInMonth
  split
  · decide
  · rw [List.getD_eq_getElem?_getD]
    cases found : Calendar.commonDaysInMonth[month]? with
    | none => exact Nat.zero_le 31
    | some days =>
        have listed := List.mem_of_getElem? found
        have bounded : ∀ days ∈ Calendar.commonDaysInMonth, days ≤ 31 := by decide
        exact bounded days listed

/-- A date and time whose fields are in range, with no zone or an offset of less than a
day. -/
structure WellFormed (datetime : Datetime) : Prop where
  date : Calendar.isValidDate datetime.year datetime.month datetime.day = true
  hour : datetime.hour < 24
  minute : datetime.minute < 60
  second : datetime.second < 60
  microsecond : datetime.microsecond < 1000000
  offset : ∀ value ∈ datetime.offset, value.natAbs < 86400000000

theorem InRange.wellFormed
    {datetime : Datetime}
    (inRange : datetime.InRange) :
    datetime.WellFormed where
  date := inRange.date
  hour := inRange.hour
  minute := inRange.minute
  second := inRange.second
  microsecond := inRange.microsecond
  offset := by
    rw [inRange.offset]
    rintro value ⟨⟩
    decide

theorem fromisoformat_isoformat
    {datetime : Datetime}
    (wellFormed : datetime.WellFormed) :
    fromisoformat datetime.isoformat = some datetime := by
  obtain ⟨year, month, day, hour, minute, second, microsecond, offset⟩ := datetime
  obtain ⟨date, hours, minutes, seconds, microseconds, within⟩ := wellFormed
  dsimp only at date hours minutes seconds microseconds within
  have valid := date
  simp only [Calendar.isValidDate, Bool.and_eq_true, decide_eq_true_eq] at date
  have days := daysInMonth_le year month
  have isYear : Digits 4 year (padded 4 year) := digits_padded (by decide) (by omega)
  have isMonth : Digits 2 month (padded 2 month) := digits_padded (by decide) (by omega)
  have isDay : Digits 2 day (padded 2 day) := digits_padded (by decide) (by omega)
  have isHour : Digits 2 hour (padded 2 hour) := digits_padded (by decide) (by omega)
  have isMinute : Digits 2 minute (padded 2 minute) := digits_padded (by decide) (by omega)
  have isSecond : Digits 2 second (padded 2 second) := digits_padded (by decide) (by omega)
  have isFraction := fractionOf_microseconds microseconds
  have readZone := fun text time parsed unmarked =>
    @parseIsoformatTime_zone text time parsed unmarked offset within
  simp only [isoformat, formatTime, List.cons_append, List.nil_append]
  -- From here on only the shape of the numbers matters.
  generalize padded 4 year = yearText at isYear
  generalize padded 2 month = monthText at isMonth
  generalize padded 2 day = dayText at isDay
  generalize padded 2 hour = hourText at isHour
  generalize padded 2 minute = minuteText at isMinute
  generalize padded 2 second = secondText at isSecond
  generalize (if microsecond = 0 then [] else '.' :: padded 6 microsecond) = fractionText
    at isFraction
  generalize (offset.map formatOffset).getD [] = zoneText at readZone
  have readDate := parseIsoformatDate_digits isYear isMonth isDay
  have readTime := parseTime_digits isHour isMinute isSecond isFraction
  generalize timeForm :
    hourText ++ (':' :: (minuteText ++ (':' :: (secondText ++ fractionText)))) = timeText
    at readTime
  have unmarked : ∀ mark ∈ ['-', '+', 'Z'], ∀ character ∈ timeText, character ≠ mark := by
    intro mark isMark character present
    have plain : mark.isDigit = false ∧ mark ≠ '.' ∧ mark ≠ ':' := by
      simp only [List.mem_cons, List.not_mem_nil, or_false] at isMark
      rcases isMark with rfl | rfl | rfl <;> decide
    obtain ⟨notDigit, notPoint, notColon⟩ := plain
    rw [← timeForm] at present
    simp only [List.mem_append, List.mem_cons] at present
    rcases present with inHour | rfl | inMinute | rfl | inSecond | inFraction
    · exact isHour.ne mark notDigit character inHour
    · exact notColon.symm
    · exact isMinute.ne mark notDigit character inMinute
    · exact notColon.symm
    · exact isSecond.ne mark notDigit character inSecond
    · exact isFraction.ne mark notDigit notPoint character inFraction
  have readTimeZone := readZone timeText _ readTime unmarked
  generalize dateForm :
    yearText ++ ['-'] ++ monthText ++ ['-'] ++ dayText = dateText at readDate
  have dateLength : dateText.length = 10 := by
    simp [← dateForm, isYear.length, isMonth.length, isDay.length]
  have separator : findIsoformatDatetimeSeparator (dateText ++ 'T' :: (timeText ++ zoneText)) =
      some 10 := by
    have long : 2 ≤ (['-'] ++ dayText ++ 'T' :: (timeText ++ zoneText)).length := by
      simp
      omega
    have found := findIsoformatDatetimeSeparator_digits isYear.length isMonth long
    rw [← dateForm]
    simpa using found
  have shape : dateText ++ ['T'] ++
      (hourText ++ [':'] ++ minuteText ++ [':'] ++ secondText ++ fractionText) ++ zoneText =
        dateText ++ 'T' :: (timeText ++ zoneText) := by
    rw [← timeForm]
    simp
  rw [shape]
  generalize timeText ++ zoneText = zoned at readTimeZone separator
  have taken : (dateText ++ 'T' :: zoned).take 10 = dateText := by
    rw [← dateLength, List.take_left]
  have dropped : (dateText ++ 'T' :: zoned).drop 11 = zoned := by
    rw [show 11 = dateText.length + 1 by rw [dateLength], List.drop_append]
    simp
  simp [fromisoformat, separator, taken, dropped, readDate, readTimeZone, valid, hours, minutes,
    seconds]
  omega

theorem inRange_ofInstant
    {instant : Int}
    (representable : Representable instant) :
    (ofInstant instant).InRange := by
  have late : 1 ≤ (instant / microsecondsPerDay + epochOrdinal).toNat := by
    have := representable.1
    omega
  have early : (instant / microsecondsPerDay + epochOrdinal).toNat ≤ Calendar.maxOrdinal := by
    have := representable.2
    omega
  have time : 0 ≤ instant % microsecondsPerDay ∧ instant % microsecondsPerDay < 86400000000 :=
    ⟨Int.emod_nonneg _ (by decide), Int.emod_lt_of_pos _ (by decide)⟩
  refine ⟨(Calendar.isDateOf_ord2ymd late).isValidDate early, ?_, ?_, ?_, ?_, rfl⟩
  · simp only [ofInstant, ofWallClock]
    omega
  · simp only [ofInstant, ofWallClock]
    omega
  · simp only [ofInstant, ofWallClock]
    omega
  · simp only [ofInstant, ofWallClock]
    omega

/-- The date and time of an instant is read back from its text. -/
theorem fromisoformat_ofInstant
    {instant : Int}
    (representable : Representable instant) :
    fromisoformat (ofInstant instant).isoformat = some (ofInstant instant) :=
  fromisoformat_isoformat (inRange_ofInstant representable).wellFormed

theorem asUtc_ofInstant
    {instant : Int}
    (representable : Representable instant) :
    (ofInstant instant).asUtc = ofInstant instant := by
  change ofInstant ((ofWallClock instant (some 0)).wallClock - 0) = ofInstant instant
  rw [wallClock_ofWallClock representable, Int.sub_zero]

end Datetime
end Foundation
