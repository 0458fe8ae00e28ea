import Mathlib.Data.String.Basic
import Mathlib.Order.Monotone.Basic
import Vinctor.Foundation.DatetimeRoundTrip

/-!
# Texts of instants are in the order of the instants

Numbers that are padded to one width are compared as texts as they are as numbers, and the
fields of a date and time stand in its text from the greatest to the least.  A fraction of a
second, which may be left out, is introduced by a point, and a point comes after the sign of
the zone.  So the texts of instants in coordinated universal time sort as the instants do.
-/

namespace Foundation

/-! ## Dates in order -/

namespace Calendar

theorem daysBeforeYear_succ {year : Nat} (positive : 1 ≤ year) :
    daysBeforeYear (year + 1) = daysBeforeYear year + 365 + (isLeap year).toNat := by
  obtain ⟨past, rfl⟩ := Nat.exists_eq_add_of_le' positive
  have small : past / 100 ≤ past := Nat.div_le_self past 100
  unfold daysBeforeYear isLeap
  dsimp only
  rw [Nat.add_sub_cancel, Nat.add_sub_cancel, Nat.succ_div, Nat.succ_div, Nat.succ_div]
  simp only [Nat.dvd_iff_mod_eq_zero, bne, Bool.beq_eq_decide_eq]
  -- A year of a cycle of 400 years is one of 100, and that is one of 4.
  have hundred : (past + 1) % 400 = 0 → (past + 1) % 100 = 0 := by omega
  have four : (past + 1) % 100 = 0 → (past + 1) % 4 = 0 := by omega
  generalize (past + 1) % 4 = rest4 at four
  generalize (past + 1) % 100 = rest100 at four hundred
  generalize (past + 1) % 400 = rest400 at hundred
  by_cases is4 : rest4 = 0 <;> by_cases is100 : rest100 = 0 <;> by_cases is400 : rest400 = 0
  all_goals
    simp [is4, is100, is400] at hundred four ⊢
    try omega

theorem daysBeforeYear_mono
    {year later : Nat}
    (positive : 1 ≤ year)
    (ordered : year ≤ later) :
    daysBeforeYear year ≤ daysBeforeYear later := by
  induction later, ordered using Nat.le_induction with
  | base => exact le_refl _
  | succ later below rest =>
      rw [daysBeforeYear_succ (positive.trans below)]
      omega

/-- The days of a month come before those of a later month, and all of them in the year. -/
theorem daysBefore_daysIn :
    ∀ leap : Bool, ∀ month ≤ 12, 1 ≤ month →
      daysBefore leap month + daysIn leap month ≤ 365 + leap.toNat ∧
        ∀ later ≤ 12, month < later → daysBefore leap month + daysIn leap month ≤
          daysBefore leap later := by
  decide

/-- Dates are ordered as their ordinals are. -/
theorem IsDateOf.lex
    {ordinal later : Nat}
    {date date' : Nat × Nat × Nat}
    (isDate : IsDateOf ordinal date)
    (isDate' : IsDateOf later date')
    (ordered : ordinal < later) :
    date.1 < date'.1 ∨ date.1 = date'.1 ∧
      (date.2.1 < date'.2.1 ∨ date.2.1 = date'.2.1 ∧ date.2.2 < date'.2.2) := by
  obtain ⟨placed, year, month, day⟩ := isDate
  obtain ⟨placed', year', month', day'⟩ := isDate'
  obtain ⟨y, m, d⟩ := date
  obtain ⟨y', m', d'⟩ := date'
  dsimp only at *
  unfold ymd2ord at placed placed'
  have before' : daysBeforeMonth y' m' = daysBefore (isLeap y') m' := rfl
  have inMonth' : daysInMonth y' m' = daysIn (isLeap y') m' := rfl
  obtain ⟨inYear', sorted'⟩ := daysBefore_daysIn (isLeap y') m' month'.2 month'.1
  rcases Nat.lt_trichotomy y y' with earlier | same | later
  · exact Or.inl earlier
  · refine Or.inr ⟨same, ?_⟩
    subst same
    rcases Nat.lt_trichotomy m m' with earlier | sameMonth | laterMonth
    · exact Or.inl earlier
    · refine Or.inr ⟨sameMonth, ?_⟩
      subst sameMonth
      omega
    · have apart := sorted' m month.2 laterMonth
      have before : daysBeforeMonth y m = daysBefore (isLeap y) m := rfl
      omega
  · have next := daysBeforeYear_succ year'
    have sorted := daysBeforeYear_mono (Nat.le_add_left 1 y') later
    omega

end Calendar

/-! ## Texts in order -/

theorem append_lt_append
    {first second : List Char}
    (sameLength : first.length = second.length)
    (less : first < second)
    (behind behind' : List Char) :
    first ++ behind < second ++ behind' := by
  induction first generalizing second with
  | nil =>
      cases second with
      | nil => exact absurd less (lt_irrefl _)
      | cons head second => cases sameLength
  | cons head first rest =>
      cases second with
      | nil => cases sameLength
      | cons head' second =>
          rw [List.cons_append, List.cons_append, List.cons_lt_cons_iff]
          rcases List.cons_lt_cons_iff.mp less with earlier | ⟨same, later⟩
          · exact Or.inl earlier
          · exact Or.inr ⟨same, rest (Nat.succ.inj sameLength) later⟩

namespace Datetime

theorem ofDigitChars_cons_eq (digit : Char) (digits : List Char) :
    Nat.ofDigitChars 10 (digit :: digits) 0 =
      10 ^ digits.length * (digit.toNat - 48) + Nat.ofDigitChars 10 digits 0 := by
  rw [Nat.ofDigitChars_cons, Nat.ofDigitChars_eq_ofDigitChars_zero, Nat.mul_zero, Nat.zero_add]
  rfl

/-- The code of a digit. -/
theorem toNat_of_isDigit {digit : Char} (isDigit : digit.isDigit = true) :
    48 ≤ digit.toNat ∧ digit.toNat ≤ 57 := by
  simp only [Char.isDigit, Bool.and_eq_true, decide_eq_true_eq] at isDigit
  exact ⟨UInt32.le_iff_toNat_le.mp isDigit.1, UInt32.le_iff_toNat_le.mp isDigit.2⟩

theorem ofDigitChars_lt
    {digits : List Char}
    (areDigits : ∀ digit ∈ digits, digit.isDigit = true) :
    Nat.ofDigitChars 10 digits 0 < 10 ^ digits.length := by
  induction digits with
  | nil => exact Nat.one_pos
  | cons digit digits rest =>
      rw [List.forall_mem_cons] at areDigits
      have code := toNat_of_isDigit areDigits.1
      have small := rest areDigits.2
      have leading := Nat.mul_le_mul_left (10 ^ digits.length) (show digit.toNat - 48 ≤ 9 by omega)
      rw [ofDigitChars_cons_eq, List.length_cons, pow_succ]
      omega

/-- Digits of one count are ordered as their numbers are. -/
theorem lt_of_ofDigitChars_lt
    {digits digits' : List Char}
    (sameLength : digits.length = digits'.length)
    (areDigits : ∀ digit ∈ digits, digit.isDigit = true)
    (areDigits' : ∀ digit ∈ digits', digit.isDigit = true)
    (less : Nat.ofDigitChars 10 digits 0 < Nat.ofDigitChars 10 digits' 0) :
    digits < digits' := by
  induction digits generalizing digits' with
  | nil =>
      obtain rfl := List.length_eq_zero_iff.mp sameLength.symm
      exact absurd less (Nat.lt_irrefl _)
  | cons digit digits rest =>
      cases digits' with
      | nil => cases sameLength
      | cons digit' digits' =>
          rw [List.forall_mem_cons] at areDigits areDigits'
          have sameRest : digits.length = digits'.length := Nat.succ.inj sameLength
          have code := toNat_of_isDigit areDigits.1
          have code' := toNat_of_isDigit areDigits'.1
          have small' := ofDigitChars_lt areDigits'.2
          rw [ofDigitChars_cons_eq, ofDigitChars_cons_eq, sameRest] at less
          rw [List.cons_lt_cons_iff]
          rcases Nat.lt_trichotomy digit.toNat digit'.toNat with earlier | same | later
          · exact Or.inl earlier
          · refine Or.inr ⟨Char.toNat_inj.mp same, rest sameRest areDigits.2 areDigits'.2 ?_⟩
            rw [same] at less
            exact Nat.lt_of_add_lt_add_left less
          · -- A greater digit cannot be made up for by the digits behind it.
            have leading := Nat.mul_le_mul_left (10 ^ digits'.length)
              (show digit'.toNat - 48 + 1 ≤ digit.toNat - 48 by omega)
            rw [Nat.mul_add, Nat.mul_one] at leading
            omega

/-- Padded numbers with what stands behind them. -/
theorem padded_lt_padded
    {width value value' : Nat}
    {behind behind' : List Char}
    (positive : 0 < width)
    (bound : value < 10 ^ width)
    (bound' : value' < 10 ^ width)
    (ordered : value < value' ∨ value = value' ∧ behind < behind') :
    padded width value ++ behind < padded width value' ++ behind' := by
  have isNumber := digits_padded positive bound
  have isNumber' := digits_padded positive bound'
  rcases ordered with less | ⟨rfl, later⟩
  · apply append_lt_append (isNumber.length.trans isNumber'.length.symm)
    apply lt_of_ofDigitChars_lt (isNumber.length.trans isNumber'.length.symm) isNumber.digits
      isNumber'.digits
    rw [isNumber.value, isNumber'.value]
    exact less
  · exact List.append_left_lt later

theorem cons_lt_cons {mark : Char} {behind behind' : List Char} (less : behind < behind') :
    mark :: behind < mark :: behind' :=
  List.cons_lt_cons_iff.mpr (Or.inr ⟨rfl, less⟩)

/-! ## Dates and times in order -/

/-- The fields of a date and time come before those of another. -/
def Precedes (first second : Datetime) : Prop :=
  first.year < second.year ∨ first.year = second.year ∧
  (first.month < second.month ∨ first.month = second.month ∧
  (first.day < second.day ∨ first.day = second.day ∧
  (first.hour < second.hour ∨ first.hour = second.hour ∧
  (first.minute < second.minute ∨ first.minute = second.minute ∧
  (first.second < second.second ∨ first.second = second.second ∧
    first.microsecond < second.microsecond)))))

/-- A fraction that is left out comes first, since the sign of the zone comes before a
point. -/
theorem fraction_lt_fraction
    {microsecond microsecond' : Nat}
    (bound : microsecond < 1000000)
    (bound' : microsecond' < 1000000)
    (less : microsecond < microsecond')
    (behind : List Char) :
    (if microsecond = 0 then [] else ['.'] ++ padded 6 microsecond) ++ '+' :: behind <
      (if microsecond' = 0 then [] else ['.'] ++ padded 6 microsecond') ++ '+' :: behind := by
  rw [if_neg (show ¬ microsecond' = 0 by omega)]
  split
  · exact List.cons_lt_cons_iff.mpr (Or.inl (by decide))
  · exact cons_lt_cons (padded_lt_padded (by decide) bound bound' (Or.inl less))

theorem InRange.isoformat_eq
    {datetime : Datetime}
    (inRange : datetime.InRange) :
    datetime.isoformat =
      padded 4 datetime.year ++ '-' :: (padded 2 datetime.month ++ '-' :: (padded 2 datetime.day ++
        'T' :: (padded 2 datetime.hour ++ ':' :: (padded 2 datetime.minute ++
          ':' :: (padded 2 datetime.second ++
            ((if datetime.microsecond = 0 then [] else ['.'] ++ padded 6 datetime.microsecond) ++
              '+' :: ['0', '0', ':', '0', '0'])))))) := by
  have zone : (datetime.offset.map formatOffset).getD [] = ['+', '0', '0', ':', '0', '0'] := by
    rw [inRange.offset]
    decide
  rw [isoformat, zone, formatTime]
  simp only [List.append_assoc, List.cons_append, List.nil_append]

/-- The texts of dates and times in coordinated universal time are in their order. -/
theorem InRange.isoformat_lt
    {first second : Datetime}
    (isFirst : first.InRange)
    (isSecond : second.InRange)
    (precedes : first.Precedes second) :
    first.isoformat < second.isoformat := by
  have date := isFirst.date
  have date' := isSecond.date
  simp only [Calendar.isValidDate, Bool.and_eq_true, decide_eq_true_eq] at date date'
  have days := daysInMonth_le first.year first.month
  have days' := daysInMonth_le second.year second.month
  have hour := isFirst.hour
  have hour' := isSecond.hour
  have minute := isFirst.minute
  have minute' := isSecond.minute
  have seconds := isFirst.second
  have seconds' := isSecond.second
  rw [isFirst.isoformat_eq, isSecond.isoformat_eq]
  apply padded_lt_padded (by decide) (by omega) (by omega)
  refine precedes.imp_right (And.imp_right fun precedes => cons_lt_cons ?_)
  apply padded_lt_padded (by decide) (by omega) (by omega)
  refine precedes.imp_right (And.imp_right fun precedes => cons_lt_cons ?_)
  apply padded_lt_padded (by decide) (by omega) (by omega)
  refine precedes.imp_right (And.imp_right fun precedes => cons_lt_cons ?_)
  apply padded_lt_padded (by decide) (by omega) (by omega)
  refine precedes.imp_right (And.imp_right fun precedes => cons_lt_cons ?_)
  apply padded_lt_padded (by decide) (by omega) (by omega)
  refine precedes.imp_right (And.imp_right fun precedes => cons_lt_cons ?_)
  apply padded_lt_padded (by decide) (by omega) (by omega)
  refine precedes.imp_right (And.imp_right fun less => ?_)
  exact fraction_lt_fraction isFirst.microsecond isSecond.microsecond less _

/-! ## Instants in order -/

theorem precedes_ofInstant
    {first second : Int}
    (isFirst : Representable first)
    (isSecond : Representable second)
    (less : first < second) :
    (ofInstant first).Precedes (ofInstant second) := by
  have early : 1 ≤ (first / microsecondsPerDay + epochOrdinal).toNat := by
    have := isFirst.1
    omega
  have early' : 1 ≤ (second / microsecondsPerDay + epochOrdinal).toNat := by
    have := isSecond.1
    omega
  have days : first / microsecondsPerDay ≤ second / microsecondsPerDay :=
    Int.ediv_le_ediv (by decide) (le_of_lt less)
  rcases days.lt_or_eq with earlier | same
  · have lex := (Calendar.isDateOf_ord2ymd early).lex (Calendar.isDateOf_ord2ymd early')
      (by have := isFirst.1; omega)
    unfold Precedes ofInstant ofWallClock
    dsimp only
    tauto
  · have split := Int.mul_ediv_add_emod first microsecondsPerDay
    have split' := Int.mul_ediv_add_emod second microsecondsPerDay
    have positive : 0 ≤ first % microsecondsPerDay := Int.emod_nonneg _ (by decide)
    have times : (first % microsecondsPerDay).toNat < (second % microsecondsPerDay).toNat := by
      rw [same] at split
      omega
    unfold Precedes ofInstant ofWallClock
    dsimp only
    rw [same]
    generalize (first % microsecondsPerDay).toNat = time at times
    generalize (second % microsecondsPerDay).toNat = time' at times
    omega

/-- Instants sort as their texts do. -/
theorem isoformat_ofInstant_lt_iff
    {first second : Int}
    (isFirst : Representable first)
    (isSecond : Representable second) :
    (ofInstant first).isoformat < (ofInstant second).isoformat ↔ first < second := by
  have increases : ∀ {first second : Int}, Representable first → Representable second →
      first < second → (ofInstant first).isoformat < (ofInstant second).isoformat := by
    intro first second isFirst isSecond less
    exact (inRange_ofInstant isFirst).isoformat_lt (inRange_ofInstant isSecond)
      (precedes_ofInstant isFirst isSecond less)
  constructor
  · intro ordered
    rcases Int.lt_trichotomy first second with less | same | greater
    · exact less
    · rw [same] at ordered
      exact absurd ordered (lt_irrefl _)
    · exact absurd (ordered.trans (increases isSecond isFirst greater)) (lt_irrefl _)
  · exact increases isFirst isSecond

end Datetime
end Foundation
