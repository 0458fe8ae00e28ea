import Mathlib.Data.Int.Basic

/-!
# Calendar dates and ISO 8601 texts

Dates of the proleptic Gregorian calendar from year 1 to year 9999, with the
algorithms, the formatter and the reader of the standard library of the
language the programs are written in.  An instant is a number of microseconds
since 1970 in coordinated universal time.
-/

namespace Foundation

/-! ## Days and dates -/

namespace Calendar

def isLeap (year : Nat) : Bool :=
  year % 4 == 0 && (year % 100 != 0 || year % 400 == 0)

def daysBeforeYear (year : Nat) : Nat :=
  let past := year - 1
  past * 365 + past / 4 - past / 100 + past / 400

def commonDaysInMonth : List Nat :=
  [0, 31, 28, 31, 30, 31, 30, 31, 31, 30, 31, 30, 31]

def commonDaysBeforeMonth : List Nat :=
  [0, 0, 31, 59, 90, 120, 151, 181, 212, 243, 273, 304, 334]

def daysInMonth (year month : Nat) : Nat :=
  if month == 2 && isLeap year then 29 else commonDaysInMonth.getD month 0

def daysBeforeMonth (year month : Nat) : Nat :=
  commonDaysBeforeMonth.getD month 0 + (month > 2 && isLeap year).toNat

/-- Ordinal of a date; the first of January of year 1 is day 1. -/
def ymd2ord (year month day : Nat) : Nat :=
  daysBeforeYear year + daysBeforeMonth year month + day

/-- Date of an ordinal. -/
def ord2ymd (ordinal : Nat) : Nat × Nat × Nat :=
  let start := ordinal - 1
  let n400 := start / 146097
  let n100 := start % 146097 / 36524
  let n4 := start % 146097 % 36524 / 1461
  let n1 := start % 146097 % 36524 % 1461 / 365
  let offset := start % 146097 % 36524 % 1461 % 365
  let year := n400 * 400 + 1 + n100 * 100 + n4 * 4 + n1
  if n1 = 4 ∨ n100 = 4 then (year - 1, 12, 31)
  else
    -- The estimate is exact or one month too large.
    let estimate := (offset + 50) / 32
    let month :=
      if offset < daysBeforeMonth year estimate then estimate - 1 else estimate
    (year, month, offset - daysBeforeMonth year month + 1)

def isValidDate (year month day : Nat) : Bool :=
  1 ≤ year && year ≤ 9999 && 1 ≤ month && month ≤ 12 &&
    1 ≤ day && day ≤ daysInMonth year month

/-- Ordinal of the Monday that starts the first week of a year. -/
def isoweek1monday (year : Nat) : Int :=
  let firstDay := ymd2ord year 1 1
  let firstWeekday := (firstDay + 6) % 7
  firstDay - firstWeekday + (if 3 < firstWeekday then 7 else 0)

/-- Date of a day of a week of a year. -/
def isoweekToGregorian (year week day : Nat) : Option (Nat × Nat × Nat) :=
  let firstWeekday := ymd2ord year 1 1 % 7
  let longYear := firstWeekday == 4 || (firstWeekday == 3 && isLeap year)
  if 1 ≤ year && year ≤ 9999 && 1 ≤ week && (week < 53 || (week == 53 && longYear)) &&
      1 ≤ day && day < 8 then
    let ordinal := isoweek1monday year + (week - 1) * 7 + (day - 1)
    if 1 ≤ ordinal then some (ord2ymd ordinal.toNat) else none
  else none

example : ord2ymd (ymd2ord 2024 2 29) = (2024, 2, 29) := by decide

end Calendar

/-- A date and a time of day, with the offset of its zone from coordinated
universal time in microseconds when it has one. -/
structure Datetime where
  year : Nat
  month : Nat
  day : Nat
  hour : Nat
  minute : Nat
  second : Nat
  microsecond : Nat
  offset : Option Int
  deriving DecidableEq, Repr

namespace Datetime

def microsecondsPerDay : Int := 86400000000

/-- Ordinal of the first of January 1970. -/
def epochOrdinal : Int := 719163

/-- Microseconds since 1970 on the clock of the zone. -/
def wallClock (datetime : Datetime) : Int :=
  (Calendar.ymd2ord datetime.year datetime.month datetime.day - epochOrdinal) *
      microsecondsPerDay +
    (((datetime.hour * 60 + datetime.minute) * 60 + datetime.second) * 1000000 +
      datetime.microsecond : Nat)

/-- Date and time that a clock shows. -/
def ofWallClock (clock : Int) (offset : Option Int) : Datetime :=
  let date := Calendar.ord2ymd (clock / microsecondsPerDay + epochOrdinal).toNat
  let time := (clock % microsecondsPerDay).toNat
  { year := date.1
    month := date.2.1
    day := date.2.2
    hour := time / 3600000000
    minute := time / 60000000 % 60
    second := time / 1000000 % 60
    microsecond := time % 1000000
    offset := offset }

/-- Date and time of an instant in coordinated universal time. -/
def ofInstant (instant : Int) : Datetime := ofWallClock instant (some 0)

/-- The same instant in coordinated universal time.  A date without a zone
stays as it is. -/
def asUtc (datetime : Datetime) : Datetime :=
  match datetime.offset with
  | none => datetime
  | some offset => ofInstant (datetime.wallClock - offset)

/-! ## Formatting -/

/-- Decimal digits of a number, padded with zeros to a width. -/
def padded (width value : Nat) : List Char :=
  let digits := Nat.toDigits 10 value
  List.replicate (width - digits.length) '0' ++ digits

def formatTime (hour minute second microsecond : Nat) : List Char :=
  padded 2 hour ++ [':'] ++ padded 2 minute ++ [':'] ++ padded 2 second ++
    if microsecond = 0 then [] else ['.'] ++ padded 6 microsecond

def formatOffset (offset : Int) : List Char :=
  let magnitude := offset.natAbs
  let seconds := magnitude / 1000000 % 60
  let microseconds := magnitude % 1000000
  [if offset < 0 then '-' else '+'] ++ padded 2 (magnitude / 3600000000) ++ [':'] ++
    padded 2 (magnitude / 60000000 % 60) ++
    (if seconds = 0 ∧ microseconds = 0 then [] else [':'] ++ padded 2 seconds) ++
    (if microseconds = 0 then [] else ['.'] ++ padded 6 microseconds)

def isoformat (datetime : Datetime) : List Char :=
  padded 4 datetime.year ++ ['-'] ++ padded 2 datetime.month ++ ['-'] ++
    padded 2 datetime.day ++ ['T'] ++
    formatTime datetime.hour datetime.minute datetime.second datetime.microsecond ++
    (datetime.offset.map formatOffset).getD []

/-! ## Reading -/

/-- Number written in a given count of decimal digits at a position. -/
def digitsAt (text : List Char) (position count : Nat) : Option Nat :=
  let digits := (text.drop position).take count
  if digits.length = count ∧ 0 < count ∧ digits.all Char.isDigit then
    some (Nat.ofDigitChars 10 digits 0)
  else none

/-- Position of the character between the date and the time. -/
def findIsoformatDatetimeSeparator (text : List Char) : Option Nat :=
  if text.length < 7 then none
  else if text.length = 7 then some 7
  else if text[4]? = some '-' then
    if text[5]? = some 'W' then
      if text[8]? = some '-' then
        if text.length = 9 then none
        else if (text[10]?.map Char.isDigit).getD false then some 8
        else some 10
      else some 8
    else some 10
  else if text[4]? = some 'W' then
    let stop := 7 + ((text.drop 7).takeWhile Char.isDigit).length
    if stop < 9 then some stop else if stop % 2 = 0 then some 7 else some 8
  else some 8

def parseIsoformatDate (text : List Char) : Option (Nat × Nat × Nat) := do
  let year ← digitsAt text 0 4
  let separated := text[4]? = some '-'
  let width := if separated then 1 else 0
  if text[4 + width]? = some 'W' then
    let week ← digitsAt text (5 + width) 2
    if 7 + width < text.length then
      if (text[7 + width]? = some '-') ≠ separated then none
      else
        let day ← digitsAt text (7 + 2 * width) 1
        Calendar.isoweekToGregorian year week day
    else Calendar.isoweekToGregorian year week 1
  else
    let month ← digitsAt text (4 + width) 2
    if (text[6 + width]? = some '-') ≠ separated then none
    else
      let day ← digitsAt text (6 + 2 * width) 2
      some (year, month, day)

/-- Microseconds of the digits after the decimal mark; digits after the sixth
are dropped. -/
def parseFraction (text : List Char) : Option Nat :=
  if text.isEmpty || !text.all Char.isDigit then none
  else
    let kept := text.take 6
    some (Nat.ofDigitChars 10 (kept ++ List.replicate (6 - kept.length) '0') 0)

/-- Components after the first one of a time, each optional with all that
follow it, and the microseconds. -/
def parseTimeTail
    (separated : Bool) :
    Nat → List Char → Option (List Nat × Nat)
  | _, [] => some ([], 0)
  | count, mark :: rest =>
      if mark = '.' ∨ mark = ',' then (parseFraction rest).map fun value => ([], value)
      else if separated ∧ mark ≠ ':' then none
      else
        match count with
        | 0 => none
        | count + 1 =>
            let body := if separated then rest else mark :: rest
            match digitsAt body 0 2 with
            | none => none
            | some component =>
                (parseTimeTail separated count (body.drop 2)).map fun tail =>
                  (component :: tail.1, tail.2)

/-- Hour, minute, second and microsecond. -/
def parseTime (text : List Char) : Option (Nat × Nat × Nat × Nat) := do
  let hour ← digitsAt text 0 2
  let tail ← parseTimeTail (text[2]? = some ':') 2 (text.drop 2)
  some (hour, tail.1.getD 0 0, tail.1.getD 1 0, tail.2)

/-- Offset of a zone in microseconds, strictly less than a day. -/
def parseOffset (negative : Bool) (text : List Char) : Option Int :=
  if text.length ∈ [0, 1, 3] then none
  else
    match parseTime text with
    | none => none
    | some (hour, minute, second, microsecond) =>
        let magnitude : Int :=
          (((hour * 60 + minute) * 60 + second) * 1000000 + microsecond : Nat)
        if magnitude < microsecondsPerDay then
          some (if negative then -magnitude else magnitude)
        else none

/-- Position of the mark that starts the zone: the first minus sign, else the
first plus sign, else the first `Z`. -/
def zonePosition (text : List Char) : Option Nat :=
  (text.findIdx? (· = '-')).or
    ((text.findIdx? (· = '+')).or (text.findIdx? (· = 'Z')))

/-- Time of day and the offset of its zone. -/
def parseIsoformatTime (text : List Char) :
    Option ((Nat × Nat × Nat × Nat) × Option Int) :=
  match zonePosition text with
  | none => (parseTime text).map fun time => (time, none)
  | some position =>
      match parseTime (text.take position) with
      | none => none
      | some time =>
          let zone := text.drop (position + 1)
          if zone = [] ∧ text[position]? = some 'Z' then some (time, some 0)
          else
            (parseOffset (text[position]? = some '-') zone).map fun offset =>
              (time, some offset)

/-- Date and time written in one of the ISO 8601 formats. -/
def fromisoformat (text : List Char) : Option Datetime := do
  let position ← findIsoformatDatetimeSeparator text
  let (year, month, day) ← parseIsoformatDate (text.take position)
  let timeText := text.drop (position + 1)
  let ((hour, minute, second, microsecond), offset) ←
    if text.length ≤ position then some ((0, 0, 0, 0), none)
    else parseIsoformatTime timeText
  if Calendar.isValidDate year month day && hour < 24 && minute < 60 && second < 60 then
    some { year, month, day, hour, minute, second, microsecond, offset }
  else none

example :
    fromisoformat (ofInstant 1700000000123456).isoformat =
      some (ofInstant 1700000000123456) := by
  decide

end Datetime
end Foundation
