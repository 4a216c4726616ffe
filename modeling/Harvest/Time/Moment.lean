import Harvest.Text.Numeral

/-!
# Moments

A moment is a number of milliseconds since the start of 1970. Its text follows the proleptic
Gregorian calendar; years outside 0 to 9999 carry a sign.
-/

namespace Harvest

/-- Milliseconds since the start of 1970. -/
abbrev Moment := Int

/-- A day of the calendar. -/
structure CalendarDate where
  year : Int
  month : Nat
  day : Nat
deriving DecidableEq, Repr

namespace Moment

/-- Milliseconds of a day. -/
def dayLength : Int := 86400000

/-- The last moment that a date can be given for, at the end of the year 262142. -/
def latest : Moment := 8210266876799999

/-- The date of a day counted from the start of 1970. Years are counted from March, so that the leap
day is the last of its year; 400 such years are 146097 days. -/
def dateOfDay (day : Int) : CalendarDate :=
  let shifted := day + 719468
  let era := shifted.fdiv 146097
  let dayOfEra := (shifted.fmod 146097).toNat
  let yearOfEra := (dayOfEra - dayOfEra / 1460 + dayOfEra / 36524 - dayOfEra / 146096) / 365
  let dayOfYear := dayOfEra - (365 * yearOfEra + yearOfEra / 4 - yearOfEra / 100)
  let monthFromMarch := (5 * dayOfYear + 2) / 153
  let day := dayOfYear - (153 * monthFromMarch + 2) / 5 + 1
  let month := if monthFromMarch < 10 then monthFromMarch + 3 else monthFromMarch - 9
  let year := Int.ofNat yearOfEra + era * 400 + (if month ≤ 2 then 1 else 0)
  ⟨year, month, day⟩

/-- The day of a date, counted from the start of 1970. -/
def dayOfDate (d : CalendarDate) : Int :=
  let year := if d.month ≤ 2 then d.year - 1 else d.year
  let era := year.fdiv 400
  let yearOfEra := (year.fmod 400).toNat
  let monthFromMarch := if 2 < d.month then d.month - 3 else d.month + 9
  let dayOfYear := (153 * monthFromMarch + 2) / 5 + d.day - 1
  let dayOfEra := yearOfEra * 365 + yearOfEra / 4 - yearOfEra / 100 + dayOfYear
  era * 146097 + Int.ofNat dayOfEra - 719468

/-- Four digits of a year, with a sign outside 0 to 9999. -/
def yearText (y : Int) : List Char :=
  if 0 ≤ y ∧ y ≤ 9999 then Text.padded 10 4 y.toNat
  else if y < 0 then '-' :: Text.padded 10 4 (-y).toNat
  else '+' :: Text.padded 10 4 y.toNat

/-- The date part. -/
def dateText (m : Moment) : List Char :=
  let d := dateOfDay (m.fdiv dayLength)
  yearText d.year ++ '-' :: Text.padded 10 2 d.month ++ '-' :: Text.padded 10 2 d.day

/-- The time of day in whole seconds. -/
def clockText (m : Moment) : List Char :=
  let t := (m.fmod dayLength).toNat
  Text.padded 10 2 (t / 3600000) ++ ':' :: Text.padded 10 2 (t / 60000 % 60) ++
    ':' :: Text.padded 10 2 (t / 1000 % 60)

/-- The time of day, with milliseconds unless there are none. -/
def timeText (m : Moment) : List Char :=
  let t := (m.fmod dayLength).toNat
  let fraction := if t % 1000 = 0 then [] else '.' :: Text.padded 10 3 (t % 1000)
  clockText m ++ fraction

/-- Date and time with the zone spelled out. -/
def display (m : Moment) : String :=
  String.ofList (dateText m ++ ' ' :: timeText m ++ " UTC".toList)

/-- Date and time to the second, for readers who know the zone. -/
def toSeconds (m : Moment) : String := String.ofList (dateText m ++ ' ' :: clockText m)

/-- Date and time in the form used in records. -/
def iso (m : Moment) : String := String.ofList (dateText m ++ 'T' :: timeText m ++ ['Z'])

end Moment

end Harvest
