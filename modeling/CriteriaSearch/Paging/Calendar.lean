import CriteriaSearch.Json.Number

/-!
# Calendar days and instants

Days of the proleptic Gregorian calendar are written with at least four digits for the year; years
of more digits and negative years carry a sign.  Instants are counted in milliseconds from the
start of 1970 and lie within the calendar.
-/

namespace CriteriaSearch

/-- Whether a year has a 29th of February. -/
def isLeapYear (year : Int) : Bool :=
  year % 4 = 0 && (year % 100 ≠ 0 || year % 400 = 0)

/-- How many days a month has; there is no month without a number from 1 to 12. -/
def daysInMonth (year : Int) (month : Nat) : Nat :=
  match month with
  | 1 | 3 | 5 | 7 | 8 | 10 | 12 => 31
  | 4 | 6 | 9 | 11 => 30
  | 2 => if isLeapYear year then 29 else 28
  | _ => 0

/-- A day of the calendar. -/
structure Day where
  year : Int
  month : Nat
  day : Nat
  year_least : -262143 ≤ year
  year_bound : year ≤ 262142
  day_pos : 0 < day
  day_le : day ≤ daysInMonth year month
  deriving DecidableEq

namespace Day

/-- The day with these numbers, if there is one. -/
def of? (year : Int) (month day : Int) : Option Day :=
  let m := month.toNat
  let d := day.toNat
  if valid : (-262143 ≤ year ∧ year ≤ 262142) ∧ 0 < d ∧ d ≤ daysInMonth year m then
    some ⟨year, m, d, valid.1.1, valid.1.2, valid.2.1, valid.2.2⟩
  else none

/-- The decimal text of a number, filled up with zeros to a width. -/
def padded (width n : Nat) : List Char :=
  let digits := Nat.toDigits 10 n
  List.replicate (width - digits.length) '0' ++ digits

/-- The text of a year. -/
def yearText (year : Int) : List Char :=
  let sign := if year < 0 then ['-'] else if 9999 < year then ['+'] else []
  sign ++ padded 4 year.natAbs

/-- The text of a day: year, month and day with hyphens between them. -/
def text (day : Day) : String :=
  String.ofList (yearText day.year ++ '-' :: (padded 2 day.month ++ '-' :: padded 2 day.day))

end Day

/-- An instant within the calendar, in milliseconds from the start of 1970. -/
structure Instant where
  millis : Int
  least : -8334601228800000 ≤ millis
  greatest : millis ≤ 8210266876799999
  deriving DecidableEq

namespace Instant

/-- The instant at a number of milliseconds, if it lies within the calendar. -/
def ofMillis? (millis : Int) : Option Instant :=
  if within : -8334601228800000 ≤ millis ∧ millis ≤ 8210266876799999 then
    some ⟨millis, within.1, within.2⟩
  else none

/-- The text of an instant: its number of milliseconds. -/
def text (instant : Instant) : String :=
  String.ofList (Number.intText instant.millis)

end Instant

end CriteriaSearch
