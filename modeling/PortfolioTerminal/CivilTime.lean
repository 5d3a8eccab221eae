/-
# Civil time

A date and a time of day in the Gregorian calendar, and the text that `date` prints for them.
-/

namespace PortfolioTerminal

/-- A date and a time of day; months and days are counted from one. -/
structure CivilTime where
  year : Int
  month : Nat
  day : Nat
  hour : Nat
  minute : Nat
  second : Nat
  deriving DecidableEq, Repr

namespace CivilTime

/-! ## The day of the week -/

/-- How far March is from the month, counted in a year that begins with March. -/
def monthFromMarch (month : Nat) : Nat := (month + 9) % 12

/-- The year, beginning with March, that the date lies in. -/
def marchYear (t : CivilTime) : Int := if t.month ≤ 2 then t.year - 1 else t.year

/-- The number of the day in the count of all days, up to a constant. -/
def dayNumber (t : CivilTime) : Int :=
  let y := t.marchYear
  365 * y + y / 4 - y / 100 + y / 400 + ((153 * monthFromMarch t.month + 2) / 5 : Nat) + t.day

/-- The day of the week, counted from Sunday. -/
def weekday (t : CivilTime) : Nat := ((t.dayNumber + 2) % 7).toNat

/-! ## Text -/

/-- The short names of the days, Sunday first. -/
def dayNames : List String := ["Sun", "Mon", "Tue", "Wed", "Thu", "Fri", "Sat"]

/-- The short names of the months. -/
def monthNames : List String :=
  ["Jan", "Feb", "Mar", "Apr", "May", "Jun", "Jul", "Aug", "Sep", "Oct", "Nov", "Dec"]

/-- A number, filled up from the left to the given width. -/
def padded (fill : Char) (width n : Nat) : String :=
  let digits := toString n
  String.ofList (List.replicate (width - digits.length) fill) ++ digits

/-- A year: four digits from 0 to 9999, and a sign before at least four digits otherwise. -/
def yearText (year : Int) : String :=
  if year < 0 then "-" ++ padded '0' 4 year.natAbs
  else if year ≤ 9999 then padded '0' 4 year.natAbs
  else "+" ++ padded '0' 4 year.natAbs

/-- The text that `date` prints, such as `Sat Mar  9 14:05:00 2024`. -/
def text (t : CivilTime) : String :=
  dayNames.getD t.weekday "" ++ " " ++ monthNames.getD (t.month - 1) "" ++ " " ++
    padded ' ' 2 t.day ++ " " ++ padded '0' 2 t.hour ++ ":" ++ padded '0' 2 t.minute ++ ":" ++
    padded '0' 2 t.second ++ " " ++ yearText t.year

end CivilTime

end PortfolioTerminal
