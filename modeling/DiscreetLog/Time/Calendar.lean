/-!
# The calendar

Days are counted from the first day of year 1 of the Gregorian calendar, taken back unchanged
to that day. A date and its day number determine each other; the day of 1 January 1970, where
clocks start to count, is `epochDay`.
-/

namespace DiscreetLog

/-- **A date of the calendar.** -/
structure Date where
  year : Nat
  month : Nat
  day : Nat
  deriving DecidableEq

namespace Date

/-- A year with a 29 February. -/
def isLeap (year : Nat) : Bool := year % 4 = 0 && (year % 100 ≠ 0 || year % 400 = 0)

/-- The days of each month of a year. -/
def monthLengths (year : Nat) : List Nat :=
  [31, if isLeap year then 29 else 28, 31, 30, 31, 30, 31, 31, 30, 31, 30, 31]

/-- The days before the first of January of a year, counted from year 1. -/
def daysBeforeYear (year : Nat) : Nat :=
  let y := year - 1
  365 * y + y / 4 - y / 100 + y / 400

/-- **The day number of a date**: zero for the first day of year 1. -/
def dayNumber (d : Date) : Nat :=
  ((monthLengths d.year).take (d.month - 1)).foldl (· + ·) (daysBeforeYear d.year) + (d.day - 1)

/-- The day number of 1 January 1970. -/
def epochDay : Nat := 719162

/-- The month and day of the given day of a year, the months' lengths being listed. -/
def monthAndDay : List Nat → Nat → Nat → Nat × Nat
  | [], month, day => (month, day + 1)
  | length :: lengths, month, day =>
    if day < length then (month, day + 1) else monthAndDay lengths (month + 1) (day - length)

/-- The year that holds a day: of the two years that the mean length of a year leaves open, the
later one that has begun by then. -/
def yearOf (n : Nat) : Nat :=
  let guess := n * 400 / 146097 + 1
  if n < daysBeforeYear guess then guess - 1
  else if daysBeforeYear (guess + 1) ≤ n then guess + 1
  else guess

/-- **The date of a day number.** -/
def ofDayNumber (n : Nat) : Date :=
  let year := yearOf n
  let (month, day) := monthAndDay (monthLengths year) 1 (n - daysBeforeYear year)
  ⟨year, month, day⟩

/-- A number in decimal digits, with zeros in front up to the given width. -/
def padded (width n : Nat) : String :=
  let digits := Nat.toDigits 10 n
  String.ofList (List.replicate (width - digits.length) '0' ++ digits)

/-- **The text of a date**: year, month and day between hyphens. -/
def text (d : Date) : String := padded 4 d.year ++ "-" ++ padded 2 d.month ++ "-" ++ padded 2 d.day

end Date

end DiscreetLog
