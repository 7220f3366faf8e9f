import DiscreetLog.Time.Calendar

/-!
# Moments

A moment is a date and a time of day down to the microsecond, and, where it is known, the
distance of the clock that was read from universal time. It is written in the extended ISO form,
and read in that and in the basic one, which does without marks.
-/

namespace DiscreetLog

/-- **A moment**, as the clock at hand shows it. -/
structure Moment where
  date : Date
  hour : Nat
  minute : Nat
  second : Nat
  micro : Nat
  /-- How far the clock is ahead of universal time, in microseconds, where that is known. -/
  offset : Option Int
  deriving DecidableEq

namespace Moment

/-- The microseconds of a day. -/
def dayLength : Nat := 86400 * 1000000

/-- The microseconds since midnight. -/
def timeOfDay (m : Moment) : Nat := ((m.hour * 60 + m.minute) * 60 + m.second) * 1000000 + m.micro

/-- **The microseconds since the beginning of 1970** on the clock that was read. -/
def clockMicros (m : Moment) : Int :=
  ((m.date.dayNumber : Int) - Date.epochDay) * dayLength + m.timeOfDay

/-- **The microseconds since the beginning of 1970** in universal time. A moment whose offset
is not known counts as universal. -/
def micros (m : Moment) : Int := m.clockMicros - m.offset.getD 0

/-- The moment in universal time that lies the given microseconds after the beginning of year
1. -/
def ofDayMicros (n : Nat) : Moment :=
  let rest := n % dayLength
  { date := Date.ofDayNumber (n / dayLength)
    hour := rest / 3600000000
    minute := rest / 60000000 % 60
    second := rest / 1000000 % 60
    micro := rest % 1000000
    offset := some 0 }

/-- A clock reading of hours, minutes and, where they are not zero, seconds and microseconds. -/
def offsetText (size : Nat) : String :=
  let seconds := size / 1000000
  Date.padded 2 (seconds / 3600) ++ ":" ++ Date.padded 2 (seconds / 60 % 60)
    ++ (if seconds % 60 = 0 && size % 1000000 = 0 then "" else ":" ++ Date.padded 2 (seconds % 60))
    ++ (if size % 1000000 = 0 then "" else "." ++ Date.padded 6 (size % 1000000))

/-- **The text of a moment**: date and time with a `T` between them, microseconds if there are
any, and the offset if it is known. -/
def text (m : Moment) : String :=
  m.date.text ++ "T" ++ Date.padded 2 m.hour ++ ":" ++ Date.padded 2 m.minute ++ ":"
    ++ Date.padded 2 m.second ++ (if m.micro = 0 then "" else "." ++ Date.padded 6 m.micro)
    ++ (match m.offset with
      | none => ""
      | some offset => (if offset < 0 then "-" else "+") ++ offsetText offset.natAbs)

/-! ## Reading -/

/-- The number that exactly `width` decimal digits denote, and what follows them. -/
def number? (width : Nat) (s : List Char) : Option (Nat × List Char) :=
  let digits := s.take width
  if digits.length = width && digits.all Char.isDigit then
    some (digits.foldl (fun n c => 10 * n + (c.toNat - 48)) 0, s.drop width)
  else none

/-- What follows a mark. -/
def after? (mark : Char) : List Char → Option (List Char)
  | c :: s => if c = mark then some s else none
  | [] => none

/-- A number behind a mark. -/
def marked? (mark : Char) (width : Nat) (s : List Char) : Option (Nat × List Char) :=
  after? mark s >>= number? width

/-- A number of two digits, behind a mark if marks are used. -/
def part? (marks : Bool) (mark : Char) (s : List Char) : Option (Nat × List Char) :=
  if marks then marked? mark 2 s else number? 2 s

/-- A date, and what follows it. -/
def date? (s : List Char) : Option (Date × List Char) := do
  let (year, s) ← number? 4 s
  let marks := s.head? = some '-'
  let (month, s) ← part? marks '-' s
  let (day, s) ← part? marks '-' s
  if 1 ≤ year ∧ 1 ≤ month ∧ month ≤ 12 ∧ 1 ≤ day then some (⟨year, month, day⟩, s) else none

/-- The microseconds of a fraction of a second, which may have any number of digits, and what
follows it. Digits behind the sixth do not count. -/
def fraction? (s : List Char) : Option (Nat × List Char) :=
  let digits := s.takeWhile Char.isDigit
  if digits.isEmpty then none
  else
    let micros := (digits ++ List.replicate 6 '0').take 6
    some (micros.foldl (fun n c => 10 * n + (c.toNat - 48)) 0, s.dropWhile Char.isDigit)

/-- A part of a clock reading, or zero where the reading ends before it. -/
def partOrZero? (marks : Bool) (s : List Char) : Option (Nat × List Char) :=
  match s with
  | [] => some (0, [])
  | c :: _ => if c = ':' || c.isDigit then part? marks ':' s else some (0, s)

/-- **A clock reading**: hours, minutes, seconds and microseconds, of which the hours alone have
to be there, and what follows it. -/
def clock? (s : List Char) : Option ((Nat × Nat × Nat × Nat) × List Char) := do
  let (hour, s) ← number? 2 s
  let marks := s.head? = some ':'
  let (minute, s) ← partOrZero? marks s
  let (second, s) ← partOrZero? marks s
  let (micro, s) ← match s with
    | c :: rest => if c = '.' || c = ',' then fraction? rest else some (0, s)
    | [] => some (0, [])
  return ((hour, minute, second, micro), s)

/-- The size of an offset, in microseconds. -/
def offsetSize? (s : List Char) : Option Int := do
  let ((hours, minutes, seconds, micros), s) ← clock? s
  if s.isEmpty then some ((((hours * 60 + minutes) * 60 + seconds) * 1000000 + micros : Nat) : Int)
  else none

/-- An offset, or none where the text ends. -/
def offset? : List Char → Option (Option Int)
  | [] => some none
  | ['Z'] => some (some 0)
  | '+' :: s => (offsetSize? s).map some
  | '-' :: s => (offsetSize? s).map fun n => some (-n)
  | _ => none

/-- **The moment that a text denotes.** A date alone is its midnight. -/
def ofText? (s : String) : Option Moment := do
  let (date, s) ← date? s.toList
  if s.isEmpty then return ⟨date, 0, 0, 0, 0, none⟩
  let ((hour, minute, second, micro), s) ← clock? (s.drop 1)
  let offset ← offset? s
  return ⟨date, hour, minute, second, micro, offset⟩

end Moment

/-- **The date that a text denotes.** -/
def Date.ofText? (s : String) : Option Date :=
  match Moment.date? s.toList with
  | some (d, []) => some d
  | _ => none

end DiscreetLog
