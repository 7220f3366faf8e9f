import DiscreetLog.Failure
import DiscreetLog.Number.Binary64
import DiscreetLog.Time.Moment

/-!
# Timestamps

Outside the library a moment is a number: the log service counts whole milliseconds, records
from elsewhere carry the seconds as a double. Either way the seconds since the beginning of
1970 are a double, so a moment passes through one rounding on its way, and a second one when
milliseconds are made of it.
-/

namespace DiscreetLog

namespace Moment

/-- The double nearest to a sum of two doubles, both of them finite. -/
def addSeconds (a b : Binary64) : Binary64 :=
  match a.toFraction?, b.toFraction? with
  | some (an, ad), some (bn, bd) => .ofFraction (an * bd + bn * ad) (ad * bd)
  | _, _ => .nan

/-- **The seconds since the beginning of 1970**, as a double. Where the offset is known the
exact quotient is rounded once. Where it is not, the moment is looked up on the local clock
from one day before, which fails in the first day of the calendar; whole seconds and the
fraction are then added as doubles. -/
def seconds (m : Moment) : Except Failure Binary64 :=
  match m.offset with
  | some _ => .ok (.ofFraction m.micros 1000000)
  | none =>
    if m.date.dayNumber = 0 then .error (.yearOutOfRange 0)
    else
      .ok (addSeconds (.ofFraction ((m.clockMicros - m.micro) / 1000000) 1)
        (.ofFraction m.micro 1000000))

/-- **The timestamp of an event for the log service**: whole milliseconds, the rest of the
product cut off. -/
def millis (m : Moment) : Except Failure Int := do
  let seconds ← m.seconds
  match seconds.toFraction? with
  | none => throw .timeOutOfRange
  | some (num, den) =>
    match (Binary64.ofFraction (num * 1000) den).toFraction? with
    | none => throw .timeOutOfRange
    | some (num, den) => return Int.tdiv num den

/-- A fraction rounded to the nearest whole number, to the even one in a tie. -/
def nearestInt (num : Int) (den : Nat) : Int :=
  let size : Int := Binary64.divNearest num.natAbs den
  if num < 0 then -size else size

/-- What a count of seconds in 64 bits stays below. -/
def secondsBound : Int := 9223372036854775808

/-- What a count of years in 32 bits stays below. -/
def yearsBound : Int := 2147483648

/-- **The moment of a number of seconds and microseconds** since the beginning of 1970, if it
falls into the years 1 to 9999. Where the seconds have no place in 64 bits there is no such time
at all, and where the years since 1900 have none in 32 bits it cannot be broken down. The year
itself is reported as 32 bits have it. -/
def ofSecondsAndMicros (seconds : Int) (micros : Nat) : Except Failure Moment :=
  let days := seconds / 86400 + Date.epochDay
  if seconds < -secondsBound ∨ secondsBound ≤ seconds then .error .timeOutOfRange
  else if 0 ≤ days ∧ days < 3652059 then
    .ok (ofDayMicros ((seconds + Date.epochDay * 86400).toNat * 1000000 + micros))
  else
    -- Every 400 years have the same number of days, so a date outside can be moved inside.
    let cycles := days / 146097
    let year : Int := Date.yearOf (days - cycles * 146097).toNat + 400 * cycles
    if year - 1900 < -yearsBound ∨ yearsBound ≤ year - 1900 then .error .timeTooLarge
    else .error (.yearOutOfRange (Int.bmod year 4294967296))

/-- **The moment, in universal time, of a number of seconds** since the beginning of 1970. The
fraction of a second becomes microseconds, rounded to the nearest and to the even one in a
tie; a fraction that rounds up to a second carries over. -/
def ofSeconds (x : Binary64) : Except Failure Moment :=
  match x with
  | .nan => .error .timeNotNumber
  | .infinite _ => .error .timeOutOfRange
  | .finite .. =>
    match x.toFraction? with
    | none => .error .timeOutOfRange
    | some (num, den) =>
      let whole := Int.tdiv num den
      let part := Binary64.ofFraction ((num - whole * den) * 1000000) den
      let micros : Int := match part.toFraction? with
        | some (n, d) => nearestInt n d
        | none => 0
      if 1000000 ≤ micros then ofSecondsAndMicros (whole + 1) (micros - 1000000).toNat
      else if micros < 0 then ofSecondsAndMicros (whole - 1) (micros + 1000000).toNat
      else ofSecondsAndMicros whole micros.toNat

end Moment

end DiscreetLog
