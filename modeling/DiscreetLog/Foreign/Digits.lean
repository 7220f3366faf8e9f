import DiscreetLog.Number.Decimal

/-!
# Numbers in a chosen number of digits

A message template may ask for a number with a fixed number of places, with an exponent, or in
whichever of the two is shorter. The number is a fraction and is rounded once, to the nearest
and to the even digit in a tie.
-/

namespace DiscreetLog.Digits

/-- Digits in front of and behind a point; without places the point is written if `point` asks
for it. -/
def pointed (point : Bool) (places : Nat) (digits : Nat) : List Char :=
  let whole := Nat.toDigits 10 (digits / Nat.pow 10 places)
  if places = 0 then whole ++ (if point then ['.'] else [])
  else whole ++ '.' :: Decimal.padded places (digits % Nat.pow 10 places)

/-- **A fraction with a number of places.** -/
def fixed (point : Bool) (places num den : Nat) : List Char :=
  pointed point places (Binary64.divNearest (num * Nat.pow 10 places) den)

/-- The digits of a fraction on the grid of `count + 1` digits, and the power of ten of the
first one. Where rounding carries beyond the grid the next grid is used. -/
def significant (count num den : Nat) : Nat × Int :=
  if num = 0 then (0, 0)
  else
    let first := Decimal.magnitude num den - 1
    let (n, d) := Decimal.scaled num den (first - count)
    let digits := Binary64.divNearest n d
    if Nat.pow 10 (count + 1) ≤ digits then (digits / 10, first + 1) else (digits, first)

/-- An exponent: a mark, a sign, and at least two digits. -/
def exponentPart (mark : Char) (exponent : Int) : List Char :=
  mark :: (if exponent < 0 then '-' else '+') :: Decimal.padded 2 exponent.natAbs

/-- **A fraction with an exponent** and a number of places behind the first digit. -/
def scientific (point : Bool) (mark : Char) (places num den : Nat) : List Char :=
  let (digits, exponent) := significant places num den
  pointed point places digits ++ exponentPart mark exponent

/-- The zeros at the end of the places taken away, and the point with them if nothing is
left. -/
def dropTrailing (s : List Char) : List Char :=
  if s.contains '.' then
    let kept := s.reverse.dropWhile (· = '0')
    (if kept.head? = some '.' then kept.drop 1 else kept).reverse
  else s

/-- More significant digits than any double has, and than any has in front of its point. -/
def mostDigits : Nat := 800

/-- **A fraction in a number of significant digits**, with an exponent only where it is very
small or has more digits in front of its point. Without the zeros at the end, more digits than
there are ask for nothing more. -/
def general (point : Bool) (mark : Char) (count num den : Nat) : List Char :=
  let count := max (if point then count else min count mostDigits) 1
  let (digits, exponent) := significant (count - 1) num den
  let trim (s : List Char) : List Char := if point then s else dropTrailing s
  if -4 ≤ exponent && exponent < count then
    let places := (count - 1 - exponent).toNat
    trim (if 0 ≤ exponent then pointed point places digits
      else fixed point places num den)
  else trim (pointed point (count - 1) digits) ++ exponentPart mark exponent

end DiscreetLog.Digits
