import DiscreetLog.Number.Binary64

/-!
# Reading a double

A sign, digits, a point and further digits, and an exponent, or one of the words for the values
without digits. The text is read exactly and rounded once.
-/

namespace DiscreetLog.Binary64

/-- The value of a sequence of decimal digits; anything else is refused. -/
def natOfDigits? (s : List Char) : Option Nat :=
  if s.all Char.isDigit then some (s.foldl (fun n c => 10 * n + (c.toNat - 48)) 0) else none

/-- A sign in front, and what follows it. -/
def signOf : List Char → Bool × List Char
  | '-' :: s => (true, s)
  | '+' :: s => (false, s)
  | s => (false, s)

/-- An exponent with an optional sign and at least one digit. -/
def exponentOf? (s : List Char) : Option Int :=
  let (negative, digits) := signOf s
  if digits.isEmpty then none
  else (natOfDigits? digits).map fun n => if negative then -(n : Int) else n

/-- A number without its sign. -/
def magnitudeOf? (negative : Bool) (s : List Char) : Option Binary64 := do
  let isMark (c : Char) : Bool := c = 'e' || c = 'E'
  let exponent ← match s.dropWhile (!isMark ·) with
    | [] => some 0
    | _ :: e => exponentOf? e
  let mantissa := s.takeWhile (!isMark ·)
  let whole := mantissa.takeWhile (· ≠ '.')
  let part := (mantissa.dropWhile (· ≠ '.')).drop 1
  if whole.isEmpty && part.isEmpty then none
  else
    let digits ← natOfDigits? (whole ++ part)
    some (ofDecimal negative digits (exponent - part.length))

/-- **The double that a text denotes.** -/
def ofText? (s : String) : Option Binary64 :=
  let (negative, rest) := signOf s.toList
  match String.ofList (rest.map Char.toLower) with
  | "nan" => some .nan
  | "inf" | "infinity" => some (.infinite negative)
  | _ => magnitudeOf? negative rest

end DiscreetLog.Binary64
