/-!
# Double precision numbers

The fractional numbers of an attribute are doubles: a mantissa below `2 ^ 53` times a power of
two. They are kept as exactly that, with the one mantissa and exponent that the format allows
for each value, so that two numbers of this type are equal only when they are the same number
(the two zeros apart).

Everything computed with them is computed exactly on fractions and then rounded once, to the
nearest double and to the even mantissa in a tie: `Binary64.round` is the only place where
precision is lost.
-/

namespace DiscreetLog

/-- The first number that has more bits than a mantissa. -/
def Binary64.beyondMantissa : Nat := 9007199254740992

/-- The first number that has all the bits of a mantissa. -/
def Binary64.leastFull : Nat := 4503599627370496

/-- The mantissa and exponent that the format stores: the mantissa has all of its 53 bits,
unless the exponent is the smallest one. -/
def Binary64.Canonical (mantissa : Nat) (exponent : Int) : Prop :=
  mantissa < beyondMantissa ∧ -1074 ≤ exponent ∧ exponent ≤ 971
    ∧ (leastFull ≤ mantissa ∨ exponent = -1074)

instance (mantissa : Nat) (exponent : Int) : Decidable (Binary64.Canonical mantissa exponent) :=
  inferInstanceAs (Decidable (_ ∧ _ ∧ _ ∧ _))

/-- **A double precision number.** -/
inductive Binary64 where
  /-- Not a number. -/
  | nan
  /-- Beyond the largest number, on either side. -/
  | infinite (negative : Bool)
  /-- `mantissa * 2 ^ exponent`, or its negative. -/
  | finite (negative : Bool) (mantissa : Nat) (exponent : Int)
      (canonical : Binary64.Canonical mantissa exponent)
  deriving DecidableEq

namespace Binary64

/-- **A quotient rounded to the nearest whole number**, to the even one in a tie. -/
def divNearest (num den : Nat) : Nat :=
  let q := num / den
  let r := num % den
  if den < 2 * r || (2 * r = den && q % 2 = 1) then q + 1 else q

/-- The fraction `num / den` divided by `2 ^ exponent`, as a fraction again. -/
def scaled (num den : Nat) (exponent : Int) : Nat × Nat :=
  if 0 ≤ exponent then (num, den * Nat.pow 2 exponent.toNat)
  else (num * Nat.pow 2 (-exponent).toNat, den)

/-- The exponent whose mantissa has 53 bits, or the smallest exponent if that one is larger. -/
def exponentFor (num den : Nat) : Int :=
  let guess : Int := (Nat.log2 num : Int) - (Nat.log2 den : Int) - 52
  let (n, d) := scaled num den guess
  max (if n < leastFull * d then guess - 1 else guess) (-1074)

/-- Zero, with either sign. -/
def zero (negative : Bool) : Binary64 := .finite negative 0 (-1074) (by decide)

/-- **The double nearest to a fraction** with a positive denominator. A mantissa that rounding
has carried to 54 bits moves to the next exponent, and what then fits no exponent is infinite. -/
def round (negative : Bool) (num den : Nat) : Binary64 :=
  if num = 0 then zero negative
  else
    let exponent := exponentFor num den
    let (n, d) := scaled num den exponent
    let m := divNearest n d
    let (m, exponent) := if m = beyondMantissa then (leastFull, exponent + 1) else (m, exponent)
    if h : Canonical m exponent then .finite negative m exponent h else .infinite negative

/-- The double nearest to a signed fraction. -/
def ofFraction (num : Int) (den : Nat) : Binary64 := round (num < 0) num.natAbs den

/-- The size of `mantissa * 2 ^ exponent` as a fraction. -/
def fraction (mantissa : Nat) (exponent : Int) : Nat × Nat :=
  if 0 ≤ exponent then (mantissa * Nat.pow 2 exponent.toNat, 1)
  else (mantissa, Nat.pow 2 (-exponent).toNat)

/-- **The exact value** of a finite double, as a signed fraction. -/
def toFraction? : Binary64 → Option (Int × Nat)
  | .finite negative m e _ =>
    let (num, den) := fraction m e
    some (if negative then -(num : Int) else num, den)
  | _ => none

/-- **A double is not below a whole number.** What is not a number is neither above nor below
one. -/
def atLeast (n : Int) : Binary64 → Bool
  | nan => false
  | infinite negative => !negative
  | .finite negative m e _ =>
    let (num, den) := fraction m e
    n * den ≤ if negative then -(num : Int) else num

/-- The double nearest to `mantissa * 10 ^ exponent`. Beyond 400 places in front of the point or
behind it, what it is does not depend on how many places there are. -/
def ofDecimal (negative : Bool) (mantissa : Nat) (exponent : Int) : Binary64 :=
  if mantissa = 0 then zero negative
  else if 400 < exponent then infinite negative
  else if exponent + (Nat.log2 mantissa : Int) < -400 then zero negative
  else if 0 ≤ exponent then round negative (mantissa * Nat.pow 10 exponent.toNat) 1
  else round negative mantissa (Nat.pow 10 (-exponent).toNat)

end Binary64

end DiscreetLog
