import DiscreetLog.Number.Binary64

/-!
# Doubles as decimal text

A double is written with the fewest decimal digits that read back as the same double, and among
those as the decimal nearest to it. `shortest` finds the digits by trying one digit, two
digits, and so on: on each grid only the two neighbours of the value can read back, so each try
is two exact roundings. Seventeen digits always suffice; the exact expansion stands behind them
so that no choice of digits fails to read back.

How digits are laid out – where positional notation ends, what the exponent looks like – is the
decision of one record, `Layout.plain`.
-/

namespace DiscreetLog

/-- **A decimal**: `digits * 10 ^ exponent`. -/
structure Decimal where
  digits : Nat
  exponent : Int
  deriving DecidableEq

namespace Decimal

/-- The number of decimal digits; zero has one. -/
def digitCount (n : Nat) : Nat := (Nat.toDigits 10 n).length

/-- The digits of a number with the zeros at its end moved into the exponent. At most `fuel`
zeros are moved. -/
def dropZeros : Nat → Decimal → Decimal
  | 0, d => d
  | fuel + 1, d =>
    if d.digits ≠ 0 && d.digits % 10 = 0 then dropZeros fuel ⟨d.digits / 10, d.exponent + 1⟩ else d

/-- The decimal without zeros at its end. -/
def trimZeros (d : Decimal) : Decimal := dropZeros (digitCount d.digits) d

/-- The power of ten just above the fraction `num / den`: the least `p` with
`num / den < 10 ^ p`. -/
def magnitude (num den : Nat) : Int :=
  if den ≤ num then digitCount (num / den)
  else
    let n := digitCount (den / num)
    if den ≤ num * Nat.pow 10 (n - 1) then 2 - (n : Int) else 1 - (n : Int)

/-- The fraction `num / den` divided by `10 ^ exponent`, as a fraction again. -/
def scaled (num den : Nat) (exponent : Int) : Nat × Nat :=
  if 0 ≤ exponent then (num, den * Nat.pow 10 exponent.toNat)
  else (num * Nat.pow 10 (-exponent).toNat, den)

/-- **The decimal of at most `count` digits that reads back as `x`**, if there is one: of the
two neighbours of the value on the grid, the nearer one that does. -/
def onGrid? (x : Binary64) (num den count : Nat) : Option Decimal :=
  let exponent := magnitude num den - count
  let (n, d) := scaled num den exponent
  let below := n / d
  let readsBack (digits : Nat) : Bool := Binary64.ofDecimal false digits exponent = x
  match readsBack below, readsBack (below + 1) with
  | true, true => some ⟨Binary64.divNearest n d, exponent⟩
  | true, false => some ⟨below, exponent⟩
  | false, true => some ⟨below + 1, exponent⟩
  | false, false => none

/-- The exact decimal expansion of `mantissa * 2 ^ exponent`. -/
def expansion (mantissa : Nat) (exponent : Int) : Decimal :=
  if 0 ≤ exponent then ⟨mantissa * Nat.pow 2 exponent.toNat, 0⟩
  else ⟨mantissa * Nat.pow 5 (-exponent).toNat, exponent⟩

/-- **The shortest decimal of a positive double.** -/
def shortest (mantissa : Nat) (exponent : Int)
    (canonical : Binary64.Canonical mantissa exponent) : Decimal :=
  let x := Binary64.finite false mantissa exponent canonical
  let (num, den) := Binary64.fraction mantissa exponent
  match (List.range 17).findSome? fun i => onGrid? x num den (i + 1) with
  | some d => d.trimZeros
  | none => (expansion mantissa exponent).trimZeros

/-- **How the digits of a decimal are laid out.** The first digit stands at some power of ten;
between the two bounds the notation is positional, outside them it has an exponent. -/
structure Layout where
  /-- The smallest power of ten of the first digit in positional notation. -/
  positionalFrom : Int
  /-- The first power of ten beyond positional notation. -/
  positionalBelow : Int
  /-- The least number of digits of an exponent. -/
  exponentDigits : Nat

/-- Numbers from `0.0001` to below `10 ^ 16` are positional, always with a point; an exponent
has a sign and at least two digits. -/
def Layout.plain : Layout := ⟨-4, 16, 2⟩

/-- A number with zeros in front of it up to the given width. -/
def padded (width n : Nat) : List Char :=
  let digits := Nat.toDigits 10 n
  List.replicate (width - digits.length) '0' ++ digits

/-- The sign and the digits of an exponent. -/
def Layout.exponent (l : Layout) (e : Int) : List Char :=
  'e' :: (if e < 0 then '-' else '+') :: padded l.exponentDigits e.natAbs

/-- The decimal written out. -/
def Layout.write (l : Layout) (d : Decimal) : List Char :=
  let digits := Nat.toDigits 10 d.digits
  let first : Int := digits.length + d.exponent - 1
  if first < l.positionalFrom || l.positionalBelow ≤ first then
    match digits with
    | [] => []
    | [c] => c :: l.exponent first
    | c :: rest => c :: '.' :: rest ++ l.exponent first
  else if first < 0 then '0' :: '.' :: List.replicate (-first - 1).toNat '0' ++ digits
  else if 0 ≤ d.exponent then digits ++ List.replicate d.exponent.toNat '0' ++ ['.', '0']
  else digits.take (first + 1).toNat ++ '.' :: digits.drop (first + 1).toNat

end Decimal

namespace Binary64

/-- The characters of a double in a layout, with the given spellings of the values that have no
digits. -/
def write (layout : Decimal.Layout) (nan infinity : String) : Binary64 → String
  | .nan => nan
  | .infinite negative => (if negative then "-" else "") ++ infinity
  | .finite negative m e h =>
    let body := if m = 0 then ['0', '.', '0'] else layout.write (Decimal.shortest m e h)
    String.ofList (if negative then '-' :: body else body)

/-- **The text of a double.** -/
def text (x : Binary64) : String := x.write .plain "nan" "inf"

end Binary64

end DiscreetLog
