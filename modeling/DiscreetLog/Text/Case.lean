import DiscreetLog.Text.Case.Table

/-!
# Lower-casing

Keys and tokens are compared without regard to case, by comparing their lower-case forms. The
form is the full one: a capital may become two characters (`İ`), and the capital sigma becomes
the final form `ς` at the end of a word and `σ` elsewhere. Whether a sigma ends a word is read
off its neighbours on both sides, looking through the characters that do not count as
neighbours; so the form of a text is not put together from the forms of its characters, and
`lowerAfter` carries what stands before.
-/

namespace DiscreetLog.Text

/-- The row that a code point is a capital of. -/
def CaseRow.holds (r : CaseRow) (n : Nat) : Bool :=
  r.first ≤ n && n ≤ r.last && (n - r.first) % r.step = 0

/-- **The small form of a character outside any word**: itself, unless it is a capital. -/
def lowerChar (c : Char) : List Char :=
  if c = 'İ' then ['i', '\u0307']
  else match capitals.find? (·.holds c.toNat) with
    | some r => [Char.ofNat (c.toNat + r.shift).toNat]
    | none => [c]

/-- The nearest character that counts as a neighbour carries case. -/
def meetsCased (side : List Char) : Bool :=
  match side.dropWhile transparent.has with
  | [] => false
  | c :: _ => cased.has c

/-- **The form of a capital sigma**: final when a letter stands before it and none after. -/
def lowerSigma (before after : List Char) : Char :=
  if meetsCased before && !meetsCased after then 'ς' else 'σ'

/-- The lower-case form of what follows `before`, which is given last character first. -/
def lowerAfter (before : List Char) : List Char → List Char
  | [] => []
  | c :: rest =>
    (if c = 'Σ' then [lowerSigma before rest] else lowerChar c) ++ lowerAfter (c :: before) rest

/-- The lower-case form of a sequence of characters. -/
def lowerChars (s : List Char) : List Char := lowerAfter [] s

/-- **The lower-case form of a text.** -/
def lower (s : String) : String := String.ofList (lowerChars s.toList)

end DiscreetLog.Text
