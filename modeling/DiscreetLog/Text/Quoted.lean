import DiscreetLog.Text.Printable

/-!
# Texts shown as literals

Where a message shows a text as data – a file name, a redaction token, the text of a failure –
the text stands between quotes and everything that could be misread is escaped. Single quotes
are used, unless the text holds one and no double quote.
-/

namespace DiscreetLog.Text

/-- A digit of base sixteen, small letters from ten on. -/
def hexDigit (n : Nat) : Char := Nat.digitChar (n % 16)

/-- The last `width` digits of a number in base sixteen. -/
def hexDigits : Nat → Nat → List Char
  | 0, _ => []
  | width + 1, n => hexDigits width (n / 16) ++ [hexDigit n]

/-- The escape of a character by its number: as short as the number allows. -/
def escapeNumber (n : Nat) : List Char :=
  if n < 0x100 then ['\\', 'x'] ++ hexDigits 2 n
  else if n < 0x10000 then ['\\', 'u'] ++ hexDigits 4 n
  else ['\\', 'U'] ++ hexDigits 8 n

/-- The quote that stands around a text. -/
def quoteFor (s : List Char) : Char :=
  if s.contains '\'' && !s.contains '"' then '"' else '\''

/-- One character of a literal between the given quotes. -/
def literalChar (quote c : Char) : List Char :=
  if c = '\\' || c = quote then ['\\', c]
  else if c = '\n' then ['\\', 'n']
  else if c = '\r' then ['\\', 'r']
  else if c = '\t' then ['\\', 't']
  else if isPrintable c then [c]
  else escapeNumber c.toNat

/-- **A text as a literal.** -/
def literal (s : String) : String :=
  let quote := quoteFor s.toList
  String.ofList (quote :: s.toList.flatMap (literalChar quote) ++ [quote])

/-- One byte of a byte literal between the given quotes. -/
def byteChar (quote : Char) (b : UInt8) : List Char :=
  let c := Char.ofNat b.toNat
  if c = '\\' || c = quote then ['\\', c]
  else if c = '\n' then ['\\', 'n']
  else if c = '\r' then ['\\', 'r']
  else if c = '\t' then ['\\', 't']
  else if 0x20 ≤ b.toNat && b.toNat < 0x7F then [c]
  else ['\\', 'x'] ++ hexDigits 2 b.toNat

/-- **Bytes as a literal**, marked by a letter in front. -/
def byteLiteral (bytes : List UInt8) : String :=
  let quote := quoteFor (bytes.map fun b => Char.ofNat b.toNat)
  String.ofList ('b' :: quote :: bytes.flatMap (byteChar quote) ++ [quote])

/-- Texts as literals between square brackets. -/
def literals (texts : List String) : String :=
  "[" ++ ", ".intercalate (texts.map literal) ++ "]"

end DiscreetLog.Text
