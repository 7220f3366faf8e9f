import DiscreetLog.Number.Decimal
import DiscreetLog.Text.Quoted

/-!
# Structured output

What a structured line says is a tree of null, booleans, numbers, texts, arrays and objects,
`Json`. A whole number and a double are different numbers here, since they are written
differently.

A tree is written in a `Style`: what stands after an item and after a name, and whether
characters outside the printable ASCII range are escaped. Two styles are used, `Style.spaced`
for a line of its own and `Style.compact` for a value inside a line of another format.
-/

namespace DiscreetLog

/-- **A structured tree.** -/
inductive Json where
  | null
  | bool (b : Bool)
  | int (n : Int)
  | float (x : Binary64)
  | text (s : String)
  | array (items : List Json)
  | object (members : List (String × Json))

namespace Json

/-- **How a tree is written.** -/
structure Style where
  /-- What stands between two items. -/
  comma : List Char
  /-- What stands between a name and its value. -/
  colon : List Char
  /-- Whether characters that are not printable ASCII are escaped. -/
  asciiOnly : Bool

/-- A blank after every comma and colon, and all characters but controls as they are. -/
def Style.spaced : Style := ⟨[',', ' '], [':', ' '], false⟩

/-- No blanks, and nothing but printable ASCII. -/
def Style.compact : Style := ⟨[','], [':'], true⟩

/-- An escape by a number of four digits. -/
def escapeUnit (n : Nat) : List Char := ['\\', 'u'] ++ Text.hexDigits 4 n

/-- The escape of a character by its number, by a surrogate pair where four digits are not
enough. -/
def escapeNumber (n : Nat) : List Char :=
  if n < 0x10000 then escapeUnit n
  else escapeUnit (0xD800 + (n - 0x10000) / 0x400) ++ escapeUnit (0xDC00 + (n - 0x10000) % 0x400)

/-- **One character of a quoted text.** The quote, the backslash and controls are escaped
always. -/
def quotedChar (asciiOnly : Bool) (c : Char) : List Char :=
  if c = '"' then ['\\', '"']
  else if c = '\\' then ['\\', '\\']
  else if c = '\n' then ['\\', 'n']
  else if c = '\r' then ['\\', 'r']
  else if c = '\t' then ['\\', 't']
  else if c = '\x08' then ['\\', 'b']
  else if c = '\x0c' then ['\\', 'f']
  else if c.toNat < 0x20 then escapeUnit c.toNat
  else if asciiOnly && 0x7E < c.toNat then escapeNumber c.toNat
  else [c]

/-- **A text between quotes.** -/
def quotedChars (asciiOnly : Bool) (s : List Char) : List Char :=
  '"' :: s.flatMap (quotedChar asciiOnly) ++ ['"']

/-- A double in structured output. The values without digits have names of their own. -/
def floatChars (x : Binary64) : List Char := (x.write .plain "NaN" "Infinity").toList

/-- Sequences of characters with others between them. -/
def joinedBy (between : List Char) : List (List Char) → List Char
  | [] => []
  | [s] => s
  | s :: rest => s ++ between ++ joinedBy between rest

mutual

/-- **A tree written out.** -/
def write (style : Style) : Json → List Char
  | .null => ['n', 'u', 'l', 'l']
  | .bool true => ['t', 'r', 'u', 'e']
  | .bool false => ['f', 'a', 'l', 's', 'e']
  | .int n => (toString n).toList
  | .float x => floatChars x
  | .text s => quotedChars style.asciiOnly s.toList
  | .array items => '[' :: joinedBy style.comma (writeItems style items) ++ [']']
  | .object members => '\x7b' :: joinedBy style.comma (writeMembers style members) ++ ['\x7d']

/-- The items of an array written out one by one. -/
def writeItems (style : Style) : List Json → List (List Char)
  | [] => []
  | item :: rest => write style item :: writeItems style rest

/-- The members of an object written out one by one. -/
def writeMembers (style : Style) : List (String × Json) → List (List Char)
  | [] => []
  | (name, value) :: rest =>
    (quotedChars style.asciiOnly name.toList ++ style.colon ++ write style value)
      :: writeMembers style rest

end

/-- **A tree as text.** -/
def toText (style : Style) (j : Json) : String := String.ofList (write style j)

/-- A text between quotes, as a structured line has it. -/
def quoted (s : String) : String := String.ofList (quotedChars false s.toList)

end Json

end DiscreetLog
