import DiscreetLog.Text.CharSet

/-!
# Blank characters

A key list, a level name or a configured format may come with blanks around it, and a value
with a blank in it has to be quoted. Both use one class: the white space of the character
database, together with the four information separators U+001C to U+001F.
-/

namespace DiscreetLog.Text

/-- **The blank characters.** -/
def blanks : CharSet := [
  (0x09, 0x0D), (0x1C, 0x20), (0x85, 0x85), (0xA0, 0xA0), (0x1680, 0x1680), (0x2000, 0x200A),
  (0x2028, 0x2029), (0x202F, 0x202F), (0x205F, 0x205F), (0x3000, 0x3000)]

/-- A character that counts as blank. -/
def isBlank (c : Char) : Bool := blanks.has c

/-- The blanks at the front taken away. -/
def trimStart (s : List Char) : List Char := s.dropWhile isBlank

/-- The blanks at both ends taken away. -/
def trimChars (s : List Char) : List Char := (trimStart (trimStart s).reverse).reverse

/-- **A text without the blanks around it.** Blanks inside it stay. -/
def trim (s : String) : String := String.ofList (trimChars s.toList)

/-- A text that holds nothing, or nothing but blanks. -/
def isBlankText (s : String) : Bool := s.toList.all isBlank

end DiscreetLog.Text
