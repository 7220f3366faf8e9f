/-!
# Clipped texts

Messages show a name only as far as it fits into a number of bytes, a character taking one to
four of them. Where the limit falls inside a character, a replacement character stands for the
part of it that fits.
-/

namespace DiscreetLog.Text

/-- What stands for a part of a character. -/
def replacement : Char := '\ufffd'

/-- Characters as far as they fit into a number of bytes. -/
def clipChars : Nat → List Char → List Char
  | _, [] => []
  | limit, c :: s =>
    if c.utf8Size ≤ limit then c :: clipChars (limit - c.utf8Size) s
    else if limit = 0 then [] else [replacement]

/-- **A text as far as it fits into a number of bytes.** -/
def clip (limit : Nat) (s : String) : String := String.ofList (clipChars limit s.toList)

end DiscreetLog.Text
