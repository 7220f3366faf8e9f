import DiscreetLog.Text.Printable.Table

/-!
# Printable characters

A character is printable when a line of text can show it. The plain space is; every other
separator, every control and every unassigned code point is not.
-/

namespace DiscreetLog.Text

/-- A character that a line of text can show. -/
def isPrintable (c : Char) : Bool := !unprintable.has c

end DiscreetLog.Text
