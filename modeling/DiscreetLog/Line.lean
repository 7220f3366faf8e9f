import DiscreetLog.Payload
import DiscreetLog.Text.Blank

/-!
# Lines

A payload is written as one line, in one of two forms. The structured form is an object. The
flat form is a sequence of `key=value` pairs with blanks between them: the leaves of the payload
under their dotted keys. A value stands there as it is displayed, unless a reader could not tell
where it ends or what it says; then it stands between quotes.
-/

namespace DiscreetLog

namespace Line

/-- A character that a value cannot have without quotes. -/
def isAwkward (c : Char) : Bool :=
  Text.isBlank c || c = '"' || c = '=' || c = '\\' || !Text.isPrintable c

/-- **A displayed value needs quotes**: it is empty, or it has an awkward character. -/
def needsQuotes (s : String) : Bool := s.isEmpty || s.toList.any isAwkward

variable (σ : Objects)

/-- **The display of a value**: a place as file and line, a plain value as its text, and
anything else as what it renders to, written compactly if it is not a text. -/
def display : Value → Except Failure String
  | .node _ (.site s) => do return (← s.file.display σ) ++ ":" ++ (← s.line.display σ)
  | .atom _ (.moment m) => .ok m.text
  | .atom _ (.float x) => .ok x.text
  | .atom _ (.bool b) => .ok (if b then "True" else "False")
  | .atom _ .null => .ok "None"
  | v => do
    match ← v.render σ with
    | .text s => return s
    | tree => return tree.toText .compact

/-- A display with quotes where it needs them. -/
def withQuotes (s : String) : String := if needsQuotes s then Json.quoted s else s

/-- **A value as a pair has it.** -/
def value (v : Value) : Except Failure String := do return withQuotes (← display σ v)

/-- A pair. -/
def pair (p : String × Value) : Except Failure String := do
  return p.1 ++ "=" ++ (← value σ p.2)

end Line

namespace Payload

variable (σ : Objects)

/-- **A payload in the structured form.** -/
def structuredLine (p : Payload) : Except Failure String := do
  return (← p.render σ).toText .spaced

/-- **A payload in the flat form.** -/
def flatLine (p : Payload) : Except Failure String := do
  return " ".intercalate (← p.leaves.mapM (Line.pair σ))

end Payload

end DiscreetLog
