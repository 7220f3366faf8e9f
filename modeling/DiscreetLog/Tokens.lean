import DiscreetLog.Text.Blank
import DiscreetLog.Text.Case
import DiscreetLog.Text.Search
import DiscreetLog.Value

/-!
# Redaction tokens

Which keys are sensitive is said by tokens: a key is sensitive when its lower-case form
contains one of them. Tokens are kept in their own lower-case form, without blanks around them;
`Tokens.normalize` brings them there from whatever a caller writes, and drops what is blank or
missing.

Only texts are keys in this sense. A mapping may have a key of any class, and a key that is no
text is never sensitive.
-/

namespace DiscreetLog

/-- **Redaction tokens**, in the order in which they were given. -/
abbrev Tokens := List String

namespace Tokens

/-- **Tokens from what a caller writes**: stripped and lower-cased, without the blank ones. -/
def normalize (keys : List (Option String)) : Tokens :=
  keys.filterMap fun
    | some key =>
      let stripped := Text.trim key
      if stripped.isEmpty then none else some (Text.lower stripped)
    | none => none

/-- **A key is sensitive**: its lower-case form contains a token. -/
def matchKey (tokens : Tokens) (key : String) : Bool :=
  tokens.any fun token => Text.contains (Text.lower key) token

/-- A value that stands as a key is sensitive. -/
def matchValue (tokens : Tokens) : Value → Bool
  | .atom _ (.text key) => tokens.matchKey key
  | _ => false

/-- A field is sensitive under one of its names. -/
def matchAny (tokens : Tokens) (names : List String) : Bool := names.any tokens.matchKey

end Tokens

end DiscreetLog
