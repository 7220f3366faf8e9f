import DiscreetLog.Text.Search
import DiscreetLog.Tokens

/-!
# Settings

What is logged, in which form and to where is settled by a handful of settings. They are chosen
by the program, as `Choices`, or read from the environment; either way the form and the
redaction tokens are normalized on the way. The tokens are settled by that, and so is the form
unless it is one of blanks, of which nothing is left.
-/

namespace DiscreetLog

/-- **Named texts around the program**, each name once. -/
abbrev Environment := List (String × String)

/-- **Settings as a program chooses them.** -/
structure Choices where
  format : Option String
  level : Option String
  outputFile : String
  toStdout : Bool
  keys : List (Option String)
  cloudGroup : String
  cloudStream : String
  region : String
  deriving DecidableEq

/-- The choices where nothing is chosen. -/
def Choices.default : Choices := ⟨some "json", some "info", "", false, [], "", "", "us-east-1"⟩

/-- **Normalized settings.** -/
structure Settings where
  /-- The form of a line: `json` for the structured one, anything else for the flat one. -/
  format : String
  /-- The name of the lowest level that is logged, as it was chosen. -/
  level : Option String
  /-- The file that lines are appended to, or nothing. -/
  outputFile : String
  toStdout : Bool
  tokens : Tokens
  /-- The group of the log service that events are sent to, or nothing. -/
  cloudGroup : String
  /-- The stream in that group, or nothing for the one named after the service. -/
  cloudStream : String
  region : String
  deriving DecidableEq

namespace Settings

/-- **The form that a choice names**: stripped and lower-cased, and `json` where none is
chosen. -/
def formatOf (choice : Option String) : String :=
  Text.lower (Text.trim (match choice with
    | none | some "" => "json"
    | some format => format))

/-- **The settings of some choices.** -/
def ofChoices (c : Choices) : Settings where
  format := formatOf c.format
  level := c.level
  outputFile := c.outputFile
  toStdout := c.toStdout
  tokens := Tokens.normalize c.keys
  cloudGroup := c.cloudGroup
  cloudStream := c.cloudStream
  region := c.region

/-- The choices that name a setting's own values. -/
def choices (s : Settings) : Choices where
  format := some s.format
  level := s.level
  outputFile := s.outputFile
  toStdout := s.toStdout
  keys := s.tokens.map some
  cloudGroup := s.cloudGroup
  cloudStream := s.cloudStream
  region := s.region

/-- **Some output is set.** -/
def hasOutput (s : Settings) : Bool := s.toStdout || s.outputFile ≠ "" || s.cloudGroup ≠ ""

/-- **The truth of a written answer**: one of four words, without regard to case and blanks
around it. Nothing and blanks are no answer. -/
def parseBool (written : Option String) (otherwise : Bool) : Bool :=
  match written with
  | none => otherwise
  | some text =>
    let answer := Text.trim text
    if answer.isEmpty then otherwise else ["1", "true", "yes", "on"].contains (Text.lower answer)

/-- **The tokens of a list** written with commas between them. -/
def parseKeys (written : Option String) : Tokens :=
  match written with
  | none | some "" => []
  | some text =>
    (Text.splitAt ',' text).filterMap fun part =>
      let stripped := Text.trim part
      if stripped.isEmpty then none else some (Text.lower stripped)

/-- **The choices that an environment makes.** -/
def choicesOf (env : Environment) : Choices where
  format := some ((env.lookup "LOG_FORMAT").getD "json")
  level := some ((env.lookup "LOG_LEVEL").getD "info")
  outputFile := (env.lookup "LOG_OUTPUT_TO_FILE").getD ""
  toStdout := parseBool (env.lookup "LOG_OUTPUT_TO_STDOUT") false
  keys := (parseKeys (env.lookup "LOG_REDACTED_KEYS")).map some
  cloudGroup := (env.lookup "LOG_CLOUDWATCH_GROUP").getD ""
  cloudStream := (env.lookup "LOG_CLOUDWATCH_STREAM").getD ""
  region := (env.lookup "AWS_REGION").getD "us-east-1"

/-- **The settings that an environment makes.** -/
def ofEnvironment (env : Environment) : Settings := ofChoices (choicesOf env)

end Settings

end DiscreetLog
