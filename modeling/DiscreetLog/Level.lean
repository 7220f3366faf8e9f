import DiscreetLog.Number.Binary64
import DiscreetLog.Text.Blank
import DiscreetLog.Text.Case

/-!
# Levels

An event has one of four levels. They are numbered on the scale that logging libraries share,
so that an event which comes from elsewhere with a number of its own finds the highest level
not above it, and a threshold may be any number.

`Rank` is that shared scale itself, which has a fifth step above `error`: the library's own
notes and the calls that other libraries make carry a rank.
-/

namespace DiscreetLog

/-- **The level of an event.** -/
inductive Level where
  | debug
  | info
  | warn
  | error
  deriving DecidableEq

namespace Level

/-- All levels, lowest first. -/
def all : List Level := [debug, info, warn, error]

/-- The place of a level on the shared scale. -/
def number : Level → Int
  | debug => 10
  | info => 20
  | warn => 30
  | error => 40

/-- The name that a line shows. -/
def name : Level → String
  | debug => "DEBUG"
  | info => "INFO"
  | warn => "WARN"
  | error => "ERROR"

/-- **The highest level whose number is reached**; where none is it is `debug`. -/
def highest (reached : Int → Bool) : Level :=
  all.foldl (fun chosen level => if reached level.number then level else chosen) debug

/-- **The highest level not above a number.** -/
def ofNumber (n : Int) : Level := highest (· ≤ n)

/-- The highest level not above a double. -/
def ofDouble (x : Binary64) : Level := highest x.atLeast

/-- The level with the given shown name. -/
def ofName? (s : String) : Option Level := all.find? (·.name = s)

/-- **The level that a setting names**, without regard to case and blanks around it. A name
that is missing or unknown means `info`. -/
def parse (setting : Option String) : Level :=
  match Text.lower (Text.trim (setting.getD "")) with
  | "debug" => debug
  | "warn" | "warning" => warn
  | "error" => error
  | _ => info

end Level

/-- **A step of the shared scale**, as the library's notes and calls from elsewhere use it. -/
inductive Rank where
  | debug
  | info
  | warning
  | error
  | critical
  deriving DecidableEq

namespace Rank

/-- The number of a rank. -/
def number : Rank → Int
  | debug => 10
  | info => 20
  | warning => 30
  | error => 40
  | critical => 50

/-- The name of a rank. -/
def name : Rank → String
  | debug => "DEBUG"
  | info => "INFO"
  | warning => "WARNING"
  | error => "ERROR"
  | critical => "CRITICAL"

end Rank

/-- **A note** that the library makes about its own work, apart from the events it carries. -/
structure Note where
  rank : Rank
  text : String
  deriving DecidableEq

end DiscreetLog
