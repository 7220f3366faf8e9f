import DiscreetLog.Foreign.Template
import DiscreetLog.Ordered
import DiscreetLog.Text.Search
import DiscreetLog.Time.Timestamp
import DiscreetLog.Value.Items

/-!
# Records from elsewhere

Other libraries log in their own way: a named logger, a number for the level, a template with
arguments, the seconds of a clock, and any number of extra attributes. `Foreign.toEvent` makes
an event of such a record, so that it can go the way of all other events. The name of the logger
comes first among the attributes, the extra ones follow, and a failure that the record speaks of
comes last, written out as a text.
-/

namespace DiscreetLog

/-- **A failure that a record speaks of**: its class and text, and those of the failures that it
was raised from, the nearest first. -/
structure Trouble where
  kind : String
  text : String
  causes : List (String × String)
  deriving DecidableEq

namespace Trouble

/-- The classes of failures that are shown with the place where they are declared. -/
def declared : List String :=
  ["LogSetupError", "EmptyAppNameError", "InvalidLogOutputConfig", "SinkError"]

/-- The class of a failure as a failure written out shows it. -/
def fullKind (kind : String) : String :=
  if declared.contains kind then "logredact.exceptions." ++ kind else kind

/-- A failure in one line: its class, and its text if there is one. -/
def line (kind text : String) : String :=
  if text.isEmpty then fullKind kind else fullKind kind ++ ": " ++ text

/-- The failures from a first one on, each raised from the next, and none of them twice, given
what the failures of some labels were raised from. The bound is on their number. -/
def chain (raisedFrom : List (Label × Value)) :
    Nat → List Label → Option Value → List (String × String)
  | left + 1, met, some (.atom label (.failure kind text)) =>
    if label.any met.contains then []
    else (kind, text)
      :: chain raisedFrom left (label.toList ++ met) (label.bind (raisedFrom.lookup ·))
  | _, _, _ => []

/-- **A failure that was raised from another one**, if it was, given what the failures of some
labels were raised from. -/
def raised (raisedFrom : List (Label × Value)) (label : Option Label) (kind text : String)
    (cause : Option Value) : Trouble where
  kind := kind
  text := text
  causes := chain raisedFrom (raisedFrom.length + 1) label.toList cause

/-- **A failure written out**, behind the failures that it was raised from. -/
def written (t : Trouble) : String :=
  "\n\nThe above exception was the direct cause of the following exception:\n\n".intercalate
    (((t.kind, t.text) :: t.causes).reverse.map fun f => line f.1 f.2)

end Trouble

/-- **What a record says of a failure.** -/
inductive Mention where
  | nothing
  /-- It speaks of a failure, and has it or has none. -/
  | failure (t : Option Trouble)
  /-- Something was put in the place of the failure. -/
  | replaced (v : Value)

namespace Mention

/-- What is written where a record speaks of a failure and has none. -/
def noFailure : String := "NoneType: None"

variable (σ : Objects)

/-- **What a record says of a failure, written out.** Of a value in its place the second item is
the failure, and the third one, which would be the way it came, has to be missing. -/
def written : Mention → Except Failure (Option String)
  | .nothing => return none
  | .failure none => return some noFailure
  | .failure (some t) => return some t.written
  | .replaced v =>
    if v.isNothing σ then return none
    else do
      let way ← v.item σ 2
      let _ ← v.item σ 0
      let held ← v.item σ 1
      match way, held with
      | .atom _ .null, .atom _ .null => return some noFailure
      | .atom _ .null, .atom _ (.failure kind text) => return some (Trouble.line kind text)
      | .atom _ .null, held => throw (.noField (held.className σ) "__suppress_context__")
      | way, _ => throw (.noField (way.className σ) "tb_frame")

end Mention

/-- **A record from elsewhere.** Its parts are what they should be – a name, a number, a place, a
tuple of arguments or a mapping of them, seconds – unless something else was put in their
place. -/
structure Foreign where
  logger : Value
  number : Value
  site : Site Value
  message : Value
  args : Value
  created : Value
  extras : List (String × Value)
  mention : Mention

namespace Foreign

/-- **The names that every record has for itself.** -/
def ownNames : List String :=
  ["name", "msg", "args", "levelname", "levelno", "pathname", "filename", "module", "exc_info",
    "exc_text", "stack_info", "lineno", "funcName", "created", "msecs", "relativeCreated",
    "thread", "threadName", "processName", "process"]

/-- The names that are never attributes: those of a record itself, and those that are added to
one while it is formatted. -/
def standardNames : List String := ownNames ++ ["message", "asctime", "taskName"]

/-- **An extra attribute is given to a record.** One with the name of a part of the record takes
the place of that part. -/
def withExtra (r : Foreign) (extra : String × Value) : Foreign :=
  match extra with
  | ("name", v) => { r with logger := v }
  | ("levelno", v) => { r with number := v }
  | ("pathname", v) => { r with site := { r.site with file := v } }
  | ("lineno", v) => { r with site := { r.site with line := v } }
  | ("funcName", v) => { r with site := { r.site with function := v } }
  | ("msg", v) => { r with message := v }
  | ("args", v) => { r with args := v }
  | ("created", v) => { r with created := v }
  | ("exc_info", v) => { r with mention := .replaced v }
  | (name, v) =>
    if ownNames.contains name then r else { r with extras := Ordered.assign name v r.extras }

variable (σ : Objects)

/-- **The arguments of a call as its record has them**: a single mapping that is not empty stands
for itself, since it gives them names. -/
def packed (args : List Value) : Value :=
  match args with
  | [v] =>
    match σ.container? v with
    | some (_, .mapping _ (_ :: _)) => v
    | _ => .node none (.tuple none args)
  | _ => .node none (.tuple none args)

/-- The name by which a record is asked for its message. -/
def messageName : String := "getMessage"

/-- **The message of a record.** Without arguments it is no template. Where an extra attribute
hides the way to the message there is none. -/
def text (r : Foreign) : Except Failure String := do
  match r.extras.lookup messageName with
  | some v => throw (.misused .function (v.className σ))
  | none =>
    let template ← r.message.display σ
    if r.args.isNothing σ then return template
    else Template.format σ template (.ofValue σ r.args)

/-- **The time of a record**: that of its seconds. -/
def time (r : Foreign) : Except Failure Moment :=
  match r.created with
  | .atom _ (.float x) => Moment.ofSeconds x
  | v =>
    match v.whole? with
    | some n => Moment.ofSecondsAndMicros n 0
    | none => .error (.misused .count (v.className σ))

/-- **The level of a number**: the highest one not above it. -/
def levelOf (v : Value) : Except Failure Level :=
  match v with
  | .atom _ (.float x) => .ok (.ofDouble x)
  | v =>
    match v.whole? with
    | some n => .ok (.ofNumber n)
    | none => .error (.misused .rank (v.comparedName σ))

/-- An extra name that becomes an attribute. -/
def isAttribute (name : String) : Bool :=
  !standardNames.contains name && name.toList.head? ≠ some '_'

/-- **The attributes of a record.** -/
def attrs (r : Foreign) : Except Failure (List Attr) := do
  let extras := (r.extras.filter fun e => isAttribute e.1).map fun e => ⟨e.1, e.2⟩
  let error := (← r.mention.written σ).map fun text => ⟨"error", .text text⟩
  return ⟨"logger", r.logger⟩ :: extras ++ error.toList

/-- **The event that a record makes.** It makes none where its time is none or its template does
not fit. -/
def toEvent (r : Foreign) : Except Failure Event := do
  let attrs ← r.attrs σ
  let time ← r.time σ
  let level ← levelOf σ r.number
  let message ← r.text σ
  return ⟨time, level, message, some r.site, attrs⟩

/-- **Loggers whose records are not taken**: those of the library itself and of the client that
it sends events with, as their records would come back to the chain that they are made in. -/
def excludedLoggers : List String := ["logredact", "botocore", "boto3", "urllib3", "s3transfer"]

/-- A logger is the one of a name, or lies below it: behind the name stand a point and the rest
of the way. -/
def isWithin (name logger : String) : Bool :=
  logger = name || (name.toList ++ ['.']).isPrefixOf logger.toList

/-- **A logger is excluded**: it is one of those, or lies below one of them. -/
def isExcluded (logger : String) : Bool := excludedLoggers.any (isWithin · logger)

/-- **What stands for a logger is excluded.** Only of a text can it be said. -/
def excludes (logger : Value) : Except Failure Bool :=
  match logger with
  | .atom _ (.text s) => .ok (isExcluded s)
  | .atom _ (.bytes _) => .error .bytesAsName
  | v => .error (.noField (v.className σ) "startswith")

end Foreign

end DiscreetLog
