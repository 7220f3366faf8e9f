import DiscreetLog.Failure
import DiscreetLog.Number.Decimal
import DiscreetLog.Value.Height

/-!
# Values as text

Where a value is put into a text – as the argument of a message, or as the key of a rendered
member – the text stands for itself, a number for its digits, and a container for a listing of
what is in it. `Value.display` is that text, and `Value.inspect` the form that a value has inside a
listing: texts are literals there, and moments and durations name their parts.

A container that lies inside itself is shown by three dots. Named tuples are the exception: one
that lies inside itself is listed again, up to the container through which it does so.
-/

namespace DiscreetLog

/-- A count with its unit. -/
def Moment.spanDays (days : Int) : String :=
  toString days ++ (if days.natAbs = 1 then " day, " else " days, ")

/-- **The text of a duration**: the days, if there are any, and a clock reading. -/
def Moment.spanText (micros : Int) : String :=
  let days := micros / Moment.dayLength
  let rest := (micros % Moment.dayLength).toNat
  let seconds := rest / 1000000
  (if days = 0 then "" else Moment.spanDays days)
    ++ toString (seconds / 3600) ++ ":" ++ Date.padded 2 (seconds / 60 % 60) ++ ":"
    ++ Date.padded 2 (seconds % 60)
    ++ (if rest % 1000000 = 0 then "" else "." ++ Date.padded 6 (rest % 1000000))

namespace Atom

/-- The named parts of a duration that are not zero. -/
def spanParts (micros : Int) : List String :=
  let days := micros / Moment.dayLength
  let rest := micros % Moment.dayLength
  [("days", days), ("seconds", rest / 1000000), ("microseconds", rest % 1000000)].filterMap
    fun p => if p.2 = 0 then none else some (p.1 ++ "=" ++ toString p.2)

/-- A duration inside a listing. -/
def inspectSpan (micros : Int) : String :=
  let parts := spanParts micros
  "datetime.timedelta(" ++ (if parts.isEmpty then "0" else ", ".intercalate parts) ++ ")"

/-- A moment inside a listing: its parts, the smallest ones left out where they are zero. -/
def inspectMoment (m : Moment) : String :=
  let parts := [m.date.year, m.date.month, m.date.day, m.hour, m.minute]
    ++ (if m.second = 0 && m.micro = 0 then [] else [m.second])
    ++ (if m.micro = 0 then [] else [m.micro])
  let zone := match m.offset with
    | none => ""
    | some offset =>
      ", tzinfo=datetime.timezone"
        ++ (if offset = 0 then ".utc" else "(" ++ inspectSpan offset ++ ")")
  "datetime.datetime(" ++ ", ".intercalate (parts.map toString) ++ zone ++ ")"

/-- **The text of a value without content.** -/
def display : Atom → Except Failure String
  | .null => .ok "None"
  | .bool b => .ok (if b then "True" else "False")
  | .int n => .ok (toString n)
  | .float x => .ok x.text
  | .text s => .ok s
  | .bytes bs => .ok (Text.byteLiteral bs)
  | .moment m => .ok (String.ofList (m.text.toList.map fun c => if c = 'T' then ' ' else c))
  | .date d => .ok d.text
  | .span micros => .ok (Moment.spanText micros)
  | .level l => .ok (toString l.number)
  | .failure _ said => .ok said
  | .foreign (some said) _ => .ok said
  | .foreign none _ => .error .textRefused

/-- A value without content inside a listing. -/
def inspect : Atom → Except Failure String
  | .text s => .ok (Text.literal s)
  | .moment m => .ok (inspectMoment m)
  | .date d =>
    .ok ("datetime.date(" ++ ", ".intercalate ([d.year, d.month, d.day].map toString) ++ ")")
  | .span micros => .ok (inspectSpan micros)
  | .level l => .ok ("<Level." ++ l.name ++ ": " ++ toString l.number ++ ">")
  | .failure kind said => .ok (kind ++ "(" ++ Text.literal said ++ ")")
  | a => a.display

/-- The name of the class of a value without content. -/
def className : Atom → String
  | .null => "NoneType"
  | .bool _ => "bool"
  | .int _ => "int"
  | .float _ => "float"
  | .text _ => "str"
  | .bytes _ => "bytes"
  | .moment _ => "datetime.datetime"
  | .date _ => "datetime.date"
  | .span _ => "datetime.timedelta"
  | .level _ => "Level"
  | .failure kind _ => kind
  | .foreign .. => "Opaque"

end Atom

namespace Shape

/-- What stands for a container that lies inside itself. -/
def dots : Shape Value → String
  | .list .. => "[...]"
  | .tuple .. => "(...)"
  | .mapping .ordered _ => "..."
  | .mapping .view _ => "mappingproxy(\x7b...\x7d)"
  | .mapping .. => "\x7b...\x7d"
  | _ => "..."

/-- The container is shown by dots where it lies inside itself. -/
def isDotted : Shape Value → Bool
  | .named .. => false
  | _ => true

/-- Items between parentheses. A single item is followed by a comma. -/
def parenthesized : List String → String
  | [item] => "(" ++ item ++ ",)"
  | items => "(" ++ ", ".intercalate items ++ ")"

/-- Names with their values between parentheses. -/
def called (name : String) (parts : List (String × String)) : String :=
  name ++ "(" ++ ", ".intercalate (parts.map fun p => p.1 ++ "=" ++ p.2) ++ ")"

/-- Entries between braces. -/
def braced (entries : List (String × String)) : String :=
  "\x7b" ++ ", ".intercalate (entries.map fun e => e.1 ++ ": " ++ e.2) ++ "\x7d"

/-- **A container listed**, its content being shown by `inside`. -/
def inspect (inside : Value → Except Failure String) : Shape Value → Except Failure String
  | .list _ items => do return "[" ++ ", ".intercalate (← items.mapM inside) ++ "]"
  | .tuple _ items => do return parenthesized (← items.mapM inside)
  | .named cls fields => do
    return called cls.name (← fields.mapM fun f => do return (f.1, ← inside f.2))
  | .mapping kind entries => do
    let entries ← entries.mapM fun e => do return (← inside e.1, ← inside e.2)
    return match kind with
      | .ordered =>
        if entries.isEmpty then "OrderedDict()"
        else "OrderedDict(["
          ++ ", ".intercalate (entries.map fun e => "(" ++ e.1 ++ ", " ++ e.2 ++ ")") ++ "])"
      | .view => "mappingproxy(" ++ braced entries ++ ")"
      | _ => braced entries
  | .object cls slots _ => do
    return called cls.name (← slots.mapM fun s => do
      match s.value with
      | none => throw (.noField cls.name s.name)
      | some v => return (s.name, ← inside v))
  | .attr key v => do return called "Attr" [("key", Text.literal key), ("value", ← inside v)]
  | .site s => do
    return called "Source" [("file", ← inside s.file), ("line", ← inside s.line),
      ("function", ← inside s.function)]
  | .set frozen items => do
    let items ← items.mapM inside
    let body := if items.isEmpty then "" else "\x7b" ++ ", ".intercalate items ++ "\x7d"
    return if frozen then "frozenset(" ++ body ++ ")" else if items.isEmpty then "set()" else body

/-- The name of the class of a container. -/
def className : Shape Value → String
  | .list cls _ => (cls.map (·.name)).getD "list"
  | .tuple cls _ => (cls.map (·.name)).getD "tuple"
  | .named cls _ => cls.name
  | .mapping .ordered _ => "collections.OrderedDict"
  | .mapping .view _ => "mappingproxy"
  | .mapping .. => "dict"
  | .object cls .. => cls.name
  | .attr .. => "Attr"
  | .site _ => "Source"
  | .set frozen _ => if frozen then "frozenset" else "set"

end Shape

namespace Value

variable (σ : Objects)

/-- A value inside a listing, given the containers that it may still lie in and the labels of
those around it. -/
def inspectFrom : Nat → List Label → Value → Except Failure String
  | left, around, v =>
    match v, σ.container? v with
    | .atom _ a, _ => a.inspect
    | _, none => .ok "..."
    | _, some (label, shape) =>
      if shape.isDotted && label.any around.contains then .ok shape.dots
      else match left with
        | 0 => .ok shape.dots
        | left + 1 => shape.inspect (inspectFrom left (label.toList ++ around))

/-- **A value inside a listing.** -/
def inspect (v : Value) : Except Failure String := inspectFrom σ (σ.depth v) [] v

/-- **The text of a value.** A view has the text of the mapping that it shows, and an object that is
bytes has theirs. -/
def display (v : Value) : Except Failure String :=
  match v, σ.container? v with
  | .atom _ a, _ => a.display
  | v, some (label, .mapping .view entries) =>
    (Shape.mapping .plain entries).inspect (inspectFrom σ (σ.depth v) label.toList)
  | _, some (_, .object _ _ (.bytes bs)) => .ok (Text.byteLiteral bs)
  | v, _ => v.inspect σ

/-- The name of the class of a value. -/
def className (v : Value) : String :=
  match v, σ.container? v with
  | .atom _ a, _ => a.className
  | _, some (_, shape) => shape.className
  | _, none => "object"

/-- The name of the class that a value is compared as: a view is compared as the mapping that it
shows. -/
def comparedName (v : Value) : String :=
  match σ.container? v with
  | some (_, .mapping .view entries) => (Shape.mapping .plain entries).className
  | _ => v.className σ

end Value

end DiscreetLog
