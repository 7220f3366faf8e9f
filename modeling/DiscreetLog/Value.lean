import DiscreetLog.Level
import DiscreetLog.Number.Binary64
import DiscreetLog.Time.Moment

/-!
# Values

What a caller logs is a value of any class: plain data, containers of several kinds, objects
with fields, moments and durations, and things the library knows nothing about. `Value` is that
domain, cut into three: an `Atom` has nothing inside it that the library would look at, a
`Shape` holds other values, and a `shared` value stands for a container met before.

A value that is met more than once has a *label*: two occurrences are occurrences of one and the
same value exactly when they have the same label. Containers can contain themselves, so where a
container is met again there may be only its label; the table `Objects` says what is behind it,
and following labels through the table unfolds a value into a tree that may be infinite. Values
that the library makes have no label, so none of them is met twice.

`Shape` is a shape over any kind of content, so that a function which treats the content alike
everywhere – the masking walk, the rendering – is written once per shape and stays apart from
how the content is reached.
-/

namespace DiscreetLog

/-- The name of a value that is met more than once. -/
abbrev Label := String

/-- **Where a log call was made.** A record from elsewhere may have anything in the three
places. -/
structure Site (α : Type) where
  file : α
  line : α
  function : α

/-- **What a class that the library does not know makes from nothing.** -/
inductive Maker where
  /-- It makes nothing without being given something. -/
  | nothing
  /-- Objects with this text, which nothing tells apart. -/
  | alike (text : String)
  /-- Objects that are told apart: the text of each is this one with the number of the object
  behind it, and the next object gets the number given. -/
  | numbered (text : String) (next : Nat)
  deriving DecidableEq

/-- **A value without content** that the library would look at. -/
inductive Atom where
  | null
  | bool (b : Bool)
  | int (n : Int)
  | float (x : Binary64)
  | text (s : String)
  | bytes (bs : List UInt8)
  | moment (m : Moment)
  | date (d : Date)
  /-- A duration in microseconds. -/
  | span (micros : Int)
  | level (l : Level)
  /-- A failure held as a value: its class and its text. -/
  | failure (kind text : String)
  /-- An object of a class that the library does not know. It has a text, unless asking for it
  fails. -/
  | foreign (text : Option String) (makes : Maker)
  deriving DecidableEq

/-- **What a class derived from a built-in sequence makes of items** that it is called on. -/
inductive Calling where
  /-- A sequence of the items, as the built-in class does. -/
  | taken
  /-- A sequence of a single item, which is the list of the items. -/
  | nested
  /-- Nothing, since it cannot be called on them. -/
  | refused
  deriving DecidableEq

/-- **A class derived from a built-in sequence.** -/
structure Subclass where
  name : String
  call : Calling
  deriving DecidableEq

/-- **The class of a named tuple.** -/
structure NamedClass (α : Type) where
  name : String
  /-- What the last fields hold where they are not given. -/
  defaults : List α

/-- **What kind of mapping** a mapping is. -/
inductive MappingKind where
  | plain
  /-- A plain mapping in every way, except that copying it fails. -/
  | uncopyable
  /-- A mapping that keeps its class when it is copied. -/
  | ordered
  /-- A read-only view of a mapping. A copy of it is a plain mapping, and there is no empty
  view. -/
  | view
  deriving DecidableEq

/-- What a copy of a mapping is: a plain mapping, unless the class is kept. -/
def MappingKind.copied : MappingKind → MappingKind
  | .ordered => .ordered
  | _ => .plain

/-- **The class of an object with declared fields.** -/
structure ObjectClass where
  name : String
  /-- Whether objects of the class can be copied. A copy is another object, and never the object
  itself. -/
  copies : Bool
  deriving DecidableEq

/-- **A declared field of an object**, and what the object holds there. -/
structure Slot (α : Type) where
  name : String
  /-- Another name of the field, or nothing. -/
  otherName : String
  /-- The name of the field in structured output, or nothing. -/
  json : String
  /-- What the objects that the class makes from now on hold in the field, one after the other;
  nothing where the field has to be given. -/
  initial : Option (Nat → α)
  /-- What the object holds; nothing where the field was never set. -/
  value : Option α

namespace Slot

variable {α : Type}

/-- **The names a field is known by**: its own, and every other one that is not empty. -/
def names (s : Slot α) : List String :=
  [s.otherName, s.json].foldl
    (fun names other => if other = "" || names.contains other then names else names ++ [other])
    [s.name]

/-- **The name a field is rendered under**: the first of its other names that is not empty,
or else its own. -/
def outputName (s : Slot α) : String :=
  if s.otherName ≠ "" then s.otherName else if s.json ≠ "" then s.json else s.name

end Slot

/-- **The built-in classes** whose values have items but no keys for them. -/
inductive Builtin where
  | list
  | tuple
  | set
  deriving DecidableEq

/-- **What an object with declared fields is besides**: its class may be derived from a built-in
one, and then the object has the content of that one too. -/
inductive Base (α : Type) where
  | plain
  | bytes (bs : List UInt8)
  | items (kind : Builtin) (items : List α)

/-- **The shape of a container**, over content of any kind. -/
inductive Shape (α : Type) where
  | list (cls : Option Subclass) (items : List α)
  | tuple (cls : Option Subclass) (items : List α)
  /-- A tuple whose items have names. -/
  | named (cls : NamedClass α) (fields : List (String × α))
  | mapping (kind : MappingKind) (entries : List (α × α))
  | object (cls : ObjectClass) (slots : List (Slot α)) (base : Base α)
  /-- An attribute that stands as a value. -/
  | attr (key : String) (value : α)
  /-- A place in the program that stands as a value. -/
  | site (s : Site α)
  | set (frozen : Bool) (items : List α)

/-- **A value.** -/
inductive Value where
  | atom (label : Option Label) (a : Atom)
  | node (label : Option Label) (shape : Shape Value)
  | shared (label : Label)

/-- **The containers that are met more than once**, under their labels. -/
abbrev Objects := List (Label × Shape Value)

/-- The container behind a label. -/
def Objects.shape? (σ : Objects) (l : Label) : Option (Shape Value) := σ.lookup l

/-- **The container that a value is**, with its label; nothing for an atom and for a label
that stands for nothing. -/
def Objects.container? (σ : Objects) : Value → Option (Option Label × Shape Value)
  | .atom .. => none
  | .node label shape => some (label, shape)
  | .shared l => (σ.shape? l).map fun shape => (some l, shape)

/-- **An attribute**: a value under a key. -/
structure Attr where
  key : String
  value : Value

namespace Value

/-- The label of a value. -/
def label? : Value → Option Label
  | .atom label _ => label
  | .node label _ => label
  | .shared label => some label

abbrev null : Value := .atom none .null
abbrev bool (b : Bool) : Value := .atom none (.bool b)
abbrev int (n : Int) : Value := .atom none (.int n)
abbrev text (s : String) : Value := .atom none (.text s)

/-- The whole number that a value is; a truth value is `1` or `0`, and a level its number. -/
def whole? : Value → Option Int
  | .atom _ (.int n) => some n
  | .atom _ (.bool b) => some (if b then 1 else 0)
  | .atom _ (.level l) => some l.number
  | _ => none

end Value

/-- An attribute as a value. -/
def Attr.toValue (a : Attr) : Value := .node none (.attr a.key a.value)

namespace Objects

variable (σ : Objects)

/-- A value that is an attribute, as one. -/
def attr? (v : Value) : Option Attr :=
  match σ.container? v with
  | some (_, .attr key value) => some ⟨key, value⟩
  | _ => none

/-- **The attributes of a group**: a tuple of any class whose items are all attributes is one,
the empty tuple included. -/
def group? : Shape Value → Option (List Attr)
  | .tuple _ items | .object _ _ (.items .tuple items) => items.mapM σ.attr?
  | .named _ fields => fields.mapM fun f => σ.attr? f.2
  | _ => none

end Objects

/-- The attributes of a group, none of which is behind a label. -/
def Shape.group? (shape : Shape Value) : Option (List Attr) := Objects.group? [] shape

namespace Value

/-- A value that is an attribute and not behind a label, as one. -/
def attr? (v : Value) : Option Attr := Objects.attr? [] v

/-- The attributes of a value that is a group. -/
def group? : Value → Option (List Attr)
  | .node _ shape => shape.group?
  | _ => none

/-- **A value is a group.** -/
def isGroup (v : Value) : Bool := v.group?.isSome

/-- Attributes put together to a group. -/
def ofGroup (attrs : List Attr) : Value := .node none (.tuple none (attrs.map Attr.toValue))

end Value

/-- **An event**: what one log call says. -/
structure Event where
  time : Moment
  level : Level
  message : String
  site : Option (Site Value)
  attrs : List Attr

end DiscreetLog
