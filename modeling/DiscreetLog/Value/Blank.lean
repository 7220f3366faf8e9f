import DiscreetLog.Value

/-!
# Blanks

A masked field of an object or of a named tuple keeps a value of its class, since the object
around it may be used as one: the *blank* of the value that stood there. A text becomes the
mask, a whole number `-1`, and any other value the one that its class makes from nothing – an
empty container, a zero, no duration – or, where the class makes none, null.
-/

namespace DiscreetLog

/-- **The mask** that stands for a text or for a whole value. -/
def mask : String := "***"

/-- **The object that a class makes from nothing.** -/
def Maker.made : Maker → Atom
  | .nothing => .null
  | .alike text => .foreign (some text) (.alike text)
  | .numbered text next =>
    .foreign (some (text ++ toString next)) (.numbered text (next + 1))

namespace Atom

/-- The blank of a value without content. -/
def blank : Atom → Atom
  | .null => .null
  | .bool _ => .bool false
  | .int _ => .int (-1)
  | .float _ => .float (.zero false)
  | .text _ => .text mask
  | .bytes _ => .bytes []
  | .moment _ => .null
  | .date _ => .null
  | .span _ => .span 0
  | .level _ => .int (-1)
  | .failure kind _ => .failure kind ""
  | .foreign _ makes => makes.made

end Atom

namespace Slot

variable {α : Type}

/-- The field as a fresh object has it. Another one will be the next. -/
def fresh (s : Slot α) : Slot α :=
  { s with
    value := s.initial.map fun held => held 0
    initial := s.initial.map fun held n => held (n + 1) }

end Slot

/-- The content that a fresh object has of its built-in class. -/
def Base.empty {α : Type} : Base α → Base α
  | .plain => .plain
  | .bytes _ => .bytes []
  | .items kind _ => .items kind []

namespace Shape

/-- A sequence of a class without items, where the class makes one. -/
def emptySequence (make : Option Subclass → List Value → Shape Value) (cls : Option Subclass) :
    Value :=
  if cls.any (·.call = .refused) then .null else .node none (make cls [])

/-- The blank of a container: an empty one of the same class where the class makes one. An
object is made fresh where every field has something to begin with, and so is a named tuple. -/
def blank : Shape Value → Value
  | .list cls _ => emptySequence .list cls
  | .tuple cls _ => emptySequence .tuple cls
  | .named cls fields =>
    if cls.defaults.length = fields.length then
      .node none (.named cls (List.zipWith (fun f v => (f.1, v)) fields cls.defaults))
    else .null
  | .mapping .view _ => .null
  | .mapping kind _ => .node none (.mapping kind [])
  | .object cls slots base =>
    if slots.all (·.initial.isSome) then
      .node none (.object cls (slots.map Slot.fresh) base.empty)
    else .null
  | .attr .. => .null
  | .site _ => .null
  | .set frozen _ => .node none (.set frozen [])

end Shape

/-- **The blank of a value.** A label that stands for nothing has no class to make one. -/
def Value.blank (σ : Objects) : Value → Value
  | .atom _ a => .atom none a.blank
  | .node _ shape => shape.blank
  | .shared l => match σ.shape? l with
    | some shape => shape.blank
    | none => .null

end DiscreetLog
