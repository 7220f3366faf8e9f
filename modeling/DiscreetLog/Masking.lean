import DiscreetLog.Noted
import DiscreetLog.Tokens
import DiscreetLog.Value.Blank

/-!
# Masking

Masking goes through the values of an attribute list and hides what stands under a sensitive
key: the value of an attribute and of an entry of a mapping becomes the mask, a field of an
object or of a named tuple becomes its blank. Everything else keeps its place, its order and,
as far as its class allows, its class. Nothing is changed in place: every container that is
walked is made anew.

The walk has to end on values that contain themselves or that never stop nesting. A container
that is met inside itself, and a container that lies deeper than the given depth, are replaced
by the mask as a whole; `walk` recurses on the depth that is left.

Sets, texts, bytes and whatever the library does not know are not walked. Of an object whose
class is derived from a built-in one only the fields are: the items that it has besides stay as
they are.
-/

namespace DiscreetLog

/-- The depth that is walked when nothing else is asked for. -/
def defaultDepth : Int := 32

/-- A container that masking does not walk. -/
def Shape.isClosed {α : Type} : Shape α → Bool
  | .set .. | .object _ _ (.bytes _) => true
  | _ => false

namespace Masking

variable (σ : Objects) (tokens : Tokens)

/-- The value of a sensitive key is the mask; any other is looked into. -/
def entry (inside : Value → Noted Value) (sensitive : Bool) (v : Value) : Noted Value :=
  if sensitive then pure (.text mask) else inside v

/-- The value of a sensitive field is its blank; any other is looked into. -/
def field (inside : Value → Noted Value) (names : List String) (v : Value) : Noted Value :=
  if tokens.matchAny names then pure (v.blank σ) else inside v

/-- An attribute keeps its key. -/
def attrWith (inside : Value → Noted Value) (a : Attr) : Noted Attr := do
  return ⟨a.key, ← entry inside (tokens.matchKey a.key) a.value⟩

/-- A field that was never set cannot be read. -/
def slot (inside : Value → Noted Value) (owner : String) (s : Slot Value) : Noted (Slot Value) :=
  match s.value with
  | none => .fail (.noField owner s.name)
  | some v => do return { s with value := some (← field σ tokens inside s.names v) }

/-- **Items put back into a sequence** by calling its class on them. Where the class cannot be
called on them, the built-in sequence takes its place. -/
def rebuild (make : Option Subclass → List Value → Shape Value) (cls : Option Subclass)
    (items : List Value) : Noted Value :=
  match cls with
  | none => pure (.node none (make none items))
  | some c =>
    match c.call with
    | .taken => pure (.node none (make cls items))
    | .nested => pure (.node none (make cls [.node none (.list none items)]))
    | .refused => do
      .note ⟨.debug, "Could not rebuild " ++ c.name ++ " after redaction: cannot build"⟩
      return .node none (make none items)

/-- The places of a site are masked as the fields of an object are. -/
def site (inside : Value → Noted Value) (s : Site Value) : Noted (Site Value) := do
  return {
    file := ← field σ tokens inside ["file"] s.file
    line := ← field σ tokens inside ["line"] s.line
    function := ← field σ tokens inside ["function"] s.function }

/-- **A container made anew**, what is inside it being looked into by `inside`. A group becomes
a plain tuple of attributes; an object that cannot be copied becomes the mask. -/
def container (inside : Value → Noted Value) (shape : Shape Value) : Noted Value :=
  match σ.group? shape with
  | some attrs => do return .ofGroup (← attrs.mapM (attrWith tokens inside))
  | none =>
    match shape with
    | .list cls items => do rebuild .list cls (← items.mapM inside)
    | .tuple cls items => do rebuild .tuple cls (← items.mapM inside)
    | .named cls fields => do
      let fields ← fields.mapM fun f => do return (f.1, ← field σ tokens inside [f.1] f.2)
      return .node none (.named cls fields)
    | .mapping .uncopyable _ => .fail .copyRefused
    | .mapping kind entries => do
      let entries ← entries.mapM fun e => do
        return (e.1, ← entry inside (tokens.matchValue e.1) e.2)
      return .node none (.mapping kind.copied entries)
    | .object cls slots base =>
      if cls.copies then do
        return .node none (.object cls (← slots.mapM (slot σ tokens inside cls.name)) base)
      else do
        .note ⟨.debug, "Could not copy " ++ cls.name ++ " for redaction: copy failed"⟩
        return .text mask
    | .attr key v => do
      let key' := if tokens.matchKey "key" then mask else key
      return .node none (.attr key' (← field σ tokens inside ["value"] v))
    | .site s => return .node none (.site (← site σ tokens inside s))
    | .set frozen items => return .node none (.set frozen items)

/-- **The walk**, with the depth that is left and the labels of the containers around the
value. An atom, a set and an object that is bytes come out as they are. -/
def walk : Nat → List Label → Value → Noted Value
  | left, around, v =>
    match σ.container? v with
    | none => pure v
    | some (label, shape) =>
      if shape.isClosed then pure v
      else if label.any around.contains then pure (.text mask)
      else match left with
        | 0 => pure (.text mask)
        | left + 1 => container σ tokens (walk left (label.toList ++ around)) shape

/-- **An attribute masked.** -/
def attr (maxDepth : Int) : Attr → Noted Attr :=
  attrWith tokens (walk σ tokens maxDepth.toNat [])

/-- **An attribute list masked.** Without tokens it stays as it is. -/
def attrs (maxDepth : Int) (as : List Attr) : Noted (List Attr) :=
  if tokens.isEmpty then pure as else as.mapM (attr σ tokens maxDepth)

/-- **A value masked inside.** The value itself stands under no key. -/
def value (maxDepth : Int) (v : Value) : Noted Value :=
  if tokens.isEmpty then pure v else walk σ tokens maxDepth.toNat [] v

end Masking

end DiscreetLog
