import DiscreetLog.Json
import DiscreetLog.Ordered
import DiscreetLog.Value.Display

/-!
# Rendering

A value becomes a structured tree: mappings and objects become objects, sequences and sets become
arrays, moments become texts, durations become seconds, and what the library does not know becomes
its text. An object that has items besides its fields becomes the array of them. The names of an
object's members are texts: a key of another class is shown as one, and two keys shown alike are one
member, which has the later value.

Unlike masking, rendering has no depth of its own: it goes as deep as the value goes, and cuts
a container off only where it is met inside itself. `renderFrom` recurses on the number of
containers that a descent without repetition may still enter, so the cut at zero is a cut at a
repetition too.
-/

namespace DiscreetLog

/-- What stands for a container that is met inside itself. -/
def cycleMark : String := "[cycle]"

/-- **The tree of a value without content.** -/
def Atom.render : Atom → Except Failure Json
  | .null => .ok .null
  | .bool b => .ok (.bool b)
  | .int n => .ok (.int n)
  | .float x => .ok (.float x)
  | .text s => .ok (.text s)
  | .moment m => .ok (.text m.text)
  | .date d => .ok (.text d.text)
  | .span micros => .ok (.float (.ofFraction micros 1000000))
  | .level l => .ok (.int l.number)
  | a => do return .text (← a.display)

namespace Shape

/-- The member that a field becomes. -/
def renderSlot (inside : Value → Except Failure Json) (owner : String) (s : Slot Value) :
    Except Failure (String × Json) :=
  match s.value with
  | none => .error (.noField owner s.name)
  | some v => do return (s.outputName, ← inside v)

/-- **The tree of a container**, keys being named by `name` and content rendered by
`inside`. -/
def render (name : Value → Except Failure String) (inside : Value → Except Failure Json) :
    Shape Value → Except Failure Json
  | .list _ items => do return .array (← items.mapM inside)
  | .tuple _ items => do return .array (← items.mapM inside)
  | .object _ _ (.items _ items) => do return .array (← items.mapM inside)
  | .named _ fields => do return .array (← fields.mapM fun f => inside f.2)
  | .mapping _ entries => do
    let members ← entries.mapM fun e => do return (← name e.1, ← inside e.2)
    return .object (Ordered.ofPairs members)
  | .object cls slots _ => do
    return .object (Ordered.ofPairs (← slots.mapM (renderSlot inside cls.name)))
  | .attr key v => do return .object [("key", .text key), ("value", ← inside v)]
  | .site s => do
    return .object [("file", ← inside s.file), ("line", ← inside s.line),
      ("function", ← inside s.function)]
  | .set _ items => do return .array (← items.mapM inside)

end Shape

namespace Value

variable (σ : Objects)

/-- **The rendering of a value**, given the containers that may still be entered and the labels
of those around the value. -/
def renderFrom : Nat → List Label → Value → Except Failure Json
  | left, around, v =>
    match v, σ.container? v with
    | .atom _ a, _ => a.render
    | _, none => .ok .null
    | _, some (label, shape) =>
      if label.any around.contains then .ok (.text cycleMark)
      else match left with
        | 0 => .ok (.text cycleMark)
        | left + 1 =>
          shape.render (Value.display σ) (renderFrom left (label.toList ++ around))

/-- **The structured tree of a value.** -/
def render (v : Value) : Except Failure Json := renderFrom σ (σ.depth v) [] v

end Value

end DiscreetLog
