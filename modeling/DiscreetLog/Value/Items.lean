import DiscreetLog.Value.Display
import DiscreetLog.Value.Entries

/-!
# What is in a value

Two questions can be asked of a value of any class: whether it is anything at all, and what its
item of some number is. Nothing are null, falsehood, the zeros, and whatever could hold something
and is empty. Items are those of a sequence, which are counted from zero, and those of a mapping,
which may have a number as a key.
-/

namespace DiscreetLog

/-- A value without content is nothing. -/
def Atom.isNothing : Atom → Bool
  | .null => true
  | .bool b => !b
  | .int n => n = 0
  | .float (.finite _ m _ _) => m = 0
  | .text s => s.isEmpty
  | .bytes bs => bs.isEmpty
  | .span micros => micros = 0
  | _ => false

/-- A container is nothing. -/
def Shape.isNothing {α : Type} : Shape α → Bool
  | .list _ items | .tuple _ items | .set _ items | .object _ _ (.items _ items) => items.isEmpty
  | .object _ _ (.bytes bs) => bs.isEmpty
  | .named _ fields => fields.isEmpty
  | .mapping _ entries => entries.isEmpty
  | _ => false

namespace Value

/-- The item of a number in a sequence of some kind. -/
def itemOf {α : Type} (sequence : String) (items : List α) (n : Nat) : Except Failure α :=
  match items[n]? with
  | some item => .ok item
  | none => .error (.noItem sequence)

variable (σ : Objects)

/-- **A value is nothing.** -/
def isNothing (v : Value) : Bool :=
  match v, σ.container? v with
  | .atom _ a, _ => a.isNothing
  | _, some (_, shape) => shape.isNothing
  | _, none => false

/-- **The item of a number.** -/
def item (v : Value) (n : Nat) : Except Failure Value :=
  match v, σ.container? v with
  | _, some (_, .list _ items) | _, some (_, .object _ _ (.items .list items)) =>
    itemOf "list " items n
  | _, some (_, .tuple _ items) | _, some (_, .object _ _ (.items .tuple items)) =>
    itemOf "tuple " items n
  | _, some (_, .object _ _ (.bytes bs)) => (itemOf "" bs n).map fun b => .int b.toNat
  | _, some (_, .named _ fields) => itemOf "tuple " (fields.map (·.2)) n
  | _, some (_, .mapping _ entries) =>
    match entries.find? fun e => e.1.sameKey (.int n) with
    | some e => .ok e.2
    | none => .error (.noEntry n)
  | .atom _ (.text s), _ => (itemOf "string " s.toList n).map fun c => .text c.toString
  | .atom _ (.bytes bs), _ => (itemOf "" bs n).map fun b => .int b.toNat
  | v, _ => .error (.misused .sequence (v.className σ))

end Value

end DiscreetLog
