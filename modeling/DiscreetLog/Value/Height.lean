import DiscreetLog.Value

/-!
# How deep a value goes

The height of a value is the number of containers that lie inside one another before a label or
an atom is reached. A descent that never enters the same labelled container twice passes through
at most as many containers as the heights of the value and of the whole table add up to;
`Objects.depth` is that bound, and a walk that may only end where something repeats takes it as
its measure.
-/

namespace DiscreetLog

mutual

/-- **The height of a value.** -/
def Value.height : Value → Nat
  | .atom .. => 0
  | .shared _ => 0
  | .node _ shape => shapeHeight shape + 1

/-- The height of the highest value inside a container. -/
def shapeHeight : Shape Value → Nat
  | .list _ items => itemsHeight items
  | .tuple _ items => itemsHeight items
  | .named _ fields => fieldsHeight fields
  | .mapping _ entries => entriesHeight entries
  | .object _ slots base => max (slotsHeight slots) (baseHeight base)
  | .attr _ value => value.height
  | .site ⟨file, line, function⟩ => max file.height (max line.height function.height)
  | .set _ items => itemsHeight items

/-- The height of the highest of some values. -/
def itemsHeight : List Value → Nat
  | [] => 0
  | v :: vs => max v.height (itemsHeight vs)

/-- The height of the highest of some named values. -/
def fieldsHeight : List (String × Value) → Nat
  | [] => 0
  | (_, v) :: fields => max v.height (fieldsHeight fields)

/-- The height of the highest key or value of some entries. -/
def entriesHeight : List (Value × Value) → Nat
  | [] => 0
  | (k, v) :: entries => max (max k.height v.height) (entriesHeight entries)

/-- The height of the highest value that some fields hold. -/
def slotsHeight : List (Slot Value) → Nat
  | [] => 0
  | ⟨_, _, _, _, value⟩ :: slots => max (heldHeight value) (slotsHeight slots)

/-- The height of a value that may be missing. -/
def heldHeight : Option Value → Nat
  | none => 0
  | some v => v.height

/-- The height of the highest item that an object has of its built-in class. -/
def baseHeight : Base Value → Nat
  | .items _ items => itemsHeight items
  | _ => 0

end

/-- **A bound on the containers of a descent** that enters no labelled container twice. -/
def Objects.depth (σ : Objects) (v : Value) : Nat :=
  σ.foldl (fun total entry => total + shapeHeight entry.2 + 1) v.height

end DiscreetLog
