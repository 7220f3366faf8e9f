import DiscreetLog.Value

/-!
# The entries of a mapping

A mapping has each key once. Which keys are one is a question of what they say and not of their
class: numbers are one key when they are the same number – `1`, `true` and `1.0` are – tuples of
any class when their items are, and sets when each has the items of the other. A key that is met
again under its label is one key whatever it is. Nothing else makes one key of two numbers that
are not numbers, two failures, or two objects.

Giving a key that is there a new value keeps the key as it first came.
-/

namespace DiscreetLog

namespace Atom

/-- The number that a value is, as a fraction. -/
def fraction? : Atom → Option (Int × Nat)
  | .bool b => some (if b then 1 else 0, 1)
  | .int n => some (n, 1)
  | .level l => some (l.number, 1)
  | .float x => x.toFraction?
  | _ => none

/-- **Two values without content are the same key.** -/
def sameKey (a b : Atom) : Bool :=
  match a.fraction?, b.fraction? with
  | some (n, d), some (m, e) => n * e = m * d
  | none, none =>
    match a, b with
    | .float .nan, _ => false
    | .failure .., _ => false
    | .foreign .., _ => false
    | .moment m, .moment n =>
      if m.offset.isSome && n.offset.isSome then m.micros = n.micros else m = n
    | a, b => a = b
  | _, _ => false

end Atom

namespace Shape

/-- The items of a tuple of any class. -/
def tuple? {α : Type} : Shape α → Option (List α)
  | .tuple _ items => some items
  | .named _ fields => some (fields.map (·.2))
  | _ => none

end Shape

/-- Two occurrences have the same label. -/
def sameLabel (a b : Option Label) : Bool := a.isSome && a = b

mutual

/-- **Two values are the same key.** -/
def Value.sameKey : Value → Value → Bool
  | .atom l a, .atom m b => sameLabel l m || a.sameKey b
  | .node l s, .node m t => sameLabel l m || sameContent s t
  | v, w => sameLabel v.label? w.label?

/-- What two containers hold makes them the same key. -/
def sameContent : Shape Value → Shape Value → Bool
  | .tuple _ items, t => (t.tuple?.map (sameItems items)).getD false
  | .named _ fields, t => (t.tuple?.map (sameFields fields)).getD false
  | .attr key v, .attr otherKey w => key = otherKey && v.sameKey w
  | .site ⟨file, line, function⟩, .site other =>
    file.sameKey other.file && line.sameKey other.line && function.sameKey other.function
  | .set true items, .set true others =>
    items.length = others.length && allAmong items others
  | _, _ => false

/-- Items are the same keys one by one. -/
def sameItems : List Value → List Value → Bool
  | [], [] => true
  | v :: vs, w :: ws => v.sameKey w && sameItems vs ws
  | _, _ => false

/-- Named items are the same keys as other items one by one. -/
def sameFields : List (String × Value) → List Value → Bool
  | [], [] => true
  | (_, v) :: fields, w :: ws => v.sameKey w && sameFields fields ws
  | _, _ => false

/-- Each of some items is the same key as one among others. -/
def allAmong : List Value → List Value → Bool
  | [], _ => true
  | v :: vs, others => others.any (fun w => v.sameKey w) && allAmong vs others

end

namespace Value

/-- **A key is given a value** among some entries. -/
def assignEntry (key value : Value) : List (Value × Value) → List (Value × Value)
  | [] => [(key, value)]
  | (k, v) :: rest =>
    if k.sameKey key then (k, value) :: rest else (k, v) :: assignEntry key value rest

/-- **The entries of a mapping** that come of giving keys their values one after the other. -/
def entriesOf (pairs : List (Value × Value)) : List (Value × Value) :=
  pairs.foldl (fun entries p => assignEntry p.1 p.2 entries) []

/-- **The items of a set**: each of some values once, as it first came. -/
def distinct (items : List Value) : List Value :=
  items.foldl (fun kept v => if kept.any (·.sameKey v) then kept else kept ++ [v]) []

end Value

end DiscreetLog
