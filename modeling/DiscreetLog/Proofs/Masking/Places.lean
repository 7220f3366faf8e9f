import DiscreetLog.Masking
import DiscreetLog.Proofs.Results

/-!
# Places

What masking knows of a value inside a container is where it stands: under the key of an
attribute, under a key of a mapping, in a field, or among the items of a sequence. The kind of
the place and what it is called decide whether the value is sensitive, and what is put over it.
`Objects.places` lists the places of a container with what stands there, so that a statement
about all containers is one about their places, whatever class they have.

A set has no places. It is not walked, and neither is what is inside it. The same goes for an
object that is bytes, and for the items that another object has besides its fields.
-/

namespace DiscreetLog

/-- **A place in a container.** -/
inductive Place where
  /-- Under the key of an attribute of a group. -/
  | attr (key : String)
  /-- Under a key of a mapping. -/
  | entry (key : Value)
  /-- In a field of an object or of a named tuple, which goes by these names. -/
  | field (names : List String)
  /-- Among the items of a list or a tuple. -/
  | item

namespace Place

/-- **A sensitive place**: one of the names it goes by is. -/
def sensitive (tokens : Tokens) : Place → Bool
  | attr key => tokens.matchKey key
  | entry key => tokens.matchValue key
  | field names => tokens.matchAny names
  | item => false

/-- **What masking puts over a value** that stands in a sensitive place. -/
def cover (σ : Objects) (v : Value) : Place → Value
  | field _ => v.blank σ
  | _ => .text mask

variable {σ : Objects} {tokens : Tokens} {v : Value}

@[simp] theorem sensitive_attr (key : String) :
    (attr key).sensitive tokens = tokens.matchKey key := rfl

@[simp] theorem sensitive_entry (key : Value) :
    (entry key).sensitive tokens = tokens.matchValue key := rfl

@[simp] theorem sensitive_field (names : List String) :
    (field names).sensitive tokens = tokens.matchAny names := rfl

@[simp] theorem cover_field (names : List String) : (field names).cover σ v = v.blank σ := rfl

end Place

/-- **A class that nests items** that it is called on: it makes a sequence of the list of them. -/
def Subclass.nests (cls : Option Subclass) : Bool := cls.any (·.call = .nested)

/-- The class that is left of a sequence: its own, unless that cannot be called on items. -/
def Subclass.kept (cls : Option Subclass) : Option Subclass := cls.filter (·.call ≠ .refused)

/-- The class that is left nests items if it was one that does. -/
theorem Subclass.nests_kept (cls : Option Subclass) : nests (kept cls) = nests cls := by
  cases cls with
  | none => rfl
  | some c =>
    obtain ⟨name, call⟩ := c
    cases call <;> rfl

/-- A sequence of the same class with a single item. -/
def Shape.holding {α : Type} (item : α) : Shape α → Shape α
  | .list cls _ => .list cls [item]
  | .tuple cls _ => .tuple cls [item]
  | shape => shape

/-- The place that a field is, where it holds something. -/
def Slot.place? (s : Slot Value) : Option (Place × Value) :=
  s.value.map fun v => (.field s.names, v)

namespace Objects

variable (σ : Objects)

/-- **The places of a container**, in order, with what stands there. -/
def placesOf (shape : Shape Value) : List (Place × Value) :=
  match σ.group? shape with
  | some attrs => attrs.map fun a => (.attr a.key, a.value)
  | none =>
    match shape with
    | .list _ items | .tuple _ items => items.map fun v => (.item, v)
    | .named _ fields => fields.map fun f => (.field [f.1], f.2)
    | .mapping _ entries => entries.map fun e => (.entry e.1, e.2)
    | .set .. | .object _ _ (.bytes _) => []
    | .object _ slots _ => slots.filterMap Slot.place?
    | .attr key v => [(.field ["key"], .text key), (.field ["value"], v)]
    | .site s => [(.field ["file"], s.file), (.field ["line"], s.line),
        (.field ["function"], s.function)]

/-- **The items of a sequence that nests them** when it is made anew: it comes out with a single
item, which is the list of them. A group is no such sequence, whatever its class. -/
def nested? (shape : Shape Value) : Option (List Value) :=
  match σ.group? shape with
  | some _ => none
  | none =>
    match shape with
    | .list cls items | .tuple cls items => if Subclass.nests cls then some items else none
    | _ => none

/-- **A value nests its items**: it is a sequence that does. -/
def nests (v : Value) : Bool :=
  match σ.container? v with
  | some (_, shape) => (σ.nested? shape).isSome
  | none => false

/-- **The places of a value**: those of the container that it is. -/
def places (v : Value) : List (Place × Value) :=
  match σ.container? v with
  | some (_, shape) => σ.placesOf shape
  | none => []

/-- **A value that masking walks**: any container but a set and an object that is bytes. -/
def IsWalked (v : Value) : Prop :=
  ∃ label shape, σ.container? v = some (label, shape) ∧ shape.isClosed = false

variable {σ}

@[simp] theorem places_node (label : Option Label) (shape : Shape Value) :
    σ.places (.node label shape) = σ.placesOf shape := rfl

@[simp] theorem nests_node (label : Option Label) (shape : Shape Value) :
    σ.nests (.node label shape) = (σ.nested? shape).isSome := rfl

theorem places_of_container {v : Value} {label : Option Label} {shape : Shape Value}
    (h : σ.container? v = some (label, shape)) : σ.places v = σ.placesOf shape := by
  rw [places, h]

/-- A container with places is walked. -/
theorem isClosed_of_mem_placesOf {shape : Shape Value} {p : Place × Value}
    (hp : p ∈ σ.placesOf shape) : shape.isClosed = false := by
  cases shape with
  | set frozen items => exact absurd hp (by simp [placesOf, group?])
  | object cls slots base =>
    cases base with
    | bytes bs => exact absurd hp (by simp [placesOf, group?])
    | _ => rfl
  | _ => rfl

/-- **What has places is walked.** -/
theorem isWalked_of_mem_places {v : Value} {p : Place × Value} (hp : p ∈ σ.places v) :
    σ.IsWalked v := by
  unfold places at hp
  split at hp
  · rename_i label shape h
    exact ⟨label, shape, h, isClosed_of_mem_placesOf hp⟩
  · cases hp

/-- An atom is not walked. -/
theorem not_isWalked_atom (label : Option Label) (a : Atom) : ¬ σ.IsWalked (.atom label a) := by
  rintro ⟨_, _, h, -⟩
  cases h

/-! ## Groups -/

@[simp] theorem attr?_toValue (a : Attr) : σ.attr? a.toValue = some a := rfl

/-- **A value is an attribute** when the container that it is is one. -/
theorem attr?_eq_some {v : Value} {a : Attr} :
    σ.attr? v = some a ↔ ∃ label, σ.container? v = some (label, .attr a.key a.value) := by
  unfold attr?
  split
  · rename_i label key value h
    obtain ⟨k, w⟩ := a
    simp [h]
  · rename_i h
    simp only [reduceCtorEq, false_iff, not_exists]
    intro label hv
    exact h _ _ _ hv

/-- **Attributes put together to a group are the attributes of that group.** -/
@[simp] theorem group?_toValue (cls : Option Subclass) (attrs : List Attr) :
    σ.group? (.tuple cls (attrs.map Attr.toValue)) = some attrs := by
  unfold group?
  induction attrs with
  | nil => rfl
  | cons a attrs ih =>
    simp only [List.map_cons, List.mapM_cons, attr?_toValue, ih]
    rfl

/-- Items among which there is one that is no attribute make no group. -/
theorem mapM_attr?_eq_none {α : Type} {f : α → Value} {items : List α} :
    (items.mapM fun x => σ.attr? (f x)) = none ↔ ∃ x ∈ items, σ.attr? (f x) = none := by
  induction items with
  | nil => simp
  | cons x items ih =>
    rw [List.mapM_cons]
    cases hx : σ.attr? (f x) with
    | none => simp [hx]
    | some a =>
      cases hr : items.mapM fun x => σ.attr? (f x) with
      | none =>
        obtain ⟨y, hy, hn⟩ := ih.mp hr
        simpa using .inr ⟨y, hy, hn⟩
      | some attrs =>
        have hne : ¬ ∃ y ∈ items, σ.attr? (f y) = none := fun h => by
          rw [ih.mpr h] at hr
          cases hr
        simpa [hx] using hne

/-- An object is a group for what it is besides, whatever its fields hold. -/
theorem group?_object (cls cls' : ObjectClass) (ss ts : List (Slot Value)) (base : Base Value) :
    σ.group? (.object cls ss base) = σ.group? (.object cls' ts base) := by
  cases base with
  | items kind items => cases kind <;> rfl
  | _ => rfl

/-- What an object that is walked holds in a field stands there. -/
theorem mem_placesOf_object {cls : ObjectClass} {ss : List (Slot Value)} {base : Base Value}
    (hg : σ.group? (.object cls ss base) = none)
    (hs : (Shape.object cls ss base).isClosed = false) {s : Slot Value} (hm : s ∈ ss) {v : Value}
    (hv : s.value = some v) : (.field s.names, v) ∈ σ.placesOf (.object cls ss base) := by
  have hplace : (.field s.names, v) ∈ ss.filterMap Slot.place? :=
    List.mem_filterMap.mpr ⟨s, hm, by rw [Slot.place?, hv]; rfl⟩
  simp only [placesOf, hg]
  cases base with
  | bytes => cases hs
  | _ => exact hplace

/-! ## Sequences that nest their items -/

/-- **What a sequence is that nests its items.** -/
theorem nested?_eq_some {shape : Shape Value} {vs : List Value} :
    σ.nested? shape = some vs ↔ σ.group? shape = none
      ∧ ∃ cls, Subclass.nests cls = true ∧ (shape = .list cls vs ∨ shape = .tuple cls vs) := by
  cases hg : σ.group? shape with
  | some as => simp [nested?, hg]
  | none =>
    simp only [nested?, hg, true_and]
    cases shape with
    | list cls items =>
      cases hc : Subclass.nests cls <;> simp [hc]
    | tuple cls items =>
      cases hc : Subclass.nests cls <;> simp [hc]
    | _ => simp

/-- A sequence whose single item is a list is no group. -/
theorem group?_holding {shape : Shape Value} {vs ws : List Value}
    (hn : σ.nested? shape = some vs) :
    σ.group? (shape.holding (.node none (.list none ws))) = none := by
  obtain ⟨-, cls, -, rfl | rfl⟩ := nested?_eq_some.mp hn <;> rfl

/-- **A sequence that nests its items nests them again** when it has been made anew. -/
theorem nested?_holding {shape : Shape Value} {vs ws : List Value}
    (hn : σ.nested? shape = some vs) :
    σ.nested? (shape.holding (.node none (.list none ws))) = some [.node none (.list none ws)] := by
  obtain ⟨-, cls, hc, rfl | rfl⟩ := nested?_eq_some.mp hn
  · exact nested?_eq_some.mpr ⟨rfl, cls, hc, .inl rfl⟩
  · exact nested?_eq_some.mpr ⟨rfl, cls, hc, .inr rfl⟩

/-- The one place of a sequence that has been made anew with a single item. -/
theorem placesOf_holding {shape : Shape Value} {vs ws : List Value}
    (hn : σ.nested? shape = some vs) :
    σ.placesOf (shape.holding (.node none (.list none ws)))
      = [(.item, .node none (.list none ws))] := by
  obtain ⟨-, cls, -, rfl | rfl⟩ := nested?_eq_some.mp hn <;> rfl

/-- The places of a sequence that nests its items are the items. -/
theorem placesOf_of_nested? {shape : Shape Value} {vs : List Value}
    (hn : σ.nested? shape = some vs) : σ.placesOf shape = vs.map fun v => (.item, v) := by
  obtain ⟨hg, cls, -, rfl | rfl⟩ := nested?_eq_some.mp hn
  · rfl
  · simp only [placesOf, hg]

end Objects

end DiscreetLog
