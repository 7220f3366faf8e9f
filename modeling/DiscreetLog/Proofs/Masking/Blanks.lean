import DiscreetLog.Value.Blank

/-!
# Blanks of blanks

A blank is what a class makes from nothing, so the blank of a blank is what the class makes the next
time. The two are the same where the class makes the same each time. An empty container, a zero and
the mask are made so, but a class may number what it makes, or put something else into a field of
every object: such a class is not *steady*, and the blank of its blank is another value.
-/

namespace DiscreetLog

/-- A class makes the same each time. -/
def Maker.Steady : Maker → Prop
  | .numbered .. => False
  | _ => True

/-- Whatever objects are made, they hold the same in the field. -/
def Slot.Steady {α : Type} (s : Slot α) : Prop :=
  ∀ held, s.initial = some held → ∀ n, held n = held 0

/-- The class of a container makes the same each time. -/
def Shape.Steady {α : Type} : Shape α → Prop
  | .object _ slots _ => ∀ s ∈ slots, s.Steady
  | _ => True

/-- The blank of a container is null, or a container made anew, which is no attribute. -/
theorem Shape.blank_cases (shape : Shape Value) :
    shape.blank = .null
      ∨ ∃ made, shape.blank = .node none made ∧ ∀ key v, made ≠ .attr key v := by
  unfold blank
  split <;> (try unfold emptySequence) <;> (try split) <;> simp

/-- **The class of a value makes the same each time.** -/
def Value.Steady (σ : Objects) : Value → Prop
  | .atom _ (.foreign _ makes) => makes.Steady
  | .atom .. => True
  | .node _ shape => shape.Steady
  | .shared l => ∀ shape, σ.shape? l = some shape → shape.Steady

/-- A field of which every object holds the same is made once more as it is. -/
theorem Slot.Steady.fresh_fresh {α : Type} {s : Slot α} (hs : s.Steady) :
    s.fresh.fresh = s.fresh := by
  obtain ⟨name, otherName, json, initial, value⟩ := s
  cases initial with
  | none => rfl
  | some held =>
    have hheld (n : Nat) : held n = held 0 := hs held rfl n
    simp only [fresh, Option.map_some, hheld]

/-- What a steady class makes is made once more as it is. -/
theorem Maker.Steady.blank_made {makes : Maker} (hs : makes.Steady) :
    makes.made.blank = makes.made := by
  cases makes with
  | nothing | alike => rfl
  | numbered => cases hs

variable {σ : Objects}

/-- The blank of a sequence without items is the sequence. -/
theorem blank_emptySequence {make : Option Subclass → List Value → Shape Value}
    (hmake : ∀ cls items, (make cls items).blank = Shape.emptySequence make cls)
    (cls : Option Subclass) :
    (Shape.emptySequence make cls).blank σ = Shape.emptySequence make cls := by
  unfold Shape.emptySequence
  split
  · rfl
  · rename_i hc
    rw [Value.blank, hmake, Shape.emptySequence, if_neg hc]

/-- The blank of an object is a fresh one, where its class makes one. -/
theorem blank_object (cls : ObjectClass) (slots : List (Slot Value)) (base : Base Value) :
    (Shape.object cls slots base).blank
      = if slots.all (·.initial.isSome) then
          .node none (.object cls (slots.map Slot.fresh) base.empty)
        else .null := rfl

/-- The blank of a named tuple holds what its class has for the fields. -/
theorem blank_named (cls : NamedClass Value) (fields : List (String × Value)) :
    (Shape.named cls fields).blank = if cls.defaults.length = fields.length then
        .node none (.named cls (List.zipWith (fun f v => (f.1, v)) fields cls.defaults))
      else .null := rfl

/-- Giving fields their values once more changes nothing. -/
theorem zipWith_zipWith_fields (fields : List (String × Value)) (vs : List Value) :
    List.zipWith (fun f v => (f.1, v)) (List.zipWith (fun f v => (f.1, v)) fields vs) vs
      = List.zipWith (fun f v => (f.1, v)) fields vs := by
  induction fields generalizing vs with
  | nil => rfl
  | cons f fields ih =>
    cases vs with
    | nil => rfl
    | cons v vs =>
      simp only [List.zipWith_cons_cons]
      rw [ih]

/-- The blank of a container of a steady class is its own blank. -/
theorem Shape.Steady.blank_blank {shape : Shape Value} (hs : shape.Steady) :
    shape.blank.blank σ = shape.blank := by
  cases shape with
  | list cls items => exact blank_emptySequence (fun _ _ => rfl) cls
  | tuple cls items => exact blank_emptySequence (fun _ _ => rfl) cls
  | named cls fields =>
    rw [blank_named]
    split
    · rename_i hl
      rw [Value.blank, blank_named, zipWith_zipWith_fields, if_pos]
      rw [List.length_zipWith, hl, Nat.min_self]
    · rfl
  | mapping kind entries => cases kind <;> rfl
  | object cls slots base =>
    have hf : (slots.map Slot.fresh).map Slot.fresh = slots.map Slot.fresh := by
      rw [List.map_map]
      exact List.map_congr_left fun s hm => (hs s hm).fresh_fresh
    have ha : (slots.map Slot.fresh).all (·.initial.isSome) = slots.all (·.initial.isSome) := by
      rw [List.all_map]
      exact congrArg slots.all (funext fun s => Option.isSome_map)
    have hb : base.empty.empty = base.empty := by cases base <;> rfl
    rw [blank_object]
    split
    · rename_i h
      rw [Value.blank, blank_object, ha, if_pos h, hf, hb]
    · rfl
  | attr key v => rfl
  | site s => rfl
  | set frozen items => rfl

/-- The blank of what is behind a label. -/
theorem blank_shared (l : Label) :
    (Value.shared l).blank σ = ((σ.shape? l).map Shape.blank).getD .null := by
  rw [Value.blank]
  cases σ.shape? l <;> rfl

/-- **The blank of a value of a steady class is its own blank.** -/
theorem Value.Steady.blank_blank {v : Value} (hs : v.Steady σ) :
    (v.blank σ).blank σ = v.blank σ := by
  cases v with
  | atom label a =>
    cases a with
    | foreign text makes => exact congrArg (Value.atom none) (Maker.Steady.blank_made hs)
    | _ => rfl
  | node label shape => exact Shape.Steady.blank_blank hs
  | shared l =>
    rw [blank_shared]
    cases h : σ.shape? l with
    | none => rfl
    | some shape => exact (hs shape h).blank_blank

/-- A class that numbers what it makes makes another object each time. -/
example : (Maker.numbered "n" 0).made.blank ≠ (Maker.numbered "n" 0).made := by decide

end DiscreetLog
