import DiscreetLog.Proofs.Masking.Places
import DiscreetLog.Proofs.Ordered
import DiscreetLog.Proofs.Rendering.Depth

/-!
# Where the parts of a tree come from

A tree is entered step by step, by the position of an item or by the name of a member. Each step
into the tree of a container leads to the tree of something that stands in the container, and
`Objects.part?` says at which place: a member of an object is the field that is rendered under
that name, a member of a mapping the entry whose key is shown as it, the last one where there are
several.
-/

namespace DiscreetLog

namespace Json

/-- **A step into a tree.** -/
inductive Step where
  | item (position : Nat)
  | member (name : String)

/-- **A step leads from a tree to another one.** -/
inductive Child : Json → Step → Json → Prop where
  | item {items : List Json} {i : Nat} {u : Json} (h : items[i]? = some u) :
      Child (.array items) (.item i) u
  | member {members : List (String × Json)} {name : String} {u : Json}
      (h : (name, u) ∈ members) : Child (.object members) (.member name) u

/-- **A path leads from a tree to another one.** -/
inductive At : Json → List Step → Json → Prop where
  | here {t : Json} : At t [] t
  | step {t u w : Json} {s : Step} {path : List Step} (hs : Child t s u) (hp : At u path w) :
      At t (s :: path) w

/-- A tree that is no array and no object is not entered. -/
theorem At.eq_nil {t u : Json} {path : List Step} (h : At t path u)
    (ht : ∀ s u, ¬ Child t s u) : path = [] := by
  cases h with
  | here => rfl
  | step hs => exact absurd hs (ht _ _)

end Json

/-- The tree of an atom is not entered. -/
theorem not_child_of_atom {a : Atom} {t : Json} (h : a.render = .ok t) (s : Json.Step)
    (u : Json) : ¬ t.Child s u := by
  cases a with
  | bytes | failure | foreign =>
    obtain ⟨said, -, rfl⟩ := Results.map_eq_ok.mp h
    nofun
  | _ =>
    cases h
    nofun

/-- **The tree of a container** is an array or an object. -/
theorem Shape.array_or_object_of_render {shape : Shape Value}
    {name : Value → Except Failure String} {inside : Value → Except Failure Json} {t : Json}
    (h : shape.render name inside = .ok t) :
    (∃ items, t = .array items) ∨ ∃ members, t = .object members := by
  cases shape with
  | list | tuple | named | set =>
    obtain ⟨items, -, rfl⟩ := Results.map_eq_ok.mp h
    exact .inl ⟨items, rfl⟩
  | mapping | attr =>
    obtain ⟨_, -, rfl⟩ := Results.map_eq_ok.mp h
    exact .inr ⟨_, rfl⟩
  | object cls slots base =>
    cases base with
    | items =>
      obtain ⟨items, -, rfl⟩ := Results.map_eq_ok.mp h
      exact .inl ⟨items, rfl⟩
    | plain | bytes =>
      obtain ⟨_, -, rfl⟩ := Results.map_eq_ok.mp h
      exact .inr ⟨_, rfl⟩
  | site s =>
    obtain ⟨_, -, h⟩ := Results.bind_eq_ok.mp h
    obtain ⟨_, -, h⟩ := Results.bind_eq_ok.mp h
    obtain ⟨_, -, rfl⟩ := Results.map_eq_ok.mp h
    exact .inr ⟨_, rfl⟩

/-- A container of which something is rendered that masking does not look at: it is not walked, or
it is an object with items besides its fields. -/
def Shape.isUnmasked {α : Type} : Shape α → Bool
  | .set .. | .object _ _ (.bytes _) | .object _ _ (.items ..) => true
  | _ => false

namespace Objects

variable (σ : Objects)

/-- **What a step into the tree of a container leads to**: a value in the container, with the
place where it stands. The items of a set and those that an object has besides its fields are taken
for items here, though masking does not look at them. -/
def part? : Shape Value → Json.Step → Option (Place × Value)
  | .list _ items, .item i | .tuple _ items, .item i | .set _ items, .item i
  | .object _ _ (.items _ items), .item i => items[i]?.map fun v => (.item, v)
  | .named _ fields, .item i => fields[i]?.map fun f => (.field [f.1], f.2)
  | .mapping _ entries, .member name =>
    (entries.reverse.find? fun e => (e.1.display σ).toOption = some name).map
      fun e => (.entry e.1, e.2)
  | .object _ slots .plain, .member name | .object _ slots (.bytes _), .member name =>
    (slots.reverse.find? fun s => some s.outputName = some name).bind Slot.place?
  | .attr key v, .member name =>
    [("key", (.field ["key"], .text key)), ("value", (.field ["value"], v))].lookup name
  | .site s, .member name =>
    [("file", (.field ["file"], s.file)), ("line", (.field ["line"], s.line)),
      ("function", (.field ["function"], s.function))].lookup name
  | _, _ => none

variable {σ}

/-- **The parts of a container are held by it**, its key apart if it is an attribute. -/
theorem mem_held_of_part? {shape : Shape Value} {s : Json.Step} {p : Place} {v : Value}
    (h : σ.part? shape s = some (p, v)) : v ∈ shape.held ∨ ∃ key, v = .text key := by
  have item {items : List Value} {i : Nat}
      (h : (items[i]?.map fun v => (Place.item, v)) = some (p, v)) : v ∈ items := by
    obtain ⟨w, hw, he⟩ := Option.map_eq_some_iff.mp h
    cases he
    exact List.mem_of_getElem? hw
  have slot {slots : List (Slot Value)} {name : String}
      (h : (slots.reverse.find? fun s => some s.outputName = some name).bind Slot.place?
        = some (p, v)) : v ∈ slots.filterMap (·.value) := by
    obtain ⟨s, hs, hp⟩ := Option.bind_eq_some_iff.mp h
    obtain ⟨w, hw, he⟩ := Option.map_eq_some_iff.mp hp
    cases he
    exact List.mem_filterMap.mpr ⟨s, List.mem_reverse.mp (List.mem_of_find?_eq_some hs), hw⟩
  unfold part? at h
  split at h
  · exact .inl (item h)
  · exact .inl (item h)
  · exact .inl (item h)
  · exact .inl (item h)
  · obtain ⟨f, hf, he⟩ := Option.map_eq_some_iff.mp h
    cases he
    exact .inl (List.mem_map_of_mem (List.mem_of_getElem? hf))
  · obtain ⟨e, hm, he⟩ := Option.map_eq_some_iff.mp h
    cases he
    exact .inl (List.mem_map_of_mem (List.mem_reverse.mp (List.mem_of_find?_eq_some hm)))
  · exact .inl (slot h)
  · exact .inl (slot h)
  · have hm := Ordered.mem_of_lookup h
    simp only [List.mem_cons, Prod.mk.injEq, List.not_mem_nil, or_false] at hm
    rcases hm with ⟨-, -, rfl⟩ | ⟨-, -, rfl⟩
    · exact .inr ⟨_, rfl⟩
    · exact .inl (List.mem_singleton.mpr rfl)
  · have hm := Ordered.mem_of_lookup h
    simp only [List.mem_cons, Prod.mk.injEq, List.not_mem_nil, or_false] at hm
    rcases hm with ⟨-, -, rfl⟩ | ⟨-, -, rfl⟩ | ⟨-, -, rfl⟩ <;> exact .inl (by simp [Shape.held])
  · cases h

/-- A part of a container is not higher than the container. -/
theorem height_le_of_part? {shape : Shape Value} {s : Json.Step} {p : Place} {v : Value}
    (h : σ.part? shape s = some (p, v)) : v.height ≤ shapeHeight shape := by
  rcases mem_held_of_part? h with hv | ⟨key, rfl⟩
  · exact height_le_shapeHeight hv
  · exact Nat.zero_le _

/-- The name of a field in structured output is one that the field is known by. -/
theorem outputName_mem_names (s : Slot Value) : s.outputName ∈ s.names := by
  obtain ⟨name, otherName, json, initial, value⟩ := s
  simp only [Slot.outputName, Slot.names, List.foldl_cons, List.foldl_nil]
  by_cases ho : otherName = "" <;> by_cases hj : json = "" <;> simp [ho, hj] <;> grind

/-- **What a member is called**: an entry by its key, and a field by one of its names. -/
theorem name_of_part? {shape : Shape Value} {name : String} {p : Place} {v : Value}
    (h : σ.part? shape (.member name) = some (p, v)) :
    (∃ key, p = .entry key ∧ key.display σ = .ok name)
      ∨ ∃ names, p = .field names ∧ name ∈ names := by
  cases shape with
  | mapping kind es =>
    obtain ⟨e, he, hp⟩ := Option.map_eq_some_iff.mp h
    cases hp
    refine .inl ⟨e.1, rfl, ?_⟩
    have hn := List.find?_some he
    cases hd : e.1.display σ with
    | error failure => simp [hd, Except.toOption] at hn
    | ok shown => simpa [hd, Except.toOption] using hn
  | object cls ss base =>
    cases base with
    | items => cases h
    | plain | bytes =>
      obtain ⟨s, hs, hp⟩ := Option.bind_eq_some_iff.mp h
      obtain ⟨w, -, hp⟩ := Option.map_eq_some_iff.mp hp
      cases hp
      have hn := List.find?_some hs
      refine .inr ⟨s.names, rfl, ?_⟩
      rw [← Option.some.inj (of_decide_eq_true hn)]
      exact outputName_mem_names s
  | attr key w =>
    have hm := Ordered.mem_of_lookup h
    simp only [List.mem_cons, Prod.mk.injEq, List.not_mem_nil, or_false] at hm
    rcases hm with ⟨rfl, rfl, -⟩ | ⟨rfl, rfl, -⟩ <;> exact .inr ⟨_, rfl, List.mem_singleton_self _⟩
  | site s =>
    have hm := Ordered.mem_of_lookup h
    simp only [List.mem_cons, Prod.mk.injEq, List.not_mem_nil, or_false] at hm
    rcases hm with ⟨rfl, rfl, -⟩ | ⟨rfl, rfl, -⟩ | ⟨rfl, rfl, -⟩ <;>
      exact .inr ⟨_, rfl, List.mem_singleton_self _⟩
  | _ => cases h

/-- **Every step into the tree of a container leads to the tree of a part of it.** -/
theorem exists_part_of_child {inside : Value → Except Failure Json}
    (hk : ∀ key, inside (.text key) = .ok (.text key)) {shape : Shape Value} {t u : Json}
    {s : Json.Step} (h : shape.render (Value.display σ) inside = .ok t) (hc : t.Child s u) :
    ∃ p w, σ.part? shape s = some (p, w) ∧ inside w = .ok u := by
  have item {vs : List Value} {ts : List Json} {i : Nat} (hts : vs.mapM inside = .ok ts)
      (hi : ts[i]? = some u) :
      ∃ w, (vs[i]?.map fun v => (Place.item, v)) = some (.item, w) ∧ inside w = .ok u := by
    obtain ⟨v, hv, hr⟩ := exists_getElem?_left (Results.mapM_eq_ok.mp hts) hi
    exact ⟨v, by rw [hv]; rfl, hr⟩
  have slot {ss : List (Slot Value)} {ms : List (String × Json)} {name : String}
      (hms : List.Forall₂ (fun s m => m.1 = s.outputName
        ∧ ∃ v, s.value = some v ∧ inside v = .ok m.2) ss ms)
      (hm : (name, u) ∈ Ordered.ofPairs ms) :
      ∃ p w, (ss.reverse.find? fun s => some s.outputName = some name).bind Slot.place?
        = some (p, w) ∧ inside w = .ok u := by
    have hms : List.Forall₂ (fun s m => some s.outputName = some m.1
        ∧ ∃ v, s.value = some v ∧ inside v = .ok m.2) ss ms :=
      hms.imp fun s m h => ⟨congrArg some h.1.symm, h.2⟩
    obtain ⟨s, hs, v, hv, hr⟩ := Ordered.find?_of_mem_ofPairs
      (fun s : Slot Value => some s.outputName)
      (fun s u => ∃ v, s.value = some v ∧ inside v = .ok u) hms hm
    refine ⟨.field s.names, v, ?_, hr⟩
    rw [hs, Option.bind_some, Slot.place?, hv]
    rfl
  cases shape with
  | list cls vs | tuple cls vs | set frozen vs =>
    obtain ⟨ts, hts, rfl⟩ := Results.map_eq_ok.mp h
    cases hc with
    | item hi =>
      obtain ⟨w, hw, hr⟩ := item hts hi
      exact ⟨.item, w, hw, hr⟩
  | named name fs =>
    obtain ⟨ts, hts, rfl⟩ := Results.map_eq_ok.mp h
    cases hc with
    | item hi =>
      obtain ⟨f, hf, hr⟩ := exists_getElem?_left (Results.mapM_eq_ok.mp hts) hi
      exact ⟨.field [f.1], f.2, by rw [part?, hf]; rfl, hr⟩
  | mapping kind es =>
    obtain ⟨ms, hms, rfl⟩ := render_mapping_eq_ok.mp h
    have hms : List.Forall₂ (fun e m => (e.1.display σ).toOption = some m.1
        ∧ inside e.2 = .ok m.2) es ms := hms.imp fun e m h => ⟨by rw [h.1]; rfl, h.2⟩
    cases hc with
    -- of the entries that are shown under one name the last one is the member
    | @member _ name _ hm =>
      obtain ⟨e, he, hr⟩ := Ordered.find?_of_mem_ofPairs
        (fun e : Value × Value => (e.1.display σ).toOption) (fun e u => inside e.2 = .ok u) hms hm
      exact ⟨.entry e.1, e.2, by rw [part?, he]; rfl, hr⟩
  | object cls ss base =>
    cases base with
    | items kind vs =>
      obtain ⟨ts, hts, rfl⟩ := Results.map_eq_ok.mp h
      cases hc with
      | item hi =>
        obtain ⟨w, hw, hr⟩ := item hts hi
        exact ⟨.item, w, hw, hr⟩
    | plain | bytes =>
      obtain ⟨ms, hms, rfl⟩ := (render_object_eq_ok (by simp)).mp h
      cases hc with
      | member hm => exact slot hms hm
  | attr key v =>
    obtain ⟨u, hu, rfl⟩ := Results.map_eq_ok.mp h
    cases hc with
    | member hm =>
      simp only [List.mem_cons, Prod.mk.injEq, List.not_mem_nil, or_false] at hm
      rcases hm with ⟨rfl, rfl⟩ | ⟨rfl, rfl⟩
      · exact ⟨_, _, rfl, hk key⟩
      · exact ⟨_, _, rfl, hu⟩
  | site s =>
    obtain ⟨file, hf, h⟩ := Results.bind_eq_ok.mp h
    obtain ⟨line, hl, h⟩ := Results.bind_eq_ok.mp h
    obtain ⟨function, hn, rfl⟩ := Results.map_eq_ok.mp h
    cases hc with
    | member hm =>
      simp only [List.mem_cons, Prod.mk.injEq, List.not_mem_nil, or_false] at hm
      rcases hm with ⟨rfl, rfl⟩ | ⟨rfl, rfl⟩ | ⟨rfl, rfl⟩
      · exact ⟨_, _, rfl, hf⟩
      · exact ⟨_, _, rfl, hl⟩
      · exact ⟨_, _, rfl, hn⟩

end Objects

end DiscreetLog
