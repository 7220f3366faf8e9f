import DiscreetLog.Proofs.Masking.Coverage
import DiscreetLog.Proofs.Rendering.Members

/-!
# What is rendered of a masked value

Masking and rendering go through a value each in its own way, and rendering goes further: it lists
the items of sets and those that an object has besides its fields, it shows keys of any class as
texts, and it lays out an attribute of a group inside a value as an object of two members. In these
places a member may have a sensitive name and show what it holds, since masking looks at none of
them. Every other member under a sensitive name is the mask, or shows the blank of the value that
stood there.

All of this is said of the value as it was before it was masked. `Stands` follows the path to a
member of the masked tree through that value, container by container, and says what stood at the
end of it; `Hidden` and `Exempt` say of the member what it shows and why.
-/

namespace DiscreetLog

open Json (Step)

namespace Masking

variable (σ : Objects) (tokens : Tokens)

/-- **A step into a value**, to what stands at a place that is not sensitive, by the path that it
takes in the masked tree. The value of an attribute of a group is a member of the object that the
attribute is laid out as, and the items of a sequence that nests them are one array further in. -/
inductive Descends : Value → List Step → Value → Prop where
  | part {v w : Value} {label : Option Label} {shape : Shape Value} {s : Step} {p : Place}
      (hc : σ.container? v = some (label, shape)) (hg : σ.group? shape = none)
      (hn : σ.nested? shape = none) (hu : shape.isUnmasked = false)
      (hp : σ.part? shape s = some (p, w)) (hs : p.sensitive tokens = false) : Descends v [s] w
  | attr {v : Value} {label : Option Label} {shape : Shape Value} {as : List Attr} {a : Attr}
      {i : Nat} (hc : σ.container? v = some (label, shape)) (hg : σ.group? shape = some as)
      (ha : as[i]? = some a) (hs : tokens.matchKey a.key = false) :
      Descends v [.item i, .member "value"] a.value
  | nested {v w : Value} {label : Option Label} {shape : Shape Value} {vs : List Value} {i : Nat}
      (hc : σ.container? v = some (label, shape)) (hn : σ.nested? shape = some vs)
      (hv : vs[i]? = some w) : Descends v [.item 0, .item i] w

/-- **What stands in a value**, by the path to it in the masked tree. -/
inductive Stands : Value → List Step → Value → Prop where
  | here {v : Value} : Stands v [] v
  | inside {v w u : Value} {front path : List Step} (h : Descends σ tokens v front w)
      (hs : Stands w path u) : Stands v (front ++ path) u

/-- **A member that is hidden**, by the path to the object it is in and its name: it is the mask, or
the tree of the blank of what stood in the field of that name. -/
def Hidden (v : Value) (path : List Step) (name : String) (u : Json) : Prop :=
  u = .text mask ∨ ∃ w label shape names x, Stands σ tokens v path w
    ∧ σ.container? w = some (label, shape) ∧ σ.group? shape = none
    ∧ σ.part? shape (.member name) = some (.field names, x) ∧ (x.blank σ).render σ = .ok u

/-- **A member in the tree of a container that masking is not made for**, by the path to the object
it is in and its name. -/
inductive Spared : Value → List Step → String → Prop where
  /-- In a set, in an object that is bytes, or among the items of one that has some besides its
  fields. -/
  | unmasked {v : Value} {label : Option Label} {shape : Shape Value} {path : List Step}
      {name : String} (hc : σ.container? v = some (label, shape)) (hg : σ.group? shape = none)
      (hu : shape.isUnmasked = true) : Spared v path name
  /-- The entry of a mapping whose key is no text but is shown as one. -/
  | shownKey {v key w : Value} {label : Option Label} {shape : Shape Value} {name : String}
      (hc : σ.container? v = some (label, shape))
      (hp : σ.part? shape (.member name) = some (.entry key, w))
      (hk : ∀ label s, key ≠ .atom label (.text s)) : Spared v [] name
  /-- One of the two members of an attribute of a group. -/
  | attr {v : Value} {label : Option Label} {shape : Shape Value} {as : List Attr} {a : Attr}
      {i : Nat} {name : String} (hc : σ.container? v = some (label, shape))
      (hg : σ.group? shape = some as) (ha : as[i]? = some a) (hn : name ∈ ["key", "value"]) :
      Spared v [.item i] name
  /-- Inside a blank. -/
  | inBlank {v w : Value} {label : Option Label} {shape : Shape Value} {s : Step} {p : Place}
      {path : List Step} {name : String} (hc : σ.container? v = some (label, shape))
      (hg : σ.group? shape = none) (hp : σ.part? shape s = some (p, w))
      (hb : p.blanked tokens = true) : Spared v (s :: path) name

/-- **A member that masking is not made for**, anywhere in a value. -/
def Exempt (v : Value) (path : List Step) (name : String) : Prop :=
  ∃ front rest w, path = front ++ rest ∧ Stands σ tokens v front w ∧ Spared σ tokens w rest name

/-- **A walk hides a member**, wherever the member stands in the tree of what the walk makes. -/
def Hides (inside : Value → Noted Value) (name : String) (u : Json) : Prop :=
  ∀ ⦃v r : Value⦄ ⦃k : Nat⦄ ⦃t : Json⦄ ⦃path : List Step⦄, (inside v).result = .ok r →
    σ.rank [] r ≤ k → r.renderFrom σ k [] = .ok t → t.At (path ++ [.member name]) u →
      Hidden σ tokens v path name u ∨ Exempt σ tokens v path name

variable {σ tokens} {v w : Value} {label : Option Label} {shape shape' : Shape Value}
  {front path : List Step} {name : String} {u : Json}

theorem Spared.exempt (h : Spared σ tokens v path name) : Exempt σ tokens v path name :=
  ⟨[], path, v, rfl, .here, h⟩

/-- What is said of what stands in a value is said of the value, further in. -/
theorem Descends.hidden_or_exempt (h : Descends σ tokens v front w)
    (hw : Hidden σ tokens w path name u ∨ Exempt σ tokens w path name) :
    Hidden σ tokens v (front ++ path) name u ∨ Exempt σ tokens v (front ++ path) name := by
  rcases hw with (rfl | ⟨x, l, s, names, y, hx, hrest⟩) | ⟨first, rest, x, rfl, hx, hs⟩
  · exact .inl (.inl rfl)
  · exact .inl (.inr ⟨x, l, s, names, y, .inside h hx, hrest⟩)
  · exact .inr ⟨front ++ first, rest, x, (List.append_assoc _ _ _).symm, .inside h hx, hs⟩

/-- A value is rendered alike wherever it fits in. -/
theorem render_of_renderFrom {left : Nat} {t : Json} (hl : σ.rank [] v ≤ left)
    (hr : v.renderFrom σ left [] = .ok t) : v.render σ = .ok t := by
  rw [Value.render, ← Objects.rank_nil, ← hr]
  exact Value.renderFrom_eq (Nat.le_refl _) hl

/-- The tree of an atom has no member anywhere. -/
theorem not_at_of_atom {label : Option Label} {a : Atom} {left : Nat} {t : Json}
    (hr : (Value.atom label a).renderFrom σ left [] = .ok t) :
    ¬ t.At (path ++ [.member name]) u := fun hat => by
  rw [Value.renderFrom_atom] at hr
  have hnil := hat.eq_nil (not_child_of_atom hr)
  exact absurd hnil (by simp)

/-- **A blank is rendered as a whole number only if it is `-1`**. -/
theorem eq_neg_one_of_render_blank {n : Int} (h : (v.blank σ).render σ = .ok (.int n)) :
    n = -1 := by
  -- a blank that is a container has the tree of one
  have hshape {shape : Shape Value} : shape.blank.render σ ≠ .ok (.int n) := by
    rcases shape.blank_cases with hb | ⟨made, hb, -⟩ <;> rw [hb]
    · rw [Value.render, Value.renderFrom_atom]
      nofun
    · intro h
      rw [Value.render, ← Objects.rank_nil, Objects.rank, Value.height, Nat.add_right_comm,
        Value.renderFrom_of_open rfl rfl] at h
      rcases Shape.array_or_object_of_render h with ⟨_, h⟩ | ⟨_, h⟩ <;> cases h
  cases v with
  | atom label a =>
    rw [Value.blank, Value.render, Value.renderFrom_atom] at h
    cases a with
    | int | level =>
      cases h
      rfl
    | bytes | failure =>
      obtain ⟨_, -, h⟩ := Results.map_eq_ok.mp h
      cases h
    | «foreign» text makes =>
      cases makes with
      | nothing => cases h
      | alike | numbered =>
        obtain ⟨_, -, h⟩ := Results.map_eq_ok.mp h
        cases h
    | _ => cases h
  | node label shape => exact absurd h hshape
  | shared l =>
    unfold Value.blank at h
    dsimp only at h
    split at h
    · exact absurd h hshape
    · rw [Value.render, Value.renderFrom_atom] at h
      cases h

/-! ## One container -/

section Step

variable {inside : Value → Noted Value}

/-- Of two lists that go together, what is found in one by something that they agree on is found in
the other. -/
theorem find?_reverse_of_forall₂ {α β : Type} {R : α → β → Prop} {xs : List α} {ys : List β}
    {f : α → Bool} {g : β → Bool} (h : List.Forall₂ R xs ys) (hfg : ∀ x y, R x y → f x = g y)
    {y : β} (hy : ys.reverse.find? g = some y) : ∃ x, xs.reverse.find? f = some x ∧ R x y := by
  replace h := List.forall₂_reverse_iff.mpr h
  generalize xs.reverse = xs, ys.reverse = ys at h hy ⊢
  induction h with
  | nil => cases hy
  | @cons x z xs ys hxz _ ih =>
    rw [List.find?_cons] at hy ⊢
    rw [hfg x z hxz]
    cases hz : g z with
    | true =>
      rw [hz] at hy
      cases hy
      exact ⟨x, rfl, hxz⟩
    | false =>
      rw [hz] at hy
      exact ih hy

/-- **A part of a container made anew was put where a part of the container stood**, by the same
step. -/
theorem Remade.part? (hi : Faithful σ inside) (h : Remade σ tokens inside shape shape')
    (hg : σ.group? shape = none) (hn : σ.nested? shape = none) (hu : shape.isUnmasked = false)
    {s : Step} {p : Place} {w' : Value} (hp : σ.part? shape' s = some (p, w')) :
    ∃ w, σ.part? shape s = some (p, w) ∧ Put σ tokens inside p w w' := by
  have item {vs ws : List Value} {i : Nat} (h : List.Forall₂ (Put σ tokens inside .item) vs ws)
      (hp : (ws[i]?.map fun v => (Place.item, v)) = some (p, w')) :
      ∃ w, (vs[i]?.map fun v => (Place.item, v)) = some (p, w) ∧ Put σ tokens inside p w w' := by
    obtain ⟨x, hx, he⟩ := Option.map_eq_some_iff.mp hp
    cases he
    obtain ⟨w, hw, hput⟩ := exists_getElem?_left h hx
    exact ⟨w, by rw [hw]; rfl, hput⟩
  cases h with
  | group hg' =>
    rw [hg'] at hg
    cases hg
  | nested hn' =>
    rw [hn'] at hn
    cases hn
  | list _ h | tuple _ _ h =>
    cases s with
    | item i => exact item h hp
    | member => cases hp
  | named _ h =>
    cases s with
    | member => cases hp
    | item i =>
      obtain ⟨f', hf', he⟩ := Option.map_eq_some_iff.mp hp
      cases he
      obtain ⟨f, hf, hname, hput⟩ := exists_getElem?_left h hf'
      rw [hname]
      exact ⟨f.2, by rw [Objects.part?, hf]; rfl, hput⟩
  | mapping _ h =>
    cases s with
    | item => cases hp
    | member name =>
      obtain ⟨e', he', he⟩ := Option.map_eq_some_iff.mp hp
      cases he
      obtain ⟨e, he, hkey, hput⟩ := find?_reverse_of_forall₂
        (f := fun e : Value × Value => decide ((e.1.display σ).toOption = some name)) h
        (fun e e' h => by rw [h.1]) he'
      rw [hkey]
      exact ⟨e.2, by rw [Objects.part?, he]; rfl, hput⟩
  | @object cls ss ts base _ _ h =>
    cases base with
    | bytes | items => cases hu
    | plain =>
      cases s with
      | item => cases hp
      | member name =>
        obtain ⟨t, ht, he⟩ := Option.bind_eq_some_iff.mp hp
        obtain ⟨s, hs, v, w, hv, rfl, hput⟩ := find?_reverse_of_forall₂
          (f := fun s : Slot Value => decide (some s.outputName = some name)) h
          (fun s t h => by obtain ⟨_, _, _, rfl, _⟩ := h; rfl) ht
        cases he
        exact ⟨v, by rw [Objects.part?, hs, Option.bind_some, Slot.place?, hv]; rfl, hput⟩
  | @attr key key' v w hk hv =>
    cases s with
    | item => cases hp
    | member name =>
      have hm := Ordered.mem_of_lookup hp
      simp only [List.mem_cons, Prod.mk.injEq, List.not_mem_nil, or_false] at hm
      rcases hm with ⟨rfl, rfl, rfl⟩ | ⟨rfl, rfl, rfl⟩
      · refine ⟨.text key, rfl, ?_⟩
        -- the key of an attribute is a text, so its cover is the mask
        have hs : (Place.field ["key"]).sensitive tokens = tokens.matchKey "key" := by
          simp [Tokens.matchAny]
        rw [Put, hk, hs]
        split
        · rfl
        · exact hi.atom _ _
      · exact ⟨v, rfl, hv⟩
  | site hf hl hm =>
    cases s with
    | item => cases hp
    | member name =>
      have hname := Ordered.mem_of_lookup hp
      simp only [List.mem_cons, Prod.mk.injEq, List.not_mem_nil, or_false] at hname
      rcases hname with ⟨rfl, rfl, rfl⟩ | ⟨rfl, rfl, rfl⟩ | ⟨rfl, rfl, rfl⟩
      · exact ⟨_, rfl, hf⟩
      · exact ⟨_, rfl, hl⟩
      · exact ⟨_, rfl, hm⟩
  | set => cases hu

/-- **A sensitive member of a container is hidden**, unless it is an entry whose key is no text. -/
theorem hidden_or_exempt_of_part? (hc : σ.container? v = some (label, shape))
    (hg : σ.group? shape = none) (hn : tokens.matchKey name = true) {p : Place} {w' : Value}
    (hp : σ.part? shape (.member name) = some (p, w)) (hput : Put σ tokens inside p w w')
    (hr : w'.render σ = .ok u) : Hidden σ tokens v [] name u ∨ Exempt σ tokens v [] name := by
  rcases Objects.name_of_part? hp with ⟨key, rfl, hd⟩ | ⟨names, rfl, hm⟩
  · by_cases hk : ∃ label s, key = .atom label (.text s)
    · obtain ⟨l, s, rfl⟩ := hk
      obtain rfl : s = name := Except.ok.inj hd
      have hs : tokens.matchValue (.atom l (.text s)) = true := hn
      rw [Put, Place.sensitive_entry, if_pos hs] at hput
      have hmask : w' = .text mask := hput
      rw [hmask, Value.render, Value.renderFrom_atom] at hr
      cases hr
      exact .inl (.inl rfl)
    · exact .inr (Spared.shownKey hc hp fun label s e => hk ⟨label, s, e⟩).exempt
  · have hs : tokens.matchAny names = true := List.any_eq_true.mpr ⟨name, hm, hn⟩
    rw [Put, Place.sensitive_field, if_pos hs, Place.cover_field] at hput
    subst hput
    exact .inl (.inr ⟨v, label, shape, names, w, .here, hc, hg, hp, hr⟩)

/-- The tree of an attribute. -/
theorem renderFrom_toValue {a : Attr} {left : Nat} :
    a.toValue.renderFrom σ (left + 1) [] = (do
      return .object [("key", .text a.key), ("value", ← a.value.renderFrom σ left [])]) := by
  rw [Attr.toValue, Value.renderFrom_of_open rfl rfl]
  rfl

/-- **In the tree of a group the members are those of its attributes**, which masking is not made
for, and what is in the trees of their values. -/
theorem hidden_or_exempt_of_attrs (hc : σ.container? v = some (label, shape)) {as bs : List Attr}
    (hg : σ.group? shape = some as) (hbs : List.Forall₂ (fun a b => b.key = a.key
      ∧ Put σ tokens inside (.attr a.key) a.value b.value) as bs) {left : Nat} {t : Json}
    (hl : ∀ b ∈ bs, σ.rank [] b.value < left)
    (hr : (Shape.tuple none (bs.map Attr.toValue)).render (Value.display σ)
      (Value.renderFrom σ left []) = .ok t)
    (hat : t.At (path ++ [.member name]) u)
    (hin : Hides σ tokens inside name u) :
    Hidden σ tokens v path name u ∨ Exempt σ tokens v path name := by
  obtain ⟨ts, hts, rfl⟩ := Results.map_eq_ok.mp hr
  obtain _ | ⟨s, path⟩ := path
  · obtain _ | ⟨hs, -⟩ := hat
    cases hs
  obtain _ | ⟨hs, hat⟩ := hat
  cases hs with
  | @item _ i _ hi =>
    obtain ⟨x, hx, hrx⟩ := exists_getElem?_left (Results.mapM_eq_ok.mp hts) hi
    rw [List.getElem?_map] at hx
    obtain ⟨b, hb, rfl⟩ := Option.map_eq_some_iff.mp hx
    obtain ⟨a, ha, -, hput⟩ := exists_getElem?_left hbs hb
    have hlb := hl b (List.mem_of_getElem? hb)
    obtain ⟨k, rfl⟩ := Nat.exists_eq_succ_of_ne_zero (Nat.ne_zero_of_lt hlb)
    rw [renderFrom_toValue] at hrx
    obtain ⟨tree, hrb, rfl⟩ := Results.map_eq_ok.mp hrx
    -- the step after the position is to one of the two members
    obtain _ | ⟨s, path⟩ := path
    · obtain _ | ⟨hm, -⟩ := hat
      cases hm with
      | member hm =>
        refine .inr (Spared.attr hc hg ha ?_).exempt
        simp only [List.mem_cons, Prod.mk.injEq, List.not_mem_nil, or_false] at hm
        rcases hm with ⟨rfl, -⟩ | ⟨rfl, -⟩ <;> simp
    obtain _ | ⟨hm, hat⟩ := hat
    cases hm with
    | member hm =>
      simp only [List.mem_cons, Prod.mk.injEq, List.not_mem_nil, or_false] at hm
      rcases hm with ⟨-, rfl⟩ | ⟨rfl, rfl⟩
      · exact absurd (hat.eq_nil nofun) (by simp)
      · cases hs : tokens.matchKey a.key with
        | true =>
          rw [Put, Place.sensitive_attr, if_pos hs] at hput
          rw [hput] at hrb
          exact absurd hat (not_at_of_atom hrb)
        | false =>
          rw [Put, Place.sensitive_attr, hs, if_neg Bool.false_ne_true] at hput
          exact (Descends.attr hc hg ha hs).hidden_or_exempt
            (hin hput (Nat.le_of_lt_succ hlb) hrb hat)

/-- **In the tree of a sequence that nests its items the members are those in their trees**, one
array further in. -/
theorem hidden_or_exempt_of_nested (hc : σ.container? v = some (label, shape)) {vs ws : List Value}
    (hn : σ.nested? shape = some vs) (hws : List.Forall₂ (Put σ tokens inside .item) vs ws)
    {left : Nat} {t : Json} (hl : ∀ w ∈ ws, σ.rank [] w < left)
    (hr : (shape.holding (.node none (.list none ws))).render (Value.display σ)
      (Value.renderFrom σ left []) = .ok t)
    (hat : t.At (path ++ [.member name]) u)
    (hin : Hides σ tokens inside name u) :
    Hidden σ tokens v path name u ∨ Exempt σ tokens v path name := by
  have hone : ∃ tree, (Value.node none (.list none ws)).renderFrom σ left [] = .ok tree
      ∧ t = .array [tree] := by
    obtain ⟨-, cls, -, rfl | rfl⟩ := Objects.nested?_eq_some.mp hn <;>
    · obtain ⟨ts, hts, rfl⟩ := Results.map_eq_ok.mp hr
      obtain _ | ⟨ht, hrest⟩ := Results.mapM_eq_ok.mp hts
      cases hrest
      exact ⟨_, ht, rfl⟩
  obtain ⟨tree, htree, rfl⟩ := hone
  -- first the single item, and then one of the items that are nested in it
  obtain _ | ⟨s, path⟩ := path
  · obtain _ | ⟨hs, -⟩ := hat
    cases hs
  obtain _ | ⟨hs, hat⟩ := hat
  cases hs with
  | @item _ i _ hi =>
    obtain ⟨rfl, rfl⟩ : i = 0 ∧ tree = _ := by
      cases i with
      | zero => exact ⟨rfl, Option.some.inj hi⟩
      | succ => cases hi
    cases left with
    | zero =>
      cases htree
      exact absurd (hat.eq_nil nofun) (by simp)
    | succ k =>
      rw [Value.renderFrom_of_open rfl rfl] at htree
      obtain ⟨ts, hts, rfl⟩ := Results.map_eq_ok.mp htree
      obtain _ | ⟨s, path⟩ := path
      · obtain _ | ⟨hs, -⟩ := hat
        cases hs
      obtain _ | ⟨hs, hat⟩ := hat
      cases hs with
      | item hi =>
        obtain ⟨w, hw, hrw⟩ := exists_getElem?_left (Results.mapM_eq_ok.mp hts) hi
        obtain ⟨x, hx, hput⟩ := exists_getElem?_left hws hw
        exact (Descends.nested hc hn hx).hidden_or_exempt
          (hin hput (Nat.le_of_lt_succ (hl w (List.mem_of_getElem? hw))) hrw hat)

/-- **In the tree of any other container a sensitive member is hidden**, unless its key is no text,
and what is in the trees of the parts is what is in the tree. -/
theorem hidden_or_exempt_of_parts (hi : Faithful σ inside)
    (hc : σ.container? v = some (label, shape)) (hg : σ.group? shape = none)
    (hnest : σ.nested? shape = none) (hu : shape.isUnmasked = false)
    (hm : Remade σ tokens inside shape shape') {left : Nat} {t : Json}
    (hl : ∀ s p w, σ.part? shape' s = some (p, w) → σ.rank [] w ≤ left)
    (hr : shape'.render (Value.display σ) (Value.renderFrom σ left []) = .ok t)
    (hat : t.At (path ++ [.member name]) u) (hn : tokens.matchKey name = true)
    (hin : Hides σ tokens inside name u) :
    Hidden σ tokens v path name u ∨ Exempt σ tokens v path name := by
  have hpart {s : Step} {w : Json} (h : t.Child s w) :=
    Objects.exists_part_of_child (fun key => Value.renderFrom_atom left [] none (.text key)) hr h
  cases path with
  | nil =>
    obtain _ | ⟨hs, hp⟩ := hat
    cases hp
    obtain ⟨p, w', hp', hrw⟩ := hpart hs
    obtain ⟨w, hp, hput⟩ := hm.part? hi hg hnest hu hp'
    exact hidden_or_exempt_of_part? hc hg hn hp hput
      (render_of_renderFrom (hl _ _ _ hp') hrw)
  | cons s path =>
    obtain _ | ⟨hs, hat⟩ := hat
    obtain ⟨p, w', hp', hrw⟩ := hpart hs
    obtain ⟨w, hp, hput⟩ := hm.part? hi hg hnest hu hp'
    cases hsens : p.sensitive tokens with
    | false =>
      rw [Put, hsens, if_neg Bool.false_ne_true] at hput
      exact (Descends.part hc hg hnest hu hp hsens).hidden_or_exempt
        (hin hput (hl _ _ _ hp') hrw hat)
    | true =>
      rw [Put, if_pos hsens] at hput
      cases p with
      -- inside a blank anything may be shown, since its class has put it there
      | field names => exact .inr (Spared.inBlank hc hg hp hsens).exempt
      | attr | entry | item =>
        subst hput
        exact absurd hat (not_at_of_atom hrw)

end Step

/-! ## The whole value -/

/-- What masking does not walk is a container that it does not look at, or its tree is not
entered. -/
theorem exempt_of_not_isWalked (hv : ¬ σ.IsWalked v) {left : Nat} {t : Json}
    (hr : v.renderFrom σ left [] = .ok t) (hat : t.At (path ++ [.member name]) u) :
    Exempt σ tokens v path name := by
  cases hc : σ.container? v with
  | some found =>
    obtain ⟨label, shape⟩ := found
    have hs : shape.isClosed = true := Bool.not_eq_false _ |>.mp fun hs => hv ⟨label, shape, hc, hs⟩
    have hg : σ.group? shape = none := Option.eq_none_iff_forall_ne_some.mpr fun as hg => by
      rw [Objects.isClosed_of_group? hg] at hs
      cases hs
    refine (Spared.unmasked hc hg ?_).exempt
    cases shape with
    | object cls ss base =>
      cases base with
      | bytes => rfl
      | _ => cases hs
    | set => rfl
    | _ => cases hs
  | none =>
    cases v with
    | atom label a => exact absurd hat (not_at_of_atom hr)
    | node => cases hc
    | shared l =>
      rw [Value.renderFrom_shared_of_none (Option.map_eq_none_iff.mp hc)] at hr
      cases hr
      exact absurd (hat.eq_nil nofun) (by simp)

/-- **What is rendered of a masked value is hidden under a sensitive name**, outside the places that
masking is not made for. -/
theorem hidden_or_exempt {left k : Nat} {around : List Label} {r : Value} {t : Json}
    (h : (walk σ tokens left around v).result = .ok r) (hl : σ.rank [] r ≤ k)
    (hr : r.renderFrom σ k [] = .ok t) (hat : t.At (path ++ [.member name]) u)
    (hn : tokens.matchKey name = true) :
    Hidden σ tokens v path name u ∨ Exempt σ tokens v path name := by
  have hmask (hr : (Value.text mask).renderFrom σ k [] = .ok t) :
      Hidden σ tokens v path name u ∨ Exempt σ tokens v path name := absurd hat (not_at_of_atom hr)
  -- each container that is walked takes up one of the depth that is left
  induction left generalizing around v r k t path with
  | zero =>
    rcases walk_cases h with ⟨hv, rfl⟩ | ⟨label, shape, -, -, ⟨-, rfl⟩ | ⟨_, h0, -⟩⟩
    · exact .inr (exempt_of_not_isWalked hv hr hat)
    · exact hmask hr
    · cases h0
  | succ left ih =>
    rcases walk_cases h with ⟨hv, rfl⟩ | ⟨label, shape, hc, -, ⟨-, rfl⟩ | ⟨n, hn', -, hmade⟩⟩
    · exact .inr (exempt_of_not_isWalked hv hr hat)
    · exact hmask hr
    cases hn'
    rcases remade_of_container hmade with ⟨-, rfl⟩ | ⟨shape', rfl, hm⟩
    · exact hmask hr
    have hi : Faithful σ (walk σ tokens left (label.toList ++ around)) := faithful_walk _ _
    rw [Objects.rank, Value.height] at hl
    obtain ⟨m, rfl⟩ := Nat.exists_eq_succ_of_ne_zero (show k ≠ 0 by omega)
    rw [Value.renderFrom_of_open rfl rfl, Option.toList_none, List.nil_append] at hr
    have hheld {w : Value} (hw : w ∈ shape'.held) : σ.rank [] w ≤ m := by
      have hh := height_le_shapeHeight hw
      rw [Objects.rank]
      omega
    have hin : Hides σ tokens (walk σ tokens left (label.toList ++ around)) name u :=
      fun _ _ _ _ _ h hl hr hat => ih h hl hr hat fun hr => absurd hat (not_at_of_atom hr)
    cases hg : σ.group? shape with
    | some as =>
      obtain ⟨bs, rfl, hbs⟩ := hm.exists_attrs hg
      refine hidden_or_exempt_of_attrs hc hg hbs (fun b hb => ?_) hr hat hin
      have hb := hheld (List.mem_map_of_mem hb)
      rw [Objects.rank, Attr.toValue, Value.height, shapeHeight] at hb
      rw [Objects.rank]
      omega
    | none =>
      cases hnest : σ.nested? shape with
      | some vs =>
        obtain ⟨ws, rfl, hws⟩ := hm.exists_items hnest
        refine hidden_or_exempt_of_nested hc hnest hws (fun w hw => ?_) hr hat hin
        have hone : Value.node none (.list none ws)
            ∈ (shape.holding (.node none (.list none ws))).held := by
          obtain ⟨-, _, -, rfl | rfl⟩ := Objects.nested?_eq_some.mp hnest <;>
            exact List.mem_singleton_self _
        have hlist := hheld hone
        have hh : w.height ≤ shapeHeight (.list none ws) := height_le_shapeHeight hw
        rw [Objects.rank, Value.height] at hlist
        rw [Objects.rank]
        omega
      | none =>
        cases hu : shape.isUnmasked with
        | true => exact .inr (Spared.unmasked hc hg hu).exempt
        | false =>
          refine hidden_or_exempt_of_parts hi hc hg hnest hu hm (fun s p w hp => ?_) hr hat hn hin
          have hh := Objects.height_le_of_part? hp
          rw [Objects.rank]
          omega

end Masking

end DiscreetLog
