import DiscreetLog.Proofs.Masking.Blanks
import DiscreetLog.Proofs.Masking.Places

/-!
# What becomes of a container

One step of the walk makes a container anew: it keeps what the container is called and where
everything in it stands, and puts at each place the cover of the value there, or what the walk
makes of it. `Remade` says so shape by shape. This is all that a step can do, apart from giving an
object up that cannot be copied (`remade_of_container`, `Remade.container_eq`).

What stands at the places of the new container is then a matter of the places of the old one
(`Remade.places`): nothing in a container moves, appears or gets lost, and a container that is
no group does not become one. A sequence of a class that nests its items is the exception. It comes
out with a single item, and the places are those of that item (`Remade.exists_items`).
-/

namespace DiscreetLog

/-- An object that cannot be copied. Masking gives it up as a whole. A group is never copied. -/
def Objects.isUncopied (σ : Objects) (shape : Shape Value) : Bool :=
  match shape with
  | .object cls .. => (σ.group? shape).isNone && !cls.copies
  | _ => false

/-- A group is walked, whatever its class. -/
theorem Objects.isClosed_of_group? {σ : Objects} {shape : Shape Value} {as : List Attr}
    (hg : σ.group? shape = some as) : shape.isClosed = false := by
  cases shape with
  | set => cases hg
  | object cls slots base =>
    cases base with
    | bytes => cases hg
    | _ => rfl
  | _ => rfl

/-- A group is not given up, whatever its class. -/
theorem Objects.isUncopied_of_group? {σ : Objects} {shape : Shape Value} {as : List Attr}
    (hg : σ.group? shape = some as) : σ.isUncopied shape = false := by
  cases shape with
  | object => simp [isUncopied, hg]
  | _ => rfl

namespace Masking

variable (σ : Objects) (tokens : Tokens) (inside : Value → Noted Value)

/-- **What may stand at a place** where a value stood: its cover where the place is sensitive,
and else what it comes to. -/
def Put (p : Place) (v w : Value) : Prop :=
  if p.sensitive tokens then w = p.cover σ v else (inside v).result = .ok w

/-- **A container and the same container made anew.** -/
inductive Remade : Shape Value → Shape Value → Prop where
  /-- A group becomes a plain tuple. -/
  | group {shape : Shape Value} {as bs : List Attr} (hg : σ.group? shape = some as)
      (h : List.Forall₂ (fun a b => b.key = a.key
        ∧ Put σ tokens inside (.attr a.key) a.value b.value) as bs) :
      Remade shape (.tuple none (bs.map Attr.toValue))
  /-- A class that nests items is called on what they come to. -/
  | nested {shape : Shape Value} {vs ws : List Value} (hn : σ.nested? shape = some vs)
      (h : List.Forall₂ (Put σ tokens inside .item) vs ws) :
      Remade shape (shape.holding (.node none (.list none ws)))
  /-- A class that cannot be called on the items gives way to the built-in list. -/
  | list {cls : Option Subclass} {vs ws : List Value} (hn : Subclass.nests cls = false)
      (h : List.Forall₂ (Put σ tokens inside .item) vs ws) :
      Remade (.list cls vs) (.list (Subclass.kept cls) ws)
  | tuple {cls : Option Subclass} {vs ws : List Value}
      (hg : σ.group? (.tuple cls vs) = none) (hn : Subclass.nests cls = false)
      (h : List.Forall₂ (Put σ tokens inside .item) vs ws) :
      Remade (.tuple cls vs) (.tuple (Subclass.kept cls) ws)
  | named {cls : NamedClass Value} {fs gs : List (String × Value)}
      (hg : σ.group? (.named cls fs) = none)
      (h : List.Forall₂ (fun f g => g.1 = f.1
        ∧ Put σ tokens inside (.field [f.1]) f.2 g.2) fs gs) :
      Remade (.named cls fs) (.named cls gs)
  | mapping {kind : MappingKind} {es fs : List (Value × Value)} (hk : kind ≠ .uncopyable)
      (h : List.Forall₂ (fun e f => f.1 = e.1
        ∧ Put σ tokens inside (.entry e.1) e.2 f.2) es fs) :
      Remade (.mapping kind es) (.mapping kind.copied fs)
  /-- Every field of an object that is made anew has been read. The items that it has besides are
  not looked at. -/
  | object {cls : ObjectClass} {ss ts : List (Slot Value)} {base : Base Value}
      (hg : σ.group? (.object cls ss base) = none) (hc : cls.copies = true)
      (h : List.Forall₂ (fun s t => ∃ v w, s.value = some v ∧ t = { s with value := some w }
        ∧ Put σ tokens inside (.field s.names) v w) ss ts) :
      Remade (.object cls ss base) (.object cls ts base)
  | attr {key key' : String} {v w : Value}
      (hk : key' = if tokens.matchKey "key" then mask else key)
      (hv : Put σ tokens inside (.field ["value"]) v w) :
      Remade (.attr key v) (.attr key' w)
  | site {s t : Site Value} (hf : Put σ tokens inside (.field ["file"]) s.file t.file)
      (hl : Put σ tokens inside (.field ["line"]) s.line t.line)
      (hn : Put σ tokens inside (.field ["function"]) s.function t.function) :
      Remade (.site s) (.site t)
  | set {frozen : Bool} {items : List Value} : Remade (.set frozen items) (.set frozen items)

variable {σ tokens inside}

theorem entry_eq_ok {sensitive : Bool} {v w : Value} :
    (entry inside sensitive v).result = .ok w
      ↔ if sensitive then w = .text mask else (inside v).result = .ok w := by
  cases sensitive
  · rfl
  · simp [entry, eq_comm]

theorem field_eq_ok {names : List String} {v w : Value} :
    (field σ tokens inside names v).result = .ok w ↔ Put σ tokens inside (.field names) v w := by
  rw [field, Put, Place.sensitive_field]
  split
  · simp only [Noted.result_pure, Except.ok.injEq, Place.cover_field]
    exact eq_comm
  · rfl

variable (σ) in
theorem attrWith_eq_ok {a b : Attr} :
    (attrWith tokens inside a).result = .ok b
      ↔ b.key = a.key ∧ Put σ tokens inside (.attr a.key) a.value b.value := by
  obtain ⟨key, v⟩ := b
  simp only [attrWith, Noted.bind_eq_ok, Noted.pure_eq_ok, Attr.mk.injEq]
  constructor
  · rintro ⟨w, hw, rfl, rfl⟩
    exact ⟨rfl, entry_eq_ok.mp hw⟩
  · rintro ⟨rfl, hw⟩
    exact ⟨v, entry_eq_ok.mpr hw, rfl, rfl⟩

theorem slot_eq_ok {owner : String} {s t : Slot Value} :
    (slot σ tokens inside owner s).result = .ok t
      ↔ ∃ v w, s.value = some v ∧ t = { s with value := some w }
        ∧ Put σ tokens inside (.field s.names) v w := by
  unfold slot
  cases hs : s.value with
  | none => simp
  | some v =>
    simp only [Noted.bind_eq_ok, Noted.pure_eq_ok, field_eq_ok, Option.some.injEq]
    constructor
    · rintro ⟨w, hw, rfl⟩
      exact ⟨v, w, rfl, rfl, hw⟩
    · rintro ⟨_, w, rfl, rfl, hw⟩
      exact ⟨w, hw, rfl⟩

theorem rebuild_eq_ok {make : Option Subclass → List Value → Shape Value}
    {cls : Option Subclass} {items : List Value} :
    (rebuild make cls items).result = .ok (.node none
      (if Subclass.nests cls then make cls [.node none (.list none items)]
        else make (Subclass.kept cls) items)) := by
  cases cls with
  | none => rfl
  | some c =>
    obtain ⟨name, call⟩ := c
    cases call <;> rfl

theorem site_eq_ok {s t : Site Value} :
    (site σ tokens inside s).result = .ok t
      ↔ Put σ tokens inside (.field ["file"]) s.file t.file
        ∧ Put σ tokens inside (.field ["line"]) s.line t.line
        ∧ Put σ tokens inside (.field ["function"]) s.function t.function := by
  obtain ⟨file, line, function⟩ := t
  simp only [site, Noted.bind_eq_ok, Noted.pure_eq_ok, field_eq_ok, Site.mk.injEq]
  constructor
  · rintro ⟨_, hf, _, hl, _, hn, rfl, rfl, rfl⟩
    exact ⟨hf, hl, hn⟩
  · rintro ⟨hf, hl, hn⟩
    exact ⟨_, hf, _, hl, _, hn, rfl, rfl, rfl⟩

theorem fieldPair_eq_ok {f g : String × Value} :
    (do return (f.1, ← field σ tokens inside [f.1] f.2) : Noted (String × Value)).result = .ok g
      ↔ g.1 = f.1 ∧ Put σ tokens inside (.field [f.1]) f.2 g.2 := by
  obtain ⟨name, v⟩ := g
  simp only [Noted.bind_eq_ok, Noted.pure_eq_ok, field_eq_ok, Prod.mk.injEq]
  constructor
  · rintro ⟨w, hw, rfl, rfl⟩
    exact ⟨rfl, hw⟩
  · rintro ⟨rfl, hw⟩
    exact ⟨v, hw, rfl, rfl⟩

variable (σ) in
theorem entryPair_eq_ok {e f : Value × Value} :
    (do return (e.1, ← entry inside (tokens.matchValue e.1) e.2) : Noted (Value × Value)).result
        = .ok f
      ↔ f.1 = e.1 ∧ Put σ tokens inside (.entry e.1) e.2 f.2 := by
  obtain ⟨key, v⟩ := f
  simp only [Noted.bind_eq_ok, Noted.pure_eq_ok, entry_eq_ok, Prod.mk.injEq]
  constructor
  · rintro ⟨w, hw, rfl, rfl⟩
    exact ⟨rfl, hw⟩
  · rintro ⟨rfl, hw⟩
    exact ⟨v, hw, rfl, rfl⟩

/-- **A step of the walk makes a container anew**, or gives it up. -/
theorem remade_of_container {shape : Shape Value} {r : Value}
    (h : (container σ tokens inside shape).result = .ok r) :
    (σ.isUncopied shape = true ∧ r = .text mask)
      ∨ ∃ shape', r = .node none shape' ∧ Remade σ tokens inside shape shape' := by
  unfold container at h
  split at h
  · rename_i as hg
    obtain ⟨bs, hbs, rfl⟩ := Noted.map_eq_ok.mp h
    have hbs := (Noted.mapM_eq_ok.mp hbs).imp fun _ _ hb => (attrWith_eq_ok σ).mp hb
    exact .inr ⟨_, rfl, .group hg hbs⟩
  · rename_i hg
    cases shape with
    | list cls vs =>
      obtain ⟨ws, hws, hr⟩ := Noted.bind_eq_ok.mp h
      have hws := Noted.mapM_eq_ok.mp hws
      rw [rebuild_eq_ok, Except.ok.injEq] at hr
      refine .inr ⟨_, hr.symm, ?_⟩
      cases hn : Subclass.nests cls with
      | true =>
        have hnest : σ.nested? (.list cls vs) = some vs := by simp [Objects.nested?, hg, hn]
        exact .nested hnest hws
      | false => exact .list hn hws
    | tuple cls vs =>
      obtain ⟨ws, hws, hr⟩ := Noted.bind_eq_ok.mp h
      have hws := Noted.mapM_eq_ok.mp hws
      rw [rebuild_eq_ok, Except.ok.injEq] at hr
      refine .inr ⟨_, hr.symm, ?_⟩
      cases hn : Subclass.nests cls with
      | true =>
        have hnest : σ.nested? (.tuple cls vs) = some vs := by simp [Objects.nested?, hg, hn]
        exact .nested hnest hws
      | false => exact .tuple hg hn hws
    | named name fs =>
      obtain ⟨gs, hgs, rfl⟩ := Noted.map_eq_ok.mp h
      have hgs := (Noted.mapM_eq_ok.mp hgs).imp fun _ _ hg => fieldPair_eq_ok.mp hg
      exact .inr ⟨_, rfl, .named hg hgs⟩
    | mapping kind es =>
      cases kind with
      | uncopyable => cases h
      | plain | ordered | view =>
        obtain ⟨fs, hfs, rfl⟩ := Noted.map_eq_ok.mp h
        have hfs := (Noted.mapM_eq_ok.mp hfs).imp fun _ _ hf => (entryPair_eq_ok σ).mp hf
        exact .inr ⟨_, rfl, .mapping (by simp) hfs⟩
    | object cls ss base =>
      cases hc : cls.copies with
      | false =>
        simp only [hc, Bool.false_eq_true, if_false] at h
        cases h
        exact .inl ⟨by simp [Objects.isUncopied, hg, hc], rfl⟩
      | true =>
        simp only [hc, if_true] at h
        obtain ⟨ts, hts, rfl⟩ := Noted.map_eq_ok.mp h
        have hts := (Noted.mapM_eq_ok.mp hts).imp fun _ _ ht => slot_eq_ok.mp ht
        exact .inr ⟨_, rfl, .object hg hc hts⟩
    | attr key v =>
      obtain ⟨w, hw, rfl⟩ := Noted.map_eq_ok.mp h
      exact .inr ⟨_, rfl, .attr rfl (field_eq_ok.mp hw)⟩
    | site s =>
      obtain ⟨t, ht, rfl⟩ := Noted.map_eq_ok.mp h
      obtain ⟨hf, hl, hn⟩ := site_eq_ok.mp ht
      exact .inr ⟨_, rfl, .site hf hl hn⟩
    | set frozen items =>
      cases h
      exact .inr ⟨_, rfl, .set⟩

variable (σ tokens inside) in
/-- An object that cannot be copied is given up. -/
theorem container_of_isUncopied {shape : Shape Value} (hu : σ.isUncopied shape = true) :
    (container σ tokens inside shape).result = .ok (.text mask) := by
  cases shape with
  | object cls ss base =>
    obtain ⟨hg, hc⟩ : σ.group? (.object cls ss base) = none ∧ cls.copies = false := by
      simpa [Objects.isUncopied] using hu
    unfold container
    simp only [hg, hc, Bool.false_eq_true, if_false]
    rfl
  | _ => cases hu

/-- **Whatever a container may be made into anew, a step of the walk does make it into.** -/
theorem Remade.container_eq {shape shape' : Shape Value}
    (h : Remade σ tokens inside shape shape') :
    (container σ tokens inside shape).result = .ok (.node none shape') := by
  cases h with
  | @group _ as bs hg h =>
    unfold container
    simp only [hg]
    exact Noted.map_eq_ok.mpr ⟨bs, Noted.mapM_eq_ok.mpr
      (h.imp fun _ _ hb => (attrWith_eq_ok σ).mpr hb), rfl⟩
  | @nested _ vs ws hn h =>
    obtain ⟨hg, cls, hc, rfl | rfl⟩ := Objects.nested?_eq_some.mp hn
    · refine Noted.bind_eq_ok.mpr ⟨ws, Noted.mapM_eq_ok.mpr h, ?_⟩
      rw [rebuild_eq_ok, if_pos hc]
      rfl
    · unfold container
      simp only [hg]
      refine Noted.bind_eq_ok.mpr ⟨ws, Noted.mapM_eq_ok.mpr h, ?_⟩
      rw [rebuild_eq_ok, if_pos hc]
      rfl
  | @list cls vs ws hn h =>
    refine Noted.bind_eq_ok.mpr ⟨ws, Noted.mapM_eq_ok.mpr h, ?_⟩
    rw [rebuild_eq_ok, hn, if_neg Bool.false_ne_true]
  | @tuple cls vs ws hg hn h =>
    unfold container
    simp only [hg]
    refine Noted.bind_eq_ok.mpr ⟨ws, Noted.mapM_eq_ok.mpr h, ?_⟩
    rw [rebuild_eq_ok, hn, if_neg Bool.false_ne_true]
  | @named cls fs gs hg h =>
    unfold container
    simp only [hg]
    exact Noted.map_eq_ok.mpr ⟨gs, Noted.mapM_eq_ok.mpr
      (h.imp fun _ _ hg => fieldPair_eq_ok.mpr hg), rfl⟩
  | @mapping kind es fs hk h =>
    cases kind with
    | uncopyable => exact absurd rfl hk
    | plain | ordered | view =>
      exact Noted.map_eq_ok.mpr ⟨fs, Noted.mapM_eq_ok.mpr
        (h.imp fun _ _ hf => (entryPair_eq_ok σ).mpr hf), rfl⟩
  | @object cls ss ts base hg hc h =>
    unfold container
    simp only [hg, hc, if_true]
    exact Noted.map_eq_ok.mpr ⟨ts, Noted.mapM_eq_ok.mpr
      (h.imp fun _ _ ht => slot_eq_ok.mpr ht), rfl⟩
  | @attr key key' v w hk hv =>
    subst hk
    exact Noted.map_eq_ok.mpr ⟨w, field_eq_ok.mpr hv, rfl⟩
  | @site s t hf hl hn =>
    exact Noted.map_eq_ok.mpr ⟨t, site_eq_ok.mpr ⟨hf, hl, hn⟩, rfl⟩
  | set => rfl

/-- A container made anew was not given up. -/
theorem Remade.isUncopied_eq_false {shape shape' : Shape Value}
    (h : Remade σ tokens inside shape shape') :
    σ.isUncopied shape = false := by
  cases h with
  | group hg => exact Objects.isUncopied_of_group? hg
  | nested hn => obtain ⟨-, _, -, rfl | rfl⟩ := Objects.nested?_eq_some.mp hn <;> rfl
  | object _ hc => simp [Objects.isUncopied, hc]
  | _ => rfl

theorem Remade.isClosed_eq {shape shape' : Shape Value} (h : Remade σ tokens inside shape shape') :
    shape'.isClosed = shape.isClosed := by
  cases h with
  | group hg => exact (Objects.isClosed_of_group? hg).symm
  | nested hn => obtain ⟨-, _, -, rfl | rfl⟩ := Objects.nested?_eq_some.mp hn <;> rfl
  | @object _ _ _ base => cases base <;> rfl
  | _ => rfl

/-! ## The places of a container made anew -/

variable (σ) in
/-- **A walk that leaves atoms as they are and makes no attribute of anything else.** -/
structure Faithful (inside : Value → Noted Value) : Prop where
  atom : ∀ label a, (inside (.atom label a)).result = .ok (.atom label a)
  attr : ∀ v w, (inside v).result = .ok w → σ.attr? v = none → σ.attr? w = none

/-- A blank is no attribute. -/
theorem attr?_blank (v : Value) : σ.attr? (v.blank σ) = none := by
  have hshape (shape : Shape Value) : σ.attr? shape.blank = none := by
    rcases shape.blank_cases with hb | ⟨made, hb, hmade⟩ <;> rw [hb]
    · rfl
    · exact Option.eq_none_iff_forall_ne_some.mpr fun a ha => by
        obtain ⟨_, hc⟩ := Objects.attr?_eq_some.mp ha
        cases hc
        exact hmade _ _ rfl
  unfold Value.blank
  split
  · rfl
  · exact hshape _
  · split
    · exact hshape _
    · rfl

/-- What comes to stand at a place is no attribute, unless one stood there. -/
theorem Put.attr?_eq_none (hi : Faithful σ inside) {p : Place} {v w : Value}
    (h : Put σ tokens inside p v w) (hv : σ.attr? v = none) : σ.attr? w = none := by
  unfold Put at h
  split at h
  · subst h
    cases p with
    | field names => exact attr?_blank v
    | _ => rfl
  · exact hi.attr v w h hv

/-- **A container that is no group does not become one.** -/
theorem Remade.group?_eq_none (hi : Faithful σ inside) {shape shape' : Shape Value}
    (h : Remade σ tokens inside shape shape') (hg : σ.group? shape = none) :
    σ.group? shape' = none := by
  cases h with
  | group hg' =>
    rw [hg'] at hg
    cases hg
  | nested hn => exact Objects.group?_holding hn
  | tuple _ _ h =>
    obtain ⟨v, hv, hn⟩ := Objects.mapM_attr?_eq_none.mp hg
    obtain ⟨w, hw, hp⟩ := exists_mem_right h hv
    exact Objects.mapM_attr?_eq_none.mpr ⟨w, hw, hp.attr?_eq_none hi hn⟩
  | named _ h =>
    obtain ⟨f, hf, hn⟩ := Objects.mapM_attr?_eq_none.mp hg
    obtain ⟨g, hg, -, hp⟩ := exists_mem_right h hf
    exact Objects.mapM_attr?_eq_none.mpr ⟨g, hg, hp.attr?_eq_none hi hn⟩
  | object => exact (Objects.group?_object _ _ _ _ _).trans hg
  | _ => rfl

/-- **A sequence that does not nest its items** does not come to nest them. -/
theorem Remade.nested?_eq_none {shape shape' : Shape Value}
    (h : Remade σ tokens inside shape shape') (hn : σ.nested? shape = none) :
    σ.nested? shape' = none := by
  refine Option.eq_none_iff_forall_ne_some.mpr fun vs hv => ?_
  obtain ⟨hg', cls', hc', he⟩ := Objects.nested?_eq_some.mp hv
  cases h with
  | group hg =>
    rw [Objects.group?_toValue] at hg'
    cases hg'
  | nested hn' =>
    rw [hn'] at hn
    cases hn
  | list hc | tuple _ hc =>
    rcases he with he | he <;> cases he
    simp [Subclass.nests_kept, hc] at hc'
  | _ => rcases he with he | he <;> cases he

/-- **Nothing in a container moves, appears or gets lost.** The places of a container made anew
are those of the container, and at each of them stands what may stand there. -/
theorem Remade.places (hi : Faithful σ inside) {shape shape' : Shape Value}
    (h : Remade σ tokens inside shape shape') (hn : σ.nested? shape = none) :
    List.Forall₂ (fun p q => q.1 = p.1 ∧ Put σ tokens inside p.1 p.2 q.2)
      (σ.placesOf shape) (σ.placesOf shape') := by
  cases h with
  | @group _ as bs hg h =>
    simp only [Objects.placesOf, hg, Objects.group?_toValue, List.forall₂_map_left_iff,
      List.forall₂_map_right_iff]
    exact h.imp fun _ _ hput => ⟨by rw [hput.1], hput.2⟩
  | nested hn' =>
    rw [hn'] at hn
    cases hn
  | @list cls vs ws _ h =>
    simp only [Objects.placesOf, Objects.group?, List.forall₂_map_left_iff,
      List.forall₂_map_right_iff]
    exact h.imp fun _ _ hv => ⟨trivial, hv⟩
  | @tuple cls vs ws hg hc h =>
    -- were the new tuple a group, its places would be those of a group
    have hg' := (Remade.tuple hg hc h).group?_eq_none hi hg
    simp only [Objects.placesOf, hg, hg', List.forall₂_map_left_iff,
      List.forall₂_map_right_iff]
    exact h.imp fun _ _ hv => ⟨trivial, hv⟩
  | @named cls fs gs hg h =>
    have hg' := (Remade.named hg h).group?_eq_none hi hg
    simp only [Objects.placesOf, hg, hg', List.forall₂_map_left_iff,
      List.forall₂_map_right_iff]
    exact h.imp fun _ _ hput => ⟨by rw [hput.1], hput.2⟩
  | @mapping kind es fs hk h =>
    simp only [Objects.placesOf, Objects.group?, List.forall₂_map_left_iff,
      List.forall₂_map_right_iff]
    exact h.imp fun _ _ hput => ⟨by rw [hput.1], hput.2⟩
  | @object cls ss ts base hg hc h =>
    have hg' := (Objects.group?_object cls cls ts ss base).trans hg
    simp only [Objects.placesOf, hg, hg']
    have hslots : List.Forall₂ (fun p q => q.1 = p.1 ∧ Put σ tokens inside p.1 p.2 q.2)
        (ss.filterMap Slot.place?) (ts.filterMap Slot.place?) := by
      clear hg hg' hn
      induction h with
      | nil => exact .nil
      | cons hs _ ih =>
        obtain ⟨v, w, hv, rfl, hp⟩ := hs
        simp only [List.filterMap_cons, Slot.place?, hv, Option.map_some]
        exact .cons ⟨rfl, hp⟩ ih
    cases base with
    | bytes => exact .nil
    | _ => exact hslots
  | @attr key key' v w hk hv =>
    -- the key of an attribute is a text, so its cover is the mask
    refine .cons ⟨rfl, ?_⟩ (.cons ⟨rfl, hv⟩ .nil)
    rw [Put, hk]
    split
    · rename_i hs
      have hs : tokens.matchKey "key" = true := by simpa [Tokens.matchAny] using hs
      rw [hs]
      rfl
    · rename_i hs
      have hs : ¬ tokens.matchKey "key" = true := by simpa [Tokens.matchAny] using hs
      rw [if_neg hs]
      exact hi.atom _ _
  | @site s t hf hl hm => exact .cons ⟨rfl, hf⟩ (.cons ⟨rfl, hl⟩ (.cons ⟨rfl, hm⟩ .nil))
  | set => exact .nil

/-- **A group comes out as the plain group of its attributes**, each with what was put under its
key. -/
theorem Remade.exists_attrs {shape shape' : Shape Value} (h : Remade σ tokens inside shape shape')
    {as : List Attr} (hg : σ.group? shape = some as) :
    ∃ bs, shape' = .tuple none (bs.map Attr.toValue)
      ∧ List.Forall₂ (fun a b => b.key = a.key
        ∧ Put σ tokens inside (.attr a.key) a.value b.value) as bs := by
  cases h with
  | @group _ _ bs hg' h =>
    cases hg.symm.trans hg'
    exact ⟨bs, rfl, h⟩
  | nested hn =>
    rw [(Objects.nested?_eq_some.mp hn).1] at hg
    cases hg
  | tuple hg' | named hg' | object hg' =>
    rw [hg'] at hg
    cases hg
  | _ => cases hg

/-- **Whatever stands in a container made anew** was put where something stood before. -/
theorem Remade.exists_put (hi : Faithful σ inside) {shape shape' : Shape Value}
    (h : Remade σ tokens inside shape shape') (hn : σ.nested? shape = none) {p : Place} {w : Value}
    (hw : (p, w) ∈ σ.placesOf shape') :
    ∃ v, (p, v) ∈ σ.placesOf shape ∧ Put σ tokens inside p v w := by
  obtain ⟨⟨q, v⟩, hv, hq, hput⟩ := exists_mem_left (h.places hi hn) hw
  cases hq
  exact ⟨v, hv, hput⟩

/-- **A sequence that nests its items comes out with a single one**, the list of what the items
come to. -/
theorem Remade.exists_items {shape shape' : Shape Value}
    (h : Remade σ tokens inside shape shape') {vs : List Value}
    (hn : σ.nested? shape = some vs) :
    ∃ ws, shape' = shape.holding (.node none (.list none ws))
      ∧ List.Forall₂ (Put σ tokens inside .item) vs ws := by
  cases h with
  | @nested _ _ ws hn' h =>
    rw [hn'] at hn
    cases hn
    exact ⟨ws, rfl, h⟩
  | group hg => simp [Objects.nested?, hg] at hn
  | list hc => simp [Objects.nested?, Objects.group?, hc] at hn
  | tuple hg hc => simp [Objects.nested?, hg, hc] at hn
  | named hg | object hg => simp [Objects.nested?, hg] at hn
  | _ => cases hn

/-- **Something is put at every place of a container made anew**, where the place is in the new one
or in the single item of it. -/
theorem Remade.exists_put_of (hi : Faithful σ inside) {shape shape' : Shape Value}
    (h : Remade σ tokens inside shape shape') {p : Place × Value} (hp : p ∈ σ.placesOf shape) :
    ∃ w, Put σ tokens inside p.1 p.2 w := by
  cases hn : σ.nested? shape with
  | none =>
    obtain ⟨⟨_, w⟩, -, -, hput⟩ := exists_mem_right (h.places hi hn) hp
    exact ⟨w, hput⟩
  | some vs =>
    obtain ⟨ws, -, hws⟩ := h.exists_items hn
    rw [Objects.placesOf_of_nested? hn] at hp
    obtain ⟨v, hv, rfl⟩ := List.mem_map.mp hp
    obtain ⟨w, -, hput⟩ := exists_mem_right hws hv
    exact ⟨w, hput⟩

end Masking

end DiscreetLog
