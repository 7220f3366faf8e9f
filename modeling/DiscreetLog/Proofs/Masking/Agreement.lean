import DiscreetLog.Proofs.Masking.Walk

/-!
# What masking hides

Two values *agree* when they differ in hidden places only: a sensitive place holds any two values
that are covered alike, and everywhere else the two are the same, container by container. Under
a key this means any two values whatever, in a field any two with the same blank. Agreeing values
are masked alike – the notes that are made and a failure included – so nothing that is hidden
leaves a trace in what comes out.

Two values may each contain themselves, and what each is made of may be called differently.
Agreement therefore asks of labels only what decides how the values unfold: a container is met
inside itself in both or in neither. `AgreeTo` follows the two as deep as a given number of
containers, and `Agree` any number deep.
-/

namespace DiscreetLog

namespace Masking

variable (σ : Objects) (tokens : Tokens)

section Relation

variable (R : Value → Value → Prop)

/-- **Two values may stand at a place**: they are covered alike where it is sensitive, and
related where it is not. -/
def AgreeAt (p : Place) (v w : Value) : Prop :=
  if p.sensitive tokens then p.cover σ v = p.cover σ w else R v w

/-- **Two fields of an object** with the same declaration, which both hold something or both do
not. -/
def SlotsAgree (s t : Slot Value) : Prop :=
  { s with value := none } = { t with value := none }
    ∧ Option.Rel (AgreeAt σ tokens R (.field s.names)) s.value t.value

/-- **Two containers of the same class** with the same places, where values stand that may stand
there. A group is one whatever its class. -/
inductive ShapesAgree : Shape Value → Shape Value → Prop where
  | group {shape shape' : Shape Value} {as bs : List Attr} (hg : σ.group? shape = some as)
      (hg' : σ.group? shape' = some bs)
      (h : List.Forall₂ (fun a b => a.key = b.key
        ∧ AgreeAt σ tokens R (.attr a.key) a.value b.value) as bs) :
      ShapesAgree shape shape'
  | list {cls : Option Subclass} {vs ws : List Value} (h : List.Forall₂ R vs ws) :
      ShapesAgree (.list cls vs) (.list cls ws)
  | tuple {cls : Option Subclass} {vs ws : List Value} (hg : σ.group? (.tuple cls vs) = none)
      (hg' : σ.group? (.tuple cls ws) = none) (h : List.Forall₂ R vs ws) :
      ShapesAgree (.tuple cls vs) (.tuple cls ws)
  | named {cls : NamedClass Value} {fs gs : List (String × Value)}
      (hg : σ.group? (.named cls fs) = none) (hg' : σ.group? (.named cls gs) = none)
      (h : List.Forall₂ (fun f g => f.1 = g.1
        ∧ AgreeAt σ tokens R (.field [f.1]) f.2 g.2) fs gs) :
      ShapesAgree (.named cls fs) (.named cls gs)
  | mapping {kind : MappingKind} {es fs : List (Value × Value)}
      (h : List.Forall₂ (fun e f => e.1 = f.1
        ∧ AgreeAt σ tokens R (.entry e.1) e.2 f.2) es fs) :
      ShapesAgree (.mapping kind es) (.mapping kind fs)
  /-- What objects are besides is the same. -/
  | object {cls : ObjectClass} {ss ts : List (Slot Value)} {base : Base Value}
      (hg : σ.group? (.object cls ss base) = none)
      (h : List.Forall₂ (SlotsAgree σ tokens R) ss ts) :
      ShapesAgree (.object cls ss base) (.object cls ts base)
  | attr {key key' : String} {v w : Value} (hk : tokens.matchKey "key" = false → key = key')
      (hv : AgreeAt σ tokens R (.field ["value"]) v w) :
      ShapesAgree (.attr key v) (.attr key' w)
  | site {s t : Site Value} (hf : AgreeAt σ tokens R (.field ["file"]) s.file t.file)
      (hl : AgreeAt σ tokens R (.field ["line"]) s.line t.line)
      (hn : AgreeAt σ tokens R (.field ["function"]) s.function t.function) :
      ShapesAgree (.site s) (.site t)

end Relation

/-- **Two values agree as deep as a number of containers**, given the labels of the containers
around each of them: neither is walked and they are one value, both are met inside themselves,
or neither is and they agree as containers. -/
def AgreeTo : Nat → List Label → List Label → Value → Value → Prop
  | 0, _, _, _, _ => True
  | n + 1, around, around', v, w =>
    (¬ σ.IsWalked v ∧ v = w)
      ∨ ∃ label shape label' shape', σ.container? v = some (label, shape)
        ∧ σ.container? w = some (label', shape') ∧ shape.isClosed = false ∧ shape'.isClosed = false
        ∧ label.any around.contains = label'.any around'.contains
        ∧ (label.any around.contains = false →
          ShapesAgree σ tokens (AgreeTo n (label.toList ++ around) (label'.toList ++ around'))
            shape shape')

/-- **Two values agree.** -/
def Agree (v w : Value) : Prop := ∀ n, AgreeTo σ tokens n [] [] v w

/-- **Two attribute lists agree**: they have the same keys, and under each of them values that
may stand there. -/
def AttrsAgree (as bs : List Attr) : Prop :=
  List.Forall₂ (fun a b => a.key = b.key
    ∧ AgreeAt σ tokens (Agree σ tokens) (.attr a.key) a.value b.value) as bs

variable {σ tokens}

section Refl

variable {R : Value → Value → Prop}

theorem agreeAt_of_sensitive {p : Place} {v w : Value} (hs : p.sensitive tokens = true) :
    AgreeAt σ tokens R p v w ↔ p.cover σ v = p.cover σ w := by
  rw [AgreeAt, if_pos hs]

theorem agreeAt_of_not_sensitive {p : Place} {v w : Value} (hs : p.sensitive tokens = false) :
    AgreeAt σ tokens R p v w ↔ R v w := by
  rw [AgreeAt, hs, if_neg Bool.false_ne_true]

theorem agreeAt_refl (hR : ∀ v, R v v) (p : Place) (v : Value) : AgreeAt σ tokens R p v v := by
  cases hs : p.sensitive tokens with
  | true => exact (agreeAt_of_sensitive hs).mpr rfl
  | false => exact (agreeAt_of_not_sensitive hs).mpr (hR v)

theorem shapesAgree_refl (hR : ∀ v, R v v) {shape : Shape Value} (hs : shape.isClosed = false) :
    ShapesAgree σ tokens R shape shape := by
  cases hg : σ.group? shape with
  | some as => exact .group hg hg (List.forall₂_same.mpr fun _ _ => ⟨rfl, agreeAt_refl hR _ _⟩)
  | none =>
    cases shape with
    | list cls vs => exact .list (List.forall₂_same.mpr fun v _ => hR v)
    | tuple cls vs => exact .tuple hg hg (List.forall₂_same.mpr fun v _ => hR v)
    | named name fs =>
      exact .named hg hg (List.forall₂_same.mpr fun _ _ => ⟨rfl, agreeAt_refl hR _ _⟩)
    | mapping kind es =>
      exact .mapping (List.forall₂_same.mpr fun _ _ => ⟨rfl, agreeAt_refl hR _ _⟩)
    | object cls ss base =>
      refine .object hg (List.forall₂_same.mpr fun s _ => ⟨rfl, ?_⟩)
      cases s.value with
      | none => exact .none
      | some v => exact .some (agreeAt_refl hR _ v)
    | attr key v => exact .attr (fun _ => rfl) (agreeAt_refl hR _ _)
    | site s => exact .site (agreeAt_refl hR _ _) (agreeAt_refl hR _ _) (agreeAt_refl hR _ _)
    | set => cases hs

theorem agreeTo_refl (n : Nat) (around : List Label) (v : Value) :
    AgreeTo σ tokens n around around v v := by
  induction n generalizing around v with
  | zero => trivial
  | succ n ih =>
    by_cases hv : σ.IsWalked v
    · obtain ⟨label, shape, hc, hs⟩ := hv
      exact .inr ⟨label, shape, label, shape, hc, hc, hs, hs, rfl,
        fun _ => shapesAgree_refl (fun w => ih _ w) hs⟩
    · exact .inl ⟨hv, rfl⟩

/-- **A value agrees with itself**, whatever it holds. -/
theorem Agree.refl (v : Value) : Agree σ tokens v v := fun n => agreeTo_refl n [] v

end Refl

/-! ## One step -/

section Step

variable {R : Value → Value → Prop} {inside inside' : Value → Noted Value}

theorem entry_congr (hi : ∀ v w, R v w → inside v = inside' w) {p : Place}
    {v w : Value} (h : AgreeAt σ tokens R p v w) :
    entry inside (p.sensitive tokens) v = entry inside' (p.sensitive tokens) w := by
  unfold entry
  split
  · rfl
  · rename_i hs
    exact hi v w ((agreeAt_of_not_sensitive (Bool.eq_false_iff.mpr hs)).mp h)

theorem field_congr (hi : ∀ v w, R v w → inside v = inside' w) {names : List String}
    {v w : Value} (h : AgreeAt σ tokens R (.field names) v w) :
    field σ tokens inside names v = field σ tokens inside' names w := by
  unfold field
  split
  · rename_i hs
    have hb : v.blank σ = w.blank σ := (agreeAt_of_sensitive (p := .field names) hs).mp h
    rw [hb]
  · rename_i hs
    have hs : (Place.field names).sensitive tokens = false := Bool.eq_false_iff.mpr hs
    exact hi v w ((agreeAt_of_not_sensitive hs).mp h)

theorem attrWith_congr (hi : ∀ v w, R v w → inside v = inside' w) {a b : Attr}
    (hk : a.key = b.key) (h : AgreeAt σ tokens R (.attr a.key) a.value b.value) :
    attrWith tokens inside a = attrWith tokens inside' b := by
  have he := entry_congr hi h
  rw [Place.sensitive_attr] at he
  rw [attrWith, attrWith, he, hk]

theorem slot_congr (hi : ∀ v w, R v w → inside v = inside' w) (owner : String)
    {s t : Slot Value} (h : SlotsAgree σ tokens R s t) :
    slot σ tokens inside owner s = slot σ tokens inside' owner t := by
  obtain ⟨name, otherName, json, initial, value⟩ := s
  obtain ⟨name', otherName', json', initial', value'⟩ := t
  obtain ⟨hd, hv⟩ := h
  obtain ⟨rfl, rfl, rfl, rfl, -⟩ := Slot.mk.inj hd
  cases hv with
  | none => rfl
  | some hv =>
    exact congrArg (fun x : Noted Value => do
      return (⟨name, otherName, json, initial, some (← x)⟩ : Slot Value)) (field_congr hi hv)

/-- **A step of the walk makes the same of containers that agree**, if what it makes of related
values is the same. -/
theorem container_congr (hi : ∀ v w, R v w → inside v = inside' w) {shape shape' : Shape Value}
    (h : ShapesAgree σ tokens R shape shape') :
    container σ tokens inside shape = container σ tokens inside' shape' := by
  cases h with
  | group hg hg' h =>
    unfold container
    rw [hg, hg']
    dsimp only
    have hm := mapM_congr (f := attrWith tokens inside) (g := attrWith tokens inside')
      (h.imp fun a b hab => attrWith_congr hi hab.1 hab.2)
    rw [hm]
  | list h =>
    simp only [container, Objects.group?]
    rw [mapM_congr (h.imp hi)]
  | tuple hg hg' h =>
    unfold container
    rw [hg, hg']
    dsimp only
    rw [mapM_congr (h.imp hi)]
  | named hg hg' h =>
    unfold container
    rw [hg, hg']
    dsimp only
    have hm := mapM_congr (f := fun f => do return (f.1, ← field σ tokens inside [f.1] f.2))
      (g := fun f => do return (f.1, ← field σ tokens inside' [f.1] f.2))
      (h.imp fun f g hfg => by
        rw [← hfg.1]
        rw [field_congr hi hfg.2])
    rw [hm]
  | @mapping kind es fs h =>
    have hm := mapM_congr (f := fun e => do
        return (e.1, ← entry inside (tokens.matchValue e.1) e.2)) (g := fun e => do
        return (e.1, ← entry inside' (tokens.matchValue e.1) e.2))
      (h.imp fun e f hef => by
        have he := entry_congr hi hef.2
        rw [Place.sensitive_entry] at he
        rw [he, hef.1])
    cases kind with
    | uncopyable => rfl
    | plain | ordered | view =>
      simp only [container, Objects.group?]
      rw [hm]
  | @object cls ss ts base hg h =>
    have hg' := (Objects.group?_object cls cls ts ss base).trans hg
    simp only [container, hg, hg']
    rw [mapM_congr (h.imp fun _ _ hs => slot_congr hi cls.name hs)]
  | @attr key key' v w hk hv =>
    simp only [container, Objects.group?]
    rw [field_congr hi hv]
    split
    · rfl
    · rename_i hs
      rw [hk (Bool.eq_false_iff.mpr hs)]
  | site hf hl hn =>
    simp only [container, Objects.group?, site]
    rw [field_congr hi hf, field_congr hi hl, field_congr hi hn]

end Step

/-! ## The whole walk -/

/-- **The walk makes the same of values that agree**, its notes and its failures included. -/
theorem walk_congr {left : Nat} {around around' : List Label} {v w : Value}
    (h : AgreeTo σ tokens (left + 1) around around' v w) :
    walk σ tokens left around v = walk σ tokens left around' w := by
  induction left generalizing around around' v w with
  | zero =>
    -- where no depth is left it still has to be the same whether there is a container to cut off
    rcases h with ⟨hv, rfl⟩ | ⟨_, _, _, _, hc, hc', hs, hs', -, -⟩
    · rw [walk_of_not_isWalked hv, walk_of_not_isWalked hv]
    · rw [walk_of_cut hc hs (.inl rfl), walk_of_cut hc' hs' (.inl rfl)]
  | succ n ih =>
    rcases h with ⟨hv, rfl⟩ | ⟨label, shape, label', shape', hc, hc', hs, hs', hl, h⟩
    · rw [walk_of_not_isWalked hv, walk_of_not_isWalked hv]
    · cases hm : label.any around.contains with
      | true => rw [walk_of_cut hc hs (.inr hm), walk_of_cut hc' hs' (.inr (hl ▸ hm))]
      | false =>
        rw [walk_of_open hc hs (Bool.eq_false_iff.mp hm),
          walk_of_open hc' hs' (Bool.eq_false_iff.mp (hl ▸ hm))]
        refine container_congr ?_ (h hm)
        exact fun _ _ => ih

/-- **Masking makes the same of attribute lists that agree.** -/
theorem attrs_congr {maxDepth : Int} {as bs : List Attr} (ht : tokens ≠ [])
    (h : AttrsAgree σ tokens as bs) : attrs σ tokens maxDepth as = attrs σ tokens maxDepth bs := by
  have he : tokens.isEmpty = false := by simpa using ht
  rw [attrs, attrs, he, if_neg Bool.false_ne_true, if_neg Bool.false_ne_true]
  refine mapM_congr (h.imp fun a b hab => ?_)
  exact attrWith_congr (fun _ _ ha => walk_congr (ha _)) hab.1 hab.2

end Masking

end DiscreetLog
