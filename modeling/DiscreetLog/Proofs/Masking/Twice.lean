import DiscreetLog.Proofs.Masking.Blanks
import DiscreetLog.Proofs.Masking.Refusal

/-!
# Masking what is masked

What masking makes is left alone by masking. A container made anew is made anew as itself: it has
the class that it would get, the mask under its sensitive keys and blanks in its sensitive fields.
Nothing is cut off the second time, since what was cut off is the mask by now and what masking made
has no label; and nothing is given up, so no notes are made either.

Two things can go on changing, both for the classes that they are of. A blank is its own blank only
if its class is steady, and a sequence that nests its items nests them once more. So it is asked of
the containers that the walk opens that there is neither of them (`Lasting`).
-/

namespace DiscreetLog

namespace Masking

variable (σ : Objects) (tokens : Tokens) (maxDepth : Int)

/-- **A container that comes out of masking as it will come out again**: it does not nest its items,
and what stands in its sensitive fields is of steady classes. -/
structure Settled (shape : Shape Value) : Prop where
  nested : σ.nested? shape = none
  steady : ∀ names v, (.field names, v) ∈ σ.placesOf shape → tokens.matchAny names = true →
    v.Steady σ

/-- **Attributes that come out of masking as they will come out again**: wherever the walk opens a
container, it is settled. Without tokens nothing is made anew. -/
def Lasting (as : List Attr) : Prop :=
  tokens ≠ [] → ∀ a ∈ as, tokens.matchKey a.key = false →
    ∀ path v shape, Enters σ tokens maxDepth [] a.value path v → Opens σ maxDepth path v shape →
      Settled σ tokens shape

variable {σ tokens maxDepth} {inside inside' : Value → Noted Value}

/-- **A walk leaves alone what another one makes** of a value. -/
def LeavesAlone (inside' inside : Value → Noted Value) (v : Value) : Prop :=
  ∀ w, (inside v).result = .ok w → inside' w = pure w

/-! ## One step -/

/-- What stands under a key is left alone. -/
theorem Put.entry_eq {p : Place} (hp : ∀ names, p ≠ .field names) {v w : Value}
    (h : Put σ tokens inside p v w)
    (hi : p.sensitive tokens = false → LeavesAlone inside' inside v) :
    entry inside' (p.sensitive tokens) w = pure w := by
  unfold Put at h
  rw [entry]
  split at h
  · rename_i hs
    subst h
    rw [if_pos hs]
    cases p with
    | field names => exact absurd rfl (hp names)
    | _ => rfl
  · rename_i hs
    rw [if_neg hs]
    exact hi (Bool.eq_false_iff.mpr hs) w h

/-- What stands in a field is left alone. -/
theorem Put.field_eq {names : List String} {v w : Value}
    (h : Put σ tokens inside (.field names) v w)
    (hs : tokens.matchAny names = true → v.Steady σ)
    (hi : (Place.field names).sensitive tokens = false → LeavesAlone inside' inside v) :
    field σ tokens inside' names w = pure w := by
  unfold Put at h
  rw [Place.sensitive_field] at h
  rw [field]
  split at h
  · rename_i hm
    subst h
    rw [if_pos hm, Place.cover_field, (hs hm).blank_blank]
  · rename_i hm
    rw [if_neg hm]
    exact hi (Bool.eq_false_iff.mpr hm) w h

/-- Items put back into a sequence of a class that is left of one that does not nest them. -/
theorem rebuild_kept (make : Option Subclass → List Value → Shape Value)
    {cls : Option Subclass} (hn : Subclass.nests cls = false) (items : List Value) :
    rebuild make (Subclass.kept cls) items
      = pure (.node none (make (Subclass.kept cls) items)) := by
  cases cls with
  | none => rfl
  | some c =>
    obtain ⟨name, call⟩ := c
    cases call with
    | taken | refused => rfl
    | nested => cases hn

/-- A masked attribute is left alone. -/
theorem attrWith_eq_pure {a b : Attr} (hk : b.key = a.key)
    (h : Put σ tokens inside (.attr a.key) a.value b.value)
    (hi : tokens.matchKey a.key = false → LeavesAlone inside' inside a.value) :
    attrWith tokens inside' b = pure b := by
  have he := Put.entry_eq (p := .attr a.key) (by rintro _ ⟨⟩) h hi
  rw [Place.sensitive_attr, ← hk] at he
  rw [attrWith, he, pure_bind]

/-- **A settled container made anew is left alone**, if what stands in it is. -/
theorem Remade.container_eq_pure {shape shape' : Shape Value} (hf : Faithful σ inside)
    (hclosed : shape.isClosed = false) (hs : Settled σ tokens shape)
    (hi : ∀ p v, (p, v) ∈ σ.placesOf shape → p.sensitive tokens = false →
      LeavesAlone inside' inside v)
    (h : Remade σ tokens inside shape shape') :
    container σ tokens inside' shape' = pure (.node none shape') := by
  have items {vs ws : List Value} (hvs : ∀ v ∈ vs, (.item, v) ∈ σ.placesOf shape)
      (h : List.Forall₂ (Put σ tokens inside .item) vs ws) : ws.mapM inside' = pure ws := by
    refine mapM_eq_pure fun w hw => ?_
    obtain ⟨v, hv, hput⟩ := exists_mem_left h hw
    exact hi _ v (hvs v hv) rfl w hput
  have inField {names : List String} {v w : Value} (hv : (.field names, v) ∈ σ.placesOf shape)
      (h : Put σ tokens inside (.field names) v w) : field σ tokens inside' names w = pure w :=
    h.field_eq (hs.steady names v hv) (hi _ v hv)
  cases h with
  | @group _ as bs hg h =>
    have hbs : bs.mapM (attrWith tokens inside') = pure bs := mapM_eq_pure fun b hb => by
      obtain ⟨a, ha, hk, hput⟩ := exists_mem_left h hb
      refine attrWith_eq_pure hk hput (hi (.attr a.key) a.value ?_)
      simp only [Objects.placesOf, hg]
      exact List.mem_map_of_mem ha
    rw [container, Objects.group?_toValue]
    dsimp only
    rw [hbs, pure_bind]
    rfl
  | nested hn =>
    rw [hs.nested] at hn
    cases hn
  | @list cls vs ws hn h =>
    simp only [container, Objects.group?]
    rw [items (fun v hv => List.mem_map_of_mem hv) h, pure_bind, rebuild_kept _ hn]
  | @tuple cls vs ws hg hn h =>
    -- were the new tuple a group, the attributes in it would be looked at
    have hg' := (Remade.tuple hg hn h).group?_eq_none hf hg
    have hvs : ∀ v ∈ vs, (.item, v) ∈ σ.placesOf (.tuple cls vs) := fun v hv => by
      simp only [Objects.placesOf, hg]
      exact List.mem_map_of_mem hv
    rw [container, hg']
    dsimp only
    rw [items hvs h, pure_bind, rebuild_kept _ hn]
  | @named cls fs gs hg h =>
    have hg' := (Remade.named hg h).group?_eq_none hf hg
    have hgs : gs.mapM (fun g => do return (g.1, ← field σ tokens inside' [g.1] g.2))
        = (pure gs : Noted (List (String × Value))) := mapM_eq_pure fun g hm => by
      obtain ⟨f, hm, hn, hput⟩ := exists_mem_left h hm
      have hv : (.field [f.1], f.2) ∈ σ.placesOf (.named cls fs) := by
        simp only [Objects.placesOf, hg]
        exact List.mem_map.mpr ⟨f, hm, rfl⟩
      rw [hn, inField hv hput, pure_bind, ← hn]
    rw [container, hg']
    dsimp only
    rw [hgs, pure_bind]
  | @mapping kind es fs hk h =>
    have hfs : fs.mapM (fun f => do return (f.1, ← entry inside' (tokens.matchValue f.1) f.2))
        = (pure fs : Noted (List (Value × Value))) := mapM_eq_pure fun f hm => by
      obtain ⟨e, hm, hn, hput⟩ := exists_mem_left h hm
      have he := Put.entry_eq (p := .entry e.1) (by rintro _ ⟨⟩) hput
        (hi _ e.2 (List.mem_map.mpr ⟨e, hm, rfl⟩))
      rw [Place.sensitive_entry, ← hn] at he
      rw [he, pure_bind]
    -- a copy can be copied, and a copy of it is of the same kind
    have hc : container σ tokens inside' (.mapping kind.copied fs)
        = fs.mapM (fun f => do return (f.1, ← entry inside' (tokens.matchValue f.1) f.2))
          >>= fun fs => pure (.node none (.mapping kind.copied fs)) := by
      cases kind <;> rfl
    rw [hc, hfs, pure_bind]
  | @object cls ss ts base hg hc h =>
    have hg' := (Objects.group?_object cls cls ts ss base).trans hg
    have hts : ts.mapM (slot σ tokens inside' cls.name) = pure ts := mapM_eq_pure fun t ht => by
      obtain ⟨s, hm, v, w, hv, rfl, hput⟩ := exists_mem_left h ht
      have hplace : (.field s.names, v) ∈ σ.placesOf (.object cls ss base) :=
        Objects.mem_placesOf_object hg hclosed hm hv
      have hw : field σ tokens inside' ({ s with value := some w } : Slot Value).names w = pure w :=
        inField hplace hput
      rw [slot]
      dsimp only
      rw [hw, pure_bind]
    simp only [container, hg', hc, if_true]
    rw [hts, pure_bind]
  | @attr key key' v w hk hv =>
    have hkey : (if tokens.matchKey "key" then mask else key') = key' := by
      rw [hk]
      split <;> rfl
    simp only [container, Objects.group?]
    rw [inField (by simp [Objects.placesOf, Objects.group?]) hv, pure_bind, hkey]
  | @site s t h₁ h₂ h₃ =>
    simp only [container, Objects.group?, Masking.site]
    rw [inField (by simp [Objects.placesOf, Objects.group?]) h₁,
      inField (by simp [Objects.placesOf, Objects.group?]) h₂,
      inField (by simp [Objects.placesOf, Objects.group?]) h₃]
    simp only [pure_bind]
  | set => rfl

/-! ## The whole walk -/

/-- **The walk leaves alone what it makes**, if the containers that it opens are settled, wherever
it meets it with as much depth left. -/
theorem walk_eq_pure {path : List Value} {v r : Value}
    (hs : ∀ path' u shape, Enters σ tokens maxDepth path v path' u →
      Opens σ maxDepth path' u shape → Settled σ tokens shape)
    (h : (walk σ tokens (maxDepth.toNat - path.length) (path.filterMap Value.label?) v).result
      = .ok r) (around : List Label) :
    walk σ tokens (maxDepth.toNat - path.length) around r = pure r := by
  have hmask (left : Nat) : walk σ tokens left around (.text mask) = pure (.text mask) :=
    walk_of_not_isWalked (Objects.not_isWalked_atom _ _)
  -- by induction on the depth that is left
  induction hd : maxDepth.toNat - path.length using Nat.strongRecOn
    generalizing path v r around with
  | _ left ih =>
  subst hd
  rcases walk_cases h with ⟨hv, rfl⟩ | ⟨label, shape, hc, hclosed, ⟨-, rfl⟩ | ⟨n, hn, hl, hr⟩⟩
  · exact walk_of_not_isWalked hv
  · exact hmask _
  · rcases remade_of_container hr with ⟨-, rfl⟩ | ⟨shape', rfl, hm⟩
    · exact hmask _
    have hn' : n = maxDepth.toNat - (v :: path).length := by
      rw [List.length_cons]
      omega
    have ho : Opens σ maxDepth path v shape := by
      refine ⟨⟨label, hc⟩, hclosed, fun hcut => ?_⟩
      rw [← isCut_iff, label?_of_container hc] at hcut
      rcases hcut with h0 | hl'
      · omega
      · exact hl hl'
    rw [hn, walk_of_open (v := .node none shape') rfl (hm.isClosed_eq.trans hclosed)
      Bool.false_ne_true]
    refine hm.container_eq_pure (faithful_walk _ _) hclosed (hs path v shape .here ho)
      fun p w hw hp u hu => ?_
    rw [← filterMap_label?_cons hc, hn'] at hu
    subst hn'
    refine ih _ (by omega) (fun path' u' shape'' he => ?_) hu _ (fun _ => ?_) rfl
    · exact hs path' u' shape'' (.inside ho hm.isUncopied_eq_false hw hp he)
    · exact walk_of_not_isWalked (Objects.not_isWalked_atom _ _)

/-- **What masking makes of lasting attributes is left alone by masking.** -/
theorem attrs_eq_pure {as bs : List Attr} (hs : Lasting σ tokens maxDepth as)
    (h : (attrs σ tokens maxDepth as).result = .ok bs) : attrs σ tokens maxDepth bs = pure bs := by
  by_cases ht : tokens = []
  · subst ht
    rfl
  · have he : tokens.isEmpty = false := by simpa using ht
    rw [attrs, he, if_neg Bool.false_ne_true]
    refine mapM_eq_pure fun b hb => ?_
    obtain ⟨a, ha, hk, hput⟩ := exists_mem_left ((attrs_eq_ok ht).mp h) hb
    refine attrWith_eq_pure hk hput fun hm w hw => ?_
    have hsettled (path : List Value) (u : Value) (shape : Shape Value) :=
      hs ht a ha hm path u shape
    exact walk_eq_pure hsettled hw []

end Masking

end DiscreetLog
