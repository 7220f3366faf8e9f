import DiscreetLog.Proofs.Masking.Refusal

/-!
# What masking leaves alone

Masking changes what stands under a sensitive key and what it replaces as a whole, and nothing
else. The statement is about one way into a value at a time: it goes from container to container by
the numbers of the places, through none that is sensitive and into none that is replaced. The same
numbers lead to a place in the result, since nothing in a container moves (`Leads.walk`), and what
stands there is known from the value at the end of the way and from what lies on it
(`value_frame`).

Whether a container is replaced is a matter of the way to it. A value that is shared may be replaced
at the end of one way and left alone at the end of another.
-/

namespace DiscreetLog

/-- **The value at the end of a way**, which has for each container on it the number of a
place. -/
def Objects.at? (σ : Objects) : List Nat → Value → Option Value
  | [], v => some v
  | i :: way, v => (σ.places v)[i]?.bind fun p => σ.at? way p.2

/-- **What becomes of a way into a value** when the value is made anew. The items of a sequence that
nests them are one container further in than before. -/
def Objects.moved (σ : Objects) : List Nat → Value → List Nat
  | [], _ => []
  | i :: way, v =>
    let rest := match (σ.places v)[i]? with
      | some p => σ.moved way p.2
      | none => way
    if σ.nests v then 0 :: i :: rest else i :: rest

namespace Masking

variable (σ : Objects) (tokens : Tokens) (maxDepth : Int)

/-- **A container is replaced as a whole**, given the containers on the way to it: it is one of
them, there are as many of them as the depth allows, or it is an object that cannot be copied. -/
def Replaced (path : List Value) (v : Value) (shape : Shape Value) : Prop :=
  CutOff maxDepth path v ∨ σ.isUncopied shape = true

/-- **A way into a value** through places that are not sensitive of containers that are not
replaced. Both ends are given with the containers on the way to them, the last one first. -/
inductive Leads : List Value → Value → List Nat → List Value → Value → Prop where
  | here {path : List Value} {v : Value} : Leads path v [] path v
  | inside {path path' : List Value} {v w u : Value} {label : Option Label} {shape : Shape Value}
      {i : Nat} {way : List Nat} {p : Place} (hc : σ.container? v = some (label, shape))
      (hr : ¬ Replaced σ maxDepth path v shape) (hw : (σ.placesOf shape)[i]? = some (p, w))
      (hp : p.sensitive tokens = false) (h : Leads (v :: path) w way path' u) :
      Leads path v (i :: way) path' u

/-- **A container and what is left of its class**: a group becomes a plain tuple with the same
keys, a view of a mapping becomes a mapping, and where the class of a sequence cannot be called on
the items the built-in sequence takes its place. Length, keys and fields stay as they are, what an
object is besides its fields stays the same, and what is no group stays none. A sequence that nests
its items comes out with the list of as many as its single item. -/
inductive SameFrame : Shape Value → Shape Value → Prop where
  | group {shape : Shape Value} {as bs : List Attr} (hg : σ.group? shape = some as)
      (hk : bs.map (·.key) = as.map (·.key)) : SameFrame shape (.tuple none (bs.map Attr.toValue))
  | nested {shape : Shape Value} {vs ws : List Value} (hn : σ.nested? shape = some vs)
      (hl : ws.length = vs.length) : SameFrame shape (shape.holding (.node none (.list none ws)))
  | list {cls : Option Subclass} {vs ws : List Value} (hn : Subclass.nests cls = false)
      (hl : ws.length = vs.length) : SameFrame (.list cls vs) (.list (Subclass.kept cls) ws)
  | tuple {cls : Option Subclass} {vs ws : List Value} (hn : Subclass.nests cls = false)
      (hg : σ.group? (.tuple cls vs) = none)
      (hg' : σ.group? (.tuple (Subclass.kept cls) ws) = none) (hl : ws.length = vs.length) :
      SameFrame (.tuple cls vs) (.tuple (Subclass.kept cls) ws)
  | named {cls : NamedClass Value} {fs gs : List (String × Value)}
      (hg : σ.group? (.named cls fs) = none) (hg' : σ.group? (.named cls gs) = none)
      (hn : gs.map (·.1) = fs.map (·.1)) : SameFrame (.named cls fs) (.named cls gs)
  | mapping {kind : MappingKind} {es fs : List (Value × Value)}
      (hk : fs.map (·.1) = es.map (·.1)) : SameFrame (.mapping kind es) (.mapping kind.copied fs)
  | object {cls : ObjectClass} {ss ts : List (Slot Value)} {base : Base Value}
      (hg : σ.group? (.object cls ss base) = none)
      (h : List.Forall₂ (fun s t => ∃ w, t = { s with value := some w }) ss ts) :
      SameFrame (.object cls ss base) (.object cls ts base)
  | attr {key key' : String} {v w : Value} : SameFrame (.attr key v) (.attr key' w)
  | site {s t : Site Value} : SameFrame (.site s) (.site t)

/-- **Two containers with the same places**, the sensitive ones of the second being covers of
those of the first. -/
def SamePlaces (shape shape' : Shape Value) : Prop :=
  List.Forall₂ (fun p q => q.1 = p.1 ∧ (p.1.sensitive tokens = true → q.2 = p.1.cover σ p.2))
    (σ.placesOf shape) (σ.placesOf shape')

variable {σ tokens maxDepth}

/-! ## One step -/

section Step

variable {inside : Value → Noted Value} {shape shape' : Shape Value}

/-- **A container made anew keeps its frame.** -/
theorem Remade.sameFrame (hi : Faithful σ inside) (hs : shape.isClosed = false)
    (h : Remade σ tokens inside shape shape') : SameFrame σ shape shape' := by
  cases h with
  | group hg h => exact .group hg (map_eq_map_of_forall₂ h)
  | nested hn h => exact .nested hn h.length_eq.symm
  | list hn h => exact .list hn h.length_eq.symm
  | tuple hg hn h =>
    exact .tuple hn hg ((Remade.tuple hg hn h).group?_eq_none hi hg) h.length_eq.symm
  | named hg h =>
    exact .named hg ((Remade.named hg h).group?_eq_none hi hg) (map_eq_map_of_forall₂ h)
  | mapping _ h => exact .mapping (map_eq_map_of_forall₂ h)
  | object hg _ h => exact .object hg (h.imp fun _ _ ⟨_, w, _, ht, _⟩ => ⟨w, ht⟩)
  | attr => exact .attr
  | site => exact .site
  | set => cases hs

/-- **What stood at a place stands at the place that the way through it has become**, as the walk
has made it anew. -/
theorem Remade.at?_moved (hi : Faithful σ inside) (h : Remade σ tokens inside shape shape')
    {v : Value} {label : Option Label} (hc : σ.container? v = some (label, shape)) {i : Nat}
    {p : Place} {w : Value} (hw : (σ.placesOf shape)[i]? = some (p, w)) (way : List Nat) :
    ∃ w', Put σ tokens inside p w w'
      ∧ σ.at? (σ.moved (i :: way) v) (.node none shape') = σ.at? (σ.moved way w) w' := by
  have hmoved : σ.moved (i :: way) v
      = if (σ.nested? shape).isSome then 0 :: i :: σ.moved way w else i :: σ.moved way w := by
    rw [Objects.moved, Objects.places_of_container hc, hw, Objects.nests, hc]
  cases hn : σ.nested? shape with
  | none =>
    obtain ⟨q, hq, -, hput⟩ := exists_getElem?_left (h.places hi hn).flip hw
    refine ⟨q.2, hput, ?_⟩
    rw [hmoved, hn, Option.isSome_none, if_neg Bool.false_ne_true, Objects.at?,
      Objects.places_node, hq]
    rfl
  | some vs =>
    obtain ⟨ws, rfl, hws⟩ := h.exists_items hn
    rw [Objects.placesOf_of_nested? hn, List.getElem?_map] at hw
    obtain ⟨_, hv, he⟩ := Option.map_eq_some_iff.mp hw
    cases he
    obtain ⟨w', hw', hput⟩ := exists_getElem?_left hws.flip hv
    refine ⟨w', hput, ?_⟩
    -- first the single item, and then the item of it with the number
    rw [hmoved, hn, Option.isSome_some, if_pos rfl, Objects.at?, Objects.places_node,
      Objects.placesOf_holding hn]
    simp only [List.getElem?_cons_zero, Option.bind_some]
    rw [Objects.at?, Objects.places_node]
    simp only [Objects.placesOf, Objects.group?, List.getElem?_map, hw', Option.map_some,
      Option.bind_some]

end Step

/-! ## The whole way -/

/-- **The result is, at the end of a way, what the walk makes of the value at the end of it.** -/
theorem Leads.walk {path path' : List Value} {v u r : Value} {way : List Nat}
    (hw : Leads σ tokens maxDepth path v way path' u)
    (h : (walk σ tokens (maxDepth.toNat - path.length) (path.filterMap Value.label?) v).result
      = .ok r) :
    ∃ u', σ.at? (σ.moved way v) r = some u'
      ∧ (Masking.walk σ tokens (maxDepth.toNat - path'.length) (path'.filterMap Value.label?)
          u).result = .ok u' := by
  induction hw generalizing r with
  | here => exact ⟨r, rfl, h⟩
  | @inside path path' v w u label shape i way p hc hr hw hp _ ih =>
    have hset : shape.isClosed = false := Objects.isClosed_of_mem_placesOf (List.mem_of_getElem? hw)
    rw [walk_of_opens ⟨⟨label, hc⟩, hset, fun hcut => hr (.inl hcut)⟩] at h
    rcases remade_of_container h with ⟨hu, -⟩ | ⟨shape', rfl, hm⟩
    · exact absurd (.inr hu) hr
    · obtain ⟨w', hput, hat⟩ := hm.at?_moved (faithful_walk _ _) hc hw way
      rw [Put, hp, if_neg Bool.false_ne_true] at hput
      obtain ⟨u', hat', hu'⟩ := ih hput
      exact ⟨u', hat.trans hat', hu'⟩

/-- The containers that are on a way at its beginning are on it at its end. -/
theorem Leads.subset {path path' : List Value} {v u : Value} {way : List Nat}
    (hw : Leads σ tokens maxDepth path v way path' u) : path ⊆ path' := by
  induction hw with
  | here => exact fun _ h => h
  | inside _ _ _ _ _ ih => exact (List.cons_subset.mp ih).2

/-- **A way becomes itself** if no sequence on it nests its items. -/
theorem Leads.moved_eq {path path' : List Value} {v u : Value} {way : List Nat}
    (hw : Leads σ tokens maxDepth path v way path' u) (hn : ∀ w ∈ path', σ.nests w = false) :
    σ.moved way v = way := by
  induction hw with
  | here => rfl
  | @inside path path' v w u label shape i way p hc _ hp _ hw ih =>
    have hv : σ.nests v = false := hn v (hw.subset List.mem_cons_self)
    rw [Objects.moved, Objects.places_of_container hc, hp, hv, if_neg Bool.false_ne_true]
    exact congrArg (i :: ·) (ih hn)

/-- **What the walk makes of a container**: it is replaced, or it keeps its frame. -/
theorem frame_of_walk {path : List Value} {v r : Value} {label : Option Label}
    {shape : Shape Value} (hc : σ.container? v = some (label, shape)) (hs : shape.isClosed = false)
    (h : (walk σ tokens (maxDepth.toNat - path.length) (path.filterMap Value.label?) v).result
      = .ok r) :
    (r = .text mask ∧ Replaced σ maxDepth path v shape)
      ∨ (¬ Replaced σ maxDepth path v shape ∧ ∃ shape', r = .node none shape'
        ∧ SameFrame σ shape shape'
        ∧ (σ.nested? shape = none → SamePlaces σ tokens shape shape')) := by
  by_cases hcut : CutOff maxDepth path v
  · have hcut' := isCut_iff.mpr hcut
    rw [label?_of_container hc] at hcut'
    rw [walk_of_cut hc hs hcut', Noted.pure_eq_ok] at h
    exact .inl ⟨h.symm, .inl hcut⟩
  · rw [walk_of_opens ⟨⟨label, hc⟩, hs, hcut⟩] at h
    rcases remade_of_container h with ⟨hu, rfl⟩ | ⟨shape', rfl, hm⟩
    · exact .inl ⟨rfl, .inr hu⟩
    · have hi : Faithful σ (walk σ tokens (maxDepth.toNat - (v :: path).length)
          ((v :: path).filterMap Value.label?)) := faithful_walk _ _
      refine .inr ⟨?_, shape', rfl, hm.sameFrame hi hs, fun hn => (hm.places hi hn).imp ?_⟩
      · rintro (hr | hr)
        · exact hcut hr
        · rw [hm.isUncopied_eq_false] at hr
          cases hr
      · rintro p q ⟨hk, hput⟩
        refine ⟨hk, fun hp => ?_⟩
        rwa [Put, hp, if_pos rfl] at hput

end Masking

end DiscreetLog
