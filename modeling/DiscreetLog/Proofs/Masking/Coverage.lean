import DiscreetLog.Proofs.Masking.Blanks
import DiscreetLog.Proofs.Masking.Walk
import DiscreetLog.Value.Entries
import Mathlib.Logic.Relation

/-!
# What a masked attribute list looks like

Whatever a result holds, wherever one gets from it through containers, the sensitive places there
are covered, and one does not get far. A result made from values that contain themselves does not,
since every step into a container of it takes up one of the finitely many that the depth allows.

The one thing one does not go through is a blank. It is what the class makes of what stood in the
field, and may hold anything. It is its own blank if the class makes the same each time; so every
container of the result goes with the one that it was made from (`MaskedTo`). And a sequence of a
class that nests its items is deeper in the result than it was, by the list of its items, so it is
not counted among the containers that lie around a value.
-/

namespace DiscreetLog

namespace Place

/-- **A place that holds a blank** in a masked container. -/
def blanked (tokens : Tokens) : Place → Bool
  | field names => tokens.matchAny names
  | _ => false

end Place

namespace Masking

variable (σ : Objects) (tokens : Tokens)

/-- **One value stands inside another**, and not as a blank. -/
def Inside (v w : Value) : Prop :=
  ∃ p, (p, w) ∈ σ.places v ∧ p.blanked tokens = false

/-- **What one gets to from an attribute list**, and how many containers lie around it. A sequence
that nests its items is not counted, but the list is that it has as its single item. -/
inductive Reached (as : List Attr) : Nat → Value → Prop where
  | value {a : Attr} (ha : a ∈ as) : Reached as 0 a.value
  | inside {n : Nat} {v w : Value} (hv : Reached as n v) (hn : σ.nests v = false)
      (hw : Inside σ tokens v w) : Reached as (n + 1) w
  | nested {n : Nat} {v w : Value} (hv : Reached as n v) (hn : σ.nests v = true)
      (hw : Inside σ tokens v w) : Reached as n w

/-- **What stands in an attribute list**, anywhere in its values, and not as a blank. -/
def Among (as : List Attr) (v : Value) : Prop :=
  ∃ a ∈ as, Relation.ReflTransGen (Inside σ tokens) a.value v

/-- **The sensitive places of a value are covered**, which was made from another one: the mask
stands under a key, and in a field stands the blank of what stood in that field. It is its own blank
if its class makes the same each time. -/
structure Covered (v w : Value) : Prop where
  attr : ∀ key x, (.attr key, x) ∈ σ.places w → tokens.matchKey key = true → x = .text mask
  entry : ∀ key x, (.entry key, x) ∈ σ.places w → tokens.matchValue key = true → x = .text mask
  field : ∀ names x, (.field names, x) ∈ σ.places w → tokens.matchAny names = true →
    ∃ u, (.field names, u) ∈ σ.places v ∧ x = u.blank σ ∧ (u.Steady σ → x.blank σ = x)

/-- **Two occurrences of one value.** -/
def IsSame (v w : Value) : Prop := v = w ∨ sameLabel v.label? w.label? = true

/-- **A value and what it is masked to**, as deep as the given number of containers, those apart
that nest their items. What masking made of a container has no label, what is sensitive in it is
covered, and what is in it was made from something in the container and is less deep. -/
inductive MaskedTo : Nat → Value → Value → Prop where
  | bare {n : Nat} {v w : Value} (hw : ¬ σ.IsWalked w) : MaskedTo n v w
  | made {n : Nat} {v : Value} {shape : Shape Value} {source : Value → Value}
      (hn : σ.nested? shape = none) (hc : Covered σ tokens v (.node none shape))
      (hv : ∀ w, Inside σ tokens (.node none shape) w → Inside σ tokens v (source w))
      (h : ∀ w, Inside σ tokens (.node none shape) w → MaskedTo n (source w) w) :
      MaskedTo (n + 1) v (.node none shape)
  | nested {n : Nat} {v : Value} {shape : Shape Value} {vs : List Value}
      (hn : σ.nested? shape = some vs)
      (h : ∀ w, Inside σ tokens (.node none shape) w → MaskedTo (n + 1) v w) :
      MaskedTo (n + 1) v (.node none shape)

variable {σ tokens}

/-! ## What the walk makes is masked -/

/-- What is not walked has nothing inside it. -/
theorem not_inside_of_not_isWalked {v w : Value} (hv : ¬ σ.IsWalked v) :
    ¬ Inside σ tokens v w :=
  fun ⟨_, hp, _⟩ => hv (Objects.isWalked_of_mem_places hp)

/-- Where there are items and nothing else, nothing is to be covered. -/
theorem covered_of_items {v w : Value} (h : ∀ p x, (p, x) ∈ σ.places w → p = .item) :
    Covered σ tokens v w where
  attr _ _ hx := nomatch h _ _ hx
  entry _ _ hx := nomatch h _ _ hx
  field _ _ hx := nomatch h _ _ hx

theorem maskedTo_mask (n : Nat) (v : Value) : MaskedTo σ tokens n v (.text mask) :=
  .bare (Objects.not_isWalked_atom _ _)

section Step

variable {inside : Value → Noted Value}

/-- What is put at a place that holds no blank is masked, if what the walk makes is. -/
theorem Put.maskedTo {n : Nat} (hn : ∀ v w, (inside v).result = .ok w → MaskedTo σ tokens n v w)
    {p : Place} (hp : p.blanked tokens = false) {v w : Value} (h : Put σ tokens inside p v w) :
    MaskedTo σ tokens n v w := by
  unfold Put at h
  split at h
  · -- a sensitive place that holds no blank holds the mask
    rename_i hs
    subst h
    cases p with
    | field names => exact absurd hs (by simpa [Place.blanked] using hp)
    | _ => exact maskedTo_mask n v
  · exact hn v w h

/-- **The sensitive places of a container made anew are covered.** -/
theorem Remade.covered (hi : Faithful σ inside) {v : Value} {label : Option Label}
    {shape shape' : Shape Value} (hc : σ.container? v = some (label, shape))
    (h : Remade σ tokens inside shape shape') (hn : σ.nested? shape = none) :
    Covered σ tokens v (.node none shape') := by
  have put {p : Place} {w : Value} (hw : (p, w) ∈ σ.placesOf shape')
      (hs : p.sensitive tokens = true) : ∃ u, (p, u) ∈ σ.places v ∧ w = p.cover σ u := by
    obtain ⟨u, hu, hput⟩ := h.exists_put hi hn hw
    rw [Put, if_pos hs] at hput
    exact ⟨u, by rwa [Objects.places_of_container hc], hput⟩
  refine ⟨fun key w hw hs => ?_, fun key w hw hs => ?_, fun names w hw hs => ?_⟩
  · obtain ⟨_, -, hcover⟩ := put hw hs
    exact hcover
  · obtain ⟨_, -, hcover⟩ := put hw hs
    exact hcover
  · obtain ⟨u, hu, rfl⟩ := put hw hs
    exact ⟨u, hu, rfl, Value.Steady.blank_blank⟩

/-- **A list of what items come to is masked**, if the items stand in a value. -/
theorem maskedTo_list {n : Nat} (hin : ∀ v w, (inside v).result = .ok w → MaskedTo σ tokens n v w)
    {v : Value} {vs ws : List Value} (hv : ∀ u ∈ vs, Inside σ tokens v u)
    (h : List.Forall₂ (Put σ tokens inside .item) vs ws) :
    MaskedTo σ tokens (n + 1) v (.node none (.list none ws)) := by
  have hitem (p : Place) (w : Value) (hw : (p, w) ∈ σ.places (.node none (.list none ws))) :
      p = .item ∧ w ∈ ws := by
    obtain ⟨w, hw, he⟩ := List.mem_map.mp hw
    cases he
    exact ⟨rfl, hw⟩
  have hsource (w : Value) (hw : Inside σ tokens (.node none (.list none ws)) w) :
      ∃ u, Inside σ tokens v u ∧ MaskedTo σ tokens n u w := by
    obtain ⟨p, hw, -⟩ := hw
    obtain ⟨u, hu, hput⟩ := exists_mem_left h (hitem p w hw).2
    exact ⟨u, hv u hu, hput.maskedTo hin rfl⟩
  choose! source hv hm using hsource
  exact .made rfl (covered_of_items fun p w hw => (hitem p w hw).1) hv hm

/-- **A container made anew is masked**, one step deeper than what the walk makes of what is in
it. -/
theorem Remade.maskedTo (hi : Faithful σ inside) {n : Nat}
    (hin : ∀ v w, (inside v).result = .ok w → MaskedTo σ tokens n v w) {v : Value}
    {label : Option Label} {shape shape' : Shape Value}
    (hc : σ.container? v = some (label, shape)) (h : Remade σ tokens inside shape shape') :
    MaskedTo σ tokens (n + 1) v (.node none shape') := by
  have hplaces := Objects.places_of_container hc
  cases hn : σ.nested? shape with
  | none =>
    have hsource (w : Value) (hw : Inside σ tokens (.node none shape') w) :
        ∃ u, Inside σ tokens v u ∧ MaskedTo σ tokens n u w := by
      obtain ⟨p, hw, hp⟩ := hw
      obtain ⟨u, hu, hput⟩ := h.exists_put hi hn hw
      exact ⟨u, ⟨p, by rwa [hplaces], hp⟩, hput.maskedTo hin hp⟩
    choose! source hv hm using hsource
    exact .made (h.nested?_eq_none hn) (h.covered hi hc hn) hv hm
  | some vs =>
    -- the single item is a list, and what is in the list was made from what was in the sequence
    obtain ⟨ws, rfl, hws⟩ := h.exists_items hn
    have hv (u : Value) (hu : u ∈ vs) : Inside σ tokens v u := by
      refine ⟨.item, ?_, rfl⟩
      rw [hplaces, Objects.placesOf_of_nested? hn]
      exact List.mem_map_of_mem hu
    refine .nested (Objects.nested?_holding hn) ?_
    rintro w ⟨p, hw, -⟩
    rw [Objects.places_node, Objects.placesOf_holding hn, List.mem_singleton] at hw
    cases hw
    exact maskedTo_list hin hv hws

end Step

/-- **What the walk makes is masked**, as deep as the walk may go. -/
theorem maskedTo_of_walk {left : Nat} {around : List Label} {v r : Value}
    (h : (walk σ tokens left around v).result = .ok r) : MaskedTo σ tokens left v r := by
  induction left generalizing around v r with
  | zero =>
    rcases walk_cases h with ⟨hv, rfl⟩ | ⟨label, shape, -, -, ⟨-, rfl⟩ | ⟨n, hn, -⟩⟩
    · exact .bare hv
    · exact maskedTo_mask 0 v
    · cases hn
  | succ left ih =>
    rcases walk_cases h with ⟨hv, rfl⟩ | ⟨label, shape, hc, -, ⟨-, rfl⟩ | ⟨n, hn, -, hr⟩⟩
    · exact .bare hv
    · exact maskedTo_mask _ v
    · cases hn
      rcases remade_of_container hr with ⟨-, rfl⟩ | ⟨shape', rfl, hm⟩
      · exact maskedTo_mask _ v
      · exact hm.maskedTo (faithful_walk _ _) (fun _ _ hw => ih hw) hc

/-! ## Following a path -/

/-- What is in a masked value is masked. It was made from something in the value that the masked
one was made from, or from that value itself. -/
theorem MaskedTo.inside {n : Nat} {v w x : Value} (hv : MaskedTo σ tokens n v w)
    (hx : Inside σ tokens w x) : ∃ m u, (σ.nests w = false → n = m + 1)
      ∧ (σ.nests w = true → n = m) ∧ Relation.ReflTransGen (Inside σ tokens) v u
      ∧ MaskedTo σ tokens m u x := by
  cases hv with
  | bare hw => exact absurd hx (not_inside_of_not_isWalked hw)
  | made hn _ hv h => exact ⟨_, _, fun _ => rfl, by simp [hn], .single (hv x hx), h x hx⟩
  | nested hn h => exact ⟨_, _, by simp [hn], fun _ => rfl, .refl, h x hx⟩

/-- **A masked value is covered.** -/
theorem MaskedTo.covered {n : Nat} {v w : Value} (hv : MaskedTo σ tokens n v w) :
    Covered σ tokens v w := by
  cases hv with
  | bare hw => exact covered_of_items fun p x hx => absurd (Objects.isWalked_of_mem_places hx) hw
  | made _ hc => exact hc
  | nested hn =>
    refine covered_of_items fun p x hx => ?_
    rw [Objects.places_node, Objects.placesOf_of_nested? hn] at hx
    obtain ⟨_, -, he⟩ := List.mem_map.mp hx
    exact (congrArg Prod.fst he).symm

/-- A masked value that is walked takes up one container and has no label. -/
theorem MaskedTo.of_isWalked {n : Nat} {v w : Value} (hv : MaskedTo σ tokens n v w)
    (hw : σ.IsWalked w) : n ≠ 0 ∧ w.label? = none := by
  cases hv with
  | bare hn => exact absurd hw hn
  | made | nested => exact ⟨Nat.succ_ne_zero _, rfl⟩

/-- **A masked value does not lie inside itself.** Were it met again on a path from it, so would
be the first value on the path. -/
theorem MaskedTo.not_transGen_self {n : Nat} {v w : Value} (hv : MaskedTo σ tokens n v w) :
    ¬ Relation.TransGen (Inside σ tokens) w w := by
  induction hv with
  | bare hw =>
    intro hp
    obtain ⟨x, hx, -⟩ := Relation.TransGen.head'_iff.mp hp
    exact not_inside_of_not_isWalked hw hx
  | made _ _ _ _ ih | nested _ _ ih =>
    intro hp
    obtain ⟨x, hx, hrest⟩ := Relation.TransGen.head'_iff.mp hp
    exact ih x hx (.tail' hrest hx)

/-- **What one gets to from masked attributes is masked**, and less deep the more containers lie
around it. It was made from something in the attributes that were masked. -/
theorem Reached.maskedTo {as bs : List Attr} {d n : Nat} {w : Value}
    (hbs : ∀ b ∈ bs, ∃ a ∈ as, MaskedTo σ tokens d a.value b.value)
    (hw : Reached σ tokens bs n w) :
    ∃ m v, d = n + m ∧ Among σ tokens as v ∧ MaskedTo σ tokens m v w := by
  induction hw with
  | value hb =>
    obtain ⟨a, ha, hm⟩ := hbs _ hb
    exact ⟨d, a.value, (Nat.zero_add d).symm, ⟨a, ha, .refl⟩, hm⟩
  | inside _ hn hx ih =>
    obtain ⟨m, v, rfl, ⟨a, ha, hv⟩, hm⟩ := ih
    obtain ⟨k, u, hk, -, hu, hm'⟩ := hm.inside hx
    exact ⟨k, u, by rw [hk hn]; omega, ⟨a, ha, hv.trans hu⟩, hm'⟩
  | nested _ hn hx ih =>
    obtain ⟨m, v, rfl, ⟨a, ha, hv⟩, hm⟩ := ih
    obtain ⟨k, u, -, hk, hu, hm'⟩ := hm.inside hx
    exact ⟨k, u, by rw [hk hn], ⟨a, ha, hv.trans hu⟩, hm'⟩

/-- **The attributes of a masked list**: the mask under a sensitive key, and under any other what a
value of the list is masked to, as deep as asked for. -/
theorem maskedTo_of_attrs {maxDepth : Int} {as bs : List Attr} (ht : tokens ≠ [])
    (h : (attrs σ tokens maxDepth as).result = .ok bs) :
    ∀ b ∈ bs, (tokens.matchKey b.key = true → b.value = .text mask)
      ∧ ∃ a ∈ as, MaskedTo σ tokens maxDepth.toNat a.value b.value := by
  intro b hb
  obtain ⟨a, ha, hk, hput⟩ := exists_mem_left ((attrs_eq_ok ht).mp h) hb
  unfold Put at hput
  split at hput
  · rw [hput]
    exact ⟨fun _ => rfl, a, ha, maskedTo_mask _ _⟩
  · rename_i hs
    exact ⟨fun hm => absurd (hk ▸ hm) hs, a, ha, maskedTo_of_walk hput⟩

end Masking

end DiscreetLog
