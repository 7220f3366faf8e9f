import DiscreetLog.Proofs.Masking.Rendered
import DiscreetLog.Proofs.Payload.Layout

/-!
# The payload of a masked event

A payload is laid out from three sources: what it begins with, the groups that were opened, and the
attributes, bound ones and those of the event. Only the attributes are masked. `Laid` says of an
item where it comes from: what it begins with stays as it is, and the value of an attribute stands,
masked, at the end of the path under which it was given (`Given`). Laying out masked attributes
keeps that (`laid_ofEvent`), whatever names they and the groups have.
-/

namespace DiscreetLog

open Json (Step)

/-- What is no group with a look behind labels is none without. -/
theorem Objects.group?_eq_none {σ : Objects} {shape : Shape Value} (h : σ.group? shape = none) :
    shape.group? = none := by
  have hattr {v : Value} (h : σ.attr? v = none) : Objects.attr? [] v = none := by
    cases v with
    | node label shape =>
      cases shape with
      | attr key w => cases h
      | _ => rfl
    | _ => rfl
  have hitems {α : Type} {f : α → Value} {items : List α}
      (h : (items.mapM fun x => σ.attr? (f x)) = none) :
      (items.mapM fun x => Objects.attr? [] (f x)) = none := by
    obtain ⟨x, hx, hn⟩ := Objects.mapM_attr?_eq_none.mp h
    exact Objects.mapM_attr?_eq_none.mpr ⟨x, hx, hattr hn⟩
  cases shape with
  | tuple | named => exact hitems h
  | object cls ss base =>
    cases base with
    | items kind vs =>
      cases kind with
      | tuple => exact hitems h
      | _ => rfl
    | _ => rfl
  | _ => rfl

/-- **What is no group is laid out as a leaf.** -/
theorem Value.member_of_group?_eq_none {v : Value} (h : v.group? = none) (key : String) :
    v.member key = .leaf key v := by
  have hall {α : Type} {f : α → Value} {items : List α}
      (h : (items.mapM fun x => Objects.attr? [] (f x)) = none) :
      ¬ items.all (fun x => (f x).attr?.isSome) = true := by
    obtain ⟨x, hx, hn⟩ := Objects.mapM_attr?_eq_none.mp h
    intro ha
    have hsome := List.all_eq_true.mp ha x hx
    rw [attr?, hn] at hsome
    cases hsome
  cases v with
  | node label shape =>
    cases shape with
    | tuple | named => rw [member, if_neg (hall h)]
    | object cls ss base =>
      cases base with
      | items kind vs =>
        cases kind with
        | tuple => rw [member, if_neg (hall h)]
        | _ => rfl
      | _ => rfl
    | _ => rfl
  | _ => rfl

namespace Masking

variable (σ : Objects) (tokens : Tokens)

/-- **An attribute and what it is masked to**, at any depth of the walk. -/
def MaskedAttr (a b : Attr) : Prop :=
  b.key = a.key
    ∧ ∃ left around, Put σ tokens (walk σ tokens left around) (.attr a.key) a.value b.value

variable {σ tokens}

/-- **A value comes out of the walk as no group, or was one**, and then it comes out as the plain
group of the attributes, each of them masked. -/
theorem group?_of_walk {left : Nat} {around : List Label} {v r : Value}
    (h : (walk σ tokens left around v).result = .ok r) :
    r.group? = none ∨ ∃ n label shape as bs, left = n + 1
      ∧ σ.container? v = some (label, shape) ∧ σ.group? shape = some as ∧ r = .ofGroup bs
      ∧ List.Forall₂ (fun a b => b.key = a.key ∧ Put σ tokens
        (walk σ tokens n (label.toList ++ around)) (.attr a.key) a.value b.value) as bs := by
  rcases walk_cases h with ⟨hv, rfl⟩ | ⟨label, shape, hc, -, ⟨-, rfl⟩ | ⟨n, rfl, -, hmade⟩⟩
  · refine .inl ?_
    cases r with
    | node label shape =>
      refine Objects.group?_eq_none (σ := σ) ?_
      exact Option.eq_none_iff_forall_ne_some.mpr fun as hg =>
        hv ⟨label, shape, rfl, Objects.isClosed_of_group? hg⟩
    | _ => rfl
  · exact .inl rfl
  · rcases remade_of_container hmade with ⟨-, rfl⟩ | ⟨shape', rfl, hm⟩
    · exact .inl rfl
    · cases hg : σ.group? shape with
      | none =>
        exact .inl (Objects.group?_eq_none (hm.group?_eq_none (faithful_walk _ _) hg))
      | some as =>
        obtain ⟨bs, rfl, hbs⟩ := hm.exists_attrs hg
        exact .inr ⟨n, label, shape, as, bs, rfl, hc, hg, rfl, hbs⟩

/-- **Masking an attribute list masks its attributes.** -/
theorem maskedAttr_of_attrs {maxDepth : Int} {as bs : List Attr} (ht : tokens ≠ [])
    (h : (attrs σ tokens maxDepth as).result = .ok bs) :
    List.Forall₂ (MaskedAttr σ tokens) as bs :=
  ((attrs_eq_ok ht).mp h).imp fun _ _ hb => hb.imp_right fun hput => ⟨_, _, hput⟩

end Masking

namespace Payload

open Masking

/-- The step that a key takes. An empty one takes none. -/
def way (key : String) : List String := if key = "" then [] else [key]

/-- **What an attribute gives**, by the path of keys to it: its value, and what the attributes of
the group give that its value is. -/
inductive Gives (σ : Objects) : Attr → List String → Value → Prop where
  | value {a : Attr} : Gives σ a (way a.key) a.value
  | inside {a b : Attr} {label : Option Label} {shape : Shape Value} {bs : List Attr}
      {path : List String} {v : Value} (hc : σ.container? a.value = some (label, shape))
      (hg : σ.group? shape = some bs) (hb : b ∈ bs) (h : Gives σ b path v) :
      Gives σ a (way a.key ++ path) v

/-- **What is given for a payload**, by the path to it: what the attributes give that are bound in
the scope and those of the event, below the groups that are open. -/
def Given (σ : Objects) (s : Scope) (e : Event) (path : List String) (v : Value) : Prop :=
  ∃ batch ∈ s.bound ++ [⟨s.groups, e.attrs⟩], ∃ a ∈ batch.attrs, ∃ keys,
    Gives σ a keys v ∧ path = batch.groups ++ keys

/-- **A path of groups that were opened**, or the beginning of one. -/
def Opened (opened : List (List String)) (path : List String) : Prop :=
  ∃ groups ∈ opened, path <+: groups

variable (σ : Objects) (tokens : Tokens) (given : List String → Value → Prop) (head : Payload)
  (opened : List (List String))

/-- **A masked attribute as the layout reads it**, by the path to the group it is in. A sensitive
key has no members. -/
inductive MaskedMember : List String → Member → Prop where
  | leaf {path : List String} {key : String} {v w : Value} (hg : given (path ++ way key) v)
      (hv : ∃ left around, Masking.Put σ tokens (walk σ tokens left around) (.attr key) v w) :
      MaskedMember path (.leaf key w)
  | group {path : List String} {key : String} {members : List Member}
      (hk : tokens.matchKey key = false) (h : ∀ m ∈ members, MaskedMember (path ++ way key) m) :
      MaskedMember path (.group key members)

/-- **Where an item comes from**, by the path to it: the payload begins with it, it is a value that
was given and has been masked, or it is a group that was opened or whose key is not sensitive. -/
inductive Laid : List String → Item → Prop where
  | head {path : List String} {name : String} {v : Value} (hp : path = [name])
      (h : (name, .leaf v) ∈ head) : Laid path (.leaf v)
  | leaf {path front : List String} {name : String} {v w : Value} (hp : path = front ++ [name])
      (hg : given path v)
      (hv : ∃ left around, Masking.Put σ tokens (walk σ tokens left around) (.attr name) v w) :
      Laid path (.leaf w)
  | group {path : List String} {items : Payload}
      (hp : Opened opened path ∨ ∃ front name, path = front ++ [name]
        ∧ tokens.matchKey name = false)
      (h : ∀ name item, (name, item) ∈ items → Laid (path ++ [name]) item) :
      Laid path (.group items)

/-- **All items of a group come from somewhere.** -/
def LaidAll (path : List String) (items : Payload) : Prop :=
  ∀ name item, (name, item) ∈ items → Laid σ tokens given head opened (path ++ [name]) item

variable {σ tokens given head opened} {path : List String} {items : Payload}

/-- **A masked attribute is masked as the layout reads it.** -/
theorem MaskedMember.of_maskedAttr {a b : Attr} (h : MaskedAttr σ tokens a b)
    (hg : ∀ keys v, Gives σ a keys v → given (path ++ keys) v) :
    MaskedMember σ tokens given path b.member := by
  obtain ⟨key, w⟩ := b
  obtain ⟨rfl, left, around, hput⟩ := h
  induction left using Nat.strongRecOn generalizing a w path around with
  | _ left ih =>
  have hleaf (hw : w.group? = none) :
      MaskedMember σ tokens given path (Attr.member ⟨a.key, w⟩) := by
    rw [Attr.member, Value.member_of_group?_eq_none hw]
    exact .leaf (hg _ _ .value) ⟨left, around, hput⟩
  cases hs : tokens.matchKey a.key with
  | true =>
    rw [Masking.Put, Place.sensitive_attr, if_pos hs] at hput
    subst hput
    exact hleaf rfl
  | false =>
    rw [Masking.Put, Place.sensitive_attr, hs, if_neg Bool.false_ne_true] at hput
    rcases group?_of_walk hput with hw | ⟨n, label, shape, as, bs, rfl, hc, hgroup, rfl, hbs⟩
    · exact hleaf hw
    · rw [Attr.member_ofGroup]
      refine .group hs fun m hm => ?_
      obtain ⟨⟨key', w'⟩, hb, rfl⟩ := List.mem_map.mp hm
      obtain ⟨a', ha', rfl, hput'⟩ := exists_mem_left hbs hb
      refine ih n (Nat.lt_succ_self n) (fun keys v hv => ?_) _ _ hput'
      rw [List.append_assoc]
      exact hg _ _ (.inside hc hgroup ha' hv)

/-- An assignment to a group of items. -/
theorem LaidAll.assign (h : LaidAll σ tokens given head opened path items) {name : String}
    {item : Item} (hi : Laid σ tokens given head opened (path ++ [name]) item) :
    LaidAll σ tokens given head opened path (Ordered.assign name item items) := by
  intro n i hm
  rcases Ordered.mem_assign hm with he | hm
  · cases he
    exact hi
  · exact h n i hm

/-- The items of a group that is there already. -/
theorem LaidAll.groupAt (h : LaidAll σ tokens given head opened path items) (name : String) :
    LaidAll σ tokens given head opened (path ++ [name]) (groupAt items name) := by
  unfold Payload.groupAt
  split
  · rename_i inner hl
    cases h name _ (Ordered.mem_of_lookup hl) with
    | group _ h => exact h
  · nofun

mutual

/-- **Laying out a masked member keeps it so.** -/
theorem LaidAll.put {path : List String} {items : Payload}
    (h : LaidAll σ tokens given head opened path items) :
    (m : Member) → MaskedMember σ tokens given path m →
      LaidAll σ tokens given head opened path (Payload.put items m)
  | .leaf key v, hm => by
    obtain ⟨hg, hv⟩ := hm
    rw [Payload.put]
    split
    · exact h
    · rename_i hk
      rw [way, if_neg hk] at hg
      exact h.assign (.leaf rfl hg hv)
  | .group key ms, hm => by
    obtain _ | ⟨hk, hm⟩ := hm
    rw [Payload.put]
    split
    · exact h
    · split
      · rename_i hempty
        rw [way, if_pos hempty, List.append_nil] at hm
        exact h.putAll ms hm
      · rename_i hkey
        rw [way, if_neg hkey] at hm
        exact h.assign (.group (.inr ⟨_, _, rfl, hk⟩) ((h.groupAt key).putAll ms hm))

theorem LaidAll.putAll {path : List String} {items : Payload}
    (h : LaidAll σ tokens given head opened path items) :
    (ms : List Member) → (∀ m ∈ ms, MaskedMember σ tokens given path m) →
      LaidAll σ tokens given head opened path (Payload.putAll items ms)
  | [], _ => h
  | m :: ms, hm => by
    rw [Payload.putAll]
    refine (h.put m (hm m List.mem_cons_self)).putAll ms fun m' hm' => ?_
    exact hm m' (List.mem_cons_of_mem m hm')

end

/-- Laying out masked members in opened groups keeps it so. -/
theorem LaidAll.putAt {groups : List String} {ms : List Member}
    (h : LaidAll σ tokens given head opened path items) (ho : Opened opened (path ++ groups))
    (hm : ∀ m ∈ ms, MaskedMember σ tokens given (path ++ groups) m) :
    LaidAll σ tokens given head opened path (Payload.putAt items groups ms) := by
  induction groups generalizing path items with
  | nil =>
    rw [List.append_nil] at hm
    exact h.putAll ms hm
  | cons name names ih =>
    rw [List.append_cons] at ho hm
    rw [Payload.putAt]
    refine h.assign (.group (.inl ?_) (ih (h.groupAt name) ho hm))
    obtain ⟨groups, hg, hp⟩ := ho
    exact ⟨groups, hg, (List.prefix_append _ _).trans hp⟩

/-- **A batch and what it is masked to**, in the same groups. -/
def MaskedBatch (σ : Objects) (tokens : Tokens) (b c : Batch) : Prop :=
  c.groups = b.groups ∧ List.Forall₂ (MaskedAttr σ tokens) b.attrs c.attrs

/-- **Laying out a masked batch keeps it so.** -/
theorem LaidAll.add (h : LaidAll σ tokens given head opened [] items) {b c : Batch}
    (hb : MaskedBatch σ tokens b c) (ho : b.groups ∈ opened)
    (hg : ∀ a ∈ b.attrs, ∀ keys v, Gives σ a keys v → given (b.groups ++ keys) v) :
    LaidAll σ tokens given head opened [] (Payload.add items c) := by
  unfold Payload.add
  dsimp only
  split
  · exact h
  · rw [hb.1]
    refine h.putAt ⟨_, ho, List.prefix_rfl⟩ fun m hm => ?_
    obtain ⟨y, hy, rfl⟩ := List.mem_map.mp (List.mem_of_mem_filter hm)
    obtain ⟨a, ha, hay⟩ := exists_mem_left hb.2 hy
    exact .of_maskedAttr hay (hg a ha)

/-- **A scope and the same scope with everything masked** that is bound in it. -/
structure MaskedScope (σ : Objects) (tokens : Tokens) (s t : Scope) : Prop where
  threshold : t.threshold = s.threshold
  withSite : t.withSite = s.withSite
  groups : t.groups = s.groups
  bound : List.Forall₂ (MaskedBatch σ tokens) s.bound t.bound

/-- The groups that were open when something was bound in a scope, and those that are open. -/
def openedIn (s : Scope) : List (List String) := s.groups :: s.bound.map (·.groups)

/-- **The payload of a masked event** in a scope with everything masked that is bound in it. -/
theorem laid_ofEvent {s t : Scope} {e f : Event} (hs : MaskedScope σ tokens s t)
    (he : List.Forall₂ (MaskedAttr σ tokens) e.attrs f.attrs) :
    LaidAll σ tokens (Given σ s e) (heading t.withSite f) (openedIn s) [] (ofEvent t f) := by
  have hgiven {b : Batch} (hb : b ∈ s.bound ++ [⟨s.groups, e.attrs⟩]) (a : Attr) (ha : a ∈ b.attrs)
      (keys : List String) (v : Value) (hv : Gives σ a keys v) : Given σ s e (b.groups ++ keys) v :=
    ⟨b, hb, a, ha, keys, hv, rfl⟩
  -- batch by batch, each of them one of those that are bound
  have hbound {bs cs : List Batch} (h : List.Forall₂ (MaskedBatch σ tokens) bs cs)
      (hsub : bs ⊆ s.bound) {items : Payload}
      (hitems : LaidAll σ tokens (Given σ s e) (heading t.withSite f) (openedIn s) [] items) :
      LaidAll σ tokens (Given σ s e) (heading t.withSite f) (openedIn s) []
        (cs.foldl Payload.add items) := by
    induction h generalizing items with
    | nil => exact hitems
    | cons hb _ ih =>
      have hm := hsub List.mem_cons_self
      refine ih (fun _ hx => hsub (List.mem_cons_of_mem _ hx)) (hitems.add hb ?_ ?_)
      · exact List.mem_cons_of_mem _ (List.mem_map_of_mem hm)
      · exact hgiven (List.mem_append_left _ hm)
  refine (hbound hs.bound (List.Subset.refl _) fun name item hm => ?_).add
    (b := ⟨s.groups, e.attrs⟩) ⟨hs.groups, he⟩ List.mem_cons_self ?_
  · obtain ⟨v, rfl⟩ := exists_leaf_of_mem_heading hm
    exact .head rfl hm
  · exact hgiven (List.mem_append_right _ (List.mem_singleton_self _))

end Payload

end DiscreetLog
