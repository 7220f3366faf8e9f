import DiscreetLog.Proofs.Payload.Masked

/-!
# What is rendered of the payload of a masked event

The tree of a payload follows the payload: a group of items is an object, and below a leaf stands
the tree of its value. A member under a sensitive name is hidden: it is the mask, or the tree of the
blank of what stood in the value that was given there. A member that masking is not made for is one
of the payload's own – a name that it begins with, or that a group was opened under – or it is
inside a value that was not masked, or in a place of a masked one that masking does not look at.
-/

namespace DiscreetLog.Payload

open Json (Step)
open Masking (walk)

variable (σ : Objects) (tokens : Tokens) (given : List String → Value → Prop) (head : Payload)
  (opened : List (List String))

/-- **A member that is hidden**, by the path to an item, the path from its tree to the object that
the member is in, and the name of the member: it is the mask, or it is hidden in a value that was
given. -/
def Hidden (path : List String) (steps : List Step) (name : String) (u : Json) : Prop :=
  u = .text mask ∨ ∃ front rest v, steps = front.map .member ++ rest ∧ given (path ++ front) v
    ∧ Masking.Hidden σ tokens v rest name u

/-- **A member that masking is not made for**, by the path to an item, the item, the path from its
tree to the object that the member is in, and the name of the member. -/
inductive Exempt : List String → Item → List Step → String → Prop where
  /-- The payload begins with it. -/
  | head {path : List String} {items : Payload} {name : String} {item : Item} (hp : path = [])
      (h : (name, item) ∈ head) : Exempt path (.group items) [] name
  /-- A group was opened under its name. -/
  | opened {path : List String} {items : Payload} {name : String}
      (h : Opened opened (path ++ [name])) : Exempt path (.group items) [] name
  /-- Inside a value that the payload begins with. -/
  | inHead {path : List String} {n name : String} {v : Value} {steps : List Step}
      (hp : path = [n]) (h : (n, .leaf v) ∈ head) : Exempt path (.leaf v) steps name
  /-- Inside a value that was given, in a place that masking does not look at. -/
  | inValue {path : List String} {v w : Value} {steps : List Step} {name : String}
      (hg : given path v) (h : Masking.Exempt σ tokens v steps name) :
      Exempt path (.leaf w) steps name
  /-- Inside a group. -/
  | inGroup {path : List String} {items : Payload} {n name : String} {item : Item}
      {steps : List Step} (hm : (n, item) ∈ items) (h : Exempt (path ++ [n]) item steps name) :
      Exempt path (.group items) (.member n :: steps) name

variable {σ tokens given head opened} {path : List String} {steps : List Step} {name : String}
  {u : Json}

/-- What is hidden in an item of a group is hidden in the group. -/
theorem Hidden.inGroup {n : String} (h : Hidden σ tokens given (path ++ [n]) steps name u) :
    Hidden σ tokens given path (.member n :: steps) name u := by
  refine h.imp_right ?_
  rintro ⟨front, rest, v, rfl, hg, hv⟩
  refine ⟨n :: front, rest, v, rfl, ?_, hv⟩
  rwa [List.append_cons]

/-- The members that items become are the trees of the items. -/
theorem exists_of_mem_renderItems {items : Payload} {members : List (String × Json)}
    (h : renderItems σ items = .ok members) (hm : (name, u) ∈ members) :
    ∃ item, (name, item) ∈ items ∧ renderItem σ item = .ok u := by
  induction items generalizing members with
  | nil =>
    cases h
    cases hm
  | cons first rest ih =>
    obtain ⟨n, item⟩ := first
    rw [renderItems] at h
    obtain ⟨tree, ht, h⟩ := Results.bind_eq_ok.mp h
    obtain ⟨trees, hts, rfl⟩ := Results.map_eq_ok.mp h
    rcases List.mem_cons.mp hm with he | hm
    · cases he
      exact ⟨item, List.mem_cons_self, ht⟩
    · obtain ⟨item', hi, hr⟩ := ih hts hm
      exact ⟨item', List.mem_cons_of_mem _ hi, hr⟩

/-- An item under a sensitive name is the mask, unless the payload begins with it or a group was
opened there. -/
theorem Laid.hidden {items : Payload} {item : Item}
    (h : Laid σ tokens given head opened (path ++ [name]) item)
    (hr : renderItem σ item = .ok u) (hn : tokens.matchKey name = true) :
    Hidden σ tokens given path [] name u
      ∨ Exempt σ tokens given head opened path (.group items) [] name := by
  generalize hq : path ++ [name] = q at h
  cases h with
  | head hp h =>
    subst hp
    cases path with
    | nil =>
      cases hq
      exact .inr (.head rfl h)
    | cons => exact absurd (congrArg List.length hq) (by simp)
  | leaf hp _ hv =>
    subst hp
    obtain ⟨-, he⟩ := List.append_inj' hq rfl
    cases he
    obtain ⟨left, around, hput⟩ := hv
    rw [Masking.Put, Place.sensitive_attr, if_pos hn] at hput
    subst hput
    rw [renderItem, Value.render] at hr
    exact .inl (.inl (Except.ok.inj (hr.symm.trans (Value.renderFrom_atom _ _ _ _))))
  | group hp =>
    subst hq
    rcases hp with ho | ⟨front, last, he, hk⟩
    · exact .inr (.opened ho)
    · obtain ⟨-, he⟩ := List.append_inj' he rfl
      cases he
      rw [hk] at hn
      cases hn

/-- A group of items is hidden under a sensitive name, if its items are. -/
theorem LaidAll.hidden_or_exempt_of_items {items : Payload} {t : Json}
    (h : LaidAll σ tokens given head opened path items)
    (hi : ∀ n item, (n, item) ∈ items → ∀ t steps, renderItem σ item = .ok t →
      t.At (steps ++ [.member name]) u → Hidden σ tokens given (path ++ [n]) steps name u
        ∨ Exempt σ tokens given head opened (path ++ [n]) item steps name)
    (hr : renderItem σ (.group items) = .ok t) (hat : t.At (steps ++ [.member name]) u)
    (hn : tokens.matchKey name = true) :
    Hidden σ tokens given path steps name u
      ∨ Exempt σ tokens given head opened path (.group items) steps name := by
  rw [renderItem] at hr
  obtain ⟨members, hms, rfl⟩ := Results.map_eq_ok.mp hr
  cases steps with
  | nil =>
    obtain _ | ⟨hs, hp⟩ := hat
    cases hp
    cases hs with
    | member hm =>
      obtain ⟨item, hitem, hr⟩ := exists_of_mem_renderItems hms hm
      exact (h name item hitem).hidden hr hn
  | cons s steps =>
    obtain _ | ⟨hs, hat⟩ := hat
    cases hs with
    | member hm =>
      obtain ⟨item, hitem, hr⟩ := exists_of_mem_renderItems hms hm
      exact (hi _ item hitem _ steps hr hat).imp Hidden.inGroup (.inGroup hitem)

/-- **What is rendered of an item is hidden under a sensitive name**, outside the places that
masking is not made for. -/
theorem Laid.hidden_or_exempt {item : Item} (h : Laid σ tokens given head opened path item)
    {t : Json} (hr : renderItem σ item = .ok t) (hat : t.At (steps ++ [.member name]) u)
    (hn : tokens.matchKey name = true) :
    Hidden σ tokens given path steps name u
      ∨ Exempt σ tokens given head opened path item steps name := by
  induction h generalizing t steps with
  | head hp h => exact .inr (.inHead hp h)
  | @leaf path _ key v w _ hg hv =>
    obtain ⟨left, around, hput⟩ := hv
    rw [renderItem, Value.render] at hr
    cases hs : tokens.matchKey key with
    | true =>
      rw [Masking.Put, Place.sensitive_attr, if_pos hs] at hput
      subst hput
      exact absurd hat (Masking.not_at_of_atom hr)
    | false =>
      rw [Masking.Put, Place.sensitive_attr, hs, if_neg Bool.false_ne_true] at hput
      refine (Masking.hidden_or_exempt hput (Nat.le_of_eq (Objects.rank_nil σ _)) hr hat hn).imp
        (fun hh => .inr ⟨[], steps, v, rfl, ?_, hh⟩) (.inValue hg)
      rwa [List.append_nil]
  | group hp h ih =>
    exact LaidAll.hidden_or_exempt_of_items h (fun n item hm t steps => ih n item hm) hr hat hn

/-- **What is rendered of a payload is hidden under a sensitive name**, outside the places that
masking is not made for. -/
theorem LaidAll.hidden_or_exempt {items : Payload}
    (h : LaidAll σ tokens given head opened path items) {t : Json}
    (hr : renderItem σ (.group items) = .ok t) (hat : t.At (steps ++ [.member name]) u)
    (hn : tokens.matchKey name = true) :
    Hidden σ tokens given path steps name u
      ∨ Exempt σ tokens given head opened path (.group items) steps name :=
  h.hidden_or_exempt_of_items
    (fun n item hm _ _ hr hat => (h n item hm).hidden_or_exempt hr hat hn) hr hat hn

end DiscreetLog.Payload
