import DiscreetLog.Proofs.Chain.Derivation
import DiscreetLog.Proofs.Payload.Writes

/-!
# The last write counts

A payload is what is left of its writes. A later write takes an earlier one away if their ways
*cross*, which is to say that one of the two is the beginning of the other: a leaf that is written
where a group was takes the group away, and a leaf that is written below another one takes that
away. Any other earlier write it leaves alone (`valueAt_write`).

So a payload holds a value at the end of a way exactly if that was written there and nothing was
written across it afterwards (`valueAt_writeAll`). No group is made without a write into it, so none
is empty, and the pairs of a flat line are the writes that are left (`derive_last_writes`).
-/

namespace DiscreetLog

/-- Two ways cross: they are equal, or one of them is the beginning of the other. -/
def Cross (path other : List String) : Prop := path <+: other ∨ other <+: path

/-- **A write that is left**: it is in the history, and none of the later ones crosses it. -/
def LeftOf (ws : List Write) (path : List String) (v : Value) : Prop :=
  ∃ before after, ws = before ++ (path, v) :: after ∧ ∀ w ∈ after, ¬ Cross w.1 path

theorem cross_cons {name first : String} {path other : List String} :
    Cross (name :: path) (first :: other) ↔ name = first ∧ Cross path other := by
  rw [Cross, Cross, List.cons_prefix_cons, List.cons_prefix_cons, and_or_left, eq_comm (a := first)]

/-- **One more write** is left itself, and leaves what it does not cross. -/
theorem leftOf_concat {ws : List Write} {w : Write} {path : List String} {v : Value} :
    LeftOf (ws ++ [w]) path v ↔ w = (path, v) ∨ ¬ Cross w.1 path ∧ LeftOf ws path v := by
  constructor
  · rintro ⟨before, after, he, hc⟩
    rcases List.eq_nil_or_concat after with rfl | ⟨after, last, rfl⟩
    · exact .inl (List.cons.inj (List.append_inj' he rfl).2).1
    · rw [List.concat_eq_append] at he hc
      rw [← List.cons_append, ← List.append_assoc] at he
      obtain ⟨hws, hl⟩ := List.append_inj' he rfl
      cases hl
      exact .inr ⟨hc w List.mem_concat_self, before, after, hws,
        fun u hu => hc u (List.mem_append_left _ hu)⟩
  · rintro (rfl | ⟨hw, before, after, rfl, hc⟩)
    · exact ⟨ws, [], rfl, nofun⟩
    · refine ⟨before, after ++ [w], by simp, fun u hu => ?_⟩
      rcases List.mem_append.mp hu with hu | hu
      · exact hc u hu
      · exact List.mem_singleton.mp hu ▸ hw

namespace Payload

/-- **The value at the end of a way**, if groups lead there. -/
def valueAt (p : Payload) : List String → Option Value
  | [] => none
  | [name] =>
    match p.lookup name with
    | some (.leaf v) => some v
    | _ => none
  | name :: next :: rest => valueAt (groupAt p name) (next :: rest)

variable (p : Payload)

/-- No group has a value in it where there is none. -/
theorem valueAt_nil (path : List String) : valueAt [] path = none := by
  induction path with
  | nil => rfl
  | cons name rest ih =>
    cases rest with
    | nil => rfl
    | cons => exact ih

/-- An assignment leaves what is behind every other name alone. -/
theorem valueAt_assign_of_ne {name first : String} (h : first ≠ name) (item : Item)
    (rest : List String) :
    valueAt (Ordered.assign name item p) (first :: rest) = valueAt p (first :: rest) := by
  cases rest with
  | nil => rw [valueAt, valueAt, Ordered.lookup_assign_of_ne h]
  | cons => rw [valueAt, valueAt, groupAt, groupAt, Ordered.lookup_assign_of_ne h]

/-- **After a write** there is the value at the end of its way, nothing on any other way that
crosses it, and on the rest of the ways what was there before. -/
theorem valueAt_write {path : List String} (hp : path ≠ []) {v u : Value} {other : List String} :
    valueAt (p.write v path) other = some u
      ↔ path = other ∧ v = u ∨ ¬ Cross path other ∧ valueAt p other = some u := by
  -- name by name along both ways, until they part or one of them ends
  induction path generalizing p other with
  | nil => exact absurd rfl hp
  | cons name rest ih =>
    have hnil (path : List String) : Cross [] path ∧ Cross path [] :=
      ⟨.inl List.nil_prefix, .inr List.nil_prefix⟩
    cases other with
    | nil => simp [valueAt, hnil]
    | cons first more =>
      rw [cross_cons, List.cons.injEq]
      by_cases hn : first = name
      · subst hn
        cases rest with
        | nil =>
          cases more with
          | nil => simp [write, valueAt, hnil]
          | cons second more =>
            have hg : groupAt (Ordered.assign first (.leaf v) p) first = [] := by
              rw [groupAt, Ordered.lookup_assign_self]
            simp [write, valueAt, hg, valueAt_nil, hnil]
        | cons next rest =>
          cases more with
          | nil => simp [write, valueAt, hnil]
          | cons second more =>
            rw [write, valueAt, valueAt, groupAt_assign, ih _ (List.cons_ne_nil _ _)]
            simp only [true_and]
      · have hne : ¬ name = first := fun he => hn he.symm
        simp only [hne, false_and, not_false_eq_true, true_and, false_or]
        cases rest with
        | nil => rw [write, valueAt_assign_of_ne p hn]
        | cons => rw [write, valueAt_assign_of_ne p hn]

/-- **What is left of writes**: a payload holds what was written and not crossed afterwards. -/
theorem valueAt_writeAll {ws : List Write} (hws : ∀ w ∈ ws, w.1 ≠ []) {path : List String}
    {v : Value} : valueAt (writeAll [] ws) path = some v ↔ LeftOf ws path v := by
  induction ws using List.reverseRecOn with
  | nil =>
    rw [writeAll, List.foldl_nil, valueAt_nil]
    refine iff_of_false (Option.some_ne_none v).symm ?_
    rintro ⟨before, after, he, -⟩
    exact absurd he.symm (List.append_ne_nil_of_right_ne_nil before (List.cons_ne_nil _ _))
  | append_singleton ws w ih =>
    rw [writeAll_append, writeAll, List.foldl_cons, List.foldl_nil,
      valueAt_write _ (hws w List.mem_concat_self), leftOf_concat,
      ih fun u hu => hws u (List.mem_append_left _ hu), Prod.ext_iff]

end Payload

/-! ## Groups and names -/

/-- **An item in order**: each group in it has members, and no two of them have one name, nor one an
empty name. -/
inductive Item.InOrder : Item → Prop where
  | leaf {v : Value} : InOrder (.leaf v)
  | group {items : Payload} (hne : items ≠ []) (hd : (items.map (·.1)).Nodup)
      (hn : "" ∉ items.map (·.1)) (h : ∀ m ∈ items, InOrder m.2) : InOrder (.group items)

namespace Payload

/-- **A payload in order.** Unlike a group it may be empty. -/
def InOrder (p : Payload) : Prop :=
  (p.map (·.1)).Nodup ∧ "" ∉ p.map (·.1) ∧ ∀ m ∈ p, m.2.InOrder

variable {p : Payload}

theorem InOrder.groupAt (h : p.InOrder) (name : String) : (groupAt p name).InOrder := by
  unfold Payload.groupAt
  split
  · rename_i items hl
    cases h.2.2 _ (Ordered.mem_of_lookup hl) with
    | group _ hd hn hi => exact ⟨hd, hn, hi⟩
  · exact ⟨List.nodup_nil, List.not_mem_nil, nofun⟩

theorem InOrder.assign (h : p.InOrder) {name : String} (hn : name ≠ "") {item : Item}
    (hi : item.InOrder) : InOrder (Ordered.assign name item p) := by
  refine ⟨Ordered.nodup_assign h.1, fun hm => ?_, fun m hm => ?_⟩
  · obtain ⟨m, hm, he⟩ := List.mem_map.mp hm
    rcases Ordered.mem_assign hm with rfl | hm
    · exact hn he
    · exact h.2.1 (List.mem_map.mpr ⟨m, hm, he⟩)
  · rcases Ordered.mem_assign hm with rfl | hm
    · exact hi
    · exact h.2.2 m hm

/-- **A write keeps a payload in order.** -/
theorem InOrder.write (h : p.InOrder) (v : Value) {path : List String} (hp : "" ∉ path) :
    (p.write v path).InOrder := by
  induction path generalizing p with
  | nil => exact h
  | cons name rest ih =>
    have hn : name ≠ "" := fun he => hp (he ▸ List.mem_cons_self)
    have hrest : "" ∉ rest := fun hm => hp (List.mem_cons_of_mem name hm)
    cases rest with
    | nil => exact h.assign hn .leaf
    | cons next rest =>
      obtain ⟨hd, hnames, hi⟩ := ih (h.groupAt name) hrest
      refine h.assign hn (.group (fun he => ?_) hd hnames hi)
      -- the group is not empty since something was written into it
      have hv : valueAt ((Payload.groupAt p name).write v (next :: rest)) (next :: rest) = some v :=
        (valueAt_write _ (List.cons_ne_nil next rest)).mpr (.inl ⟨rfl, rfl⟩)
      rw [he, valueAt_nil] at hv
      cases hv

/-- **What writes make is in order.** -/
theorem inOrder_writeAll {ws : List Write} (hws : ∀ w ∈ ws, Named w.1) :
    (writeAll [] ws).InOrder := by
  induction ws using List.reverseRecOn with
  | nil => exact ⟨List.nodup_nil, List.not_mem_nil, nofun⟩
  | append_singleton ws w ih =>
    rw [writeAll_append]
    exact (ih fun u hu => hws u (List.mem_append_left _ hu)).write w.2
      (hws w List.mem_concat_self).2

/-! ## The leaves of a payload -/

mutual

/-- The leaves of an item, each with its way from the item on. -/
def itemPlaced : Item → List Write
  | .leaf v => [([], v)]
  | .group items => placed items

/-- **The leaves of a payload** in order, each with its way. -/
def placed : List (String × Item) → List Write
  | [] => []
  | (name, item) :: rest => (itemPlaced item).map (fun w => (name :: w.1, w.2)) ++ placed rest

end

/-- The pair of a flat line that a leaf with its way becomes. -/
def dotted (w : Write) : String × Value := (".".intercalate w.1, w.2)

mutual

theorem itemLeaves_eq (key : String) : (item : Item) →
    itemLeaves key item = (itemPlaced item).map fun w => dotted (key :: w.1, w.2)
  | .leaf _ => rfl
  | .group items => leavesBehind_eq key items

theorem leavesBehind_eq (key : String) : (items : List (String × Item)) →
    leavesBehind (key ++ ".") items = (placed items).map fun w => dotted (key :: w.1, w.2)
  | [] => rfl
  | (name, item) :: rest => by
    rw [leavesBehind, itemLeaves_eq _ item, leavesBehind_eq key rest, placed, List.map_append,
      List.map_map]
    rfl

end

/-- **The pairs of a flat line are the leaves**, the names on the way to each joined by points. -/
theorem leaves_eq (p : Payload) : p.leaves = (placed p).map dotted := by
  rw [leaves]
  induction p with
  | nil => rfl
  | cons m rest ih =>
    obtain ⟨name, item⟩ := m
    rw [leavesBehind, ih, itemLeaves_eq, placed, List.map_append, List.map_map, String.empty_append]
    rfl

theorem mem_placed_iff {path : List String} {v : Value} :
    (path, v) ∈ placed p
      ↔ ∃ name rest item, path = name :: rest ∧ (name, item) ∈ p ∧ (rest, v) ∈ itemPlaced item := by
  induction p with
  | nil => exact iff_of_false nofun fun ⟨_, _, _, _, hm, _⟩ => nomatch hm
  | cons m p ih =>
    obtain ⟨n, i⟩ := m
    rw [placed, List.mem_append, ih, List.mem_map]
    constructor
    · rintro (⟨⟨rest, v⟩, hw, he⟩ | ⟨name, rest, item, he, hm, hw⟩)
      · cases he
        exact ⟨n, rest, i, rfl, List.mem_cons_self, hw⟩
      · exact ⟨name, rest, item, he, List.mem_cons_of_mem _ hm, hw⟩
    · rintro ⟨name, rest, item, rfl, hm, hw⟩
      rcases List.mem_cons.mp hm with he | hm
      · cases he
        exact .inl ⟨(rest, v), hw, rfl⟩
      · exact .inr ⟨name, rest, item, rfl, hm, hw⟩

/-- **A leaf of a payload is a value at the end of a way**, where names are distinct. -/
theorem mem_placed (h : p.InOrder) {path : List String} {v : Value} :
    (path, v) ∈ placed p ↔ valueAt p path = some v := by
  induction path generalizing p with
  | nil => exact iff_of_false (fun hm => by simpa using mem_placed_iff.mp hm) nofun
  | cons name rest ih =>
    have hnil {items : Payload} : ([], v) ∉ placed items :=
      fun hm => by simpa using mem_placed_iff.mp hm
    have hmem : (name :: rest, v) ∈ placed p
        ↔ ∃ item, p.lookup name = some item ∧ (rest, v) ∈ itemPlaced item := by
      rw [mem_placed_iff]
      constructor
      · rintro ⟨_, _, item, he, hm, hw⟩
        cases he
        exact ⟨item, Ordered.lookup_of_mem h.1 hm, hw⟩
      · rintro ⟨item, hl, hw⟩
        exact ⟨name, rest, item, rfl, Ordered.mem_of_lookup hl, hw⟩
    rw [hmem]
    cases rest with
    | nil =>
      rw [valueAt]
      cases p.lookup name with
      | none => simp
      | some item => cases item <;> simp [itemPlaced, hnil, eq_comm]
    | cons next rest =>
      rw [valueAt, ← ih (h.groupAt name), Payload.groupAt]
      cases p.lookup name with
      | none => simp [placed]
      | some item => cases item <;> simp [itemPlaced, placed]

mutual

theorem nodup_itemPlaced : {item : Item} → item.InOrder → ((itemPlaced item).map (·.1)).Nodup
  | .leaf _, _ => List.nodup_singleton _
  | .group items, .group _ hd hn h => nodup_placed (p := items) ⟨hd, hn, h⟩

/-- **No two leaves have one way.** -/
theorem nodup_placed : {p : List (String × Item)} → InOrder p → ((placed p).map (·.1)).Nodup
  | [], _ => List.nodup_nil
  | (name, item) :: rest, h => by
    obtain ⟨hname, hd⟩ := List.nodup_cons.mp h.1
    have hrest : InOrder rest := ⟨hd, fun hm => h.2.1 (List.mem_cons_of_mem _ hm),
      fun m hm => h.2.2 m (List.mem_cons_of_mem _ hm)⟩
    rw [placed, List.map_append, List.map_map, List.nodup_append]
    refine ⟨?_, nodup_placed hrest, ?_⟩
    · have hi := nodup_itemPlaced (h.2.2 _ List.mem_cons_self)
      have hc := hi.map (f := (name :: ·)) fun _ _ he => (List.cons.inj he).2
      rwa [List.map_map] at hc
    · rintro path hm _ hm' rfl
      obtain ⟨u, -, rfl⟩ := List.mem_map.mp hm
      obtain ⟨⟨path, v⟩, hw, he⟩ := List.mem_map.mp hm'
      obtain ⟨n, _, i, hpath, hi, -⟩ := mem_placed_iff.mp hw
      have hn : n = name := (List.cons.inj (hpath.symm.trans he)).1
      exact hname (List.mem_map.mpr ⟨_, hi, hn⟩)

end

end Payload

/-! ## The payload of an event in a derived scope -/

namespace Scope

/-- **The groups of a scope have names**, those that are open and those that were. -/
def GroupsNamed (s : Scope) : Prop := "" ∉ s.groups ∧ ∀ b ∈ s.bound, "" ∉ b.groups

theorem GroupsNamed.derive {s : Scope} (h : s.GroupsNamed) (ds : List Derivation) :
    (s.derive ds).GroupsNamed := by
  induction ds generalizing s with
  | nil => exact h
  | cons d ds ih =>
    cases d with
    | bind as =>
      refine ih ?_
      unfold bind
      split
      · exact h
      · refine ⟨h.1, fun b hb => ?_⟩
        rcases List.mem_append.mp hb with hb | hb
        · exact h.2 b hb
        · exact List.mem_singleton.mp hb ▸ h.1
    | openGroup name =>
      refine ih ?_
      unfold openGroup
      split
      · exact h
      · rename_i hn
        refine ⟨fun hm => ?_, h.2⟩
        rcases List.mem_append.mp hm with hm | hm
        · exact h.1 hm
        · exact hn (List.mem_singleton.mp hm).symm

/-- **The writes of an event go ways that have names.** -/
theorem GroupsNamed.named_of_mem_writes {s : Scope} (h : s.GroupsNamed) (e : Event) :
    ∀ w ∈ s.writes e, Named w.1 := by
  have hbatch {b : Batch} (hb : "" ∉ b.groups) : ∀ w ∈ b.writes, Named w.1 := by
    intro w hw
    obtain ⟨u, hu, rfl⟩ := List.mem_map.mp hw
    obtain ⟨hne, hn⟩ := named_of_mem_membersWrites _ u hu
    exact ⟨List.append_ne_nil_of_right_ne_nil _ hne,
      fun hm => (List.mem_append.mp hm).elim hb hn⟩
  have hhead : ∀ w ∈ e.builtIns s.withSite, Named w.1 := by
    intro w hw
    unfold Event.builtIns at hw
    have hone {name : String} (hn : name ≠ "") : Named [name] :=
      ⟨List.cons_ne_nil _ _, fun hm => hn (List.mem_singleton.mp hm).symm⟩
    rcases List.mem_append.mp hw with hw | hw
    · simp only [List.mem_cons, List.not_mem_nil, or_false] at hw
      rcases hw with rfl | rfl | rfl <;> exact hone (by decide)
    · split at hw
      · cases List.mem_singleton.mp hw
        exact hone (by decide)
      · cases hw
  intro w hw
  rcases List.mem_append.mp hw with hw | hw
  · rcases List.mem_append.mp hw with hw | hw
    · exact hhead w hw
    · obtain ⟨b, hb, hw⟩ := List.mem_flatMap.mp hw
      exact hbatch (h.2 b hb) w hw
  · exact hbatch (b := ⟨s.groups, e.attrs⟩) h.1 w hw

open Payload

/-- A leaf is written over by the group of its name, and the group is opened again by the event. -/
example :
    let ds : List Derivation := [.bind [⟨"a", .int 1⟩], .bind [⟨"a", .ofGroup [⟨"x", .int 2⟩]⟩]]
    let e : Event := ⟨⟨⟨2024, 5, 1⟩, 10, 0, 0, 0, some 0⟩, .info, "m", none,
      [⟨"a", .ofGroup [⟨"y", .int 3⟩]⟩]⟩
    let p := ofEvent ((root .info false).derive ds) e
    (placed p).drop 3 = [(["a", "x"], .int 2), (["a", "y"], .int 3)] ∧ p.valueAt ["a"] = none :=
  ⟨rfl, rfl⟩

end Scope

end DiscreetLog
