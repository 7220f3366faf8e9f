import DiscreetLog.Payload
import DiscreetLog.Proofs.Ordered

/-!
# How a payload is laid out

Laying out goes member by member, so members that are laid out in two parts are laid out as a
whole (`putAll_append`). The same holds of a batch in its groups (`add_add`): the way to a group is
found again as it was left, since whatever is laid out in a group stays in it. And a group that is
opened is one that stands among the members of the group around it (`add_openGroup`).

What has no content leaves no trace, neither itself nor the groups that are open around it.
-/

namespace DiscreetLog

/-- The members of a plain group are its attributes. -/
theorem itemMembers_toValue (as : List Attr) :
    itemMembers (as.map Attr.toValue) = as.map Attr.member := by
  induction as with
  | nil => rfl
  | cons a as ih =>
    rw [List.map_cons, List.map_cons, ← ih]
    rfl

/-- **A group is laid out as the group of its attributes.** -/
theorem Attr.member_ofGroup (key : String) (as : List Attr) :
    Attr.member ⟨key, .ofGroup as⟩ = .group key (as.map Attr.member) := by
  have hall : (as.map Attr.toValue).all (·.attr?.isSome) = true := by
    rw [List.all_map]
    exact List.all_eq_true.mpr fun _ _ => rfl
  rw [Attr.member, Value.ofGroup, Value.member, if_pos hall, itemMembers_toValue]

/-- One of some members has content. -/
theorem Member.anyContent_eq (ms : List Member) : anyContent ms = ms.any (·.hasContent) := by
  induction ms with
  | nil => rfl
  | cons m ms ih => rw [anyContent, List.any_cons, ih]

/-- Members without content are none, once those without content are left out. -/
theorem Member.filter_eq_nil {ms : List Member} :
    ms.filter (·.hasContent) = [] ↔ anyContent ms = false := by
  rw [anyContent_eq, List.filter_eq_nil_iff, List.any_eq_false]

namespace Payload

/-- What a payload begins with are leaves. -/
theorem exists_leaf_of_mem_heading {withSite : Bool} {e : Event} {name : String} {item : Item}
    (h : (name, item) ∈ heading withSite e) : ∃ v, item = .leaf v := by
  rcases List.mem_append.mp h with h | h
  · simp only [List.mem_cons, Prod.mk.injEq, List.not_mem_nil, or_false] at h
    rcases h with ⟨-, rfl⟩ | ⟨-, rfl⟩ | ⟨-, rfl⟩ <;> exact ⟨_, rfl⟩
  · split at h
    · cases List.mem_singleton.mp h
      exact ⟨_, rfl⟩
    · cases h

variable (p : Payload)

theorem putAll_append (ms ns : List Member) : putAll p (ms ++ ns) = putAll (putAll p ms) ns := by
  induction ms generalizing p with
  | nil => rfl
  | cons m ms ih => rw [List.cons_append, putAll, putAll, ih]

/-- **What has no content is not laid out.** -/
theorem put_of_not_hasContent {m : Member} (hm : m.hasContent = false) : put p m = p := by
  cases m with
  | leaf key value =>
    have hk : key = "" := by simpa [Member.hasContent] using hm
    rw [put, if_pos hk]
  | group key ms =>
    have hms : Member.anyContent ms = false := hm
    rw [put, hms, Bool.not_false, if_pos rfl]

/-- **A group joins the group of its key that is there**, or takes the place of what is. -/
theorem put_group {key : String} (hk : key ≠ "") {ms : List Member}
    (hm : Member.anyContent ms = true) :
    put p (.group key ms) = Ordered.assign key (.group (putAll (groupAt p key) ms)) p := by
  rw [put, hm, Bool.not_true, if_neg Bool.false_ne_true, if_neg hk]

/-- Members without content may be left out. -/
theorem putAll_filter (ms : List Member) : putAll p (ms.filter (·.hasContent)) = putAll p ms := by
  induction ms generalizing p with
  | nil => rfl
  | cons m ms ih =>
    cases hm : m.hasContent with
    | true => rw [List.filter_cons_of_pos hm, putAll, putAll, ih]
    | false => rw [List.filter_cons_of_neg (by simp [hm]), putAll, put_of_not_hasContent p hm, ih]

@[simp] theorem groupAt_assign (name : String) (items : Payload) :
    groupAt (Ordered.assign name (.group items) p) name = items := by
  rw [groupAt, Ordered.lookup_assign_self]

/-- **The way to a group is found again**, with what was laid out there before. -/
theorem putAt_append (groups : List String) (ms ns : List Member) :
    putAt p groups (ms ++ ns) = putAt (putAt p groups ms) groups ns := by
  induction groups generalizing p with
  | nil => exact putAll_append p ms ns
  | cons name names ih =>
    rw [putAt, putAt, putAt, groupAt_assign, Ordered.assign_assign, ih]

/-- **A group that is opened is a member of the group around it.** -/
theorem putAt_concat (groups : List String) {name : String} (hn : name ≠ "") {ms : List Member}
    (hm : Member.anyContent ms = true) :
    putAt p (groups ++ [name]) (ms.filter (·.hasContent))
      = putAt p groups [.group name ms] := by
  induction groups generalizing p with
  | nil =>
    rw [List.nil_append, putAt, putAt, putAt, putAll_filter, putAll, putAll, put_group p hn hm]
  | cons first rest ih => rw [List.cons_append, putAt, putAt, ih]

/-- **A batch may be laid out in two parts.** -/
theorem add_add (groups : List String) (as bs : List Attr) :
    (p.add ⟨groups, as⟩).add ⟨groups, bs⟩ = p.add ⟨groups, as ++ bs⟩ := by
  simp only [add, List.map_append, List.filter_append]
  generalize (as.map Attr.member).filter (·.hasContent) = ms
  generalize (bs.map Attr.member).filter (·.hasContent) = ns
  cases ms with
  | nil => rfl
  | cons m ms =>
    cases ns with
    | nil => rw [List.append_nil]; rfl
    | cons n ns => exact (putAt_append p groups (m :: ms) (n :: ns)).symm

/-- **What is bound in an opened group** is laid out as a group attribute is in the groups that
are open around it. -/
theorem add_openGroup (groups : List String) {name : String} (hn : name ≠ "") (as : List Attr) :
    p.add ⟨groups ++ [name], as⟩ = p.add ⟨groups, [⟨name, .ofGroup as⟩]⟩ := by
  simp only [add, List.map_singleton, Attr.member_ofGroup]
  cases hm : Member.anyContent (as.map Attr.member) with
  | false =>
    have hg : (Member.group name (as.map Attr.member)).hasContent = false := hm
    rw [Member.filter_eq_nil.mpr hm, List.filter_cons_of_neg (by simp [hg])]
    rfl
  | true =>
    have hg : (Member.group name (as.map Attr.member)).hasContent = true := hm
    have hne : (as.map Attr.member).filter (·.hasContent) ≠ [] := fun he => by
      rw [Member.filter_eq_nil.mp he] at hm
      cases hm
    rw [List.filter_cons_of_pos hg, List.filter_nil, ← putAt_concat p groups hn hm]
    simp [hne]

end Payload

end DiscreetLog
