import DiscreetLog.Ordered
import Mathlib.Data.List.Dedup
import Mathlib.Data.List.Forall2
import Mathlib.Data.List.Induction
import Mathlib.Data.List.Nodup

/-!
# Members in order, each once

What is assigned name by name has every name once, so a member and what is found under its name
are the same thing. Of pairs with one name the last one counts.
-/

namespace DiscreetLog.Ordered

variable {α : Type} {name : String} {value : α} {members : List (String × α)}

/-- **An assignment adds at most its own name**, and adds it at the end. -/
theorem names_assign (name : String) (value : α) (members : List (String × α)) :
    (assign name value members).map (·.1)
      = if name ∈ members.map (·.1) then members.map (·.1) else members.map (·.1) ++ [name] := by
  induction members with
  | nil => rfl
  | cons m rest ih =>
    obtain ⟨n, v⟩ := m
    rw [assign]
    split
    · rename_i h
      subst h
      simp
    · rename_i h
      have hn : ¬ name = n := fun e => h e.symm
      simp only [List.map_cons, ih, List.mem_cons, hn, false_or]
      split <;> rfl

/-- **Names stay distinct.** -/
theorem nodup_assign (h : (members.map (·.1)).Nodup) :
    ((assign name value members).map (·.1)).Nodup := by
  rw [names_assign]
  split
  · exact h
  · rename_i hn
    rw [List.nodup_append_comm]
    exact List.nodup_cons.mpr ⟨hn, h⟩

/-- **Of two values that are assigned to a name the second counts.** -/
theorem assign_assign (name : String) (v w : α) (members : List (String × α)) :
    assign name w (assign name v members) = assign name w members := by
  induction members with
  | nil => simp only [assign, if_true]
  | cons m rest ih =>
    obtain ⟨n, u⟩ := m
    by_cases hn : n = name
    · simp only [assign, if_pos hn, if_true]
    · simp only [assign, if_neg hn, ih]

/-- A member after an assignment is the assigned one, or was there. -/
theorem mem_assign {m : String × α} (h : m ∈ assign name value members) :
    m = (name, value) ∨ m ∈ members := by
  induction members with
  | nil => exact .inl (List.mem_singleton.mp h)
  | cons m' rest ih =>
    rw [assign] at h
    split at h
    · rcases List.mem_cons.mp h with rfl | h
      · exact .inl rfl
      · exact .inr (List.mem_cons_of_mem _ h)
    · rcases List.mem_cons.mp h with rfl | h
      · exact .inr List.mem_cons_self
      · exact (ih h).imp_right (List.mem_cons_of_mem _)

/-- What is found under a name is a member. -/
theorem mem_of_lookup (h : members.lookup name = some value) : (name, value) ∈ members := by
  obtain ⟨front, back, rfl, -⟩ := List.lookup_eq_some_iff.mp h
  exact List.mem_append_right front List.mem_cons_self

/-- **Where names are distinct a member is what is found under its name.** -/
theorem lookup_of_mem (hd : (members.map (·.1)).Nodup) (h : (name, value) ∈ members) :
    members.lookup name = some value := by
  induction members with
  | nil => cases h
  | cons m rest ih =>
    obtain ⟨n, v⟩ := m
    rw [List.map_cons, List.nodup_cons] at hd
    rcases List.mem_cons.mp h with he | hm
    · cases he
      rw [List.lookup_cons, beq_self_eq_true]
    · have hn : (name == n) = false := by
        rw [beq_eq_false_iff_ne]
        rintro rfl
        exact hd.1 (List.mem_map.mpr ⟨_, hm, rfl⟩)
      rw [List.lookup_cons, hn]
      exact ih hd.2 hm

/-- Nothing is found under a name that is not there. -/
theorem lookup_of_not_mem (h : name ∉ members.map (·.1)) : members.lookup name = none := by
  refine List.lookup_eq_none_iff.mpr fun m hm => ?_
  rw [bne_iff_ne]
  rintro rfl
  exact h (List.mem_map_of_mem hm)

/-- Assigning one more pair. -/
theorem ofPairs_concat (pairs : List (String × α)) (p : String × α) :
    ofPairs (pairs ++ [p]) = assign p.1 p.2 (ofPairs pairs) := by
  rw [ofPairs, List.foldl_append]
  rfl

theorem nodup_ofPairs (pairs : List (String × α)) : ((ofPairs pairs).map (·.1)).Nodup := by
  induction pairs using List.reverseRecOn with
  | nil => exact List.nodup_nil
  | append_singleton pairs p ih =>
    rw [ofPairs_concat]
    exact nodup_assign ih

/-- **Of pairs with one name the last one counts.** -/
theorem lookup_ofPairs (pairs : List (String × α)) (name : String) :
    (ofPairs pairs).lookup name = pairs.reverse.lookup name := by
  induction pairs using List.reverseRecOn with
  | nil => rfl
  | append_singleton pairs p ih =>
    obtain ⟨n, v⟩ := p
    rw [ofPairs_concat, List.reverse_append, List.reverse_singleton, List.singleton_append,
      List.lookup_cons]
    by_cases hn : name = n
    · subst hn
      rw [lookup_assign_self, beq_self_eq_true]
    · rw [lookup_assign_of_ne hn, ih, beq_eq_false_iff_ne.mpr hn]

/-- **The members that pairs come to** are the last pairs of their names. -/
theorem mem_ofPairs {pairs : List (String × α)} :
    (name, value) ∈ ofPairs pairs ↔ pairs.reverse.lookup name = some value := by
  rw [← lookup_ofPairs]
  exact ⟨lookup_of_mem (nodup_ofPairs pairs), mem_of_lookup⟩

/-- A name that is not there is given its value at the end. -/
theorem assign_of_not_mem (h : name ∉ members.map (·.1)) :
    assign name value members = members ++ [(name, value)] := by
  induction members with
  | nil => rfl
  | cons m rest ih =>
    rw [List.map_cons, List.mem_cons, not_or] at h
    rw [assign, if_neg (Ne.symm h.1), ih h.2, List.cons_append]

/-- **Pairs with distinct names are members as they stand.** -/
theorem ofPairs_of_nodup {pairs : List (String × α)} (h : (pairs.map (·.1)).Nodup) :
    ofPairs pairs = pairs := by
  induction pairs using List.reverseRecOn with
  | nil => rfl
  | append_singleton pairs p ih =>
    rw [List.map_append, List.map_singleton, List.nodup_append] at h
    rw [ofPairs_concat, ih h.1]
    exact assign_of_not_mem fun hm => h.2.2 _ hm _ (List.mem_singleton_self _) rfl

/-- The order of two assignments does not matter, if one of the names is there already. -/
theorem assign_comm_of_mem {other : String} (hne : other ≠ name)
    (hm : name ∈ members.map (·.1)) (u : α) :
    assign other u (assign name value members) = assign name value (assign other u members) := by
  induction members with
  | nil => cases hm
  | cons m rest ih =>
    obtain ⟨n, v⟩ := m
    by_cases hn : n = name
    · subst hn
      simp only [assign, if_true, if_neg hne.symm]
    · have hr : name ∈ rest.map (·.1) := (List.mem_cons.mp hm).resolve_left (Ne.symm hn)
      by_cases ho : n = other
      · subst ho
        simp only [assign, if_neg hn, if_true]
      · simp only [assign, if_neg hn, if_neg ho, ih hr]

/-- The names that pairs come to are their names. -/
theorem mem_names_ofPairs {pairs : List (String × α)} :
    name ∈ (ofPairs pairs).map (·.1) ↔ name ∈ pairs.map (·.1) := by
  induction pairs using List.reverseRecOn with
  | nil => rfl
  | append_singleton pairs p ih =>
    rw [ofPairs_concat, names_assign, List.map_append, List.map_singleton]
    split
    · rename_i hp
      rw [List.mem_append, List.mem_singleton, ← ih]
      exact ⟨.inl, fun h => h.elim id fun he => he ▸ hp⟩
    · rw [List.mem_append, List.mem_append, ih]

/-- **There is one member for each name of pairs.** -/
theorem length_ofPairs (pairs : List (String × α)) :
    (ofPairs pairs).length = (pairs.map (·.1)).dedup.length := by
  have hperm : ((ofPairs pairs).map (·.1)).Perm (pairs.map (·.1)).dedup :=
    (List.perm_ext_iff_of_nodup (nodup_ofPairs pairs) (List.nodup_dedup _)).mpr fun _ =>
      mem_names_ofPairs.trans List.mem_dedup.symm
  rw [← hperm.length_eq, List.length_map]

/-- **No pair is lost exactly if no name comes twice.** -/
theorem length_ofPairs_eq_iff {pairs : List (String × α)} :
    (ofPairs pairs).length = pairs.length ↔ (pairs.map (·.1)).Nodup := by
  refine ⟨fun h => ?_, fun h => by rw [ofPairs_of_nodup h]⟩
  have hl : (pairs.map (·.1)).dedup.length = (pairs.map (·.1)).length := by
    rw [← length_ofPairs, h, List.length_map]
  exact List.dedup_eq_self.mp ((List.dedup_sublist _).eq_of_length hl)

/-- **Names that came first stay first.** -/
theorem names_ofPairs_prefix (pairs more : List (String × α)) :
    (ofPairs pairs).map (·.1) <+: (ofPairs (pairs ++ more)).map (·.1) := by
  induction more using List.reverseRecOn with
  | nil => simp
  | append_singleton more p ih =>
    rw [← List.append_assoc, ofPairs_concat, names_assign]
    split
    · exact ih
    · exact ih.trans (List.prefix_append _ _)

/-- Another value for a pair whose name does not come again. -/
theorem ofPairs_append_cons {pairs rest : List (String × α)} (h : name ∉ rest.map (·.1)) (v : α) :
    ofPairs (pairs ++ (name, value) :: rest)
      = assign name value (ofPairs (pairs ++ (name, v) :: rest)) := by
  induction rest using List.reverseRecOn with
  | nil => rw [ofPairs_concat, ofPairs_concat, assign_assign]
  | append_singleton rest p ih =>
    rw [List.map_append, List.mem_append, not_or] at h
    have hne : p.1 ≠ name := fun he => h.2 (List.mem_singleton.mpr he.symm)
    have hm : name ∈ (ofPairs (pairs ++ (name, v) :: rest)).map (·.1) := by
      rw [mem_names_ofPairs]
      simp
    rw [← List.cons_append, ← List.cons_append, ← List.append_assoc, ← List.append_assoc,
      ofPairs_concat, ofPairs_concat, ih h.1, assign_comm_of_mem hne hm]

/-- **An assignment may be made among the last pairs**, where their names are distinct. -/
theorem ofPairs_append_assign (pairs : List (String × α))
    (hd : (members.map (·.1)).Nodup) :
    ofPairs (pairs ++ assign name value members)
      = assign name value (ofPairs (pairs ++ members)) := by
  -- pairs go over to the front until the name is met, and it is not met again
  induction members generalizing pairs with
  | nil => rw [assign, ofPairs_concat, List.append_nil]
  | cons m rest ih =>
    obtain ⟨n, v⟩ := m
    obtain ⟨hn, hd⟩ := List.nodup_cons.mp hd
    rw [assign]
    split
    · rename_i he
      subst he
      exact ofPairs_append_cons hn v
    · rw [List.append_cons, ih _ hd, ← List.append_cons]

/-- Where the pairs of two lists have the same names, and values that go together, so do the values
found under a name. -/
theorem rel_lookup {β : Type} {P : β → α → Prop} {rows : List (String × β)}
    {pairs : List (String × α)} (h : List.Forall₂ (fun r p => p.1 = r.1 ∧ P r.2 p.2) rows pairs)
    (name : String) : Option.Rel P (rows.lookup name) (pairs.lookup name) := by
  induction h with
  | nil => exact .none
  | @cons r p _ _ hr _ ih =>
    obtain ⟨n, v⟩ := p
    obtain ⟨rfl, hp⟩ := hr
    rw [List.lookup_cons, List.lookup_cons]
    split
    · exact .some hp
    · exact ih

/-- **What pairs were made of.** Where things go with pairs one by one, the last thing of a name
goes with the member of that name. -/
theorem find?_of_mem_ofPairs {β : Type} (key : β → Option String) (P : β → α → Prop)
    {xs : List β} {pairs : List (String × α)}
    (h : List.Forall₂ (fun x p => key x = some p.1 ∧ P x p.2) xs pairs)
    (hm : (name, value) ∈ ofPairs pairs) :
    ∃ x, xs.reverse.find? (fun x => key x = some name) = some x ∧ P x value := by
  have hl := mem_ofPairs.mp hm
  have hr := List.forall₂_reverse_iff.mpr h
  revert hl hr
  generalize xs.reverse = xs
  generalize pairs.reverse = pairs
  intro hl hr
  induction hr with
  | nil => cases hl
  | @cons x p xs pairs hx _ ih =>
    obtain ⟨n, v⟩ := p
    rw [List.lookup_cons] at hl
    by_cases hn : name = n
    · subst hn
      rw [beq_self_eq_true] at hl
      cases hl
      exact ⟨x, List.find?_cons_of_pos (by simpa using hx.1), hx.2⟩
    · rw [beq_eq_false_iff_ne.mpr hn] at hl
      obtain ⟨y, hy, hp⟩ := ih hl
      refine ⟨y, ?_, hp⟩
      rw [List.find?_cons_of_neg, hy]
      simpa [hx.1] using fun e => hn e.symm

end DiscreetLog.Ordered
