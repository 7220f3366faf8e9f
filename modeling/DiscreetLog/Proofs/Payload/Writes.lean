import DiscreetLog.Proofs.Payload.Layout

/-!
# A payload as a history of writes

A *write* puts one value at the end of a way of names, the groups first and the key last. What a
scope makes of an event is a list of writes: the built-in names come first, then leaf by leaf what
was bound batch by batch, and then the attributes of the event (`Scope.writes`). An attribute is
one write, or as many as there are leaves in the group that it is.

Laying out an event comes to making these writes one after the other (`ofEvent_eq_writeAll`). So
members, batches and groups need not be told apart any more where one asks what a payload holds.
-/

namespace DiscreetLog

/-- **A write**: a way of names, the groups first and the key last, and the value at its end. -/
abbrev Write := List String × Value

namespace Write

/-- A write in a group. A group without a key is no step of the way. -/
def inGroup (key : String) (w : Write) : Write := if key = "" then w else (key :: w.1, w.2)

end Write

mutual

/-- **The writes that a member is.** A leaf without a key is none. -/
def Member.writes : Member → List Write
  | .leaf key value => if key = "" then [] else [([key], value)]
  | .group key members => (membersWrites members).map (Write.inGroup key)

/-- The writes that some members are, one after the other. -/
def membersWrites : List Member → List Write
  | [] => []
  | m :: ms => m.writes ++ membersWrites ms

end

/-- **The writes of a batch**, each below the groups that were open. -/
def Batch.writes (b : Batch) : List Write :=
  (membersWrites (b.attrs.map Attr.member)).map fun w => (b.groups ++ w.1, w.2)

/-- **The built-in names**, as writes. -/
def Event.builtIns (withSite : Bool) (e : Event) : List Write :=
  [(["time"], .atom none (.moment e.time)), (["level"], .text e.level.name),
    (["message"], .text e.message)]
    ++ (match withSite, e.site with
      | true, some site => [(["source"], .node none (.site site))]
      | _, _ => [])

/-- **The writes of an event** in a scope, in order. -/
def Scope.writes (s : Scope) (e : Event) : List Write :=
  e.builtIns s.withSite ++ s.bound.flatMap Batch.writes ++ Batch.writes ⟨s.groups, e.attrs⟩

/-! ## Where writes go -/

mutual

/-- A member is a write if it has content. -/
theorem Member.writes_eq_nil : (m : Member) → (m.writes = [] ↔ m.hasContent = false)
  | .leaf key value => by
    by_cases hk : key = "" <;> simp [Member.writes, Member.hasContent, hk]
  | .group key ms => by 
    rw [Member.writes, List.map_eq_nil_iff, Member.hasContent, membersWrites_eq_nil ms]

theorem membersWrites_eq_nil : (ms : List Member) →
    (membersWrites ms = [] ↔ Member.anyContent ms = false)
  | [] => by simp [membersWrites, Member.anyContent]
  | m :: ms => by
    rw [membersWrites, List.append_eq_nil_iff, Member.anyContent, Bool.or_eq_false_iff,
      Member.writes_eq_nil m, membersWrites_eq_nil ms]

end

/-- A way that a write can go: it has names, and none of them is empty. -/
def Named (path : List String) : Prop := path ≠ [] ∧ "" ∉ path

theorem Write.named_inGroup {key : String} {w : Write} (h : Named w.1) :
    Named (w.inGroup key).1 := by
  unfold inGroup
  split
  · exact h
  · rename_i hk
    refine ⟨List.cons_ne_nil _ _, fun hm => ?_⟩
    rcases List.mem_cons.mp hm with he | hm
    · exact hk he.symm
    · exact h.2 hm

mutual

theorem Member.named_of_mem_writes : (m : Member) → ∀ w ∈ m.writes, Named w.1
  | .leaf key value => by
    intro w hw
    rw [Member.writes] at hw
    split at hw
    · cases hw
    · rename_i hk
      cases List.mem_singleton.mp hw
      refine ⟨List.cons_ne_nil _ _, fun hm => hk ?_⟩
      exact (List.mem_singleton.mp hm).symm
  | .group key ms => by
    intro w hw
    rw [Member.writes] at hw
    obtain ⟨w', hw', rfl⟩ := List.mem_map.mp hw
    exact Write.named_inGroup (named_of_mem_membersWrites ms w' hw')

theorem named_of_mem_membersWrites : (ms : List Member) → ∀ w ∈ membersWrites ms, Named w.1
  | [] => nofun
  | m :: ms => fun w hw => (List.mem_append.mp hw).elim (m.named_of_mem_writes w)
      (named_of_mem_membersWrites ms w)

end

namespace Payload

/-- **A value is written** at the end of a way. Whatever is no group on the way gives place to
one. -/
def write (p : Payload) (v : Value) : List String → Payload
  | [] => p
  | [name] => Ordered.assign name (.leaf v) p
  | name :: next :: rest =>
    Ordered.assign name (.group (write (groupAt p name) v (next :: rest))) p

/-- Writes one after the other. -/
def writeAll (p : Payload) (ws : List Write) : Payload := ws.foldl (fun p w => p.write w.2 w.1) p

variable (p : Payload)

theorem writeAll_append (ws us : List Write) :
    writeAll p (ws ++ us) = writeAll (writeAll p ws) us := List.foldl_append

/-- **Writes in a group** are made in the group that is there. -/
theorem writeAll_below (key : String) {ws : List Write} (hws : ws ≠ [])
    (hp : ∀ w ∈ ws, w.1 ≠ []) :
    writeAll p (ws.map fun w => (key :: w.1, w.2))
      = Ordered.assign key (.group (writeAll (groupAt p key) ws)) p := by
  have hone (p : Payload) {w : Write} (hw : w.1 ≠ []) :
      p.write w.2 (key :: w.1) = Ordered.assign key (.group ((groupAt p key).write w.2 w.1)) p := by
    obtain ⟨path, v⟩ := w
    cases path with
    | nil => exact absurd rfl hw
    | cons => rfl
  induction ws generalizing p with
  | nil => exact absurd rfl hws
  | cons w ws ih =>
    have hw : w.1 ≠ [] := hp w List.mem_cons_self
    cases ws with
    | nil => exact hone p hw
    | cons u us =>
      have hrest := ih (p.write w.2 (key :: w.1)) (List.cons_ne_nil u us)
        fun w hw => hp w (List.mem_cons_of_mem _ hw)
      rw [List.map_cons, writeAll, List.foldl_cons, ← writeAll, hrest, hone p hw, groupAt_assign,
        Ordered.assign_assign]
      rfl

mutual

/-- **A member is laid out write by write.** -/
theorem put_eq_writeAll (p : Payload) : (m : Member) → put p m = writeAll p m.writes
  | .leaf key value => by
    rw [put, Member.writes]
    split <;> rfl
  | .group key ms => by
    rw [put, Member.writes]
    split
    · rename_i hc
      rw [(membersWrites_eq_nil ms).mpr (by simpa using hc)]
      rfl
    · rename_i hc
      split
      · rename_i hk
        subst hk
        rw [putAll_eq_writeAll p ms]
        exact congrArg (writeAll p) (List.map_id' _).symm
      · rename_i hk
        have hin : Write.inGroup key = fun w => (key :: w.1, w.2) := funext fun w => if_neg hk
        rw [putAll_eq_writeAll _ ms, hin, writeAll_below p key]
        · exact fun hn => hc (by simpa using (membersWrites_eq_nil ms).mp hn)
        · exact fun w hw => (named_of_mem_membersWrites ms w hw).1

theorem putAll_eq_writeAll (p : Payload) : (ms : List Member) →
    putAll p ms = writeAll p (membersWrites ms)
  | [] => rfl
  | m :: ms => by
    rw [putAll, putAll_eq_writeAll _ ms, put_eq_writeAll p m, membersWrites, writeAll_append]

end

/-- Members are laid out in their groups write by write. -/
theorem putAt_eq_writeAll (groups : List String) {ms : List Member} (hms : membersWrites ms ≠ []) :
    putAt p groups ms = writeAll p ((membersWrites ms).map fun w => (groups ++ w.1, w.2)) := by
  induction groups generalizing p with
  | nil => exact (putAll_eq_writeAll p ms).trans (congrArg (writeAll p) (List.map_id' _).symm)
  | cons name names ih =>
    rw [putAt, ih, ← writeAll_below p name, List.map_map]
    · rfl
    · simpa using hms
    · intro w hw hn
      obtain ⟨u, hu, rfl⟩ := List.mem_map.mp hw
      exact (named_of_mem_membersWrites ms u hu).1 (List.append_eq_nil_iff.mp hn).2

/-- **A batch is laid out write by write.** -/
theorem add_eq_writeAll (b : Batch) : p.add b = writeAll p b.writes := by
  have hfilter (ms : List Member) :
      membersWrites (ms.filter (·.hasContent)) = membersWrites ms := by
    induction ms with
    | nil => rfl
    | cons m ms ih =>
      cases hm : m.hasContent with
      | true => rw [List.filter_cons_of_pos hm, membersWrites, membersWrites, ih]
      | false =>
        rw [List.filter_cons_of_neg (by simp [hm]), ih, membersWrites,
          (Member.writes_eq_nil m).mpr hm, List.nil_append]
  unfold add Batch.writes
  dsimp only
  rw [← hfilter]
  split
  · rename_i hn
    rw [List.isEmpty_iff.mp hn]
    rfl
  · rename_i hn
    refine putAt_eq_writeAll p _ fun he => hn ?_
    rw [hfilter, membersWrites_eq_nil] at he
    rw [Member.filter_eq_nil.mpr he]
    rfl

/-- Batches are laid out write by write. -/
theorem foldl_add_eq_writeAll (batches : List Batch) :
    batches.foldl add p = writeAll p (batches.flatMap Batch.writes) := by
  induction batches generalizing p with
  | nil => rfl
  | cons b bs ih => rw [List.foldl_cons, ih, add_eq_writeAll, List.flatMap_cons, writeAll_append]

/-- What every payload begins with is laid out write by write. -/
theorem heading_eq_writeAll (withSite : Bool) (e : Event) :
    heading withSite e = writeAll [] (e.builtIns withSite) := by
  unfold heading Event.builtIns
  cases withSite <;> cases e.site <;> rfl

/-- **A payload is what its writes make.** -/
theorem ofEvent_eq_writeAll (s : Scope) (e : Event) : ofEvent s e = writeAll [] (s.writes e) := by
  rw [ofEvent, add_eq_writeAll, foldl_add_eq_writeAll, heading_eq_writeAll, Scope.writes,
    writeAll_append, writeAll_append]

end Payload

end DiscreetLog
