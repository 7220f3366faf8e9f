import DiscreetLog.Delivery
import DiscreetLog.Proofs.Payload.Survival

/-!
# The built-in names

Time, level, message and place stand in a payload under names that an attribute may have too. None
of these names is kept for the event: whatever is laid out at the top of a payload goes where its
name says.

So a payload is two payloads, one over the other (`ofEvent_eq_ofPairs`): what the event has for
itself, and over it what its attributes make where nothing stands before them (`ofAttrs`). The
built-in names come first and in their order in any case. What they stand for is the event's own
as long as the attributes have nothing under that name (`mem_names_ofAttrs` says when they have),
and what the attributes have there if they do.
-/

namespace DiscreetLog

/-- The writes that the attributes of an event are in a scope, the bound ones first. -/
def Scope.attrWrites (s : Scope) (e : Event) : List Write :=
  s.bound.flatMap Batch.writes ++ Batch.writes ⟨s.groups, e.attrs⟩

namespace Payload

/-- **The attributes of an event by themselves**, as they are laid out in a scope where nothing
stands before them. -/
def ofAttrs (s : Scope) (e : Event) : Payload := (s.bound.foldl add []).add ⟨s.groups, e.attrs⟩

/-! ## Where writes show at the top -/

variable {p q : Payload}

/-- A write shows at the top under the first name of its way. -/
theorem mem_names_write {name : String} {v : Value} {path : List String} :
    name ∈ (p.write v path).map (·.1) ↔ name ∈ p.map (·.1) ∨ path.head? = some name := by
  have hassign (first : String) (item : Item) :
      name ∈ (Ordered.assign first item p).map (·.1)
        ↔ name ∈ p.map (·.1) ∨ some first = some name := by
    rw [Ordered.names_assign, Option.some_inj]
    split
    · rename_i hf
      exact ⟨.inl, fun h => h.elim id fun he => he ▸ hf⟩
    · rw [List.mem_append, List.mem_singleton, eq_comm (a := name)]
  match path with
  | [] => exact ⟨.inl, fun h => h.elim id nofun⟩
  | [first] => exact hassign first _
  | first :: _ :: _ => exact hassign first _

/-- Writes show at the top under the first names of their ways. -/
theorem mem_names_writeAll {name : String} {ws : List Write} :
    name ∈ (writeAll [] ws).map (·.1) ↔ ∃ w ∈ ws, w.1.head? = some name := by
  induction ws using List.reverseRecOn with
  | nil => simp [writeAll]
  | append_singleton ws w ih =>
    rw [writeAll_append, writeAll, List.foldl_cons, List.foldl_nil, mem_names_write, ih]
    simp [or_and_right, exists_or]

theorem nodup_write (h : (p.map (·.1)).Nodup) (v : Value) (path : List String) :
    ((p.write v path).map (·.1)).Nodup :=
  match path with
  | [] => h
  | [_] => Ordered.nodup_assign h
  | _ :: _ :: _ => Ordered.nodup_assign h

theorem nodup_writeAll (ws : List Write) : ((writeAll [] ws).map (·.1)).Nodup := by
  induction ws using List.reverseRecOn with
  | nil => exact List.nodup_nil
  | append_singleton ws w ih =>
    rw [writeAll_append]
    exact nodup_write ih w.2 w.1

/-! ## One payload over another -/

/-- **What is found in a payload over another one**: what it has itself, or else what is below. -/
theorem lookup_ofPairs_append (hp : (p.map (·.1)).Nodup) (hq : (q.map (·.1)).Nodup)
    (name : String) :
    (Ordered.ofPairs (p ++ q)).lookup name = (q.lookup name).or (p.lookup name) := by
  rw [Ordered.lookup_ofPairs, List.reverse_append, List.lookup_append, ← Ordered.lookup_ofPairs,
    ← Ordered.lookup_ofPairs, Ordered.ofPairs_of_nodup hp, Ordered.ofPairs_of_nodup hq]

section Over

variable (hp : (p.map (·.1)).Nodup) (hg : ∀ name, groupAt p name = [])

include hp hg

/-- Over a payload without groups, groups are those of the upper one. -/
theorem groupAt_ofPairs_append (hq : (q.map (·.1)).Nodup) (name : String) :
    groupAt (Ordered.ofPairs (p ++ q)) name = groupAt q name := by
  rw [groupAt, groupAt, lookup_ofPairs_append hp hq]
  cases q.lookup name with
  | none => exact hg name
  | some item => rfl

/-- **Over a payload without groups, a write is made in the upper one.** -/
theorem write_ofPairs_append (hq : (q.map (·.1)).Nodup) (v : Value) (path : List String) :
    write (Ordered.ofPairs (p ++ q)) v path = Ordered.ofPairs (p ++ q.write v path) :=
  match path with
  | [] => rfl
  | [_] => (Ordered.ofPairs_append_assign p hq).symm
  | name :: _ :: _ => by
    rw [write, groupAt_ofPairs_append hp hg hq name]
    exact (Ordered.ofPairs_append_assign p hq).symm

/-- **Writes into a payload without groups** come to the payload that they are by themselves, over
that one. -/
theorem writeAll_eq_ofPairs (ws : List Write) :
    writeAll p ws = Ordered.ofPairs (p ++ writeAll [] ws) := by
  induction ws using List.reverseRecOn with
  | nil => rw [writeAll, writeAll, List.foldl_nil, List.foldl_nil, List.append_nil,
      Ordered.ofPairs_of_nodup hp]
  | append_singleton ws w ih =>
    rw [writeAll_append, writeAll_append, ih]
    exact write_ofPairs_append hp hg (nodup_writeAll ws) w.2 w.1

end Over

/-! ## The event's own and its attributes -/

theorem nodup_heading (withSite : Bool) (e : Event) :
    ((heading withSite e).map (·.1)).Nodup := by
  unfold heading
  cases withSite <;> cases e.site <;> simp

/-- No group stands under a built-in name. -/
theorem groupAt_heading (withSite : Bool) (e : Event) (name : String) :
    groupAt (heading withSite e) name = [] := by
  unfold groupAt
  split
  · rename_i items hl
    obtain ⟨v, hv⟩ := exists_leaf_of_mem_heading (Ordered.mem_of_lookup hl)
    cases hv
  · rfl

variable (s : Scope) (e : Event)

theorem ofAttrs_eq_writeAll : ofAttrs s e = writeAll [] (s.attrWrites e) := by
  rw [ofAttrs, add_eq_writeAll, foldl_add_eq_writeAll, Scope.attrWrites, writeAll_append]

/-- **The attributes have something under a name at the top** if a way of theirs begins with it. -/
theorem mem_names_ofAttrs {name : String} :
    name ∈ (ofAttrs s e).map (·.1) ↔ ∃ w ∈ s.attrWrites e, w.1.head? = some name := by
  rw [ofAttrs_eq_writeAll, mem_names_writeAll]

/-- **A payload is what the event has for itself, and what its attributes make over it.** -/
theorem ofEvent_eq_ofPairs :
    ofEvent s e = Ordered.ofPairs (heading s.withSite e ++ ofAttrs s e) := by
  rw [ofAttrs_eq_writeAll, ← writeAll_eq_ofPairs (nodup_heading _ e) (groupAt_heading _ e),
    ofEvent, add_eq_writeAll, foldl_add_eq_writeAll, Scope.attrWrites, writeAll_append]

end Payload

/-- Whether places are laid out stays as it is. -/
theorem Scope.withSite_derive (s : Scope) (ds : List Derivation) :
    (s.derive ds).withSite = s.withSite := by
  induction ds generalizing s with
  | nil => rfl
  | cons d ds ih =>
    cases d with
    | bind as =>
      rw [derive, ih, bind]
      split <;> rfl
    | openGroup name =>
      rw [derive, ih, openGroup]
      split <;> rfl

namespace Sink

/-- **A built-in name stands for the event's own unless the attributes have it too.** Let a sink
that lays events out be derived by any derivations. The payload of an event begins with the built-in
names in their order. What the payload has under one of them is the event's own if the attributes,
laid out by themselves, have nothing under it at the top, and otherwise it is what they have there.
They have something there exactly if one of the ways that they are written at begins with the
name. -/
theorem derive_builtIns {s : Sink} {scope : Scope} (hs : s.scope? = some scope)
    (ds : List Derivation) (e : Event) :
    let own := Payload.heading scope.withSite e
    let attrs := Payload.ofAttrs (scope.derive ds) e
    let payload := Payload.ofEvent (scope.derive ds) e
    (s.derive ds).scope? = some (scope.derive ds)
      ∧ own.map (·.1) <+: payload.map (·.1)
      ∧ (∀ name item, (name, item) ∈ own →
          (name ∉ attrs.map (·.1) → payload.lookup name = some item)
          ∧ (name ∈ attrs.map (·.1) →
              ∃ laid, attrs.lookup name = some laid ∧ payload.lookup name = some laid))
      ∧ ∀ name, name ∈ attrs.map (·.1)
          ↔ ∃ w ∈ (scope.derive ds).attrWrites e, w.1.head? = some name := by
  intro own attrs payload
  have hown : (own.map (·.1)).Nodup := Payload.nodup_heading _ e
  have hattrs : (attrs.map (·.1)).Nodup := by
    rw [show attrs = _ from Payload.ofAttrs_eq_writeAll _ e]
    exact Payload.nodup_writeAll _
  have hpayload : payload = Ordered.ofPairs (own ++ attrs) := by
    rw [show payload = _ from Payload.ofEvent_eq_ofPairs _ e, Scope.withSite_derive]
  have hlookup (name : String) :
      payload.lookup name = (attrs.lookup name).or (own.lookup name) := by
    rw [hpayload, Payload.lookup_ofPairs_append hown hattrs]
  refine ⟨?_, ?_, fun name item hi => ⟨fun hn => ?_, fun hn => ?_⟩,
    fun _ => Payload.mem_names_ofAttrs _ e⟩
  · rw [derive_of_scope? hs]
    exact scope?_mapScope hs _
  · rw [hpayload, ← congrArg (List.map (·.1)) (Ordered.ofPairs_of_nodup hown)]
    exact Ordered.names_ofPairs_prefix own attrs
  · rw [hlookup, Ordered.lookup_of_not_mem hn, Option.none_or, Ordered.lookup_of_mem hown hi]
  · obtain ⟨⟨_, laid⟩, hm, rfl⟩ := List.mem_map.mp hn
    have hl := Ordered.lookup_of_mem hattrs hm
    exact ⟨laid, hl, by rw [hlookup, hl, Option.some_or]⟩

/-- A group with content is opened under the name of the level, after an attribute was bound: the
level gives way to the group, and time, message and place stay. -/
theorem derive_builtIns_level :
    let scope : Scope := .root .info true
    let s : Sink := .structured scope [.stdout]
    let ds : List Derivation := [.bind [⟨"user", .text "ada"⟩], .openGroup "level"]
    let site : Site Value := ⟨.text "app.py", .int 7, .text "main"⟩
    let e : Event := ⟨⟨⟨2024, 5, 1⟩, 10, 0, 0, 0, some 0⟩, .info, "hello", some site,
      [⟨"a", .int 1⟩]⟩
    let payload := Payload.ofEvent (scope.derive ds) e
    s.scope? = some scope
      ∧ payload.lookup "time" = some (.leaf (.atom none (.moment e.time)))
      ∧ payload.lookup "level" = some (.group [("a", .leaf (.int 1))])
      ∧ payload.lookup "message" = some (.leaf (.text "hello"))
      ∧ payload.lookup "source" = some (.leaf (.node none (.site site))) := by
  intro scope s ds site e payload
  have hs : s.scope? = some scope := rfl
  have hheading : Payload.heading scope.withSite e
      = [("time", .leaf (.atom none (.moment e.time))), ("level", .leaf (.text "INFO")),
        ("message", .leaf (.text "hello")), ("source", .leaf (.node none (.site site)))] := rfl
  have hnames : (Payload.ofAttrs (scope.derive ds) e).map (·.1) = ["user", "level"] := rfl
  obtain ⟨-, -, hown, -⟩ := derive_builtIns hs ds e
  rw [hheading, hnames] at hown
  refine ⟨hs, (hown _ _ (.head _)).1 (by decide), ?_,
    (hown _ _ (.tail _ (.tail _ (.head _)))).1 (by decide),
    (hown _ _ (.tail _ (.tail _ (.tail _ (.head _))))).1 (by decide)⟩
  -- the group is what the attributes have under the name of the level
  obtain ⟨laid, hl, hp⟩ := (hown _ _ (.tail _ (.head _))).2 (by decide)
  exact hp.trans (hl.symm.trans rfl)

/-- **Nothing keeps a built-in name for the event.** A message is forged by an attribute of the
event, and a level by an extra attribute of a record from elsewhere. -/
theorem builtIns_forged :
    (¬ ∀ (s : Sink) (scope : Scope), s.scope? = some scope → ∀ (ds : List Derivation) (e : Event),
        ∀ name item, (name, item) ∈ Payload.heading scope.withSite e →
          (Payload.ofEvent (scope.derive ds) e).lookup name = some item)
      ∧ ∃ e : Event, ((Foreign.chat "app").withExtra ("level", .text "DEBUG")).toEvent [] = .ok e
        ∧ e.level = .info
        ∧ (Payload.ofEvent (.root .info false) e).lookup "level"
          = some (.leaf (.text "DEBUG")) := by
  constructor
  · intro h
    let e : Event := ⟨⟨⟨2024, 5, 1⟩, 10, 0, 0, 0, some 0⟩, .info, "hello", none,
      [⟨"message", .text "forged"⟩]⟩
    have hown : ("message", .leaf (.text "hello")) ∈ Payload.heading false e :=
      .tail _ (.tail _ (.head _))
    have hm := h (.structured (.root .info false) [.stdout]) _ rfl [] e _ _ hown
    have hf : (Payload.ofEvent (Scope.derive (.root .info false) []) e).lookup "message"
        = some (.leaf (.text "forged")) := rfl
    rw [hf] at hm
    simp [Value.text] at hm
  · let r : Foreign := (Foreign.chat "app").withExtra ("level", .text "DEBUG")
    -- the time of the record is fixed, and found by evaluation
    have htime : (r.time []).toOption.isSome = true := by decide +kernel
    cases hm : r.time [] with
    | error failure =>
      rw [hm] at htime
      cases htime
    | ok m =>
      refine ⟨⟨m, .info, "chat", some r.site,
        [⟨"logger", .text "app"⟩, ⟨"level", .text "DEBUG"⟩]⟩, ?_, rfl, rfl⟩
      unfold Foreign.toEvent
      rw [hm]
      rfl

end Sink

end DiscreetLog
