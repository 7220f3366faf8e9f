import DiscreetLog.Delivery
import DiscreetLog.Proofs.Chain.Derivation
import DiscreetLog.Proofs.Payload.Layout

/-!
# Scoping is nesting

Attributes can be bound before an event comes or stand in the event, and a group can be opened
before or stand in it as an attribute. `nest` brings the one to the other: it puts what a list of
derivations would bind and open around the attributes of an event. A sink that is derived does with
an event what the sink itself does with the event whose attributes are nested (`derive_nest`) –
the payload is the same member by member, whatever is left out of it, inlined or replaced.
-/

namespace DiscreetLog

/-- **Attributes nested.** What is bound comes first, and what comes after a group is opened
stands in the group. -/
def nest : List Derivation → List Attr → List Attr
  | [], as => as
  | .bind bs :: ds, as => bs ++ nest ds as
  | .openGroup name :: ds, as =>
    if name = "" then nest ds as else [⟨name, .ofGroup (nest ds as)⟩]

namespace Scope

/-- **What is bound last** is laid out with the attributes of the event. -/
theorem ofEvent_bind (s : Scope) (bs : List Attr) (e : Event) :
    Payload.ofEvent (s.bind bs) e = Payload.ofEvent s { e with attrs := bs ++ e.attrs } := by
  unfold bind
  split
  · rename_i hb
    rw [List.isEmpty_iff.mp hb, List.nil_append]
  · rw [Payload.ofEvent, Payload.ofEvent, List.foldl_append, List.foldl_cons, List.foldl_nil,
      Payload.add_add]
    rfl

/-- **The group that is opened last** is laid out as a group of the event. -/
theorem ofEvent_openGroup (s : Scope) {name : String} (hn : name ≠ "") (e : Event) :
    Payload.ofEvent (s.openGroup name) e
      = Payload.ofEvent s { e with attrs := [⟨name, .ofGroup e.attrs⟩] } := by
  rw [openGroup, if_neg hn, Payload.ofEvent, Payload.ofEvent, Payload.add_openGroup _ _ hn]
  rfl

/-- **The payload of an event in a derived scope** is that of the nested event. -/
theorem ofEvent_derive (s : Scope) (ds : List Derivation) (e : Event) :
    Payload.ofEvent (s.derive ds) e = Payload.ofEvent s { e with attrs := nest ds e.attrs } := by
  -- the derivation made first is the outermost one of the nested attributes
  induction ds generalizing s with
  | nil => rfl
  | cons d ds ih =>
    cases d with
    | bind bs => rw [derive, ih, ofEvent_bind, nest]
    | openGroup name =>
      rw [derive, ih, nest]
      split
      · rename_i hn
        rw [openGroup, if_pos hn]
      · rename_i hn
        rw [ofEvent_openGroup s hn]

end Scope

namespace Sink

/-- **A sink does with an event what its payload says.** -/
theorem deliver_mapScope {s : Sink} {scope : Scope} (hs : s.scope? = some scope)
    (talk : String → Foreign → Action Unit) {f : Scope → Scope} {e : Event} {as : List Attr}
    (h : Payload.ofEvent (f scope) e = Payload.ofEvent scope { e with attrs := as }) :
    deliver talk e (s.mapScope f) = deliver talk { e with attrs := as } s := by
  cases s with
  | keeping => cases hs
  | announcing => rfl
  | _ =>
    cases hs
    unfold mapScope deliver
    dsimp only
    rw [h]

/-- **Scoping is nesting.** A sink that lays events out, with whatever is bound and open on it
already, is derived by binding attributes and opening groups. The payload of an event is then, name
by name and in order, the payload that the sink as it was makes of the event whose attributes are
nested, and handling the one comes to handling the other: the same lines, the same failures. -/
theorem derive_nest {s : Sink} {scope : Scope} (hs : s.scope? = some scope)
    (ds : List Derivation) (e : Event) :
    (s.derive ds).scope? = some (scope.derive ds)
      ∧ Payload.ofEvent (scope.derive ds) e
        = Payload.ofEvent scope { e with attrs := nest ds e.attrs }
      ∧ ∀ talk, deliver talk e (s.derive ds)
        = deliver talk { e with attrs := nest ds e.attrs } s := by
  rw [derive_of_scope? hs]
  have hp := scope.ofEvent_derive ds e
  exact ⟨scope?_mapScope hs _, hp, fun talk => deliver_mapScope hs talk hp⟩

/-- A group is opened under a key that is bound before it, a keyless group and a keyless leaf are
bound in it, and a group without a name is opened: the leaf gives way to the group, the keyless
group is laid out where it stands, and the other two leave no trace. -/
theorem derive_nest_request :
    let scope : Scope := ⟨.info, false, ["http"], [⟨[], [⟨"id", .int 7⟩]⟩]⟩
    let s : Sink := .structured scope [.stdout]
    let ds : List Derivation := [.bind [⟨"request", .int 1⟩], .openGroup "request",
      .bind [⟨"", .ofGroup [⟨"method", .text "GET"⟩]⟩, ⟨"", .int 3⟩], .openGroup ""]
    let e : Event := ⟨⟨⟨2024, 5, 1⟩, 10, 0, 0, 0, some 0⟩, .info, "m", none,
      [⟨"path", .text "/"⟩, ⟨"query", .ofGroup []⟩]⟩
    let payload := Payload.heading false e ++ [("id", .leaf (.int 7)),
      ("http", .group [("request", .group [("method", .leaf (.text "GET")),
        ("path", .leaf (.text "/"))])])]
    s.scope? = some scope
      ∧ nest ds e.attrs = [⟨"request", .int 1⟩, ⟨"request", .ofGroup
        [⟨"", .ofGroup [⟨"method", .text "GET"⟩]⟩, ⟨"", .int 3⟩, ⟨"path", .text "/"⟩,
          ⟨"query", .ofGroup []⟩]⟩]
      ∧ Payload.ofEvent (scope.derive ds) e = payload
      ∧ Payload.ofEvent scope { e with attrs := nest ds e.attrs } = payload := by
  intro scope s ds e payload
  have hs : s.scope? = some scope := rfl
  have hp : Payload.ofEvent (scope.derive ds) e = payload := rfl
  exact ⟨hs, rfl, hp, (derive_nest hs ds e).2.1.symm.trans hp⟩

end Sink

end DiscreetLog
