import DiscreetLog.Ordered
import DiscreetLog.Scope
import DiscreetLog.Value.Rendering

/-!
# Payloads

Before it is written, an event is laid out as a payload: named items in order, an item being a
value or a group of items. Time, level and message come first, then the place of the call, then
the bound attributes batch by batch, then the attributes of the event itself. An attribute whose
value is a group becomes a group of items; it joins a group of that name that is already there,
and takes the place of anything else. A group without a key is laid out where it stands, and what
has neither key nor content is left out – a group that would be empty among it.

The layout reads an attribute as a `Member`: a leaf, or a group of members. Only tuples of
attributes are groups, so a mapping or a list that the caller logs stays a value.
-/

namespace DiscreetLog

/-- **An attribute as the layout reads it.** -/
inductive Member where
  | leaf (key : String) (value : Value)
  | group (key : String) (members : List Member)

mutual

/-- A value under a key, as the layout reads it. -/
def Value.member (key : String) : Value → Member
  | .node label (.tuple cls items) =>
    if items.all (·.attr?.isSome) then .group key (itemMembers items)
    else .leaf key (.node label (.tuple cls items))
  | .node label (.named cls fields) =>
    if fields.all (·.2.attr?.isSome) then .group key (fieldMembers fields)
    else .leaf key (.node label (.named cls fields))
  | .node label (.object cls slots (.items .tuple items)) =>
    if items.all (·.attr?.isSome) then .group key (itemMembers items)
    else .leaf key (.node label (.object cls slots (.items .tuple items)))
  | v => .leaf key v

/-- The members that the attributes among some items are. -/
def itemMembers : List Value → List Member
  | [] => []
  | .node _ (.attr key value) :: rest => value.member key :: itemMembers rest
  | _ :: rest => itemMembers rest

/-- The members that the attributes among some named items are. -/
def fieldMembers : List (String × Value) → List Member
  | [] => []
  | (_, .node _ (.attr key value)) :: rest => value.member key :: fieldMembers rest
  | _ :: rest => fieldMembers rest

end

/-- **An attribute as a member.** -/
def Attr.member (a : Attr) : Member := a.value.member a.key

namespace Member

mutual

/-- **A member has content**: a leaf if it has a key, a group if one of its members has. -/
def hasContent : Member → Bool
  | .leaf key _ => key ≠ ""
  | .group _ members => anyContent members

/-- One of some members has content. -/
def anyContent : List Member → Bool
  | [] => false
  | m :: ms => m.hasContent || anyContent ms

end

end Member

/-- **An item of a payload.** -/
inductive Item where
  | leaf (value : Value)
  | group (items : List (String × Item))

/-- **Named items in order.** -/
abbrev Payload := List (String × Item)

namespace Payload

/-- The items of the group under a key; none where there is no group. -/
def groupAt (p : Payload) (key : String) : Payload :=
  match p.lookup key with
  | some (.group items) => items
  | _ => []

mutual

/-- **A member is laid out** in a group of items. -/
def put (p : Payload) : Member → Payload
  | .leaf key value => if key = "" then p else Ordered.assign key (.leaf value) p
  | .group key members =>
    if !Member.anyContent members then p
    else if key = "" then putAll p members
    else Ordered.assign key (.group (putAll (groupAt p key) members)) p

/-- Members are laid out one after the other. -/
def putAll (p : Payload) : List Member → Payload
  | [] => p
  | m :: ms => putAll (put p m) ms

end

/-- Members are laid out in the group at the end of a path of groups. -/
def putAt (p : Payload) : List String → List Member → Payload
  | [], members => putAll p members
  | name :: names, members =>
    Ordered.assign name (.group (putAt (groupAt p name) names members)) p

/-- **A batch of attributes is laid out** in its groups. Where no attribute has content the
groups are not made either. -/
def add (p : Payload) (batch : Batch) : Payload :=
  let members := (batch.attrs.map Attr.member).filter (·.hasContent)
  if members.isEmpty then p else putAt p batch.groups members

/-- What every payload begins with. -/
def heading (withSite : Bool) (e : Event) : Payload :=
  [("time", .leaf (.atom none (.moment e.time))), ("level", .leaf (.text e.level.name)),
    ("message", .leaf (.text e.message))]
    ++ (match withSite, e.site with
      | true, some site => [("source", .leaf (.node none (.site site)))]
      | _, _ => [])

/-- **The payload of an event** in a scope. -/
def ofEvent (s : Scope) (e : Event) : Payload :=
  ((s.bound.foldl add (heading s.withSite e))).add ⟨s.groups, e.attrs⟩

variable (σ : Objects)

mutual

/-- The tree of an item. -/
def renderItem : Item → Except Failure Json
  | .leaf value => value.render σ
  | .group items => do return .object (← renderItems items)

/-- The members that items become. -/
def renderItems : List (String × Item) → Except Failure (List (String × Json))
  | [] => .ok []
  | (name, item) :: rest => do
    let tree ← renderItem item
    return (name, tree) :: (← renderItems rest)

end

/-- **The structured tree of a payload.** -/
def render (p : Payload) : Except Failure Json := do return .object (← renderItems σ p)

mutual

/-- The leaves of an item, with dotted keys. -/
def itemLeaves (key : String) : Item → List (String × Value)
  | .leaf value => [(key, value)]
  | .group items => leavesBehind (key ++ ".") items

/-- The leaves of items, with dotted keys behind what is given. -/
def leavesBehind (lead : String) : List (String × Item) → List (String × Value)
  | [] => []
  | (name, item) :: rest => itemLeaves (lead ++ name) item ++ leavesBehind lead rest

end

/-- **The leaves of a payload** in order, each with the keys on its way joined by points. -/
def leaves (p : Payload) : List (String × Value) := leavesBehind "" p

end Payload

end DiscreetLog
