import DiscreetLog.Value

/-!
# Scopes

A sink that lays events out carries a scope: the level from which it takes events, the groups
that are open, and the attributes bound so far. A batch of attributes belongs to the groups that
were open when it was bound, so opening a group later does not move it.
-/

namespace DiscreetLog

/-- **Attributes bound together**, with the groups that were open at the time. -/
structure Batch where
  groups : List String
  attrs : List Attr

/-- **What a sink carries from event to event.** -/
structure Scope where
  /-- The lowest level that is taken. -/
  threshold : Level
  /-- Whether the place of the log call is laid out. -/
  withSite : Bool
  /-- The open groups, outermost first. -/
  groups : List String
  /-- The batches bound so far, oldest first. -/
  bound : List Batch

namespace Scope

/-- A scope in which nothing is bound and no group is open. -/
def root (threshold : Level) (withSite : Bool) : Scope := ⟨threshold, withSite, [], []⟩

/-- Events of this level are taken. -/
def enabled (s : Scope) (level : Int) : Bool := s.threshold.number ≤ level

/-- **Attributes are bound** in the open groups. Binding nothing changes nothing. -/
def bind (s : Scope) (attrs : List Attr) : Scope :=
  if attrs.isEmpty then s else { s with bound := s.bound ++ [⟨s.groups, attrs⟩] }

/-- **A group is opened** in the innermost open one. A group without a name is not opened. -/
def openGroup (s : Scope) (name : String) : Scope :=
  if name = "" then s else { s with groups := s.groups ++ [name] }

end Scope

end DiscreetLog
