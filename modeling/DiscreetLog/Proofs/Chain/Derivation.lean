import DiscreetLog.Chain

/-!
# Derivations

Two things can be done with a chain before an event goes down it: attributes are bound, or a group
is opened. A *derivation* is one of the two, and a chain, a sink and a scope are derived by lists
of them, the first one first. What a caller does with a handler over time is such a list, and every
statement about all handlers that come of one is a statement about all lists.
-/

namespace DiscreetLog

/-- **A derivation.** -/
inductive Derivation where
  | bind (attrs : List Attr)
  | openGroup (name : String)

/-- **A scope derived.** -/
def Scope.derive : Scope → List Derivation → Scope
  | s, [] => s
  | s, .bind attrs :: ds => (s.bind attrs).derive ds
  | s, .openGroup name :: ds => (s.openGroup name).derive ds

/-- **A sink derived.** -/
def Sink.derive : Sink → List Derivation → Sink
  | s, [] => s
  | s, .bind attrs :: ds => (s.bind attrs).derive ds
  | s, .openGroup name :: ds => (s.openGroup name).derive ds

/-- **A chain derived.** Binding may fail on the way, and opening a group does not. -/
def Chain.derive (σ : Objects) : Chain → List Derivation → Noted Chain
  | c, [] => pure c
  | c, .bind attrs :: ds => do derive σ (← c.bind σ attrs) ds
  | c, .openGroup name :: ds => derive σ (c.openGroup name) ds

namespace Sink

/-- The scope of a sink that lays events out. -/
def scope? : Sink → Option Scope
  | .structured scope _ | .flat scope _ | .shipping scope _ | .announcing scope .. => some scope
  | .keeping _ => none

variable {s : Sink} {scope : Scope}

/-- Another scope of a sink that has one. -/
theorem scope?_mapScope (hs : s.scope? = some scope) (f : Scope → Scope) :
    (s.mapScope f).scope? = some (f scope) := by
  cases s with
  | keeping => cases hs
  | _ =>
    cases hs
    rfl

/-- **A sink that lays events out is derived in its scope alone.** -/
theorem derive_of_scope? (hs : s.scope? = some scope) (ds : List Derivation) :
    s.derive ds = s.mapScope (·.derive ds) := by
  induction ds generalizing s scope with
  | nil => cases s <;> rfl
  | cons d ds ih =>
    have hmap (f : Scope → Scope) :
        (s.mapScope f).derive ds = s.mapScope fun scope => (f scope).derive ds := by
      rw [ih (scope?_mapScope hs f)]
      cases s <;> rfl
    have hbind (as : List Attr) : s.bind as = s.mapScope (·.bind as) := by
      cases s with
      | keeping => cases hs
      | _ => rfl
    have hopen (name : String) : s.openGroup name = s.mapScope (·.openGroup name) := by
      cases s with
      | keeping => cases hs
      | _ => rfl
    cases d with
    | bind as =>
      rw [derive, hbind, hmap]
      rfl
    | openGroup name =>
      rw [derive, hopen, hmap]
      rfl

end Sink

end DiscreetLog
