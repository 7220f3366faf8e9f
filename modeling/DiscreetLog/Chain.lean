import DiscreetLog.Masking
import DiscreetLog.Scope
import DiscreetLog.Scrubber

/-!
# Chains

Events go down a chain. At its ends stand sinks, which do something with an event; above them
stand stages that mask events, and stages that fan them out to several chains. A chain answers
four questions: whether it takes events of a level, what it does with an event, and which chain
it is with attributes bound or a group opened. The last two make a new chain and leave the old
one as it is, so one chain can be the root of any number of others.

`Chain` is the tree of the stages. What the sinks do is in the modules that follow; the tree only
says which of them an event reaches and what it looks like there.
-/

namespace DiscreetLog

/-- **Where lines can be written.** -/
inductive Endpoint where
  /-- A stream in memory, by its name. -/
  | memory (name : String)
  | stdout
  | stderr
  /-- A file that was opened for appending, by its number. -/
  | file (number : Nat)
  deriving DecidableEq

/-- **A writer**: everything written goes to each of its endpoints in order. -/
abbrev Writer := List Endpoint

/-- **The place of a sink in the log service.** -/
structure Shipping where
  /-- The client, by its number. -/
  client : Nat
  group : String
  stream : String
  deriving DecidableEq

/-- **What a keeping sink does with an event** besides keeping it. -/
inductive Conduct where
  /-- Nothing. -/
  | quiet
  /-- It fails, and keeps nothing. -/
  | failing (kind text : String)
  /-- Before it keeps the event it logs through the bridge of that name, under a logger's
  name. -/
  | chatty (bridge logger : String)
  deriving DecidableEq

/-- **A keeping sink**: it keeps events as they come, with what was bound and opened on it. -/
structure Keeper where
  threshold : Level
  /-- The store, by its number. Derived sinks share it. -/
  store : Nat
  bound : List Attr
  groups : List String
  conduct : Conduct

/-- **A sink.** -/
inductive Sink where
  /-- Writes a structured line. -/
  | structured (scope : Scope) (writer : Writer)
  /-- Writes a flat line. -/
  | flat (scope : Scope) (writer : Writer)
  /-- Sends a structured line to the log service. -/
  | shipping (scope : Scope) (target : Shipping)
  /-- Logs through a bridge while it writes, and writes whether a sink was seen to be writing. -/
  | announcing (scope : Scope) (stream bridge logger : String)
  | keeping (keeper : Keeper)

namespace Sink

/-- A sink that takes events of this level. -/
def enabled (level : Int) : Sink → Bool
  | .structured scope _ | .flat scope _ | .shipping scope _ | .announcing scope .. =>
    scope.enabled level
  | .keeping k => k.threshold.number ≤ level

/-- A sink with another scope. -/
def mapScope (f : Scope → Scope) : Sink → Sink
  | .structured scope w => .structured (f scope) w
  | .flat scope w => .flat (f scope) w
  | .shipping scope t => .shipping (f scope) t
  | .announcing scope s b l => .announcing (f scope) s b l
  | .keeping k => .keeping k

/-- **A sink with attributes bound.** -/
def bind (attrs : List Attr) : Sink → Sink
  | .keeping k => .keeping { k with bound := k.bound ++ attrs }
  | s => s.mapScope (·.bind attrs)

/-- **A sink with a group opened.** -/
def openGroup (name : String) : Sink → Sink
  | .keeping k => .keeping { k with groups := k.groups ++ [name] }
  | s => s.mapScope (·.openGroup name)

/-- The name that a sink goes by. -/
def display : Sink → String
  | .structured .. => "<JSONHandler>"
  | .flat .. => "<TextHandler>"
  | .shipping .. => "<CloudWatchHandler>"
  | .announcing .. => "<ChattySink>"
  | .keeping k => match k.conduct with
    | .quiet => "<ListHandler>"
    | .failing .. => "<FailHandler>"
    | .chatty .. => "<ChattyHandler>"

end Sink

/-- **What a masking stage hides.** -/
structure Policy where
  tokens : Tokens
  /-- The scrubber of messages, if there is one. -/
  scrubber : Option Scrubber
  maxDepth : Int

namespace Policy

variable (σ : Objects)

/-- **An event masked.** Without tokens and a scrubber it goes on as it is. -/
def apply (p : Policy) (e : Event) : Noted Event :=
  if p.tokens.isEmpty && p.scrubber.isNone then pure e
  else do
    let message ← match p.scrubber with
      | some s => s.scrub e.message
      | none => pure e.message
    let attrs ← Masking.attrs σ p.tokens p.maxDepth e.attrs
    return { e with message, attrs }

end Policy

/-- **A chain.** -/
inductive Chain where
  | sink (s : Sink)
  | masking (policy : Policy) (inner : Chain)
  | fanOut (branches : List Chain)

namespace Chain

mutual

/-- **A chain takes events of a level**: a fan-out does if one of its branches does. -/
def enabled (level : Int) : Chain → Bool
  | .sink s => s.enabled level
  | .masking _ inner => enabled level inner
  | .fanOut branches => anyEnabled level branches

/-- One of some chains takes events of a level. -/
def anyEnabled (level : Int) : List Chain → Bool
  | [] => false
  | c :: cs => enabled level c || anyEnabled level cs

end

variable (σ : Objects)

mutual

/-- **A chain with attributes bound.** They are masked on their way down as those of an event
are. -/
def bind (attrs : List Attr) : Chain → Noted Chain
  | .sink s => pure (.sink (s.bind attrs))
  | .masking p inner => do
    return .masking p (← bind (← Masking.attrs σ p.tokens p.maxDepth attrs) inner)
  | .fanOut branches => do return .fanOut (← bindAll attrs branches)

/-- Chains with attributes bound. -/
def bindAll (attrs : List Attr) : List Chain → Noted (List Chain)
  | [] => pure []
  | c :: cs => do
    let c ← bind attrs c
    return c :: (← bindAll attrs cs)

end

mutual

/-- **A chain with a group opened.** -/
def openGroup (name : String) : Chain → Chain
  | .sink s => .sink (s.openGroup name)
  | .masking p inner => .masking p (openGroup name inner)
  | .fanOut branches => .fanOut (openGroupAll name branches)

/-- Chains with a group opened. -/
def openGroupAll (name : String) : List Chain → List Chain
  | [] => []
  | c :: cs => openGroup name c :: openGroupAll name cs

end

/-- **How a chain is shown**: a fan-out by its name alone. -/
def display : Chain → String
  | .sink s => s.display
  | .masking p inner =>
    "<RedactHandler keys=" ++ Text.literals p.tokens ++ " inner=" ++ display inner ++ ">"
  | .fanOut _ => "<MultiHandler>"

end Chain

end DiscreetLog
