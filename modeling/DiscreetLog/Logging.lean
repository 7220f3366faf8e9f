import DiscreetLog.Arguments
import DiscreetLog.Delivery

/-!
# Logging

A logger is what a program calls. It looks first whether its chain takes the level at all, and
only then makes an event of the call. A logger with attributes bound or a group opened is
another logger over another chain; binding nothing and opening a group without a name give the
same logger again.

Other libraries log on their own, by named loggers that lead to the root; the bridges installed
there put their records on a chain.
-/

namespace DiscreetLog

namespace Logger

/-- How a logger is shown. -/
def display (l : Logger) : String := "<Logger handler=" ++ l.chain.display ++ ">"

/-- **A logger with attributes bound.** -/
def bind (σ : Objects) (l : Logger) (attrs : List Attr) : Noted Logger :=
  if attrs.isEmpty then pure l else do return ⟨← l.chain.bind σ attrs⟩

/-- **A logger with a group opened.** -/
def openGroup (l : Logger) (name : String) : Logger :=
  if name = "" then l else ⟨l.chain.openGroup name⟩

/-- **A log call.** Where the chain does not take the level, nothing is made of it. -/
def log (l : Logger) (level : Level) (message : String) (positional : List Value)
    (named : List (String × Value)) (site : Site Value) : Action Unit := do
  if l.chain.enabled level.number then
    l.chain.accept ⟨(← get).now, level, message, some site, Attr.ofArguments positional named⟩

/-- **The logger of the program**: the one that was installed, or one that writes flat lines to
the standard error output, which is installed by being asked for. -/
def default : Action Logger := do
  match (← get).defaultLogger with
  | some l => return l
  | none =>
    let l : Logger := ⟨.sink (.flat (.root .info false) [.stderr])⟩
    Action.update fun h => { h with defaultLogger := some l }
    return l

end Logger

/-- **How a call on a logger of another library is made.** -/
inductive CallMethod where
  | plain (rank : Rank)
  /-- A call that speaks of the failure at hand, when there is none. -/
  | trouble
  deriving DecidableEq

/-- The rank of a call. -/
def CallMethod.rank : CallMethod → Rank
  | .plain rank => rank
  | .trouble => .error

namespace Foreign

/-- A logger of the library itself, or one below it. -/
def isOwn (logger : String) : Bool := isWithin "logredact" logger

/-- **A record reaches the bridges of the root** that take its number, one after the other, given
how it is put on a bridge. -/
def reachRoot (put : Put) (number : Int) (r : Foreign) : Action Unit := do
  (← get).rootBridges.forM fun n => do
    (← get).bridges[n]?.forM fun b => if b.threshold ≤ number then put n r else pure ()

/-- **The record of a call** on a logger. An extra attribute may not have a name that a record has
for itself. -/
def ofCall (σ : Objects) (now : Moment) (logger : String) (method : CallMethod) (message : String)
    (args : List Value) (extras : List (String × Value)) (site : Site Value) :
    Except Failure Foreign := do
  let extras := Ordered.ofPairs extras
  let taken (name : String) : Bool :=
    (["message", "asctime"] ++ ownNames).contains name
  match extras.find? fun e => taken e.1 with
  | some (name, _) => throw (.nameTaken name)
  | none => do
    let created ← now.seconds
    return {
      logger := .text logger, number := .int method.rank.number, site, message := .text message
      args := packed σ args, created := .atom none (.float created), extras
      mention := if method = .trouble then .failure none else .nothing }

/-- **A call on a logger of another library**, given how a record is put on a bridge. Nothing comes
of it below the number from which loggers log; the library's own loggers log everything, and what
they log is a note. -/
def callVia (put : Put) (logger : String) (method : CallMethod) (message : String)
    (args : List Value) (extras : List (String × Value)) (site : Site Value) : Action Unit := do
  let h ← get
  let logger := if logger = "" then "root" else logger
  let number := method.rank.number
  if isOwn logger || h.rootThreshold ≤ number then do
    let r ← Action.ofExcept (ofCall h.objects h.now logger method message args extras site)
    if isOwn logger then
      Action.note method.rank (← Action.ofExcept (r.text h.objects))
    r.reachRoot put number

/-- **A call on a logger of another library.** -/
def call : String → CallMethod → String → List Value → List (String × Value) → Site Value →
    Action Unit := callVia Bridge.emit

end Foreign

end DiscreetLog
