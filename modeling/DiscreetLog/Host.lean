import DiscreetLog.Chain
import DiscreetLog.Cloud
import DiscreetLog.Disk
import DiscreetLog.Foreign

/-!
# The host

What chains act on, and what remains of their actions: the streams in memory and the files, the
clients of the log service, the stores of keeping sinks, the bridges from other libraries, and
what is installed for the whole program. An `Action` may fail, and what it did before it failed
remains done.

Most of the fields are either a table that only grows, in which things go by their numbers, or a
transcript that a reader empties.
-/

namespace DiscreetLog

/-- **A stream in memory**: what was written to it since it was last read. -/
structure MemoryStream where
  fresh : String
  closed : Bool

/-- **A file opened for appending**, with what has not reached the disk yet. -/
structure LogFile where
  path : FilePath
  pending : String
  closed : Bool

/-- **A file holds back what there is no room for.** -/
def LogFile.isStuck (f : LogFile) (d : Disk) : Bool := !f.pending.isEmpty && d.full f.path

/-- **An event as a keeping sink kept it.** -/
structure Kept where
  event : Event
  bound : List Attr
  groups : List String

/-- **A bridge**: it hands records from elsewhere to a chain, and knows while it does. -/
structure Bridge where
  target : Chain
  threshold : Int
  /-- A record is on its way through this bridge. -/
  emitting : Bool

/-- **A logger**: what a program makes its log calls on. -/
structure Logger where
  chain : Chain

/-- **The host of the library.** -/
structure Host where
  /-- The containers that are met more than once. -/
  objects : Objects
  /-- The time of every log call. -/
  now : Moment
  /-- The path of the working directory. -/
  directory : String
  /-- The name of the machine, or why it cannot be told. -/
  hostName : Except Failure String
  environment : Environment
  /-- **How settings files are read**: what becomes of the environment, given the disk and the
  working directory. -/
  readSettings : Disk → String → Environment → Except Failure Environment
  disk : Disk
  streams : List (String × MemoryStream)
  /-- What was written to the standard output since it was last read. -/
  stdout : String
  stdoutClosed : Bool
  /-- What was written to the standard error output since it was last read. -/
  stderr : String
  stderrClosed : Bool
  files : List LogFile
  clients : List Client
  stores : List (List Kept)
  bridges : List Bridge
  /-- Which bridge goes by which name. -/
  published : List (String × Nat)
  /-- The bridges that all loggers of other libraries reach. -/
  rootBridges : List Nat
  /-- The number from which those loggers log at all. -/
  rootThreshold : Int
  defaultLogger : Option Logger
  /-- The writer that the last set-up opened. -/
  ownedWriter : Option Writer
  /-- How many sinks are writing. -/
  writing : Nat
  /-- The notes made since they were last read. -/
  notes : List Note
  /-- The failures that bridges kept to themselves since they were last read. -/
  swallowed : List Failure
  /-- What the next connections come to: a client, or a failure to make one. Behind these every
  connection makes a reliable client. -/
  connecting : List (Except Failure Client)
  /-- The connections asked for since they were last read. -/
  connections : List Connection

/-- A host on which nothing has happened, and on which there are no settings files. -/
def Host.fresh (objects : Objects) (now : Moment) (environment : Environment)
    (directory hostName : String) : Host where
  objects := objects
  now := now
  directory := directory
  hostName := .ok hostName
  environment := environment
  readSettings := fun _ _ environment => .ok environment
  disk := Disk.empty.makeDirectory (.ofText directory)
  streams := []
  stdout := ""
  stdoutClosed := false
  stderr := ""
  stderrClosed := false
  files := []
  clients := []
  stores := []
  bridges := []
  published := []
  rootBridges := []
  rootThreshold := Rank.warning.number
  defaultLogger := none
  ownedWriter := none
  writing := 0
  notes := []
  swallowed := []
  connecting := []
  connections := []

/-- **An action on the host.** -/
abbrev Action := ExceptT Failure (StateM Host)

namespace Action

/-- The host changes. -/
def update (f : Host → Host) : Action Unit := modify f

/-- A note is made. -/
def note (rank : Rank) (text : String) : Action Unit :=
  update fun h => { h with notes := h.notes ++ [⟨rank, text⟩] }

/-- A result that does not touch the host. -/
def ofExcept {α : Type} : Except Failure α → Action α
  | .ok a => pure a
  | .error e => throw e

/-- A computation that leaves notes: the notes are made, and the result is its result. -/
def ofNoted {α : Type} (x : Noted α) : Action α := do
  update fun h => { h with notes := h.notes ++ x.notes }
  ofExcept x.result

/-- **What is done in any case afterwards**, whether the action fails or not. -/
def ensuring {α : Type} (x : Action α) (after : Host → Host) : Action α :=
  ExceptT.mk do
    let r ← x.run
    modify after
    return r

/-! What an action comes to on a host: its result, and the host afterwards. -/

section Run

variable {α β : Type} (h : Host)

@[simp] theorem run_pure (a : α) : (pure a : Action α).run h = (.ok a, h) := rfl

@[simp] theorem run_throw (e : Failure) : (throw e : Action α).run h = (.error e, h) := rfl

@[simp] theorem run_get : (get : Action Host).run h = (.ok h, h) := rfl

@[simp] theorem run_update (f : Host → Host) : (update f).run h = (.ok (), f h) := rfl

/-- **Actions compose** as long as none fails; a failure ends them. -/
theorem run_bind (x : Action α) (f : α → Action β) :
    (x >>= f).run h = match x.run h with
      | (.ok a, h) => (f a).run h
      | (.error e, h) => (.error e, h) := by
  rcases hx : x h with ⟨_ | a, h'⟩
  · simp only [bind, ExceptT.bind, ExceptT.mk, ExceptT.run, StateT.bind, hx]
    rfl
  · simp only [bind, ExceptT.bind, ExceptT.mk, ExceptT.run, StateT.bind, hx]
    rfl

/-- **A failure that is caught** leaves what was done before it. -/
theorem run_tryCatch (x : Action α) (f : Failure → Action α) :
    (tryCatch x f).run h = match x.run h with
      | (.ok a, h) => (.ok a, h)
      | (.error e, h) => (f e).run h := by
  rcases hx : x h with ⟨_ | a, h'⟩
  · simp only [tryCatch, tryCatchThe, MonadExceptOf.tryCatch, ExceptT.tryCatch, ExceptT.mk,
      ExceptT.run, bind, StateT.bind, hx]
  · simp only [tryCatch, tryCatchThe, MonadExceptOf.tryCatch, ExceptT.tryCatch, ExceptT.mk,
      ExceptT.run, bind, StateT.bind, hx]
    rfl

@[simp] theorem run_ensuring (x : Action α) (after : Host → Host) :
    (ensuring x after).run h = ((x.run h).1, after (x.run h).2) := rfl

@[simp] theorem run_ofExcept (x : Except Failure α) : (ofExcept x).run h = (x, h) := by
  cases x <;> rfl

@[simp] theorem run_ofNoted (x : Noted α) :
    (ofNoted x).run h = (x.result, { h with notes := h.notes ++ x.notes }) := by
  simp [ofNoted, run_bind]

end Run

end Action

end DiscreetLog
