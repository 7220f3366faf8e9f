import DiscreetLog.Logging

/-!
# Setting up

One call makes a chain of the settings, installs a logger over it for the whole program, and
takes down what an earlier call has installed. The chain is a sink for the output file and the
standard output, a sink for the log service, or a fan-out over both; a masking stage stands
above it where there are tokens.

Almost everything that can fail is done before anything is installed (`Logger.prepare`). A set-up
that fails there leaves the logger, the bridges and the writer of an earlier one in place, and
closes the file that it has opened itself. The name of the host is asked for when the file is open
already, and the writer of an earlier set-up is closed when the new one is installed.
-/

namespace DiscreetLog

/-- **A new client is asked for**, with the connection that the environment allows. -/
def Client.connect (region : Option String) : Action Nat := do
  let h ← get
  Action.update fun h =>
    { h with
      connecting := h.connecting.tail
      connections := h.connections ++ [.ofEnvironment h.environment region] }
  let client ← Action.ofExcept (h.connecting.headD (.ok .reliable))
  Action.update fun h => { h with clients := h.clients ++ [client] }
  return h.clients.length

namespace Settings

/-- The level that the settings name. -/
def threshold (s : Settings) : Level := Level.parse s.level

/-- What is noted of a set-up. -/
def summary (s : Settings) (service : String) : String :=
  "Logging configured for " ++ service ++ " (format: " ++ s.format ++ ", level: "
    ++ s.level.getD "None" ++ ")"

/-- The sink that writes to a writer, in the form that the settings name. -/
def lineSink (s : Settings) (w : Writer) : Sink :=
  let scope := Scope.root s.threshold true
  if s.format = "json" then .structured scope w else .flat scope w

/-- **The sink that sends to the log service**, once its group and stream are there. -/
def shippingSink (s : Settings) (service : String) (client : Option Nat) : Action Sink := do
  let client ← match client with
    | some n => pure n
    | none => Client.connect (some s.region)
  let target : Shipping :=
    ⟨client, s.cloudGroup, if s.cloudStream = "" then service else s.cloudStream⟩
  target.ensure
  return .shipping (.root s.threshold true) target

/-- Sinks put together: a single one stands for itself. -/
def together : List Sink → Chain
  | [s] => .sink s
  | sinks => .fanOut (sinks.map .sink)

/-- A chain below the masking stage that the settings name. Without tokens nothing is masked,
which is worth a note. -/
def withMasking (s : Settings) (c : Chain) : Action Chain := do
  if s.tokens.isEmpty then do
    Action.note .warning "No redaction keys configured: log attributes are written unredacted"
    return c
  else return .masking ⟨Tokens.normalize (s.tokens.map some), none, defaultDepth⟩ c

/-- The sinks for the log service, given the writer that was opened before. It is closed again where
the service cannot be used. -/
def shippingSinks (s : Settings) (service : String) (client : Option Nat)
    (writer : Option Writer) : Action (List Sink) :=
  if s.cloudGroup = "" then pure []
  else tryCatch (do return [← s.shippingSink service client]) fun failure => do
    Writer.closeIfAny writer
    throw failure

/-- **The chain that the settings describe**, and the writer that was opened for it. -/
def chain (s : Settings) (service : String) (client : Option Nat) :
    Action (Chain × Option Writer) :=
  if !s.hasOutput then throw (.noOutput s.outputFile s.toStdout)
  else do
    let writer ← Writer.ofOutputs s.outputFile s.toStdout
    let shipping ← s.shippingSinks service client writer
    return (← s.withMasking (together (writer.toList.map s.lineSink ++ shipping)), writer)

/-- **The settings of the environment**, to which a settings file adds what is not there. -/
def load : Action Settings := do
  let h ← get
  let environment ← Action.ofExcept (h.readSettings h.disk h.directory h.environment)
  Action.update fun h => { h with environment }
  return ofEnvironment environment

/-- **The settings of a set-up**: those that are chosen, or those of the environment. -/
def orLoaded : Option Settings → Action Settings
  | some s => pure s
  | none => load

end Settings

namespace Logger

/-- The bridges of the root are taken down. -/
def removeBridges : Action Unit := Action.update fun h => { h with rootBridges := [] }

/-- A bridge to a chain is put up at the root, which logs from a number on. -/
def addBridge (c : Chain) (threshold : Int) : Action Unit :=
  Action.update fun h =>
    { h with
      bridges := h.bridges ++ [⟨c, 0, false⟩]
      rootBridges := [h.bridges.length]
      rootThreshold := threshold }

/-- **A logger is installed** for the whole program, in place of what an earlier set-up has
installed. -/
def install (l : Logger) (writer : Option Writer) (bridging : Bool) (threshold : Int) :
    Action Unit := do
  let previous := (← get).ownedWriter
  Action.update fun h => { h with defaultLogger := some l, ownedWriter := writer }
  removeBridges
  if bridging then addBridge l.chain threshold
  Writer.closeIfAny previous

/-- **The logger of a service** over a chain: all of its events name the service and the host. -/
def ofService (service : String) (c : Chain) : Action Logger := do
  let h ← get
  let hostName ← Action.ofExcept h.hostName
  Action.ofNoted (bind h.objects ⟨c⟩
    [⟨"service.name", .text service⟩, ⟨"host", .text hostName⟩])

/-- **What a set-up goes by and has made** before anything is installed. -/
structure Plan where
  settings : Settings
  chain : Chain
  writer : Option Writer

/-- **A set-up is prepared** for a service. -/
def prepare (service : String) (settings : Option Settings) (client : Option Nat) : Action Plan :=
  if service = "" then throw .noServiceName
  else do
    let settings ← Settings.orLoaded settings
    let (chain, writer) ← settings.chain service client
    return { settings, chain, writer }

/-- **Logging is set up** for a service. -/
def setUp (service : String) (settings : Option Settings) (bridging : Bool)
    (client : Option Nat) : Action Logger := do
  let plan ← prepare service settings client
  let l ← ofService service plan.chain
  l.install plan.writer bridging plan.settings.threshold.number
  Action.note .info (plan.settings.summary service)
  return l

/-- **What was set up is taken down**, and its file closed. -/
def takeDown : Action Unit := do
  removeBridges
  let previous := (← get).ownedWriter
  Action.update fun h => { h with defaultLogger := none, ownedWriter := none }
  Writer.closeIfAny previous

end Logger

end DiscreetLog
