import DiscreetLog.Setup
import DiscreetLog.Value.Entries

/-!
# Scripts

A script is a list of steps on one host. A step makes something and gives it a name, or does
something with what has a name; it answers with a reply or with a failure, and a failing step
does not end the script. `Session.run` is the meaning of a script: beside each answer stands
what the step wrote and noted, as far as there is anything.
-/

namespace DiscreetLog

/-- **What can have a name** in a script. -/
inductive Thing where
  | chain (c : Chain)
  | logger (l : Logger)
  | bridge (n : Nat)
  | client (n : Nat)
  /-- A writer, or the lack of one. -/
  | writer (w : Option Writer)

/-- **How a sink is made.** -/
inductive SinkForm where
  | structured (stream : String)
  | flat (stream : String)
  | shipping (client : Option String) (group stream : String)
  | announcing (stream bridge logger : String)
  | keeping (conduct : Conduct)

/-- **A method of a logger**: one for each level, and one that is given the level. -/
inductive LogMethod where
  | fixed (level : Level)
  | given (level : Level)

namespace LogMethod

/-- The level of a call. -/
def level : LogMethod → Level
  | .fixed level | .given level => level

/-- The name of the method. -/
def callee : LogMethod → String
  | .fixed .debug => "Logger.debug"
  | .fixed .info => "Logger.info"
  | .fixed .warn => "Logger.warning"
  | .fixed .error => "Logger.error"
  | .given _ => "Logger.log"

/-- The names of the arguments that a call has besides its attributes. -/
def parameters : LogMethod → List String
  | .fixed _ => ["self", "message"]
  | .given _ => ["self", "level", "message"]

end LogMethod

/-- **A step of a script.** -/
inductive Step where
  | makeSink (name : String) (form : SinkForm) (threshold : Level) (withSite : Bool)
  | makeClient (name : String) (client : Client)
  | calls (client : String)
  | ensureStream (sink : String)
  | streamNames (sink : String)
  | mask (chain name : String) (keys : List (Option String)) (maxDepth : Int)
      (scrubber : Option Scrubber)
  | fanOut (chains : List String) (name : String)
  | bindAttrs (chain name : String) (attrs : List Attr)
  | openGroup (thing name group : String)
  | handle (chain : String) (event : Event)
  | format (sink : String) (event : Event)
  | enabled (thing : String) (level : Int)
  | kept (sink : String)
  | closeStream (stream : String)
  | makeLogger (chain name : String)
  | log (logger : String) (method : LogMethod) (message : String) (positional : List Value)
      (named : List (String × Value)) (site : Site Value)
  | bindScope (logger name : String) (positional : List Value) (named : List (String × Value))
  | chainOf (logger name : String)
  | setDefault (logger : Option String)
  | getDefault (name : String)
  | makeBridge (chain name : String) (threshold : Int)
  | emit (bridge : String) (record : Foreign)
  | convert (bridge : String) (record : Foreign)
  | foreignCall (logger : String) (method : CallMethod) (message : String) (args : List Value)
      (extras : List (String × Value)) (site : Site Value)
  | setUp (service : String) (settings : Option Settings) (name : String) (bridging : Bool)
      (client : Option String)
  | buildChain (service : String) (settings : Settings) (name : String) (client : Option String)
  | takeDown
  | state
  | openWriter (file : String) (toStdout : Bool) (name : String)
  | tee (name : String) (streams : List String)
  | write (writer text : String)
  | flush (writer : String)
  | close (writer : String)
  | isClosed (stream : String)
  | placeFile (file text : String)
  | showFile (file : String)
  | makeDirectory (file : String)
  | loadSettings
  | connect (region : Option String)

/-- **What is installed on a host**, as a step reports it. -/
structure Installed where
  defaultLogger : Option String
  bridges : Nat
  rootThreshold : Int
  files : List (String × Bool)

/-- **The reply of a step.** -/
inductive Reply where
  | nothing
  | text (s : String)
  | texts (ss : List String)
  | flag (b : Bool)
  | number (n : Int)
  | event (e : Event)
  | kept (ks : List Kept)
  | calls (cs : List Call)
  | masking (tokens : Tokens) (inner shown : String)
  | settings (s : Settings)
  | installed (i : Installed)

/-- **A session**: a host, and what has a name. -/
structure Session where
  host : Host
  things : List (String × Thing)

/-- **What remains of a step**: its answer, and what it wrote and noted. -/
structure Trace where
  answer : Except Failure Reply
  streams : List (String × String)
  stdout : String
  stderr : String
  notes : List Note
  swallowed : List Failure
  connections : List Connection

/-- An action that can look up and give names. -/
abbrev Scripted := ExceptT Failure (StateM Session)

namespace Scripted

/-- An action on the host of the session. -/
def onHost {α : Type} (x : Action α) : Scripted α :=
  ExceptT.mk fun s =>
    let (r, host) := x.run s.host
    (r, { s with host })

/-- The thing of a name. -/
def find (name : String) : Scripted Thing := do
  match (← get).things.lookup name with
  | some t => return t
  | none => throw (.unknownName name)

/-- **A thing gets a name.** A bridge is known by it on the host too; when the name goes to
something else, it no longer is. -/
def give (name : String) (t : Thing) : Scripted Unit :=
  modify fun s =>
    { things := Ordered.assign name t s.things
      host := { s.host with
        published := match t with
          | .bridge n => Ordered.assign name n s.host.published
          | _ => s.host.published.filter (·.1 ≠ name) } }

/-- The chain of a name. A name that stands for something else is no name of a chain, and so for
the other kinds of things. -/
def findChain (name : String) : Scripted Chain := do
  match ← find name with
  | .chain c => return c
  | _ => throw (.unknownName name)

/-- The logger of a name. -/
def findLogger (name : String) : Scripted Logger := do
  match ← find name with
  | .logger l => return l
  | _ => throw (.unknownName name)

/-- The bridge of a name. -/
def findBridge (name : String) : Scripted Nat := do
  match ← find name with
  | .bridge n => return n
  | _ => throw (.unknownName name)

/-- The client of a name. -/
def findClient (name : String) : Scripted Nat := do
  match ← find name with
  | .client n => return n
  | _ => throw (.unknownName name)

/-- The client of a name that may be missing. -/
def findClient? : Option String → Scripted (Option Nat)
  | some name => do return some (← findClient name)
  | none => pure none

/-- The sink of a name. -/
def findSink (name : String) : Scripted Sink := do
  match ← findChain name with
  | .sink s => return s
  | _ => throw (.unknownName name)

/-- The place in the log service of the sink of a name. -/
def findShipping (name : String) : Scripted Shipping := do
  match ← findSink name with
  | .shipping _ t => return t
  | _ => throw (.unknownName name)

/-- A chain gets a name; the reply shows it. -/
def giveChain (name : String) (c : Chain) : Scripted Reply := do
  give name (.chain c)
  return .text c.display

/-- A logger gets a name; the reply shows it. -/
def giveLogger (name : String) (l : Logger) : Scripted Reply := do
  give name (.logger l)
  return .text l.display

/-- A sink of the given form. -/
def makeSink (threshold : Level) (withSite : Bool) : SinkForm → Scripted Sink
  | .structured stream => return .structured (.root threshold withSite) [.memory stream]
  | .flat stream => return .flat (.root threshold withSite) [.memory stream]
  | .shipping client group stream => do
    let client ← match ← findClient? client with
      | some n => pure n
      | none => onHost (Client.connect none)
    return .shipping (.root threshold withSite) ⟨client, group, stream⟩
  | .announcing stream bridge logger =>
    return .announcing (.root threshold withSite) stream bridge logger
  | .keeping conduct => do
    let store := (← get).host.stores.length
    onHost (Action.update fun h => { h with stores := h.stores ++ [[]] })
    return .keeping ⟨threshold, store, [], [], conduct⟩

/-- The writer of a name, or else the stream in memory of that name. -/
def writerOf (name : String) : Scripted Writer := do
  match (← get).things.lookup name with
  | some (.writer (some w)) => return w
  | _ => return [.memory name]

/-- The writer of a name, for an operation on it. Where there is none, there is nothing that has
the operation. -/
def findWriter (name operation : String) : Scripted Writer := do
  match ← find name with
  | .writer (some w) => return w
  | .writer none => throw (.noField "NoneType" operation)
  | _ => throw (.unknownName name)

/-- What is installed on the host. -/
def installed (h : Host) : Installed where
  defaultLogger := h.defaultLogger.map Logger.display
  bridges := h.rootBridges.length
  rootThreshold := h.rootThreshold
  files := h.files.map fun f => (f.path.listed h.directory, f.closed)

/-- What a writer of the two outputs is called. -/
def outputsName (file : String) (toStdout : Bool) : Reply :=
  if file = "" then if toStdout then .text "stdout" else .nothing
  else .text (if toStdout then "tee" else "file")

/-- The path of a file that is opened for writing. -/
def writable (file : String) : Scripted FilePath := do
  let h := (← get).host
  let path := FilePath.ofName h.directory file
  match h.disk.faultOf? path with
  | none => return path
  | some fault => throw (.unopened (path.text h.directory) fault)

/-- **The meaning of a step.** -/
def step : Step → Scripted Reply
  | .makeSink name form threshold withSite => do
    giveChain name (.sink (← makeSink threshold withSite form))
  | .makeClient name client => do
    let n := (← get).host.clients.length
    onHost (Action.update fun h => { h with clients := h.clients ++ [client] })
    give name (.client n)
    return .nothing
  | .calls client => do
    let n ← findClient client
    let calls := ((← get).host.clients[n]?.map (·.calls)).getD []
    onHost (Action.update fun h =>
      { h with clients := h.clients.modify n fun c => { c with calls := [] } })
    return .calls calls
  | .ensureStream sink => do
    onHost (← findShipping sink).ensure
    return .nothing
  | .streamNames sink => do
    let t ← findShipping sink
    return .texts [t.group, t.stream]
  | .mask chain name keys maxDepth scrubber => do
    let inner ← findChain chain
    let tokens := Tokens.normalize keys
    let masked := Chain.masking ⟨tokens, scrubber, maxDepth⟩ inner
    give name (.chain masked)
    return .masking tokens inner.display masked.display
  | .fanOut chains name => do
    let branches ← chains.mapM fun c => findChain c
    give name (.chain (.fanOut branches))
    return .texts (branches.map Chain.display)
  | .bindAttrs chain name attrs => do
    let c ← findChain chain
    giveChain name (← onHost (do Action.ofNoted (c.bind (← get).objects attrs)))
  | .openGroup thing name group => do
    match ← find thing with
    | .chain c => giveChain name (c.openGroup group)
    | .logger l => giveLogger name (l.openGroup group)
    | _ => throw (.unknownName thing)
  | .handle chain event => do
    onHost ((← findChain chain).accept event)
    return .nothing
  | .format sink event => do
    let σ := (← get).host.objects
    match ← findSink sink with
    | .structured scope _ =>
      return .text (← onHost (Action.ofExcept ((Payload.ofEvent scope event).structuredLine σ)))
    | .flat scope _ =>
      return .text (← onHost (Action.ofExcept ((Payload.ofEvent scope event).flatLine σ)))
    | _ => throw (.unknownName sink)
  | .enabled thing level => do
    match ← find thing with
    | .chain c | .logger ⟨c⟩ => return .flag (c.enabled level)
    | _ => throw (.unknownName thing)
  | .kept sink => do
    match ← findSink sink with
    | .keeping k => do
      let kept := ((← get).host.stores[k.store]?).getD []
      onHost (Action.update fun h => { h with stores := h.stores.modify k.store fun _ => [] })
      return .kept kept
    | _ => throw (.unknownName sink)
  | .closeStream stream => do
    onHost (Endpoint.close (.memory stream))
    return .nothing
  | .makeLogger chain name => do giveLogger name ⟨← findChain chain⟩
  | .log logger method message positional named site => do
    let l ← findLogger logger
    match named.find? fun p => method.parameters.contains p.1 with
    | some (argument, _) => throw (.argumentRepeated method.callee argument)
    | none => do
      onHost (l.log method.level message positional named site)
      return .nothing
  | .bindScope logger name positional named => do
    let l ← findLogger logger
    match named.find? fun p => p.1 = "self" with
    | some (argument, _) => throw (.argumentRepeated "Logger.with_attrs" argument)
    | none =>
      giveLogger name (← onHost (do
        Action.ofNoted (l.bind (← get).objects (Attr.ofArguments positional named))))
  | .chainOf logger name => do giveChain name (← findLogger logger).chain
  | .setDefault logger => do
    let l ← match logger with
      | some name => do pure (some (← findLogger name))
      | none => pure none
    onHost (Action.update fun h => { h with defaultLogger := l })
    return .nothing
  | .getDefault name => do giveLogger name (← onHost Logger.default)
  | .makeBridge chain name threshold => do
    let c ← findChain chain
    let n := (← get).host.bridges.length
    onHost (Action.update fun h => { h with bridges := h.bridges ++ [⟨c, threshold, false⟩] })
    give name (.bridge n)
    return .number threshold
  | .emit bridge record => do
    onHost (Bridge.emit (← findBridge bridge) record)
    return .nothing
  | .convert bridge record => do
    let _ ← findBridge bridge
    return .event (← onHost (Action.ofExcept (record.toEvent (← get).host.objects)))
  | .foreignCall logger method message args extras site => do
    onHost (Foreign.call logger method message args extras site)
    return .nothing
  | .setUp service settings name bridging client => do
    let client ← findClient? client
    giveLogger name (← onHost (Logger.setUp service settings bridging client))
  | .buildChain service settings name client => do
    let client ← findClient? client
    giveChain name (← onHost (settings.chain service client)).1
  | .takeDown => do
    onHost Logger.takeDown
    return .nothing
  | .state => return .installed (installed (← get).host)
  | .openWriter file toStdout name => do
    give name (.writer (← onHost (Writer.ofOutputs file toStdout)))
    return outputsName file toStdout
  | .tee name streams => do
    give name (.writer (some (← streams.mapM writerOf).flatten))
    return .nothing
  | .write writer text => do
    onHost (Writer.write (← findWriter writer "write") text)
    return .number text.length
  | .flush writer => do
    onHost (Writer.flush (← findWriter writer "flush"))
    return .nothing
  | .close writer => do
    match ← find writer with
    | .writer w => do
      onHost (Writer.closeIfAny w)
      return .nothing
    | _ => throw (.unknownName writer)
  | .isClosed stream => return .flag (Endpoint.streamOf (← get).host stream).closed
  | .placeFile file text => do
    let path ← writable file
    onHost (Action.update fun h => { h with disk := h.disk.write path text })
    return .nothing
  | .showFile file => do
    let h := (← get).host
    return ((h.disk.text? (.ofName h.directory file)).map Reply.text).getD .nothing
  | .makeDirectory file => do
    onHost (Action.update fun h =>
      { h with disk := h.disk.makeDirectory (.ofName h.directory file) })
    return .nothing
  | .loadSettings => return .settings (← onHost Settings.load)
  | .connect region => do
    let _ ← onHost (Client.connect region)
    return .nothing

end Scripted

namespace Session

/-- The session in which everything written and noted has been read. -/
def readOut (s : Session) : Session :=
  { s with host := { s.host with
      streams := s.host.streams.map fun e => (e.1, { e.2 with fresh := "" })
      stdout := "", stderr := "", notes := [], swallowed := [], connections := [] } }

/-- **A step is taken**: what remains of it, and the session afterwards. -/
def take (s : Session) (step : Step) : Trace × Session :=
  let (answer, s) := (Scripted.step step).run s
  let trace := {
    answer
    streams := (s.host.streams.filter fun e => !e.2.closed && e.2.fresh ≠ "").map
      fun e => (e.1, e.2.fresh)
    stdout := s.host.stdout
    stderr := s.host.stderr
    notes := s.host.notes
    swallowed := s.host.swallowed
    connections := s.host.connections }
  (trace, s.readOut)

/-- **The traces of the steps of a script**, one after the other. -/
def run : Session → List Step → List Trace
  | _, [] => []
  | s, step :: steps =>
    let (trace, s) := s.take step
    trace :: run s steps

end Session

end DiscreetLog
