import DiscreetLog.Line
import DiscreetLog.Output

/-!
# Delivery

What happens to an event at the end of a chain, and on its way there. A sink that lays events
out does so before it begins to write, counts as writing until it is done, and may fail in
either part. A fan-out tries every branch that takes the level; one failure among them is passed
on as it is, several become one.

Some sinks log while they handle an event, through a bridge that may lead back to the chain they
stand in. A bridge therefore takes nothing while a record is on its way through it, and nothing
while a sink is writing. So each bridge is entered at most once at a time, and the number of
bridges bounds how deep they can be nested: `emitWith` recurses on it.

What the sinks do with an event is a parameter of all that, since a caller may bring sinks of its
own; the library's are `Sinks.own`.
-/

namespace DiscreetLog

namespace Client

/-- **A call is made on a client of the host**, and fails as its outcome says. -/
def callOn (n : Nat) (call : Call) : Action Unit := do
  match (← get).clients[n]? with
  | none => throw .noCredentials
  | some c =>
    let (outcome, c) := c.call call
    Action.update fun h => { h with clients := h.clients.set n c }
    match outcome.failure? call.operation with
    | some failure => throw failure
    | none => pure ()

end Client

namespace Shipping

/-- **An event is sent** as one line. What the client says about the call is reported as a
failure of the sink. -/
def send (t : Shipping) (timestamp : Int) (line : String) : Action Unit :=
  tryCatch (Client.callOn t.client (.putEvent t.group t.stream timestamp line)) fun
    | .callRefused _ refusal => throw (.eventRefused refusal)
    | .noCredentials => throw .credentialsMissing
    | failure => throw failure

/-- The code of a refusal that only says that the resource is there already. -/
def alreadyThere : String := "ResourceAlreadyExistsException"

/-- **A resource is created**, unless it is there already. -/
def create (t : Shipping) (resource : Resource) (call : Call) : Action Unit :=
  tryCatch
    (do
      Client.callOn t.client call
      Action.note .info ("Created CloudWatch resource: " ++ resource.shown))
    fun
    | .callRefused _ refusal =>
      if refusal.code = some alreadyThere then pure ()
      else throw (.resourceRefused resource refusal)
    | .noCredentials => throw .credentialsMissing
    | failure => throw failure

/-- **The group and the stream of a sink are created**, the group first. -/
def ensure (t : Shipping) : Action Unit := do
  t.create ⟨t.group, none⟩ (.createGroup t.group)
  t.create ⟨t.group, some t.stream⟩ (.createStream t.group t.stream)

end Shipping

/-- **A record that a sink logs about its own work.** -/
def Foreign.chat (logger : String) : Foreign where
  logger := .text logger
  number := .int Rank.info.number
  site := ⟨.text "mod.py", .int 1, .text "fn"⟩
  message := .text "chat"
  args := .node none (.tuple none [])
  created := .atom none (.float (.ofFraction 1714557600 1))
  extras := []
  mention := .nothing

/-- **How a record is put on a bridge**, which goes by its number. -/
abbrev Put := Nat → Foreign → Action Unit

namespace Sink

/-- A sink counts as writing while it writes. -/
def whileWriting (x : Action Unit) : Action Unit := do
  Action.update fun h => { h with writing := h.writing + 1 }
  Action.ensuring x fun h => { h with writing := h.writing - 1 }

/-- **What a sink does with an event**, given how a record is put on the bridge of a name. -/
def deliver (talk : String → Foreign → Action Unit) (e : Event) : Sink → Action Unit
  | .structured scope w => do
    let payload := Payload.ofEvent scope e
    whileWriting do
      w.writeLine (← Action.ofExcept (payload.structuredLine (← get).objects))
  | .flat scope w => do
    let payload := Payload.ofEvent scope e
    whileWriting do
      w.writeLine (← Action.ofExcept (payload.flatLine (← get).objects))
  | .shipping scope t => do
    let payload := Payload.ofEvent scope e
    whileWriting do
      let timestamp ← Action.ofExcept e.time.millis
      t.send timestamp (← Action.ofExcept (payload.structuredLine (← get).objects))
  | .announcing _ stream bridge logger =>
    whileWriting do
      talk bridge (.chat logger)
      let seen := if 0 < (← get).writing then "True" else "False"
      Endpoint.write (e.message ++ " emitting=" ++ seen ++ "\n") (.memory stream)
  | .keeping k => do
    match k.conduct with
    | .failing kind text => throw (.raised kind text)
    | .quiet => keep k
    | .chatty bridge logger => do
      talk bridge (.chat logger)
      keep k
where
  /-- The event is kept in the sink's store. -/
  keep (k : Keeper) : Action Unit :=
    Action.update fun h =>
      { h with stores := h.stores.modify k.store (· ++ [⟨e, k.bound, k.groups⟩]) }

end Sink

namespace Chain

/-- What a fan-out reports of the failures of its branches. -/
def report : List Failure → Action Unit
  | [] => pure ()
  | [failure] => throw failure
  | failures => throw (.several failures)

mutual

/-- **An event goes down a chain**, given what the sinks do with it. -/
def handle (deliver : Event → Sink → Action Unit) (e : Event) : Chain → Action Unit
  | .sink s => deliver e s
  | .masking p inner => do
    let masked ← Action.ofNoted (p.apply (← get).objects e)
    handle deliver masked inner
  | .fanOut branches => do report (← handleAll deliver e branches)

/-- An event goes down those of some chains that take its level, in order; the failures are
collected. -/
def handleAll (deliver : Event → Sink → Action Unit) (e : Event) :
    List Chain → Action (List Failure)
  | [] => pure []
  | c :: cs => do
    let failures ←
      if enabled e.level.number c then
        tryCatch (do handle deliver e c; pure []) fun failure => pure [failure]
      else pure []
    return failures ++ (← handleAll deliver e cs)

end

end Chain

namespace Bridge

/-- A bridge of the host notes whether a record is on its way through it. -/
def mark (n : Nat) (emitting : Bool) (h : Host) : Host :=
  { h with bridges := h.bridges.modify n fun b => { b with emitting } }

/-- **A bridge takes a record**: the logger is not excluded, no sink is writing, and no other
record is on its way through the bridge. -/
def takes (h : Host) (b : Bridge) (r : Foreign) : Except Failure Bool := do
  return !(← Foreign.excludes h.objects r.logger) && h.writing = 0 && !b.emitting

/-- The bridge of a name, among those that go by one. -/
def named (published : List (String × Nat)) (name : String) : Except Failure Nat :=
  match published.lookup name with
  | none => throw (.unknownName name)
  | some n => return n

/-- A record is put on the bridge of a name, given how one is put on a bridge. -/
def talkVia (put : Put) (name : String) (r : Foreign) : Action Unit := do
  put (← Action.ofExcept (named (← get).published name)) r

end Bridge

/-- **What sinks do with an event**, given how a record is put on a bridge. -/
abbrev Sinks := Put → Event → Sink → Action Unit

/-- **What the library's sinks do**: they know bridges by their names. -/
def Sinks.own : Sinks := fun put => Sink.deliver (Bridge.talkVia put)

namespace Bridge

/-- A bridge hands a record on: the event that the record makes goes down the target, if the target
takes its level. -/
def handOn (deliver : Event → Sink → Action Unit) (b : Bridge) (r : Foreign) : Action Unit := do
  let e ← Action.ofExcept (r.toEvent (← get).objects)
  if b.target.enabled e.level.number then b.target.handle deliver e

/-- **A bridge passes a record on** that it has taken, given what the sinks do with an event. A
failure stays with the bridge. -/
def pass (deliver : Event → Sink → Action Unit) (n : Nat) (b : Bridge) (r : Foreign) :
    Action Unit := do
  Action.update (mark n true)
  Action.ensuring
    (tryCatch (handOn deliver b r) fun failure =>
      Action.update fun h => { h with swallowed := h.swallowed ++ [failure] })
    (mark n false)

/-- **A record is put on a bridge**, not more than the given number of bridges being free. -/
def emitWith (sinks : Sinks) : Nat → Put
  | free, n, r => do
    let h ← get
    match h.bridges[n]? with
    | none => pure ()
    | some b =>
      if ← Action.ofExcept (takes h b r) then
        match free with
        | 0 => pure ()
        | free + 1 => pass (sinks (emitWith sinks free)) n b r

/-- **A record is put on a bridge of the host**, given what the sinks do. -/
def emitTo (sinks : Sinks) (n : Nat) (r : Foreign) : Action Unit := do
  emitWith sinks (← get).bridges.length n r

/-- **A record is put on a bridge of the host.** -/
def emit : Put := emitTo .own

end Bridge

/-- **An event is handled by a chain** of the host. -/
def Chain.accept (c : Chain) (e : Event) : Action Unit :=
  c.handle (Sink.deliver (Bridge.talkVia Bridge.emit)) e

end DiscreetLog
