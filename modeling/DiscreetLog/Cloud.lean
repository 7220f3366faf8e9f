import DiscreetLog.Failure
import DiscreetLog.Settings

/-!
# The log service

Events can be sent to a log service, into a stream of a group there. The service is reached
through a client that offers three calls. A client answers each call with the next outcome of a
script, and keeps the calls that were made on it.
-/

namespace DiscreetLog

/-- **A call on a log client.** -/
inductive Call where
  | createGroup (group : String)
  | createStream (group stream : String)
  /-- One event: its timestamp in milliseconds and its line. -/
  | putEvent (group stream : String) (timestamp : Int) (line : String)
  deriving DecidableEq

/-- The operation that a call asks for. -/
def Call.operation : Call → Operation
  | .createGroup _ => .createGroup
  | .createStream .. => .createStream
  | .putEvent .. => .putEvents

/-- **How a call ends.** -/
inductive Outcome where
  | success
  | refused (refusal : Refusal)
  | noCredentials
  /-- The client itself fails. -/
  | broken (kind text : String)
  deriving DecidableEq

/-- The failure that an outcome is, if it is one. -/
def Outcome.failure? (op : Operation) : Outcome → Option Failure
  | .success => none
  | .refused refusal => some (.callRefused op refusal)
  | .noCredentials => some .noCredentials
  | .broken kind text => some (.raised kind text)

/-- **A log client**: the outcomes still to come for each operation, and the calls made since
they were last asked for. An operation without outcomes succeeds. -/
structure Client where
  groups : List Outcome
  streams : List Outcome
  events : List Outcome
  calls : List Call

namespace Client

/-- A client on which everything succeeds. -/
def reliable : Client := ⟨[], [], [], []⟩

/-- The outcomes to come for an operation. -/
def script (c : Client) : Operation → List Outcome
  | .createGroup => c.groups
  | .createStream => c.streams
  | .putEvents => c.events

/-- The script of an operation moved on by one outcome. -/
def advance (c : Client) : Operation → Client
  | .createGroup => { c with groups := c.groups.tail }
  | .createStream => { c with streams := c.streams.tail }
  | .putEvents => { c with events := c.events.tail }

/-- **A call is made**: its outcome, and the client afterwards. -/
def call (c : Client) (call : Call) : Outcome × Client :=
  let op := call.operation
  ((c.script op).headD .success, { c.advance op with calls := c.calls ++ [call] })

end Client

/-- **How a client was asked for**: credentials, where there are any, and the region. -/
structure Connection where
  accessKey : Option String
  secretKey : Option String
  region : String
  deriving DecidableEq

/-- **The connection that an environment makes.** A region that is asked for goes before that of
the environment. -/
def Connection.ofEnvironment (env : Environment) (region : Option String) : Connection where
  accessKey := env.lookup "AWS_ACCESS_KEY_ID"
  secretKey := env.lookup "AWS_SECRET_ACCESS_KEY"
  region := match region with
    | none | some "" => (env.lookup "AWS_REGION").getD "us-east-1"
    | some region => region

end DiscreetLog
