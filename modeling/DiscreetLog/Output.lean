import DiscreetLog.Host

/-!
# Writing

A writer passes what it is given to each of its endpoints in order, and stops at the first one
that is closed; what went to the endpoints before it stays there. A file takes what is written
at once but shows it on the disk only when it is flushed or closed, and fails then if there is no
room for it. The standard streams belong to the program: they can be closed like any other endpoint,
but closing a writer leaves them open.
-/

namespace DiscreetLog

namespace Endpoint

/-- The stream in memory of a name, which is there as soon as it is asked for. -/
def streamOf (h : Host) (name : String) : MemoryStream :=
  (h.streams.lookup name).getD ⟨"", false⟩

/-- **A text is written** to an endpoint. -/
def write (text : String) : Endpoint → Action Unit
  | .memory name => do
    let s := streamOf (← get) name
    if s.closed then throw .closedStream
    else Action.update fun h =>
      { h with streams := Ordered.assign name { s with fresh := s.fresh ++ text } h.streams }
  | .stdout => do
    if (← get).stdoutClosed then throw .closedFile
    else Action.update fun h => { h with stdout := h.stdout ++ text }
  | .stderr => do
    if (← get).stderrClosed then throw .closedFile
    else Action.update fun h => { h with stderr := h.stderr ++ text }
  | .file n => do
    match (← get).files[n]? with
    | some f =>
      if f.closed then throw .closedFile
      else Action.update fun h =>
        { h with files := h.files.set n { f with pending := f.pending ++ text } }
    | none => throw .closedFile

/-- What a file holds back reaches the disk, if there is room for it. -/
def settle (n : Nat) (f : LogFile) (closed : Bool) (h : Host) : Host :=
  { h with
    files := h.files.set n { f with pending := "", closed := closed }
    disk := if f.pending.isEmpty || h.disk.full f.path then h.disk
      else h.disk.append f.path f.pending }

/-- **An endpoint is flushed.** A file goes on holding back what there is no room for. -/
def flush : Endpoint → Action Unit
  | .memory _ => pure ()
  | .stdout => do if (← get).stdoutClosed then throw .closedFile
  | .stderr => do if (← get).stderrClosed then throw .closedFile
  | .file n => do
    match (← get).files[n]? with
    | some f =>
      if f.closed then throw .closedFile
      else if f.isStuck (← get).disk then throw .noRoom
      else Action.update (settle n f false)
    | none => throw .closedFile

/-- **An endpoint is shut**, whichever it is. A file is closed even if there is no room for what it
holds back, which is lost then. Shutting an endpoint again does nothing. -/
def shut : Endpoint → Action Unit
  | .memory name =>
    Action.update fun h =>
      { h with streams := Ordered.assign name ⟨"", true⟩ h.streams }
  | .stdout => Action.update fun h => { h with stdoutClosed := true }
  | .stderr => Action.update fun h => { h with stderrClosed := true }
  | .file n => do
    match (← get).files[n]? with
    | some f =>
      if f.closed then pure ()
      else do
        let stuck := f.isStuck (← get).disk
        Action.update (settle n f true)
        if stuck then throw .noRoom
    | none => pure ()

/-- One of the two streams that the program was started with. -/
def isStandard : Endpoint → Bool
  | .stdout | .stderr => true
  | _ => false

/-- **An endpoint is closed**, unless it is one of the standard streams. -/
def close (e : Endpoint) : Action Unit := if e.isStandard then pure () else e.shut

end Endpoint

namespace Writer

/-- **A text is written** to all endpoints of a writer. -/
def write (w : Writer) (text : String) : Action Unit := w.forM (·.write text)

/-- All endpoints are flushed. -/
def flush (w : Writer) : Action Unit := w.forM (·.flush)

/-- All endpoints are closed. -/
def close (w : Writer) : Action Unit := w.forM (·.close)

/-- **A line is written** and reaches its readers at once. -/
def writeLine (w : Writer) (line : String) : Action Unit := do
  w.write (line ++ "\n")
  w.flush

/-- **A file is opened for appending.** It is there from then on, if it was not there before. -/
def openFile (path : FilePath) : Action Endpoint := do
  let h ← get
  let written := path.text h.directory
  if written.toList.contains '\x00' then throw .badPath
  match h.disk.faultOf? path with
  | some fault => throw (.outputUnopened written fault)
  | none => do
    Action.update fun h =>
      { h with files := h.files ++ [⟨path, "", false⟩], disk := h.disk.touch path }
    return .file h.files.length

/-- **The writer of an output file and the standard output**, as far as they are asked for; the
file comes first. -/
def ofOutputs (outputFile : String) (toStdout : Bool) : Action (Option Writer) := do
  let standard := if toStdout then [Endpoint.stdout] else []
  if outputFile = "" then return if toStdout then some standard else none
  else
    let file ← openFile (.ofName (← get).directory outputFile)
    return some (file :: standard)

/-- A writer that may be missing is closed. -/
def closeIfAny : Option Writer → Action Unit
  | some w => close w
  | none => pure ()

end Writer

end DiscreetLog
