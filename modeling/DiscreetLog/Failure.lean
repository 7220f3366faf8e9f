import DiscreetLog.Text.Clip
import DiscreetLog.Text.Quoted

/-!
# What can go wrong

Every failure is a constructor here, named for its cause and holding what its message shows.
`Failure.kind` is the class that a failure is reported under, `Failure.message` its wording,
and `Failure.cause` the failure it was raised from, when it was raised from one.

A failure that a sink or a client of the caller's own making raises is `raised`: the library
passes it on and knows only its class and its text.
-/

namespace DiscreetLog

/-- **The calls that a log client offers.** -/
inductive Operation where
  | createGroup
  | createStream
  | putEvents
  deriving DecidableEq

/-- The name under which the log service knows the operation. -/
def Operation.name : Operation → String
  | .createGroup => "CreateLogGroup"
  | .createStream => "CreateLogStream"
  | .putEvents => "PutLogEvents"

/-- **What the log service said** when it refused a call: a code and a text, either of which
may be missing. -/
structure Refusal where
  code : Option String
  text : Option String
  deriving DecidableEq

/-- The wording of a refused call. -/
def Refusal.message (r : Refusal) (op : Operation) : String :=
  "An error occurred (" ++ r.code.getD "Unknown" ++ ") when calling the " ++ op.name
    ++ " operation: " ++ r.text.getD "Unknown"

/-- **A resource of the log service**: a group, or a stream in a group. -/
structure Resource where
  group : String
  stream : Option String
  deriving DecidableEq

/-- The call that creates a resource. -/
def Resource.creation (r : Resource) : Operation :=
  if r.stream.isSome then .createStream else .createGroup

/-- A resource as messages show it. -/
def Resource.shown (r : Resource) : String :=
  "\x7b'logGroupName': " ++ Text.literal r.group
    ++ (match r.stream with
      | some stream => ", 'logStreamName': " ++ Text.literal stream
      | none => "")
    ++ "\x7d"

/-- **Why a file cannot be opened.** -/
inductive OpenFault where
  | missing
  | directory
  | notDirectory
  | nameTooLong
  deriving DecidableEq

namespace OpenFault

/-- The number of the fault. -/
def number : OpenFault → Nat
  | missing => 2
  | directory => 21
  | notDirectory => 20
  | nameTooLong => 36

/-- The text of the fault. -/
def text : OpenFault → String
  | missing => "No such file or directory"
  | directory => "Is a directory"
  | notDirectory => "Not a directory"
  | nameTooLong => "File name too long"

/-- The class that the fault is reported under. -/
def kind : OpenFault → String
  | missing => "FileNotFoundError"
  | directory => "IsADirectoryError"
  | notDirectory => "NotADirectoryError"
  | nameTooLong => "OSError"

end OpenFault

/-- **Why a message template and its arguments do not fit.** -/
inductive TemplateFault where
  /-- A directive finds no argument. -/
  | tooFew
  /-- An argument finds no directive. -/
  | tooMany
  /-- The text ends inside a directive. -/
  | incomplete
  /-- The text ends inside the name of an argument. -/
  | incompleteName
  /-- The directive letter, at its position, is not one. -/
  | unsupported (letter : Char) (position : Nat)
  /-- A directive names its argument, and the arguments have no names. -/
  | unnamed
  /-- A directive names an argument that is not there. -/
  | absent (name : String)
  /-- An argument is asked for by name, and the arguments are a sequence, of bytes or not. -/
  | numbered (bytes : Bool)
  /-- A width or precision in the template is too large. -/
  | countTooBig (precision : Bool)
  /-- A width or precision is taken from an argument that is no whole number. -/
  | starNotNumber
  /-- A width or precision is taken from an argument that is too large. -/
  | starTooLarge (precision : Bool)
  /-- More digits are asked for than a number can have. -/
  | tooManyDigits
  /-- No text is as long as the width that is asked for. -/
  | tooLong
  /-- A decimal directive meets an argument of another class. -/
  | notReal (letter : Char) (cls : String)
  /-- A directive for digits of another base meets an argument that is not whole. -/
  | notWhole (letter : Char) (cls : String)
  /-- A fractional directive meets an argument that is no number. -/
  | notFractional (cls : String)
  /-- A fractional directive meets a whole number beyond the largest double. -/
  | beyondDoubles
  /-- A character directive meets something other than a number or a character. -/
  | notCharacter
  /-- A character directive meets a number beyond the last character. -/
  | beyondCharacters
  /-- A number without an end or without a value is to be written in digits. -/
  | notFinite (infinite : Bool)
  deriving DecidableEq

namespace TemplateFault

/-- The class that the fault is reported under. -/
def kind : TemplateFault → String
  | incomplete | incompleteName | unsupported .. | countTooBig _ | notFinite false => "ValueError"
  | absent _ => "KeyError"
  | starTooLarge _ | tooManyDigits | beyondDoubles | beyondCharacters | notFinite true =>
    "OverflowError"
  | tooLong => "MemoryError"
  | _ => "TypeError"

/-- The wording of the fault. -/
def message : TemplateFault → String
  | tooFew => "not enough arguments for format string"
  | tooMany => "not all arguments converted during string formatting"
  | incomplete => "incomplete format"
  | incompleteName => "incomplete format key"
  | unsupported letter position =>
    "unsupported format character '"
      ++ (if 31 ≤ letter.toNat ∧ letter.toNat < 126 then letter else '?').toString
      ++ "' (0x" ++ String.ofList (Nat.toDigits 16 letter.toNat) ++ ") at index "
      ++ toString position
  | unnamed => "format requires a mapping"
  | absent name => Text.literal name
  | numbered bytes =>
    (if bytes then "byte" else "list") ++ " indices must be integers or slices, not str"
  | countTooBig precision => (if precision then "precision" else "width") ++ " too big"
  | starNotNumber => "* wants int"
  | starTooLarge precision =>
    "Python int too large to convert to C " ++ if precision then "int" else "ssize_t"
  | tooManyDigits => "precision too large"
  | tooLong => ""
  | notReal letter cls =>
    "%" ++ letter.toString ++ " format: a real number is required, not " ++ Text.clip 200 cls
  | notWhole letter cls =>
    "%" ++ letter.toString ++ " format: an integer is required, not " ++ Text.clip 200 cls
  | notFractional cls => "must be real number, not " ++ Text.clip 50 cls
  | beyondDoubles => "int too large to convert to float"
  | notCharacter => "%c requires int or char"
  | beyondCharacters => "%c arg not in range(0x110000)"
  | notFinite true => "cannot convert float infinity to integer"
  | notFinite false => "cannot convert float NaN to integer"

end TemplateFault

/-- **What a value of the wrong class is used as.** -/
inductive Misuse where
  /-- It is held against a level. -/
  | rank
  /-- It stands for a whole number. -/
  | count
  /-- It is asked for an item. -/
  | sequence
  /-- It is called. -/
  | function
  deriving DecidableEq

/-- The wording of a misuse of a value of some class. -/
def Misuse.message (cls : String) : Misuse → String
  | rank =>
    "'>=' not supported between instances of '" ++ Text.clip 100 cls ++ "' and 'Level'"
  | count => "'" ++ Text.clip 200 cls ++ "' object cannot be interpreted as an integer"
  | sequence => "'" ++ Text.clip 200 cls ++ "' object is not subscriptable"
  | function => "'" ++ Text.clip 200 cls ++ "' object is not callable"

/-- **A failure.** -/
inductive Failure where
  /-- Logging was set up without a service name. -/
  | noServiceName
  /-- The settings name no output. -/
  | noOutput (outputFile : String) (toStdout : Bool)
  /-- The output file cannot be opened. -/
  | outputUnopened (path : String) (fault : OpenFault)
  /-- A file cannot be opened. -/
  | unopened (path : String) (fault : OpenFault)
  /-- A path holds a character that no path may hold. -/
  | badPath
  /-- There is no room for what is to be written to a file. -/
  | noRoom
  /-- A call on the log client was refused. -/
  | callRefused (op : Operation) (refusal : Refusal)
  /-- The log client found no credentials. -/
  | noCredentials
  /-- A group or stream could not be created. -/
  | resourceRefused (resource : Resource) (refusal : Refusal)
  /-- A log event was not accepted. -/
  | eventRefused (refusal : Refusal)
  /-- The log service could not be used without credentials. -/
  | credentialsMissing
  /-- Several branches of a fan-out failed, in this order. -/
  | several (failures : List Failure)
  /-- A stream in memory is closed. -/
  | closedStream
  /-- A file is closed. -/
  | closedFile
  /-- A mapping cannot be copied. -/
  | copyRefused
  /-- A value cannot be shown as text. -/
  | textRefused
  /-- An object lacks a field that is read. -/
  | noField (owner field : String)
  /-- A value of the wrong class is used. -/
  | misused (use : Misuse) (cls : String)
  /-- Bytes stand where the name of a logger is looked at. -/
  | bytesAsName
  /-- A sequence of some kind lacks an item that is read. -/
  | noItem (sequence : String)
  /-- A mapping lacks the number that is looked up. -/
  | noEntry (number : Nat)
  /-- A failure of the caller's own making. -/
  | raised (kind text : String)
  /-- A message template and its arguments do not fit. -/
  | template (fault : TemplateFault)
  /-- A time is not a number. -/
  | timeNotNumber
  /-- A time does not fit the range of times. -/
  | timeOutOfRange
  /-- A time falls into a year that the calendar does not have. -/
  | yearOutOfRange (year : Int)
  /-- A time is too large to be broken down. -/
  | timeTooLarge
  /-- Nothing goes by this name. -/
  | unknownName (name : String)
  /-- An extra attribute of a foreign record uses a name of the record's own. -/
  | nameTaken (name : String)
  /-- A named argument repeats one that the call has already. -/
  | argumentRepeated (callee argument : String)

namespace Failure

/-- **The class that a failure is reported under.** -/
def kind : Failure → String
  | noServiceName => "EmptyAppNameError"
  | noOutput .. | outputUnopened .. => "InvalidLogOutputConfig"
  | unopened _ fault => fault.kind
  | badPath | closedStream | closedFile | timeNotNumber | yearOutOfRange _ => "ValueError"
  | callRefused .. => "ClientError"
  | noCredentials => "NoCredentialsError"
  | resourceRefused .. | eventRefused _ | credentialsMissing | several _ => "SinkError"
  | copyRefused | textRefused => "RuntimeError"
  | noField .. => "AttributeError"
  | raised kind _ => kind
  | template fault => fault.kind
  | timeOutOfRange => "OverflowError"
  | noRoom | timeTooLarge => "OSError"
  | unknownName _ | nameTaken _ | noEntry _ => "KeyError"
  | noItem _ => "IndexError"
  | argumentRepeated .. | misused .. | bytesAsName => "TypeError"

/-- The wording of a file that cannot be opened. -/
def openMessage (path : String) (fault : OpenFault) : String :=
  "[Errno " ++ toString fault.number ++ "] " ++ fault.text ++ ": " ++ Text.literal path

/-- The wording of a failure that holds no other failures. -/
def ownMessage : Failure → String
  | noServiceName => "appName is empty"
  | noOutput outputFile toStdout =>
    "Invalid log output configuration: should enable stdout, define an output file or a "
      ++ "CloudWatch log group (output file: " ++ Text.literal outputFile ++ ", stdout: "
      ++ (if toStdout then "True" else "False") ++ ")"
  | outputUnopened path fault =>
    "Failed to open output file " ++ path ++ ": " ++ openMessage path fault
  | unopened path fault => openMessage path fault
  | badPath => "embedded null byte"
  | noRoom => "[Errno 28] No space left on device"
  | callRefused op refusal => refusal.message op
  | noCredentials => "Unable to locate credentials"
  | resourceRefused resource refusal =>
    "Failed to create CloudWatch resource " ++ resource.shown ++ ": "
      ++ refusal.message resource.creation
  | eventRefused refusal =>
    "CloudWatch rejected log event (" ++ refusal.code.getD "Unknown" ++ "): "
      ++ refusal.message .putEvents
  | credentialsMissing => "AWS credentials not found"
  | several failures => toString failures.length ++ " handlers failed"
  | closedStream => "I/O operation on closed file"
  | closedFile => "I/O operation on closed file."
  | copyRefused => "copy failed"
  | textRefused => "str failed"
  | noField owner field =>
    "'" ++ Text.clip 50 owner ++ "' object has no attribute '" ++ field ++ "'"
  | misused use cls => use.message cls
  | bytesAsName => "startswith first arg must be bytes or a tuple of bytes, not str"
  | noItem sequence => sequence ++ "index out of range"
  | noEntry number => toString number
  | raised _ text => text
  | template fault => fault.message
  | timeNotNumber => "Invalid value NaN (not a number)"
  | timeOutOfRange => "timestamp out of range for platform time_t"
  | yearOutOfRange year => "year " ++ toString year ++ " is out of range"
  | timeTooLarge => "[Errno 75] Value too large for defined data type"
  | unknownName name => Text.literal name
  | nameTaken name =>
    Text.literal ("Attempt to overwrite " ++ Text.literal name ++ " in LogRecord")
  | argumentRepeated callee argument =>
    callee ++ "() got multiple values for argument '" ++ argument ++ "'"

/-- A failure as the message of another one shows it, given its own wording: its class, and the
wording as a literal. A name that is not found is a literal already, and a fault with a number
shows the number. -/
def shownAs (message : String) : Failure → String
  | unopened _ fault =>
    fault.kind ++ "(" ++ toString fault.number ++ ", " ++ Text.literal fault.text ++ ")"
  | noRoom => "OSError(28, 'No space left on device')"
  | timeTooLarge => "OSError(75, 'Value too large for defined data type')"
  | f =>
    if f.kind = "KeyError" then "KeyError(" ++ message ++ ")"
    else f.kind ++ "(" ++ Text.literal message ++ ")"

mutual

/-- **The wording of a failure.** Several failures are shown one after the other. -/
def message : Failure → String
  | several failures =>
    (several failures).ownMessage ++ ": [" ++ ", ".intercalate (shownAll failures) ++ "]"
  | f => f.ownMessage

/-- Failures as the message of another one shows them. -/
def shownAll : List Failure → List String
  | [] => []
  | f :: fs => f.shownAs f.message :: shownAll fs

end

/-- **The failure that a failure was raised from.** -/
def cause : Failure → Option Failure
  | outputUnopened path fault => some (.unopened path fault)
  | resourceRefused resource refusal => some (.callRefused resource.creation refusal)
  | eventRefused refusal => some (.callRefused .putEvents refusal)
  | credentialsMissing => some .noCredentials
  | several failures => failures.head?
  | _ => none

end Failure

end DiscreetLog
