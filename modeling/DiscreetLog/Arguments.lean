import DiscreetLog.Failure
import DiscreetLog.Ordered
import DiscreetLog.Value

/-!
# The arguments of a log call

After the message a log call takes attributes in any mixture of three forms: an attribute as it
is, a text followed by the value that it is the key of, and named arguments, which come last.
What fits no form – a text at the end with nothing behind it, or a value where a key is
expected – is not lost, but kept under `badKey`.
-/

namespace DiscreetLog

/-- **The key of a value that came without one.** -/
def badKey : String := "!BADKEY"

namespace Attr

/-- **The attributes that positional arguments make**, read from the front. A text takes what
follows it, whatever that is, an attribute included. -/
def ofPositional : List Value → List Attr
  | [] => []
  | .node _ (.attr key value) :: rest => ⟨key, value⟩ :: ofPositional rest
  | .atom _ (.text key) :: value :: rest => ⟨key, value⟩ :: ofPositional rest
  | value :: rest => ⟨badKey, value⟩ :: ofPositional rest

/-- **The attributes of a log call**: those of the positional arguments, then the named ones. -/
def ofArguments (positional : List Value) (named : List (String × Value)) : List Attr :=
  ofPositional positional ++ (Ordered.ofPairs named).map fun p => ⟨p.1, p.2⟩

/-- **A group made of arguments**, as an attribute. The key of the group is an argument itself,
and no other one may have its name. -/
def group (key : String) (positional : List Value) (named : List (String × Value)) :
    Except Failure Attr :=
  if named.any (·.1 = "key") then .error (.argumentRepeated "group" "key")
  else .ok ⟨key, .ofGroup (ofArguments positional named)⟩

end Attr

end DiscreetLog
