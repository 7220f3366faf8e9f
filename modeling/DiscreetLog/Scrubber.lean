import DiscreetLog.Noted
import DiscreetLog.Text.Search

/-!
# Scrubbing messages

Masking looks at keys, and the message of an event has none. A scrubber looks at the text
itself: detectors find what should not be there and put something else in its place. A detector
may fail; then the message stays as it was, and a note says so.
-/

namespace DiscreetLog

/-- **A detector**: it replaces every occurrence of a text, or it fails. -/
inductive Detector where
  | replacing (part new : String)
  | failing (text : String)
  deriving DecidableEq

/-- **The detectors of a scrubber**, in the order in which they are applied. -/
abbrev Scrubber := List Detector

namespace Scrubber

/-- The text that the detectors make of a text, or what the first failing one says. -/
def clean : Scrubber → String → Except String String
  | [], text => .ok text
  | .replacing part new :: rest, text => clean rest (Text.replaceAll part new text)
  | .failing said :: _, _ => .error said

/-- **A message scrubbed.** It never fails. -/
def scrub (s : Scrubber) (text : String) : Noted String :=
  if text.isEmpty then pure text
  else match s.clean text with
    | .ok cleaned => pure cleaned
    | .error said => do
      .note ⟨.warning, "Scrubadub error (message left as is): " ++ said⟩
      return text

end Scrubber

end DiscreetLog
