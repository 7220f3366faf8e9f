/-!
# Looking inside a text

Whether one text occurs in another, the replacement of every occurrence, and the parts between
separators. All three read a text from the front, one character at a time.
-/

namespace DiscreetLog.Text

/-- `part` stands somewhere in the sequence. -/
def occursIn (part : List Char) : List Char → Bool
  | [] => part.isEmpty
  | c :: s => part.isPrefixOf (c :: s) || occursIn part s

/-- **Occurring is being an infix.** -/
theorem occursIn_iff {part s : List Char} : occursIn part s = true ↔ part <:+: s := by
  induction s with
  | nil => simp [occursIn]
  | cons c s ih => simp [occursIn, ih, List.infix_cons_iff]

/-- **The text contains the other one.** -/
def contains (s part : String) : Bool := occursIn part.toList s.toList

/-- Every occurrence of a non-empty `part` replaced, the first `skip` characters being passed
over because an occurrence has just been replaced there. -/
def replaceAfter (part new : List Char) : Nat → List Char → List Char
  | _, [] => []
  | skip + 1, _ :: s => replaceAfter part new skip s
  | 0, c :: s =>
    if part.isPrefixOf (c :: s) then new ++ replaceAfter part new (part.length - 1) s
    else c :: replaceAfter part new 0 s

/-- **Every occurrence of `part` replaced by `new`**, from the front and without overlap. The
empty text occurs before every character and at the end. -/
def replaceAll (part new s : String) : String :=
  if part.isEmpty then
    String.ofList (s.toList.foldr (fun c rest => new.toList ++ c :: rest) new.toList)
  else String.ofList (replaceAfter part.toList new.toList 0 s.toList)

/-- The parts of a sequence between the separators, in order. There is one part more than
there are separators. -/
def partsAt (separator : Char) : List Char → List (List Char)
  | [] => [[]]
  | c :: s =>
    if c = separator then [] :: partsAt separator s
    else match partsAt separator s with
      | [] => [[c]]
      | part :: parts => (c :: part) :: parts

/-- **The parts of a text between the separators.** -/
def splitAt (separator : Char) (s : String) : List String :=
  (partsAt separator s.toList).map String.ofList

end DiscreetLog.Text
