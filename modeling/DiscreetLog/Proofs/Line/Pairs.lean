import DiscreetLog.Line
import DiscreetLog.Proofs.Json.Quoted
import DiscreetLog.Proofs.Results
import DiscreetLog.Proofs.Text.Parts

/-!
# How the pairs of a line are read

A line in the flat form is read from the front. A key ends at the first equals sign. A value that
begins with a quote goes up to the quote that ends it, and is what the quoted text says; any other
value goes up to the next blank, and is what stands there.

Values are quoted wherever this reader could not tell what they say, so that a value is always read
back (`readToken?_withQuotes`). Keys are written as they are. A line is read back as its pairs if
and only if no key has an equals sign, or another character that the reader does not take in keys
(`pairsOf?_eq_some_iff`); and it goes over more than one line exactly if a key does
(`newline_mem_ofPairs`).
-/

namespace DiscreetLog.Line

/-! ## Values -/

/-- **A value is read** as it is displayed. -/
def readToken? : List Char → Option (List Char × List Char)
  | '"' :: s => Json.readQuoted? s
  | s => some (s.takeWhile (· ≠ ' '), s.dropWhile (· ≠ ' '))

/-- A display that stands without quotes has characters, none of them awkward. -/
theorem not_isAwkward {said : String} (h : needsQuotes said = false) :
    said.toList ≠ [] ∧ ∀ c ∈ said.toList, isAwkward c = false := by
  rw [needsQuotes, Bool.or_eq_false_iff] at h
  refine ⟨fun hnil => ?_, fun c hc => ?_⟩
  · rw [String.toList_eq_nil_iff] at hnil
    rw [hnil] at h
    exact absurd h.1 (by decide)
  · exact Bool.eq_false_iff.mpr (List.any_eq_false.mp h.2 c hc)

/-- **A value is read back**, in front of a blank or at the end. -/
theorem readToken?_withQuotes (said : String) {rest : List Char}
    (hrest : Text.Stops (fun c => decide (c ≠ ' ')) rest) :
    readToken? ((withQuotes said).toList ++ rest) = some (said.toList, rest) := by
  rw [withQuotes]
  cases hq : needsQuotes said with
  | true =>
    rw [if_pos rfl, Json.quoted, String.toList_ofList, Json.quotedChars_append, readToken?,
      Json.readQuoted?_eq]
  | false =>
    obtain ⟨hne, hplain⟩ := not_isAwkward hq
    have hspace : ∀ c ∈ said.toList, decide (c ≠ ' ') = true := by
      intro c hc
      rw [decide_eq_true_eq]
      rintro rfl
      exact absurd (hplain _ hc) (by decide)
    have hquote : ∀ s, said.toList ++ rest ≠ '"' :: s := by
      obtain ⟨c, s, hs⟩ := List.exists_cons_of_ne_nil hne
      rintro t ht
      rw [hs, List.cons_append, List.cons.injEq] at ht
      rw [hs, ht.1] at hplain
      exact absurd (hplain _ List.mem_cons_self) (by decide)
    rw [if_neg (by decide), readToken?]
    · rw [Text.takeWhile_append hspace hrest, Text.dropWhile_append hspace hrest]
    · exact hquote

/-- A value stands on one line. -/
theorem newline_not_mem_withQuotes (said : String) : '\n' ∉ (withQuotes said).toList := by
  rw [withQuotes]
  cases hq : needsQuotes said with
  | true =>
    rw [if_pos rfl, Json.quoted, String.toList_ofList]
    exact Json.newline_not_mem_quotedChars _ _
  | false =>
    rw [if_neg (by decide)]
    exact fun h => absurd ((not_isAwkward hq).2 _ h) (by decide)

/-! ## Pairs -/

/-- A key with a displayed value. -/
def pairText (p : String × String) : String := p.1 ++ "=" ++ withQuotes p.2

/-- **A line of keys with displayed values.** -/
def ofPairs (pairs : List (String × String)) : String := " ".intercalate (pairs.map pairText)

variable {inKey : Char → Bool}

/-- **A pair is read.** In its key the reader takes only some characters. -/
def readPair? (inKey : Char → Bool) (s : List Char) : Option ((String × String) × List Char) := do
  let key := s.takeWhile (· ≠ '=')
  let (said, rest) ← readToken? (s.dropWhile (· ≠ '=')).tail
  if key.all inKey then some ((String.ofList key, String.ofList said), rest) else none

/-- Pairs are read, one or more. -/
def readPairs? (inKey : Char → Bool) : Nat → List Char → Option (List (String × String))
  | 0, _ => none
  | steps + 1, s => do
    let (p, rest) ← readPair? inKey s
    match rest with
    | [] => some [p]
    | ' ' :: rest => (readPairs? inKey steps rest).map (p :: ·)
    | _ => none

/-- **The pairs of a line.** -/
def pairsOf? (inKey : Char → Bool) (line : String) : Option (List (String × String)) :=
  if line = "" then some [] else readPairs? inKey line.toList.length line.toList

/-- The reader takes a key: it has no equals sign, and only characters that may be in keys. -/
def IsKey (inKey : Char → Bool) (key : String) : Prop :=
  ∀ c ∈ key.toList, c ≠ '=' ∧ inKey c = true

theorem toList_pairText (p : String × String) :
    (pairText p).toList = p.1.toList ++ '=' :: (withQuotes p.2).toList := by
  rw [pairText, String.toList_append, String.toList_append, List.append_assoc]
  rfl

/-- **A pair is read back.** -/
theorem readPair?_eq {p : String × String} (hp : IsKey inKey p.1) {rest : List Char}
    (hrest : Text.Stops (fun c => decide (c ≠ ' ')) rest) :
    readPair? inKey ((pairText p).toList ++ rest) = some (p, rest) := by
  have hkey : ∀ c ∈ p.1.toList, decide (c ≠ '=') = true :=
    fun c hc => decide_eq_true (hp c hc).1
  have hall : p.1.toList.all inKey = true := List.all_eq_true.mpr fun c hc => (hp c hc).2
  have hstop : Text.Stops (fun c => decide (c ≠ '=')) ('=' :: ((withQuotes p.2).toList ++ rest)) :=
    Text.stops_cons (by decide) _
  rw [toList_pairText, List.append_assoc, List.cons_append, readPair?,
    Text.takeWhile_append hkey hstop, Text.dropWhile_append hkey hstop, List.tail_cons,
    readToken?_withQuotes p.2 hrest]
  dsimp only [Option.bind_eq_bind, Option.bind_some]
  rw [if_pos hall, String.ofList_toList, String.ofList_toList]

/-- What is read as the key of a pair is one that the reader takes. -/
theorem isKey_of_readPair? {s rest : List Char} {p : String × String}
    (h : readPair? inKey s = some (p, rest)) : IsKey inKey p.1 := by
  obtain ⟨⟨said, rest'⟩, -, h⟩ := Option.bind_eq_some_iff.mp h
  dsimp only at h
  split at h
  · rename_i hall
    cases h
    rw [IsKey, String.toList_ofList]
    exact fun c hc => ⟨of_decide_eq_true (List.all_eq_true.mp List.all_takeWhile c hc),
      List.all_eq_true.mp hall c hc⟩
  · cases h

/-- The further pairs of a line, with the blanks in front of them. -/
def further (pairs : List (String × String)) : List Char :=
  pairs.flatMap fun p => ' ' :: (pairText p).toList

theorem toList_ofPairs (p : String × String) (pairs : List (String × String)) :
    (ofPairs (p :: pairs)).toList = (pairText p).toList ++ further pairs := by
  rw [ofPairs, List.map_cons, Text.toList_intercalate_cons, List.flatMap_map]
  rfl

theorem stops_further (pairs : List (String × String)) :
    Text.Stops (fun c => decide (c ≠ ' ')) (further pairs) := by
  cases pairs with
  | nil => exact Text.stops_nil
  | cons p pairs => exact Text.stops_cons (by decide) _

/-- The first key that is read of a line is one that the reader takes. -/
theorem isKey_of_readPairs? {steps : Nat} {s : List Char} {p : String × String}
    {pairs : List (String × String)} (h : readPairs? inKey steps s = some (p :: pairs)) :
    IsKey inKey p.1 := by
  cases steps with
  | zero => cases h
  | succ steps =>
    obtain ⟨⟨q, rest⟩, hq, h⟩ := Option.bind_eq_some_iff.mp h
    have hkey := isKey_of_readPair? hq
    dsimp only at h
    split at h
    · cases h
      exact hkey
    · obtain ⟨_, -, h⟩ := Option.map_eq_some_iff.mp h
      cases h
      exact hkey
    · cases h

/-- **Pairs are read back exactly if the reader takes all their keys.** -/
theorem readPairs?_eq_some_iff {p : String × String} {pairs : List (String × String)} {steps : Nat}
    (hsteps : pairs.length < steps) :
    readPairs? inKey steps ((pairText p).toList ++ further pairs) = some (p :: pairs)
      ↔ ∀ q ∈ p :: pairs, IsKey inKey q.1 := by
  obtain ⟨steps, rfl⟩ : ∃ n, steps = n + 1 := ⟨steps - 1, by omega⟩
  induction pairs generalizing p steps with
  | nil =>
    rw [List.forall_mem_singleton]
    refine ⟨isKey_of_readPairs?, fun hp => ?_⟩
    rw [readPairs?, readPair?_eq hp (stops_further [])]
    rfl
  | cons q pairs ih =>
    obtain ⟨steps, rfl⟩ : ∃ n, steps = n + 1 := ⟨steps - 1, by simp at hsteps; omega⟩
    rw [List.forall_mem_cons, ← ih steps (by simp at hsteps; omega)]
    -- the first pair is read back as soon as its key is one that the reader takes
    have hnext (hp : IsKey inKey p.1) :
        readPairs? inKey (steps + 1 + 1) ((pairText p).toList ++ further (q :: pairs))
          = (readPairs? inKey (steps + 1) ((pairText q).toList ++ further pairs)).map (p :: ·) := by
      rw [readPairs?, readPair?_eq hp (stops_further (q :: pairs))]
      rfl
    constructor
    · intro h
      have hp := isKey_of_readPairs? h
      rw [hnext hp] at h
      obtain ⟨read, hread, he⟩ := Option.map_eq_some_iff.mp h
      cases he
      exact ⟨hp, hread⟩
    · rintro ⟨hp, hrest⟩
      rw [hnext hp, hrest]
      rfl

/-- **A line is read back as its pairs exactly if the reader takes all the keys.** -/
theorem pairsOf?_eq_some_iff (pairs : List (String × String)) :
    pairsOf? inKey (ofPairs pairs) = some pairs ↔ ∀ p ∈ pairs, IsKey inKey p.1 := by
  cases pairs with
  | nil => exact iff_of_true rfl nofun
  | cons p pairs =>
    have hcount : pairs.length ≤ (further pairs).length :=
      Text.length_le_flatMap (fun _ => List.cons_ne_nil _ _) pairs
    have hlength := congrArg List.length (toList_ofPairs p pairs)
    rw [toList_pairText, List.length_append, List.length_append, List.length_cons] at hlength
    have hne : ofPairs (p :: pairs) ≠ "" := by
      intro h
      rw [h, String.toList_empty, List.length_nil] at hlength
      omega
    have hsteps : pairs.length < (ofPairs (p :: pairs)).toList.length := by omega
    rw [pairsOf?, if_neg hne, ← readPairs?_eq_some_iff hsteps, ← toList_ofPairs]

/-- **A line goes over more than one line exactly if a key does.** -/
theorem newline_mem_ofPairs (pairs : List (String × String)) :
    '\n' ∈ (ofPairs pairs).toList ↔ ∃ p ∈ pairs, '\n' ∈ p.1.toList := by
  have hpair (p : String × String) : '\n' ∈ (pairText p).toList ↔ '\n' ∈ p.1.toList := by
    rw [toList_pairText, List.mem_append, List.mem_cons]
    have := newline_not_mem_withQuotes p.2
    simp [this]
  cases pairs with
  | nil => exact iff_of_false (by decide) nofun
  | cons p pairs =>
    rw [toList_ofPairs, List.mem_append, hpair, List.exists_mem_cons_iff, further, List.mem_flatMap]
    simp only [List.mem_cons, hpair, show ('\n' = ' ') = False from by decide, false_or]

end DiscreetLog.Line
