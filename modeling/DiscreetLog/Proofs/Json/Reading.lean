import DiscreetLog.Proofs.Json.Quoted
import DiscreetLog.Proofs.Number.Numeral

/-!
# Reading a tree

What is written of a tree is read as the tree. The reader goes over a text from the front: it
passes over the blanks, looks at the next character, and reads a quoted text, the items of an
array, the members of an object, or a word, which is a number or a name. It makes no use of the
style that the tree was written in, beyond a comma between two items and a colon behind a name.

Every step of the reader takes at least one character, so the length of the text bounds how many
steps there are. A word ends where a character stands that no word has; behind a value that is the
end of the text, a comma or a bracket, so no word is read into what follows it.
-/

namespace DiscreetLog.Json

/-! ## The reader -/

/-- A blank between the parts of a tree. -/
def isGap (c : Char) : Bool := c = ' ' || c = '\t' || c = '\n' || c = '\r'

/-- A text without the blanks that it begins with. -/
def skipGaps (s : List Char) : List Char := s.dropWhile isGap

/-- **What stands behind a character**, if the text begins with it behind its blanks. -/
def behind? (c : Char) (s : List Char) : Option (List Char) :=
  match skipGaps s with
  | [] => none
  | d :: s => if d = c then some s else none

/-- The characters of names and numbers. -/
def isWordChar (c : Char) : Bool := c.isAlphanum || c = '+' || c = '-' || c = '.'

/-- **What a word says**: a name, a whole number, or another number. -/
def ofWord? (w : List Char) : Option Json :=
  if w = ['n', 'u', 'l', 'l'] then some .null
  else if w = ['t', 'r', 'u', 'e'] then some (.bool true)
  else if w = ['f', 'a', 'l', 's', 'e'] then some (.bool false)
  else match Binary64.exponentOf? w with
    | some n => some (.int n)
    | none => (Binary64.ofText? (String.ofList w)).map .float

/-- **A word is read**, and what is left behind it. -/
def readWord? (s : List Char) : Option (Json × List Char) :=
  (ofWord? (s.takeWhile isWordChar)).map (·, s.dropWhile isWordChar)

/-- Further things that are read alike, each behind a comma, up to a bracket. -/
def readFurther? {α : Type} (close : Char) (read? : List Char → Option (α × List Char)) :
    Nat → List Char → Option (List α × List Char)
  | 0, _ => none
  | steps + 1, s =>
    match behind? close s with
    | some s => some ([], s)
    | none => do
      let (x, s) ← read? (← behind? ',' s)
      let (xs, s) ← readFurther? close read? steps s
      return (x :: xs, s)

/-- Things that are read alike, with commas between them, up to a bracket. -/
def readAll? {α : Type} (close : Char) (read? : List Char → Option (α × List Char)) (steps : Nat)
    (s : List Char) : Option (List α × List Char) :=
  match behind? close s with
  | some s => some ([], s)
  | none => do
    let (x, s) ← read? s
    let (xs, s) ← readFurther? close read? steps s
    return (x :: xs, s)

/-- A member of an object, given how its value is read. -/
def readMember? (read? : List Char → Option (Json × List Char)) (s : List Char) :
    Option ((String × Json) × List Char) := do
  let (name, s) ← readQuoted? (← behind? '"' s)
  let (value, s) ← read? (← behind? ':' s)
  return ((String.ofList name, value), s)

/-- **A tree is read** in not more than the given number of steps, and what is left behind it. -/
def readTree? : Nat → List Char → Option (Json × List Char)
  | 0, _ => none
  | steps + 1, s =>
    match behind? '"' s, behind? '[' s, behind? '\x7b' s with
    | some s, _, _ => (readQuoted? s).map fun p => (.text (String.ofList p.1), p.2)
    | none, some s, _ =>
      (readAll? ']' (readTree? steps) steps s).map fun p => (.array p.1, p.2)
    | none, none, some s =>
      (readAll? '\x7d' (readMember? (readTree? steps)) steps s).map fun p => (.object p.1, p.2)
    | none, none, none => readWord? (skipGaps s)

/-- **The tree that a text says**, if it says one and nothing more. -/
def ofChars? (s : List Char) : Option Json :=
  match readTree? (s.length + 1) s with
  | some (j, rest) => if skipGaps rest = [] then some j else none
  | none => none

/-! ## Words -/

theorem isWordChar_of_isDigit {c : Char} (h : c.isDigit = true) : isWordChar c = true := by
  simp [isWordChar, Char.isAlphanum, h]

/-- The characters of a numeral are those of a word. -/
theorem isWordChar_of_mem_chars (n : Numeral) : ∀ c ∈ n.chars, isWordChar c = true := by
  intro c hc
  rcases n.isDigit_or_mem_of_mem_chars hc with h | h
  · exact isWordChar_of_isDigit h
  · have hall : ['.', 'e', 'E', '+', '-'].all isWordChar = true := rfl
    exact List.all_eq_true.mp hall c h

/-- **A word**: it is read as the tree, and has at least one character and only those of words. -/
structure IsWord (w : List Char) (j : Json) : Prop where
  ne_nil : w ≠ []
  isWordChar : ∀ c ∈ w, isWordChar c = true
  ofWord? : ofWord? w = some j

/-- **What begins as a number does is no name**: it is a word if it is read as a number. -/
theorem isWord_of_number {negative : Bool} {s : List Char} {j : Json}
    (hs : ∃ c t, s = c :: t ∧ c.isDigit = true) (hall : ∀ c ∈ s, isWordChar c = true)
    (hread : (match Binary64.exponentOf? ((if negative then ['-'] else []) ++ s) with
      | some n => some (.int n)
      | none => (Binary64.ofText?
          (String.ofList ((if negative then ['-'] else []) ++ s))).map .float) = some j) :
    IsWord ((if negative then ['-'] else []) ++ s) j := by
  obtain ⟨c, t, rfl, hc⟩ := hs
  have hne {d : Char} (hd : d.isDigit = false ∧ d ≠ '-') (u : List Char) :
      (if negative then ['-'] else []) ++ c :: t ≠ d :: u := by
    intro h
    cases negative with
    | true => exact hd.2 (List.cons.inj h).1.symm
    | false =>
      obtain ⟨rfl, -⟩ := List.cons.inj h
      rw [hd.1] at hc
      cases hc
  refine ⟨by cases negative <;> nofun, fun d hd => ?_, ?_⟩
  · rcases List.mem_append.mp hd with hd | hd
    · cases negative with
      | true =>
        rw [List.mem_singleton.mp hd]
        rfl
      | false => cases hd
    · exact hall d hd
  · unfold ofWord?
    rw [if_neg (hne (by decide) _), if_neg (hne (by decide) _), if_neg (hne (by decide) _)]
    exact hread

/-- A whole number is written as its sign and its digits. -/
theorem toList_toString (n : Int) :
    (toString n).toList
      = (if decide (n < 0) then ['-'] else []) ++ (Digits.ofNat n.natAbs).chars := by
  cases n with
  | ofNat m =>
    show (Nat.repr m).toList = _
    rw [Nat.repr_eq_ofList_toDigits, String.toList_ofList, if_neg (by simp)]
    rfl
  | negSucc m =>
    show ("-" ++ Nat.repr (m + 1)).toList = _
    rw [Nat.repr_eq_ofList_toDigits, String.toList_append, String.toList_ofList,
      String.toList_ofList, if_pos (by simp [Int.negSucc_lt_zero])]
    rfl

/-- **A whole number is a word.** -/
theorem isWord_int (n : Int) : IsWord (toString n).toList (.int n) := by
  obtain ⟨c, s, hs⟩ := List.exists_cons_of_ne_nil (Digits.ofNat n.natAbs).ne_nil
  have hdigit := (Digits.ofNat n.natAbs).isDigit
  -- a whole number is read as an exponent is
  let e : Exponent := ⟨'e', if decide (n < 0) then ['-'] else [], Digits.ofNat n.natAbs, by decide,
    by split <;> simp⟩
  have hvalue : e.value = n := by
    unfold Exponent.value
    dsimp only [e, Digits.ofNat]
    rw [Nat.ofDigitChars_ten_toDigits]
    by_cases hn : n < 0
    · rw [if_pos (by simp [hn])]
      omega
    · rw [if_neg (by simp [hn])]
      omega
  rw [toList_toString]
  refine isWord_of_number ⟨c, s, hs, hdigit c (by simp [hs])⟩
    (fun d hd => isWordChar_of_isDigit (hdigit d hd)) ?_
  rw [e.exponentOf?_eq, hvalue]

/-- **A double is a word.** -/
theorem isWord_float (x : Binary64) : IsWord (floatChars x) (.float x) := by
  cases x with
  | nan => exact ⟨by decide, List.all_eq_true.mp rfl, rfl⟩
  | infinite negative => cases negative <;> exact ⟨by decide, List.all_eq_true.mp rfl, rfl⟩
  | finite negative m e hc =>
    obtain ⟨n, hn, -, hpoint⟩ := Binary64.exists_numeral hc
    have hread := Binary64.ofText?_floatChars (.finite negative m e hc)
    have hexponent : Binary64.exponentOf? (floatChars (.finite negative m e hc)) = none := by
      unfold Binary64.exponentOf?
      rw [hn, n.signOf_eq]
      dsimp only
      rw [n.natOfDigits?_chars hpoint]
      split <;> rfl
    rw [hn] at hread hexponent ⊢
    refine isWord_of_number n.exists_chars_eq (isWordChar_of_mem_chars n) ?_
    rw [hexponent]
    exact congrArg (Option.map Json.float) hread

theorem isWord_null : IsWord ['n', 'u', 'l', 'l'] .null :=
  ⟨by decide, List.all_eq_true.mp rfl, rfl⟩

theorem isWord_true : IsWord ['t', 'r', 'u', 'e'] (.bool true) :=
  ⟨by decide, List.all_eq_true.mp rfl, rfl⟩

theorem isWord_false : IsWord ['f', 'a', 'l', 's', 'e'] (.bool false) :=
  ⟨by decide, List.all_eq_true.mp rfl, rfl⟩

/-! ## Styles -/

/-- **A style that a reader understands**: a comma and a colon, and nothing but blanks besides. -/
def Style.Readable (style : Style) : Prop :=
  (∃ gaps, style.comma = ',' :: gaps ∧ ∀ c ∈ gaps, isGap c = true)
    ∧ ∃ gaps, style.colon = ':' :: gaps ∧ ∀ c ∈ gaps, isGap c = true

theorem Style.readable_spaced : Style.spaced.Readable :=
  have hgap : ∀ c ∈ [' '], isGap c = true := List.forall_mem_singleton.mpr rfl
  ⟨⟨[' '], rfl, hgap⟩, ⟨[' '], rfl, hgap⟩⟩

section Gaps

variable {lead : List Char} (hlead : ∀ c ∈ lead, isGap c = true)

include hlead in
theorem skipGaps_append {c : Char} (hc : isGap c = false) (s : List Char) :
    skipGaps (lead ++ c :: s) = c :: s := by
  rw [skipGaps, List.dropWhile_append_of_pos hlead, List.dropWhile_cons_of_neg (by simp [hc])]

include hlead in
/-- What stands behind a character that the text begins with. -/
theorem behind?_eq {c : Char} (hc : isGap c = false) (s : List Char) :
    behind? c (lead ++ c :: s) = some s := by
  rw [behind?, skipGaps_append hlead hc]
  exact if_pos rfl

include hlead in
/-- Nothing stands behind a character that the text does not begin with. -/
theorem behind?_of_ne {c d : Char} (hd : isGap d = false) (hne : d ≠ c) (s : List Char) :
    behind? c (lead ++ d :: s) = none := by
  rw [behind?, skipGaps_append hlead hd]
  exact if_neg hne

theorem behind?_cons {c : Char} (hc : isGap c = false) (s : List Char) :
    behind? c (c :: s) = some s := behind?_eq (List.forall_mem_nil _) hc s

theorem behind?_cons_of_ne {c d : Char} (hd : isGap d = false) (hne : d ≠ c) (s : List Char) :
    behind? c (d :: s) = none := behind?_of_ne (List.forall_mem_nil _) hd hne s

end Gaps

theorem not_isGap_of_isWordChar {c : Char} (h : isWordChar c = true) : isGap c = false := by
  rw [Bool.eq_false_iff]
  intro hgap
  simp only [isGap, Bool.or_eq_true, decide_eq_true_eq, or_assoc] at hgap
  rcases hgap with rfl | rfl | rfl | rfl <;> exact absurd h (by decide)

/-- **A word is read**, behind blanks and in front of what is no word. -/
theorem readTree?_word {w lead rest : List Char} {j : Json} (hw : IsWord w j) {steps : Nat}
    (hsteps : w.length < steps) (hlead : ∀ c ∈ lead, isGap c = true)
    (hrest : Text.Stops isWordChar rest) :
    readTree? steps (lead ++ (w ++ rest)) = some (j, rest) := by
  obtain ⟨steps, rfl⟩ : ∃ n, steps = n + 1 := ⟨steps - 1, by omega⟩
  obtain ⟨c, s, hs⟩ := List.exists_cons_of_ne_nil hw.ne_nil
  have hc : isWordChar c = true := hw.isWordChar c (by rw [hs]; exact List.mem_cons_self)
  have hgap := not_isGap_of_isWordChar hc
  have hnot {d : Char} (hd : isWordChar d = false) : behind? d (lead ++ (w ++ rest)) = none := by
    rw [hs, List.cons_append]
    refine behind?_of_ne hlead hgap ?_ _
    rintro rfl
    rw [hc] at hd
    cases hd
  have hskip : skipGaps (lead ++ (w ++ rest)) = w ++ rest := by
    rw [hs, List.cons_append, skipGaps_append hlead hgap]
  rw [readTree?, hnot (by decide), hnot (by decide), hnot (by decide)]
  dsimp only
  rw [hskip, readWord?, Text.takeWhile_append hw.isWordChar hrest,
    Text.dropWhile_append hw.isWordChar hrest, hw.ofWord?]
  rfl

/-! ## Things with commas between them -/

theorem joinedBy_cons_cons (between s t : List Char) (rest : List (List Char)) :
    joinedBy between (s :: t :: rest) = s ++ between ++ joinedBy between (t :: rest) := rfl

/-- Things with something between them are the first one, and the others with that in front. -/
theorem joinedBy_cons (between s : List Char) (rest : List (List Char)) :
    joinedBy between (s :: rest) = s ++ rest.flatMap (between ++ ·) := by
  induction rest generalizing s with
  | nil => rw [joinedBy, List.flatMap_nil, List.append_nil]
  | cons t rest ih =>
    rw [joinedBy_cons_cons, ih, List.flatMap_cons, List.append_assoc, List.append_assoc]

section All

variable {α : Type} {chars : α → List Char} {gaps : List Char}

/-- Things that are written with a comma in front of each. -/
def further (gaps : List Char) (chars : α → List Char) (xs : List α) : List Char :=
  xs.flatMap fun x => ',' :: gaps ++ chars x

theorem joinedBy_map (gaps : List Char) (chars : α → List Char) (x : α) (xs : List α) :
    joinedBy (',' :: gaps) ((x :: xs).map chars) = chars x ++ further gaps chars xs := by
  rw [List.map_cons, joinedBy_cons, List.flatMap_map]
  rfl

/-- Behind one of the things stands the next comma, or the bracket. -/
theorem stops_further (gaps : List Char) (chars : α → List Char) {close : Char}
    (hclose : isWordChar close = false) (xs : List α) (rest : List Char) :
    Text.Stops isWordChar (further gaps chars xs ++ close :: rest) := by
  cases xs with
  | nil => exact Text.stops_cons hclose rest
  | cons x xs => exact Text.stops_cons rfl _

/-- Each of the things takes at least the place of its comma. -/
theorem length_le_further (gaps : List Char) (chars : α → List Char) (xs : List α) :
    xs.length ≤ (further gaps chars xs).length :=
  Text.length_le_flatMap (fun _ => List.cons_ne_nil _ _) xs

theorem length_le_joinedBy (gaps : List Char) (chars : α → List Char) (xs : List α) :
    xs.length ≤ (joinedBy (',' :: gaps) (xs.map chars)).length + 1 := by
  cases xs with
  | nil => exact Nat.zero_le _
  | cons x xs =>
    have := length_le_further gaps chars xs
    rw [joinedBy_map, List.length_append, List.length_cons]
    omega

/-- None of the things takes more place than all of them. -/
theorem length_chars_le (gaps : List Char) (chars : α → List Char) {xs : List α} {x : α}
    (hx : x ∈ xs) : (chars x).length ≤ (joinedBy (',' :: gaps) (xs.map chars)).length := by
  cases xs with
  | nil => cases hx
  | cons y ys =>
    rw [joinedBy_map, List.length_append]
    rcases List.mem_cons.mp hx with rfl | hx
    · exact Nat.le_add_right _ _
    · obtain ⟨before, after, rfl⟩ := List.append_of_mem hx
      simp only [further, List.flatMap_append, List.flatMap_cons, List.length_append]
      omega

variable {read? : List Char → Option (α × List Char)} {close : Char}

/-- **What a reader does with one of some things**: behind blanks and in front of what is no part
of a word, it reads the thing. -/
def Reads (read? : List Char → Option (α × List Char)) (chars : α → List Char) (x : α) : Prop :=
  ∀ ⦃lead rest : List Char⦄, (∀ c ∈ lead, isGap c = true) → Text.Stops isWordChar rest →
    read? (lead ++ (chars x ++ rest)) = some (x, rest)

theorem readFurther?_eq (hgaps : ∀ c ∈ gaps, isGap c = true) (hclose : isGap close = false)
    (hword : isWordChar close = false) (hcomma : close ≠ ',') {xs : List α}
    (hread : ∀ x ∈ xs, Reads read? chars x) {steps : Nat} (hsteps : xs.length < steps)
    (rest : List Char) :
    readFurther? close read? steps (further gaps chars xs ++ close :: rest) = some (xs, rest) := by
  obtain ⟨steps, rfl⟩ : ∃ n, steps = n + 1 := ⟨steps - 1, by omega⟩
  induction xs generalizing steps with
  | nil =>
    have hend : behind? close (close :: rest) = some rest := behind?_cons hclose rest
    rw [further, List.flatMap_nil, List.nil_append, readFurther?, hend]
  | cons x xs ih =>
    obtain ⟨steps, rfl⟩ : ∃ n, steps = n + 1 := ⟨steps - 1, by simp at hsteps; omega⟩
    have hwrite : further gaps chars (x :: xs) ++ close :: rest
        = ',' :: (gaps ++ (chars x ++ (further gaps chars xs ++ close :: rest))) := by
      simp only [further, List.flatMap_cons, List.cons_append, List.append_assoc]
    have hx := hread x List.mem_cons_self hgaps (stops_further gaps chars hword xs rest)
    have hxs := ih (fun y hy => hread y (List.mem_cons_of_mem x hy)) steps
      (by simp at hsteps; omega)
    have hnext (s : List Char) :
        behind? close (',' :: s) = none ∧ behind? ',' (',' :: s) = some s :=
      ⟨behind?_cons_of_ne rfl hcomma.symm s, behind?_cons rfl s⟩
    rw [hwrite, readFurther?, (hnext _).1]
    dsimp only
    rw [(hnext _).2, Option.bind_eq_bind, Option.bind_some, hx]
    simp only [Option.bind_eq_bind, Option.bind_some]
    rw [hxs]
    rfl

/-- **Things with commas between them are read one after the other**, if each of them is read in the
steps that there are room for. -/
theorem readAll?_eq (hgaps : ∀ c ∈ gaps, isGap c = true) (hclose : isGap close = false)
    (hword : isWordChar close = false) (hcomma : close ≠ ',') {xs : List α} {steps : Nat}
    (hfirst : ∀ x ∈ xs, ∃ c s, chars x = c :: s ∧ isGap c = false ∧ c ≠ close)
    (hsteps : (joinedBy (',' :: gaps) (xs.map chars)).length + 1 < steps)
    (hread : ∀ x ∈ xs, (chars x).length < steps → Reads read? chars x) (rest : List Char) :
    readAll? close read? steps (joinedBy (',' :: gaps) (xs.map chars) ++ close :: rest)
      = some (xs, rest) := by
  have hread : ∀ x ∈ xs, Reads read? chars x := by
    intro x hx
    have hle := length_chars_le gaps chars hx
    exact hread x hx (by omega)
  have hcount : xs.length < steps := Nat.lt_of_le_of_lt (length_le_joinedBy gaps chars xs) hsteps
  cases xs with
  | nil =>
    have hend : behind? close (close :: rest) = some rest := behind?_cons hclose rest
    rw [List.map_nil, joinedBy, List.nil_append, readAll?, hend]
  | cons x xs =>
    obtain ⟨c, s, hs, hgap, hne⟩ := hfirst x List.mem_cons_self
    have hx : read? (chars x ++ (further gaps chars xs ++ close :: rest)) = some (x, _) :=
      hread x List.mem_cons_self (List.forall_mem_nil _) (stops_further gaps chars hword xs rest)
    have hxs := readFurther?_eq hgaps hclose hword hcomma
      (fun y hy => hread y (List.mem_cons_of_mem x hy)) (Nat.lt_of_succ_lt hcount) rest
    have hopen : behind? close (chars x ++ (further gaps chars xs ++ close :: rest)) = none := by
      rw [hs]
      exact behind?_cons_of_ne hgap hne _
    rw [joinedBy_map, List.append_assoc, readAll?, hopen]
    dsimp only
    rw [hx]
    simp only [Option.bind_eq_bind, Option.bind_some]
    rw [hxs]
    rfl

end All

/-! ## Trees -/

/-- **What holds of a tree if it holds of its parts** holds of every tree. -/
@[elab_as_elim]
theorem induction {P : Json → Prop} (null : P .null) (bool : ∀ b, P (.bool b))
    (int : ∀ n, P (.int n)) (float : ∀ x, P (.float x)) (text : ∀ s, P (.text s))
    (array : ∀ items, (∀ item ∈ items, P item) → P (.array items))
    (object : ∀ members, (∀ m ∈ members, P m.2) → P (.object members)) (j : Json) : P j :=
  @Json.rec P (fun items => ∀ item ∈ items, P item) (fun members => ∀ m ∈ members, P m.2)
    (fun m => P m.2) null bool int float text array object nofun
    (fun _ _ hx hxs => List.forall_mem_cons.mpr ⟨hx, hxs⟩) nofun
    (fun _ _ hx hxs => List.forall_mem_cons.mpr ⟨hx, hxs⟩) (fun _ _ h => h) j

/-- The characters of a member. -/
def memberChars (style : Style) (m : String × Json) : List Char :=
  quotedChars style.asciiOnly m.1.toList ++ style.colon ++ write style m.2

theorem writeItems_eq (style : Style) (items : List Json) :
    writeItems style items = items.map (write style) := by
  induction items with
  | nil => rw [writeItems, List.map_nil]
  | cons item items ih => rw [writeItems, ih, List.map_cons]

theorem writeMembers_eq (style : Style) (members : List (String × Json)) :
    writeMembers style members = members.map (memberChars style) := by
  induction members with
  | nil => rw [writeMembers, List.map_nil]
  | cons m members ih => rw [writeMembers, ih, List.map_cons, memberChars]

variable {style : Style}

theorem write_array {gaps : List Char} (hcomma : style.comma = ',' :: gaps) (items : List Json) :
    write style (.array items)
      = '[' :: (joinedBy (',' :: gaps) (items.map (write style)) ++ [']']) := by
  rw [write, writeItems_eq, hcomma, List.cons_append]

theorem write_object {gaps : List Char} (hcomma : style.comma = ',' :: gaps)
    (members : List (String × Json)) :
    write style (.object members)
      = '\x7b' :: (joinedBy (',' :: gaps) (members.map (memberChars style)) ++ ['\x7d']) := by
  rw [write, writeMembers_eq, hcomma, List.cons_append]

/-- A tree is written so that it begins with no blank and no bracket that closes. -/
theorem exists_write_eq (style : Style) (j : Json) :
    ∃ c s, write style j = c :: s ∧ isGap c = false ∧ c ≠ ']' := by
  have hword {w : List Char} (hw : IsWord w j) : ∃ c s, w = c :: s ∧ isGap c = false ∧ c ≠ ']' := by
    obtain ⟨c, s, rfl⟩ := List.exists_cons_of_ne_nil hw.ne_nil
    have hc := hw.isWordChar c List.mem_cons_self
    refine ⟨c, s, rfl, not_isGap_of_isWordChar hc, ?_⟩
    rintro rfl
    exact absurd hc (by decide)
  cases j with
  | null => exact ⟨_, _, rfl, by decide, by decide⟩
  | bool b => cases b <;> exact ⟨_, _, rfl, by decide, by decide⟩
  | int n => exact hword (isWord_int n)
  | float x => exact hword (isWord_float x)
  | text s => exact ⟨_, _, rfl, by decide, by decide⟩
  | array items => exact ⟨_, _, rfl, by decide, by decide⟩
  | object members => exact ⟨_, _, rfl, by decide, by decide⟩

theorem exists_memberChars_eq (style : Style) (m : String × Json) :
    ∃ c s, memberChars style m = c :: s ∧ isGap c = false ∧ c ≠ '\x7d' := by
  have hm : memberChars style m
      = '"' :: (m.1.toList.flatMap (quotedChar style.asciiOnly)
        ++ '"' :: (style.colon ++ write style m.2)) := by
    rw [memberChars, List.append_assoc, quotedChars_append]
  exact ⟨_, _, hm, rfl, by decide⟩

/-- A member is read as its value is. -/
theorem reads_member (hst : style.Readable) {read? : List Char → Option (Json × List Char)}
    {m : String × Json} (hm : Reads read? (write style) m.2) :
    Reads (readMember? read?) (memberChars style) m := by
  intro lead rest hlead hrest
  obtain ⟨-, gaps, hcolon, hgaps⟩ := hst
  have hnext := behind?_cons (c := ':') rfl (gaps ++ (write style m.2 ++ rest))
  rw [memberChars, hcolon, List.append_assoc, List.append_assoc, quotedChars_append, readMember?,
    behind?_eq hlead rfl, Option.bind_eq_bind, Option.bind_some, readQuoted?_eq, List.cons_append]
  simp only [Option.bind_eq_bind, Option.bind_some]
  rw [hnext, Option.bind_some, hm hgaps hrest, Option.bind_some, String.ofList_toList]
  rfl

/-- **What is written of a tree is read as the tree**, behind blanks and in front of what is no
part of a word. -/
theorem reads_tree (hst : style.Readable) (j : Json) :
    ∀ {steps : Nat}, (write style j).length < steps → Reads (readTree? steps) (write style) j := by
  obtain ⟨⟨gaps, hcomma, hgaps⟩, -⟩ := id hst
  induction j using induction with
  | null => exact fun hsteps _ _ => readTree?_word isWord_null hsteps
  | bool b => cases b with
    | true => exact fun hsteps _ _ => readTree?_word isWord_true hsteps
    | false => exact fun hsteps _ _ => readTree?_word isWord_false hsteps
  | int n => exact fun hsteps _ _ => readTree?_word (isWord_int n) hsteps
  | float x => exact fun hsteps _ _ => readTree?_word (isWord_float x) hsteps
  | text said =>
    intro steps hsteps lead rest hlead _
    obtain ⟨steps, rfl⟩ : ∃ n, steps = n + 1 := ⟨steps - 1, by omega⟩
    rw [write, quotedChars_append, readTree?, behind?_eq hlead rfl]
    dsimp only
    rw [readQuoted?_eq, Option.map_some, String.ofList_toList]
  | array items ih =>
    intro steps hsteps lead rest hlead _
    obtain ⟨steps, rfl⟩ : ∃ n, steps = n + 1 := ⟨steps - 1, by omega⟩
    rw [write_array hcomma] at hsteps ⊢
    have hlength : (joinedBy (',' :: gaps) (items.map (write style))).length + 1 < steps := by
      simpa using hsteps
    have hall := readAll?_eq hgaps (show isGap ']' = false from rfl) rfl (by decide)
      (fun item _ => exists_write_eq style item) hlength (fun item hitem => ih item hitem) rest
    rw [List.cons_append, List.append_assoc, readTree?, behind?_of_ne hlead rfl (by decide),
      behind?_eq hlead rfl]
    dsimp only
    rw [List.cons_append, List.nil_append, hall]
    rfl
  | object members ih =>
    intro steps hsteps lead rest hlead _
    obtain ⟨steps, rfl⟩ : ∃ n, steps = n + 1 := ⟨steps - 1, by omega⟩
    rw [write_object hcomma] at hsteps ⊢
    have hlength :
        (joinedBy (',' :: gaps) (members.map (memberChars style))).length + 1 < steps := by
      simpa using hsteps
    have hread : ∀ m ∈ members, (memberChars style m).length < steps →
        Reads (readMember? (readTree? steps)) (memberChars style) m := by
      intro m hm hlt
      rw [memberChars, List.length_append] at hlt
      exact reads_member hst (ih m hm (by omega))
    have hall := readAll?_eq hgaps (show isGap '\x7d' = false from rfl) rfl (by decide)
      (fun m _ => exists_memberChars_eq style m) hlength hread rest
    rw [List.cons_append, List.append_assoc, readTree?, behind?_of_ne hlead rfl (by decide),
      behind?_of_ne hlead rfl (by decide), behind?_eq hlead rfl]
    dsimp only
    rw [List.cons_append, List.nil_append, hall]
    rfl

/-- **The text of a tree says the tree.** -/
theorem ofChars?_write (hst : style.Readable) (j : Json) : ofChars? (write style j) = some j := by
  have hread : readTree? _ (write style j ++ []) = some (j, []) :=
    reads_tree hst j (Nat.lt_succ_self _) (List.forall_mem_nil _) Text.stops_nil
  rw [List.append_nil] at hread
  rw [ofChars?, hread]
  rfl

/-! ## Lines -/

/-- What is in things with something between them is in one of the things or between them. -/
theorem mem_joinedBy {between : List Char} {texts : List (List Char)} {c : Char}
    (h : c ∈ joinedBy between texts) : c ∈ between ∨ ∃ t ∈ texts, c ∈ t := by
  cases texts with
  | nil => cases h
  | cons t texts =>
    rw [joinedBy_cons, List.mem_append, List.mem_flatMap] at h
    rcases h with h | ⟨u, hu, h⟩
    · exact .inr ⟨t, List.mem_cons_self, h⟩
    · rcases List.mem_append.mp h with h | h
      · exact .inl h
      · exact .inr ⟨u, List.mem_cons_of_mem t hu, h⟩

/-- **A tree is written on one line**, in a style that is. -/
theorem newline_not_mem_write (hcomma : '\n' ∉ style.comma) (hcolon : '\n' ∉ style.colon)
    (j : Json) : '\n' ∉ write style j := by
  have hword {w : List Char} {j : Json} (hw : IsWord w j) : '\n' ∉ w :=
    fun h => absurd (hw.isWordChar _ h) (by decide)
  induction j using induction with
  | null => exact hword isWord_null
  | bool b => cases b with
    | true => exact hword isWord_true
    | false => exact hword isWord_false
  | int n => exact hword (isWord_int n)
  | float x => exact hword (isWord_float x)
  | text said => exact newline_not_mem_quotedChars _ _
  | array items ih =>
    rw [write, writeItems_eq, List.cons_append, List.mem_cons, List.mem_append, not_or, not_or]
    refine ⟨by decide, fun h => ?_, by decide⟩
    rcases mem_joinedBy h with h | ⟨t, ht, h⟩
    · exact hcomma h
    · obtain ⟨item, hitem, rfl⟩ := List.mem_map.mp ht
      exact ih item hitem h
  | object members ih =>
    rw [write, writeMembers_eq, List.cons_append, List.mem_cons, List.mem_append, not_or, not_or]
    refine ⟨by decide, fun h => ?_, by decide⟩
    rcases mem_joinedBy h with h | ⟨t, ht, h⟩
    · exact hcomma h
    · obtain ⟨m, hm, rfl⟩ := List.mem_map.mp ht
      rw [memberChars, List.mem_append, List.mem_append] at h
      rcases h with (h | h) | h
      · exact newline_not_mem_quotedChars _ _ h
      · exact hcolon h
      · exact ih m hm h

/-- **The lines of some trees**, each with its end. -/
def lines (trees : List Json) : List Char := trees.flatMap fun j => write .spaced j ++ ['\n']

/-- **The trees that the lines of a text say**, if each of them says one and the last line has an
end. -/
def ofLines? (s : List Char) : Option (List Json) :=
  let parts := Text.partsAt '\n' s
  if parts.getLast? = some [] then parts.dropLast.mapM ofChars? else none

theorem lines_cons (j : Json) (trees : List Json) :
    lines (j :: trees) = write .spaced j ++ '\n' :: lines trees := by
  rw [lines, List.flatMap_cons, List.append_assoc]
  rfl

/-- **The lines of some trees say the trees.** -/
theorem ofLines?_lines (trees : List Json) : ofLines? (lines trees) = some trees := by
  have hparts : Text.partsAt '\n' (lines trees) = trees.map (write .spaced) ++ [[]] := by
    induction trees with
    | nil => rfl
    | cons j trees ih =>
      rw [lines_cons, Text.partsAt_append (newline_not_mem_write (by decide) (by decide) j), ih,
        List.map_cons, List.cons_append]
  have hread : (trees.map (write .spaced)).mapM ofChars? = some trees := by
    clear hparts
    induction trees with
    | nil => rfl
    | cons j trees ih =>
      rw [List.map_cons, List.mapM_cons, ofChars?_write Style.readable_spaced, ih]
      rfl
  rw [ofLines?, hparts]
  rw [List.getLast?_concat, if_pos rfl, List.dropLast_concat, hread]

end DiscreetLog.Json
