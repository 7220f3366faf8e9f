import DiscreetLog.Json
import DiscreetLog.Proofs.Text.Parts

/-!
# Reading a quoted text

A text between quotes is read character by character: a character that stands for itself, an escape
by a letter, or an escape by a number, of which two make one character where the number is beyond
four digits. `readChar?` takes one character off the front of a text and gives the rest, so a
quoted text is read to its end by taking characters off until the closing quote stands in front.

Whatever the text was, what is read is the text: every character is written in one of these ways,
and no character is written so that it begins with a quote.
-/

namespace DiscreetLog.Json

/-! ## Numbers in base sixteen -/

/-- The value of a digit of base sixteen. -/
def hexOf? (c : Char) : Option Nat :=
  if c.isDigit then some (c.toNat - 48)
  else if 'a' ≤ c ∧ c ≤ 'f' then some (c.toNat - 87)
  else if 'A' ≤ c ∧ c ≤ 'F' then some (c.toNat - 55)
  else none

/-- The value of four digits of base sixteen. -/
def unitOf? (a b c d : Char) : Option Nat := do
  return (((← hexOf? a) * 16 + (← hexOf? b)) * 16 + (← hexOf? c)) * 16 + (← hexOf? d)

theorem hexOf?_hexDigit (n : Nat) : hexOf? (Text.hexDigit n) = some (n % 16) := by
  have hall : ∀ k < 16, hexOf? (Nat.digitChar k) = some k := by decide
  exact hall _ (Nat.mod_lt n (by decide))

theorem hexDigits_four (n : Nat) : Text.hexDigits 4 n = [Text.hexDigit (n / 16 / 16 / 16),
    Text.hexDigit (n / 16 / 16), Text.hexDigit (n / 16), Text.hexDigit n] := rfl

/-- **The four digits of a number are read as the number.** -/
theorem unitOf?_eq {n : Nat} (hn : n < 0x10000) :
    unitOf? (Text.hexDigit (n / 16 / 16 / 16)) (Text.hexDigit (n / 16 / 16))
      (Text.hexDigit (n / 16)) (Text.hexDigit n) = some n := by
  unfold unitOf?
  rw [hexOf?_hexDigit, hexOf?_hexDigit, hexOf?_hexDigit, hexOf?_hexDigit]
  refine congrArg some ?_
  omega

/-! ## One character -/

/-- The character that an escape by a letter stands for. -/
def letterOf? : Char → Option Char
  | '"' => some '"'
  | '\\' => some '\\'
  | '/' => some '/'
  | 'b' => some '\x08'
  | 'f' => some '\x0c'
  | 'n' => some '\n'
  | 'r' => some '\r'
  | 't' => some '\t'
  | _ => none

/-- The numbers that are the first of two. -/
def isHigh (n : Nat) : Bool := 0xD800 ≤ n && n < 0xDC00

/-- The numbers that are the second of two. -/
def isLow (n : Nat) : Bool := 0xDC00 ≤ n && n < 0xE000

/-- The number at the front of a text, in four digits. -/
def readUnit? : List Char → Option (Nat × List Char)
  | a :: b :: c :: d :: s => (unitOf? a b c d).map (·, s)
  | _ => none

/-- The second of two numbers at the front of a text, behind the mark of an escape. -/
def readSecond? : List Char → Option (Nat × List Char)
  | '\\' :: 'u' :: s => (readUnit? s).filter (isLow ·.1)
  | _ => none

/-- **A character by its number**, or by two numbers. A number that is one of two stands for nothing
by itself. -/
def readNumber? (s : List Char) : Option (Char × List Char) := do
  let (n, s) ← readUnit? s
  if isHigh n then
    let (m, s) ← readSecond? s
    return (Char.ofNat (0x10000 + (n - 0xD800) * 0x400 + (m - 0xDC00)), s)
  else if isLow n then none
  else return (Char.ofNat n, s)

/-- **One character of a quoted text is read.** A control has to be escaped. -/
def readChar? : List Char → Option (Char × List Char)
  | [] => none
  | c :: s =>
    if c = '\\' then
      match s with
      | [] => none
      | letter :: s => if letter = 'u' then readNumber? s else (letterOf? letter).map (·, s)
    else if c = '"' || c.toNat < 0x20 then none
    else some (c, s)

/-- **How a character of a quoted text is written**: by a letter that stands for it, by its number,
or as itself. -/
theorem quotedChar_cases (asciiOnly : Bool) (c : Char) :
    (∃ letter, letterOf? letter = some c ∧ letter ≠ 'u' ∧ quotedChar asciiOnly c = ['\\', letter])
      ∨ quotedChar asciiOnly c = escapeNumber c.toNat
      ∨ quotedChar asciiOnly c = [c] ∧ c ≠ '"' ∧ c ≠ '\\' ∧ 0x20 ≤ c.toNat := by
  unfold quotedChar
  by_cases h1 : c = '"'
  · exact .inl ⟨'"', congrArg some h1.symm, by decide, if_pos h1⟩
  rw [if_neg h1]
  by_cases h2 : c = '\\'
  · exact .inl ⟨'\\', congrArg some h2.symm, by decide, if_pos h2⟩
  rw [if_neg h2]
  by_cases h3 : c = '\n'
  · exact .inl ⟨'n', congrArg some h3.symm, by decide, if_pos h3⟩
  rw [if_neg h3]
  by_cases h4 : c = '\r'
  · exact .inl ⟨'r', congrArg some h4.symm, by decide, if_pos h4⟩
  rw [if_neg h4]
  by_cases h5 : c = '\t'
  · exact .inl ⟨'t', congrArg some h5.symm, by decide, if_pos h5⟩
  rw [if_neg h5]
  by_cases h6 : c = '\x08'
  · exact .inl ⟨'b', congrArg some h6.symm, by decide, if_pos h6⟩
  rw [if_neg h6]
  by_cases h7 : c = '\x0c'
  · exact .inl ⟨'f', congrArg some h7.symm, by decide, if_pos h7⟩
  rw [if_neg h7]
  by_cases h8 : c.toNat < 0x20
  · exact .inr (.inl (by rw [if_pos h8, escapeNumber, if_pos (by omega)]))
  rw [if_neg h8]
  by_cases h9 : (asciiOnly && 0x7E < c.toNat) = true
  · exact .inr (.inl (if_pos h9))
  · exact .inr (.inr ⟨if_neg h9, h1, h2, Nat.not_lt.mp h8⟩)

theorem readUnit?_hexDigits {n : Nat} (hn : n < 0x10000) (rest : List Char) :
    readUnit? (Text.hexDigits 4 n ++ rest) = some (n, rest) := by
  rw [hexDigits_four]
  exact congrArg (Option.map (·, rest)) (unitOf?_eq hn)

/-- A number that is not one of two is read as the character. -/
theorem readNumber?_hexDigits {n : Nat} (hn : n < 0x10000) (hhigh : isHigh n = false)
    (hlow : isLow n = false) (rest : List Char) :
    readNumber? (Text.hexDigits 4 n ++ rest) = some (Char.ofNat n, rest) := by
  unfold readNumber?
  rw [readUnit?_hexDigits hn, Option.bind_eq_bind, Option.bind_some]
  dsimp only
  rw [hhigh, hlow]
  rfl

/-- Two numbers are read as the one character that they make. -/
theorem readNumber?_pair {n : Nat} (hn : n < 0x100000) (rest : List Char) :
    readNumber? (Text.hexDigits 4 (0xD800 + n / 0x400)
        ++ (escapeUnit (0xDC00 + n % 0x400) ++ rest)) = some (Char.ofNat (0x10000 + n), rest) := by
  have hishigh : isHigh (0xD800 + n / 0x400) = true := by
    rw [isHigh, Bool.and_eq_true, decide_eq_true_eq, decide_eq_true_eq]
    omega
  have hislow : isLow (0xDC00 + n % 0x400) = true := by
    rw [isLow, Bool.and_eq_true, decide_eq_true_eq, decide_eq_true_eq]
    omega
  have hnumber : 0x10000 + (0xD800 + n / 0x400 - 0xD800) * 0x400 + (0xDC00 + n % 0x400 - 0xDC00)
      = 0x10000 + n := by omega
  have hsecond : readSecond? (escapeUnit (0xDC00 + n % 0x400) ++ rest)
      = some (0xDC00 + n % 0x400, rest) := by
    have hsplit (m : Nat) : readSecond? (escapeUnit m ++ rest)
        = (readUnit? (Text.hexDigits 4 m ++ rest)).filter (isLow ·.1) := rfl
    rw [hsplit, readUnit?_hexDigits (by omega)]
    exact if_pos hislow
  unfold readNumber?
  rw [readUnit?_hexDigits (by omega), Option.bind_eq_bind, Option.bind_some]
  dsimp only
  rw [if_pos hishigh, hsecond, Option.bind_some]
  dsimp only
  rw [hnumber]
  rfl

/-- **An escape by a number is read as the character.** -/
theorem readChar?_escapeNumber (c : Char) (rest : List Char) :
    readChar? (escapeNumber c.toNat ++ rest) = some (c, rest) := by
  have hc : c.toNat < 0xD800 ∨ 0xDFFF < c.toNat ∧ c.toNat < 0x110000 := c.valid
  have hescape (n : Nat) (s : List Char) :
      readChar? (escapeUnit n ++ s) = readNumber? (Text.hexDigits 4 n ++ s) := rfl
  unfold escapeNumber
  split
  · rename_i hn
    -- a character has no number that is one of two
    have hhigh : isHigh c.toNat = false := by
      rw [isHigh, Bool.and_eq_false_iff, decide_eq_false_iff_not, decide_eq_false_iff_not]
      omega
    have hlow : isLow c.toNat = false := by
      rw [isLow, Bool.and_eq_false_iff, decide_eq_false_iff_not, decide_eq_false_iff_not]
      omega
    rw [hescape, readNumber?_hexDigits hn hhigh hlow, Char.ofNat_toNat]
  · have hnumber : 0x10000 + (c.toNat - 0x10000) = c.toNat := by omega
    rw [List.append_assoc, hescape, readNumber?_pair (by omega), hnumber, Char.ofNat_toNat]

/-- **A character of a quoted text is read as the character.** -/
theorem readChar?_quotedChar (asciiOnly : Bool) (c : Char) (rest : List Char) :
    readChar? (quotedChar asciiOnly c ++ rest) = some (c, rest) := by
  rcases quotedChar_cases asciiOnly c with ⟨letter, hl, hu, h⟩ | h | ⟨h, hquote, hback, hctl⟩
  · have hescape : readChar? ('\\' :: letter :: rest)
        = if letter = 'u' then readNumber? rest else (letterOf? letter).map (·, rest) := rfl
    rw [h, List.cons_append, List.cons_append, List.nil_append, hescape, if_neg hu, hl]
    rfl
  · rw [h]
    exact readChar?_escapeNumber c rest
  · have hself : ¬ (c = '"' || c.toNat < 0x20) = true := by
      rw [Bool.or_eq_true, decide_eq_true_eq, decide_eq_true_eq, not_or]
      exact ⟨hquote, Nat.not_lt.mpr hctl⟩
    rw [h, List.cons_append, List.nil_append]
    unfold readChar?
    dsimp only
    rw [if_neg hback, if_neg hself]

/-! ## A text between quotes -/

/-- **A quoted text is read to its closing quote**, in not more than the given number of steps. -/
def readQuotedIn : Nat → List Char → Option (List Char × List Char)
  | 0, _ => none
  | _ + 1, '"' :: s => some ([], s)
  | steps + 1, s => do
    let (c, s) ← readChar? s
    let (said, s) ← readQuotedIn steps s
    return (c :: said, s)

/-- A character of a quoted text is not written so that it begins with a quote. -/
theorem exists_quotedChar_eq (asciiOnly : Bool) (c : Char) :
    ∃ d s, quotedChar asciiOnly c = d :: s ∧ d ≠ '"' := by
  rcases quotedChar_cases asciiOnly c with ⟨letter, -, -, h⟩ | h | ⟨h, hquote, -⟩
  · exact ⟨'\\', [letter], h, by decide⟩
  · unfold escapeNumber at h
    split at h
    · exact ⟨'\\', _, h, by decide⟩
    · exact ⟨'\\', _, h, by decide⟩
  · exact ⟨c, [], h, hquote⟩

theorem readQuotedIn_eq (asciiOnly : Bool) (said rest : List Char) {steps : Nat}
    (hsteps : said.length < steps) :
    readQuotedIn steps (said.flatMap (quotedChar asciiOnly) ++ '"' :: rest)
      = some (said, rest) := by
  obtain ⟨steps, rfl⟩ : ∃ n, steps = n + 1 := ⟨steps - 1, by omega⟩
  induction said generalizing steps with
  | nil => rfl
  | cons c said ih =>
    obtain ⟨steps, rfl⟩ : ∃ n, steps = n + 1 := ⟨steps - 1, by simp at hsteps; omega⟩
    obtain ⟨d, s, hd, hquote⟩ := exists_quotedChar_eq asciiOnly c
    have hread := readChar?_quotedChar asciiOnly c
      (said.flatMap (quotedChar asciiOnly) ++ '"' :: rest)
    rw [List.flatMap_cons, List.append_assoc]
    rw [hd, List.cons_append] at hread ⊢
    rw [readQuotedIn, hread, Option.bind_eq_bind, Option.bind_some]
    · dsimp only
      rw [ih steps (by simp at hsteps; omega)]
      rfl
    · rintro _ h
      exact hquote (List.cons.inj h).1

/-- **A text is read to its closing quote**, the opening one having been read. -/
def readQuoted? (s : List Char) : Option (List Char × List Char) := readQuotedIn (s.length + 1) s

/-- A quoted text is its opening quote, its characters, and its closing quote. -/
theorem quotedChars_append (asciiOnly : Bool) (said rest : List Char) :
    quotedChars asciiOnly said ++ rest
      = '"' :: (said.flatMap (quotedChar asciiOnly) ++ '"' :: rest) := by
  simp [quotedChars]

/-- **A quoted text is read as the text**, and what stands behind it is left. -/
theorem readQuoted?_eq (asciiOnly : Bool) (said rest : List Char) :
    readQuoted? (said.flatMap (quotedChar asciiOnly) ++ '"' :: rest) = some (said, rest) := by
  refine readQuotedIn_eq asciiOnly said rest ?_
  have hchar (c : Char) : quotedChar asciiOnly c ≠ [] := by
    obtain ⟨d, s, hd, -⟩ := exists_quotedChar_eq asciiOnly c
    rw [hd]
    exact List.cons_ne_nil d s
  have hcount := Text.length_le_flatMap hchar said
  rw [List.length_append]
  omega

/-! ## What a quoted text is written with -/

theorem le_of_mem_escapeUnit {n : Nat} {c : Char} (h : c ∈ escapeUnit n) : 0x20 ≤ c.toNat := by
  have hhex (n : Nat) : 0x20 ≤ (Text.hexDigit n).toNat := by
    have hall : ∀ k < 16, 0x20 ≤ (Nat.digitChar k).toNat := by decide
    exact hall _ (Nat.mod_lt n (by decide))
  rw [escapeUnit, hexDigits_four] at h
  simp only [List.mem_append, List.mem_cons, List.not_mem_nil, or_false] at h
  rcases h with (rfl | rfl) | rfl | rfl | rfl | rfl
  · decide
  · decide
  all_goals exact hhex _

theorem le_of_mem_escapeNumber {n : Nat} {c : Char} (h : c ∈ escapeNumber n) : 0x20 ≤ c.toNat := by
  unfold escapeNumber at h
  split at h
  · exact le_of_mem_escapeUnit h
  · exact (List.mem_append.mp h).elim le_of_mem_escapeUnit le_of_mem_escapeUnit

theorem le_of_letterOf? {letter c : Char} (h : letterOf? letter = some c) :
    0x20 ≤ letter.toNat := by
  unfold letterOf? at h
  split at h
  all_goals first | decide | cases h

/-- **A quoted text is written without controls.** -/
theorem le_of_mem_quotedChars {asciiOnly : Bool} {said : List Char} {c : Char}
    (h : c ∈ quotedChars asciiOnly said) : 0x20 ≤ c.toNat := by
  simp only [quotedChars, List.cons_append, List.mem_cons, List.mem_append, List.mem_flatMap,
    List.not_mem_nil, or_false] at h
  rcases h with rfl | ⟨d, -, hd⟩ | rfl
  · decide
  · rcases quotedChar_cases asciiOnly d with ⟨letter, hl, -, h⟩ | h | ⟨h, -, -, hctl⟩ <;>
      rw [h] at hd
    · simp only [List.mem_cons, List.not_mem_nil, or_false] at hd
      rcases hd with rfl | rfl
      · decide
      · exact le_of_letterOf? hl
    · exact le_of_mem_escapeNumber hd
    · rwa [List.mem_singleton.mp hd]
  · decide

/-- A quoted text is written on one line. -/
theorem newline_not_mem_quotedChars (asciiOnly : Bool) (said : List Char) :
    '\n' ∉ quotedChars asciiOnly said := fun h => absurd (le_of_mem_quotedChars h) (by decide)

end DiscreetLog.Json
