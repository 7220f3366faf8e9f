import DiscreetLog.Proofs.Json.Reading
import DiscreetLog.Proofs.Rendering.Members

/-!
# What is written is structured text

`Derives` is the grammar of JSON: a symbol leads from a text to what is left of it when what the
symbol stands for has been taken off its front. A tree is written as the grammar has it exactly
where all its doubles are finite. The others have names of their own, `NaN`, `Infinity` and
`-Infinity`, which the grammar does not know.

That the grammar refuses those names, wherever they stand, is read off what a text shows outside
its quotes, `bare`: in a text that the grammar has, neither of the two capital letters stands
there.
-/

namespace DiscreetLog.Json

/-! ## The grammar -/

/-- A structural character, with blanks on both sides. -/
def Token (c : Char) (s rest : List Char) : Prop :=
  ∃ before after, (∀ d ∈ before, isGap d = true) ∧ (∀ d ∈ after, isGap d = true)
    ∧ s = before ++ c :: (after ++ rest)

/-- **The characters of a quoted text**, one after the other. -/
inductive Spelled : List Char → List Char → Prop where
  | nil (s : List Char) : Spelled s s
  | plain {c : Char} {s rest : List Char} (hc : c ≠ '"' ∧ c ≠ '\\' ∧ 0x20 ≤ c.toNat)
      (h : Spelled s rest) : Spelled (c :: s) rest
  | letter {c : Char} {s rest : List Char} (hc : (letterOf? c).isSome) (h : Spelled s rest) :
      Spelled ('\\' :: c :: s) rest
  | number {digits s rest : List Char} (hlength : digits.length = 4)
      (hd : ∀ d ∈ digits, (hexOf? d).isSome) (h : Spelled s rest) :
      Spelled ('\\' :: 'u' :: digits ++ s) rest

/-- A text between quotes. -/
def Quoted (s rest : List Char) : Prop := ∃ t, s = '"' :: t ∧ Spelled t ('"' :: rest)

/-- What the grammar has rules for. -/
inductive Symbol where
  | value
  | object
  /-- The items of an array, one or more. -/
  | items
  /-- The members of an object, one or more. -/
  | members

/-- **The grammar of JSON.** -/
inductive Derives : Symbol → List Char → List Char → Prop where
  | name {w : List Char} (hw : w ∈ [['n', 'u', 'l', 'l'], ['t', 'r', 'u', 'e'],
      ['f', 'a', 'l', 's', 'e']]) (rest : List Char) : Derives .value (w ++ rest) rest
  | number (negative : Bool) (n : Numeral) (rest : List Char) :
      Derives .value ((if negative then ['-'] else []) ++ n.chars ++ rest) rest
  | quoted {s rest : List Char} (h : Quoted s rest) : Derives .value s rest
  | emptyArray {s t rest : List Char} (hs : Token '[' s t) (ht : Token ']' t rest) :
      Derives .value s rest
  | fullArray {s t u rest : List Char} (hs : Token '[' s t) (ht : Derives .items t u)
      (hu : Token ']' u rest) : Derives .value s rest
  | object {s rest : List Char} (h : Derives .object s rest) : Derives .value s rest
  | item {s rest : List Char} (h : Derives .value s rest) : Derives .items s rest
  | items {s t u rest : List Char} (hs : Derives .value s t) (ht : Token ',' t u)
      (hu : Derives .items u rest) : Derives .items s rest
  | emptyObject {s t rest : List Char} (hs : Token '\x7b' s t) (ht : Token '\x7d' t rest) :
      Derives .object s rest
  | fullObject {s t u rest : List Char} (hs : Token '\x7b' s t) (ht : Derives .members t u)
      (hu : Token '\x7d' u rest) : Derives .object s rest
  | member {s t u rest : List Char} (hs : Quoted s t) (ht : Token ':' t u)
      (hu : Derives .value u rest) : Derives .members s rest
  | members {s t u v w rest : List Char} (hs : Quoted s t) (ht : Token ':' t u)
      (hu : Derives .value u v) (hv : Token ',' v w) (hw : Derives .members w rest) :
      Derives .members s rest

/-- **A text is one object**, with nothing but blanks around it. -/
def IsObject (s : List Char) : Prop :=
  ∃ before t after, (∀ c ∈ before, isGap c = true) ∧ (∀ c ∈ after, isGap c = true)
    ∧ s = before ++ t ∧ Derives .object t after

/-! ## What is written without other names -/

/-- **All doubles of a tree are finite**, at any depth. -/
def AllFinite (j : Json) : Prop := ∀ path x, j.At path (.float x) → x.isFinite = true

theorem AllFinite.child {t u : Json} {s : Step} (h : t.AllFinite) (hs : Child t s u) :
    u.AllFinite := fun path x hp => h (s :: path) x (.step hs hp)

theorem allFinite_float {x : Binary64} (h : x.isFinite = true) : (Json.float x).AllFinite := by
  intro path y hp
  cases hp with
  | here => exact h
  | step hs => cases hs

theorem allFinite_array {items : List Json} :
    (Json.array items).AllFinite ↔ ∀ item ∈ items, item.AllFinite := by
  constructor
  · intro h item hi
    obtain ⟨i, hi⟩ := List.getElem?_of_mem hi
    exact h.child (.item hi)
  · intro h path x hp
    cases hp with
    | step hs hp => cases hs with
      | item hi => exact h _ (List.mem_of_getElem? hi) _ x hp

theorem allFinite_object {members : List (String × Json)} :
    (Json.object members).AllFinite ↔ ∀ m ∈ members, m.2.AllFinite := by
  constructor
  · exact fun h m hm => h.child (.member hm)
  · intro h path x hp
    cases hp with
    | step hs hp => cases hs with
      | member hm => exact h _ hm _ x hp

theorem spelled_quotedChar (asciiOnly : Bool) (c : Char) {s rest : List Char} (h : Spelled s rest) :
    Spelled (quotedChar asciiOnly c ++ s) rest := by
  have hunit (n : Nat) {s : List Char} (h : Spelled s rest) : Spelled (escapeUnit n ++ s) rest := by
    refine @Spelled.number (Text.hexDigits 4 n) s rest rfl (fun d hd => ?_) h
    rw [hexDigits_four] at hd
    simp only [List.mem_cons, List.not_mem_nil, or_false] at hd
    rcases hd with rfl | rfl | rfl | rfl <;> rw [hexOf?_hexDigit] <;> rfl
  rcases quotedChar_cases asciiOnly c with ⟨letter, hl, -, hc⟩ | hc | ⟨hc, hself⟩ <;> rw [hc]
  · exact .letter (by rw [hl]; rfl) h
  · unfold escapeNumber
    split
    · exact hunit _ h
    · rw [List.append_assoc]
      exact hunit _ (hunit _ h)
  · exact .plain hself h

/-- **A quoted text is written as the grammar has it.** -/
theorem quoted_quotedChars (asciiOnly : Bool) (said rest : List Char) :
    Quoted (quotedChars asciiOnly said ++ rest) rest := by
  refine ⟨_, quotedChars_append asciiOnly said rest, ?_⟩
  induction said with
  | nil => exact .nil _
  | cons c said ih =>
    rw [List.flatMap_cons, List.append_assoc]
    exact spelled_quotedChar asciiOnly c ih

theorem derives_int (n : Int) (rest : List Char) :
    Derives .value ((toString n).toList ++ rest) rest := by
  let numeral : Numeral := ⟨Digits.ofNat n.natAbs, none, none, fun h => by
    by_cases hn : n.natAbs = 0
    · rw [hn]
      rfl
    · exact absurd h (head?_toDigits_ne hn)⟩
  have hchars : numeral.chars = (Digits.ofNat n.natAbs).chars := by
    simp [numeral, Numeral.chars, Numeral.partChars, Numeral.exponentChars]
  rw [toList_toString, ← hchars]
  exact .number _ numeral rest

theorem derives_float {x : Binary64} (hx : x.isFinite = true) (rest : List Char) :
    Derives .value (floatChars x ++ rest) rest := by
  cases x with
  | nan | infinite => cases hx
  | finite negative m e hc =>
    obtain ⟨n, hn, -⟩ := Binary64.exists_numeral hc
    rw [hn]
    exact .number negative n rest

section Write

variable {style : Style} {gaps : List Char} (hgaps : ∀ c ∈ gaps, isGap c = true)

include hgaps in
theorem token_append (c : Char) (rest : List Char) : Token c (c :: gaps ++ rest) rest :=
  ⟨[], gaps, nofun, hgaps, rfl⟩

theorem token_cons (c : Char) (rest : List Char) : Token c (c :: rest) rest :=
  ⟨[], [], nofun, nofun, rfl⟩

include hgaps in
theorem derives_items {items : List Json} (hne : items ≠ [])
    (h : ∀ item ∈ items, ∀ rest, Derives .value (write style item ++ rest) rest)
    (rest : List Char) :
    Derives .items (joinedBy (',' :: gaps) (items.map (write style)) ++ rest) rest := by
  induction items with
  | nil => exact absurd rfl hne
  | cons item items ih =>
    cases items with
    | nil => exact .item (h item List.mem_cons_self rest)
    | cons next items =>
      have hnext := ih (List.cons_ne_nil _ _) fun i hi => h i (List.mem_cons_of_mem item hi)
      rw [List.map_cons, List.map_cons, joinedBy_cons_cons, List.append_assoc, List.append_assoc]
      exact .items (h item List.mem_cons_self _) (token_append hgaps ',' _) hnext

include hgaps in
theorem derives_members {members : List (String × Json)} (hcolon : ∃ gaps, style.colon = ':' :: gaps
      ∧ ∀ c ∈ gaps, isGap c = true) (hne : members ≠ [])
    (h : ∀ m ∈ members, ∀ rest, Derives .value (write style m.2 ++ rest) rest) (rest : List Char) :
    Derives .members (joinedBy (',' :: gaps) (members.map (memberChars style)) ++ rest) rest := by
  obtain ⟨blanks, hcolon, hblanks⟩ := hcolon
  have hname (m : String × Json) (s : List Char) :
      Quoted (memberChars style m ++ s) (style.colon ++ (write style m.2 ++ s)) := by
    rw [memberChars, List.append_assoc, List.append_assoc]
    exact quoted_quotedChars _ _ _
  have hmark (s : List Char) : Token ':' (style.colon ++ s) s := by
    rw [hcolon]
    exact token_append hblanks ':' s
  induction members with
  | nil => exact absurd rfl hne
  | cons m members ih =>
    cases members with
    | nil => exact .member (hname m rest) (hmark _) (h m List.mem_cons_self rest)
    | cons next members =>
      have hnext := ih (List.cons_ne_nil _ _) fun i hi => h i (List.mem_cons_of_mem m hi)
      rw [List.map_cons, List.map_cons, joinedBy_cons_cons, List.append_assoc, List.append_assoc]
      exact .members (hname m _) (hmark _) (h m List.mem_cons_self _) (token_append hgaps ',' _)
        hnext

end Write

variable {style : Style} (hst : style.Readable)

include hst in
/-- An object is written as the grammar has it if its members are. -/
theorem derives_object {members : List (String × Json)}
    (h : ∀ m ∈ members, ∀ rest, Derives .value (write style m.2 ++ rest) rest) (rest : List Char) :
    Derives .object (write style (.object members) ++ rest) rest := by
  obtain ⟨⟨gaps, hcomma, hgaps⟩, hcolon⟩ := hst
  rw [write_object hcomma, List.cons_append, List.append_assoc]
  by_cases hne : members = []
  · rw [hne, List.map_nil, joinedBy]
    exact .emptyObject (token_cons _ _) (token_cons _ _)
  · exact .fullObject (token_cons _ _) (derives_members hgaps hcolon hne h _) (token_cons _ _)

include hst in
/-- **A tree with finite doubles is written as the grammar has it.** -/
theorem derives_write (j : Json) (hj : j.AllFinite) (rest : List Char) :
    Derives .value (write style j ++ rest) rest := by
  induction j using induction generalizing rest with
  | null => exact .name (w := ['n', 'u', 'l', 'l']) (by decide) rest
  | bool b => cases b with
    | true => exact .name (w := ['t', 'r', 'u', 'e']) (by decide) rest
    | false => exact .name (w := ['f', 'a', 'l', 's', 'e']) (by decide) rest
  | int n => exact derives_int n rest
  | float x => exact derives_float (hj [] x .here) rest
  | text said => exact .quoted (quoted_quotedChars _ _ rest)
  | array items ih =>
    obtain ⟨⟨gaps, hcomma, hgaps⟩, -⟩ := hst
    have hitem : ∀ item ∈ items, ∀ rest, Derives .value (write style item ++ rest) rest := by
      exact fun item hi => ih item hi (allFinite_array.mp hj item hi)
    rw [write_array hcomma, List.cons_append, List.append_assoc]
    by_cases hne : items = []
    · rw [hne, List.map_nil, joinedBy]
      exact .emptyArray (token_cons _ _) (token_cons _ _)
    · exact .fullArray (token_cons _ _) (derives_items hgaps hne hitem _) (token_cons _ _)
  | object members ih =>
    exact .object (derives_object hst (fun m hm => ih m hm (allFinite_object.mp hj m hm)) rest)

/-! ## What stands outside the quotes -/

/-- **The characters of a text outside its quotes**; the flag says if the text begins inside. -/
def bare : Bool → List Char → List Char
  | _, [] => []
  | false, c :: s => if c = '"' then bare true s else c :: bare false s
  | true, '\\' :: _ :: s => bare true s
  | true, c :: s => bare (c ≠ '"') s

/-- The capital letters that the names of doubles begin with. -/
def isCapital (c : Char) : Bool := c = 'N' || c = 'I'

/-- A text takes some characters to what it shows outside its quotes. -/
def Shows (s shown rest : List Char) : Prop := bare false s = shown ++ bare false rest

theorem shows_append {w : List Char} (hw : '"' ∉ w) (rest : List Char) :
    Shows (w ++ rest) w rest := by
  induction w with
  | nil => rfl
  | cons c w ih =>
    rw [List.mem_cons, not_or] at hw
    unfold Shows
    rw [List.cons_append, bare, if_neg (Ne.symm hw.1), ih hw.2, List.cons_append]

theorem Shows.trans {s t u shown shown' : List Char} (h : Shows s shown t) (h' : Shows t shown' u) :
    Shows s (shown ++ shown') u := by
  unfold Shows
  rw [h, h', List.append_assoc]

theorem bare_cons {c : Char} (hc : c ≠ '"' ∧ c ≠ '\\') (s : List Char) :
    bare true (c :: s) = bare true s := by
  rw [bare, decide_eq_true hc.1]
  rintro _ _ rfl
  exact absurd rfl hc.2

theorem bare_of_spelled {s rest : List Char} (h : Spelled s rest) :
    bare true s = bare true rest := by
  induction h with
  | nil => rfl
  | plain hc _ ih => rw [bare_cons ⟨hc.1, hc.2.1⟩, ih]
  | letter _ _ ih => rw [bare, ih]
  | @number digits s _ hlength hd _ ih =>
    have hskip : bare true (digits ++ s) = bare true s := by
      clear ih hlength
      induction digits with
      | nil => rfl
      | cons d digits ihd =>
        have hdigit := hd d List.mem_cons_self
        rw [List.cons_append, bare_cons, ihd fun e he => hd e (List.mem_cons_of_mem d he)]
        constructor <;> rintro rfl <;> cases hdigit
    rw [List.cons_append, List.cons_append, bare, hskip, ih]

/-- **A quoted text shows nothing.** -/
theorem shows_quoted {s rest : List Char} (h : Quoted s rest) : Shows s [] rest := by
  obtain ⟨t, rfl, h⟩ := h
  unfold Shows
  rw [bare, if_pos rfl, bare_of_spelled h]
  rfl

/-- A blank is no quote and no capital letter. -/
theorem gap_ne {c : Char} (h : isGap c = true) : c ≠ '"' ∧ isCapital c = false := by
  simp only [isGap, Bool.or_eq_true, decide_eq_true_eq, or_assoc] at h
  rcases h with rfl | rfl | rfl | rfl <;> decide

theorem quote_not_mem_gaps {gaps : List Char} (hgaps : ∀ c ∈ gaps, isGap c = true) : '"' ∉ gaps :=
  fun h => (gap_ne (hgaps _ h)).1 rfl

theorem exists_shows_token {c : Char} {s rest : List Char} (h : Token c s rest)
    (hc : c ≠ '"' ∧ isCapital c = false) :
    ∃ shown, (∀ d ∈ shown, isCapital d = false) ∧ Shows s shown rest := by
  obtain ⟨before, after, hb, ha, rfl⟩ := h
  refine ⟨before ++ c :: after, fun d hd => ?_, ?_⟩
  · simp only [List.mem_append, List.mem_cons] at hd
    rcases hd with hd | rfl | hd
    · exact (gap_ne (hb d hd)).2
    · exact hc.2
    · exact (gap_ne (ha d hd)).2
  · have hquote : '"' ∉ before ++ c :: after := by
      simp only [List.mem_append, List.mem_cons, not_or]
      exact ⟨quote_not_mem_gaps hb, hc.1.symm, quote_not_mem_gaps ha⟩
    simpa using shows_append hquote rest

theorem exists_shows_trans {s t u : List Char}
    (h : ∃ shown, (∀ c ∈ shown, isCapital c = false) ∧ Shows s shown t)
    (h' : ∃ shown, (∀ c ∈ shown, isCapital c = false) ∧ Shows t shown u) :
    ∃ shown, (∀ c ∈ shown, isCapital c = false) ∧ Shows s shown u := by
  obtain ⟨a, ha, hs⟩ := h
  obtain ⟨b, hb, ht⟩ := h'
  exact ⟨a ++ b, fun c hc => (List.mem_append.mp hc).elim (ha c) (hb c), hs.trans ht⟩

/-- What is neither a digit nor one of the characters of a numeral is none of its characters. -/
theorem signed_chars_plain (negative : Bool) (n : Numeral) :
    ∀ c ∈ (if negative then ['-'] else []) ++ n.chars, c ≠ '"' ∧ isCapital c = false := by
  intro c hc
  rcases List.mem_append.mp hc with hc | hc
  · cases negative with
    | true =>
      rw [List.mem_singleton.mp hc]
      decide
    | false => cases hc
  · rcases n.isDigit_or_mem_of_mem_chars hc with hc | hc
    · constructor
      · rintro rfl
        cases hc
      · rw [Bool.eq_false_iff]
        intro h
        simp only [isCapital, Bool.or_eq_true, decide_eq_true_eq] at h
        rcases h with rfl | rfl <;> cases hc
    · have hall : ∀ c ∈ ['.', 'e', 'E', '+', '-'], c ≠ '"' ∧ isCapital c = false := by
        simp [isCapital]
      exact hall c hc

/-- **What the grammar has shows no capital letter.** -/
theorem exists_shows_of_derives {symbol : Symbol} {s rest : List Char} (h : Derives symbol s rest) :
    ∃ shown, (∀ c ∈ shown, isCapital c = false) ∧ Shows s shown rest := by
  have hquoted {s rest : List Char} (h : Quoted s rest) :
      ∃ shown, (∀ c ∈ shown, isCapital c = false) ∧ Shows s shown rest :=
    ⟨[], nofun, shows_quoted h⟩
  have hplain {w rest : List Char} (hw : ∀ c ∈ w, c ≠ '"' ∧ isCapital c = false) :
      ∃ shown, (∀ c ∈ shown, isCapital c = false) ∧ Shows (w ++ rest) shown rest :=
    ⟨w, fun c hc => (hw c hc).2, shows_append (fun h => (hw _ h).1 rfl) rest⟩
  induction h with
  | name hw =>
    have hnames : ∀ w ∈ [['n', 'u', 'l', 'l'], ['t', 'r', 'u', 'e'], ['f', 'a', 'l', 's', 'e']],
        ∀ c ∈ w, c ≠ '"' ∧ isCapital c = false := by simp [isCapital]
    exact hplain (hnames _ hw)
  | number negative n => exact hplain (signed_chars_plain negative n)
  | quoted h => exact hquoted h
  | emptyArray hs ht | emptyObject hs ht =>
    exact exists_shows_trans (exists_shows_token hs (by decide)) (exists_shows_token ht (by decide))
  | fullArray hs _ hu ih | fullObject hs _ hu ih =>
    exact exists_shows_trans (exists_shows_token hs (by decide))
      (exists_shows_trans ih (exists_shows_token hu (by decide)))
  | object _ ih | item _ ih => exact ih
  | items _ ht _ ihs ihu =>
    exact exists_shows_trans ihs (exists_shows_trans (exists_shows_token ht (by decide)) ihu)
  | member hs ht _ ihu =>
    exact exists_shows_trans (hquoted hs)
      (exists_shows_trans (exists_shows_token ht (by decide)) ihu)
  | members hs ht _ hv _ ihu ihw =>
    exact exists_shows_trans (hquoted hs) (exists_shows_trans (exists_shows_token ht (by decide))
      (exists_shows_trans ihu (exists_shows_trans (exists_shows_token hv (by decide)) ihw)))

/-- A text shows a capital letter if something holds, among the characters that it is taken to. -/
def ShowsIf (p : Prop) (s rest : List Char) : Prop :=
  ∃ shown, Shows (s ++ rest) shown rest ∧ (p → ∃ c ∈ shown, isCapital c = true)

theorem showsIf_of_shows {p : Prop} {s rest shown : List Char} (h : Shows (s ++ rest) shown rest)
    (hp : ¬ p) : ShowsIf p s rest := ⟨shown, h, fun hp' => absurd hp' hp⟩

theorem ShowsIf.append {p q : Prop} {s t rest : List Char} (hs : ShowsIf p s (t ++ rest))
    (ht : ShowsIf q t rest) : ShowsIf (p ∨ q) (s ++ t) rest := by
  obtain ⟨a, ha, hp⟩ := hs
  obtain ⟨b, hb, hq⟩ := ht
  refine ⟨a ++ b, by rw [List.append_assoc]; exact ha.trans hb, ?_⟩
  rintro (h | h)
  · obtain ⟨c, hc, h⟩ := hp h
    exact ⟨c, List.mem_append_left b hc, h⟩
  · obtain ⟨c, hc, h⟩ := hq h
    exact ⟨c, List.mem_append_right a hc, h⟩

theorem ShowsIf.of_imp {p q : Prop} {s rest : List Char} (h : ShowsIf q s rest) (hpq : p → q) :
    ShowsIf p s rest := h.imp fun _ h => ⟨h.1, h.2 ∘ hpq⟩

theorem showsIf_plain {s : List Char} (hs : '"' ∉ s) (rest : List Char) : ShowsIf False s rest :=
  showsIf_of_shows (shows_append hs rest) not_false

theorem showsIf_quotedChars (asciiOnly : Bool) (said rest : List Char) :
    ShowsIf False (quotedChars asciiOnly said) rest :=
  showsIf_of_shows (shows_quoted (quoted_quotedChars asciiOnly said rest)) not_false

/-- **A double that is not finite shows a capital letter.** -/
theorem showsIf_floatChars (x : Binary64) (rest : List Char) :
    ShowsIf (x.isFinite = false) (floatChars x) rest := by
  have hquote : '"' ∉ floatChars x := fun h => absurd ((isWord_float x).isWordChar _ h) (by decide)
  refine ⟨floatChars x, shows_append hquote rest, fun hx => ?_⟩
  cases x with
  | nan => exact ⟨'N', by decide, rfl⟩
  | infinite negative => cases negative <;> exact ⟨'I', by decide, rfl⟩
  | finite => cases hx

theorem showsIf_joinedBy {α : Type} {chars : α → List Char} {p : α → Prop} {gaps : List Char}
    (hgaps : ∀ c ∈ gaps, isGap c = true) {xs : List α}
    (h : ∀ x ∈ xs, ∀ rest, ShowsIf (p x) (chars x) rest) (rest : List Char) :
    ShowsIf (∃ x ∈ xs, p x) (joinedBy (',' :: gaps) (xs.map chars)) rest := by
  have hcomma (rest : List Char) : ShowsIf False (',' :: gaps) rest := by
    refine showsIf_plain ?_ rest
    rw [List.mem_cons, not_or]
    exact ⟨by decide, quote_not_mem_gaps hgaps⟩
  induction xs with
  | nil => exact ⟨[], rfl, by simp⟩
  | cons x xs ih =>
    have hx := h x List.mem_cons_self
    have hxs := ih fun y hy => h y (List.mem_cons_of_mem x hy)
    cases xs with
    | nil => exact (hx rest).of_imp (by simp)
    | cons y ys =>
      rw [List.map_cons, List.map_cons, joinedBy_cons_cons]
      refine (((hx _).append (hcomma _)).append hxs).of_imp ?_
      rintro ⟨z, hz, hp⟩
      rcases List.mem_cons.mp hz with rfl | hz
      · exact .inl (.inl hp)
      · exact .inr ⟨z, hz, hp⟩

/-- Brackets show nothing of their own. -/
theorem showsIf_bracketed {α : Type} {chars : α → List Char} {p : α → Prop} {gaps : List Char}
    (hgaps : ∀ c ∈ gaps, isGap c = true) {first last : Char} (hfirst : '"' ∉ [first])
    (hlast : '"' ∉ [last]) {xs : List α} (h : ∀ x ∈ xs, ∀ rest, ShowsIf (p x) (chars x) rest)
    (rest : List Char) :
    ShowsIf (∃ x ∈ xs, p x) (first :: (joinedBy (',' :: gaps) (xs.map chars) ++ [last])) rest :=
  ((showsIf_plain hfirst _).append
    ((showsIf_joinedBy hgaps h _).append (showsIf_plain hlast rest))).of_imp fun h => .inr (.inl h)

include hst in
/-- **What is written of a tree shows a capital letter if a double is not finite.** -/
theorem showsIf_write (j : Json) (rest : List Char) :
    ShowsIf (¬ j.AllFinite) (write style j) rest := by
  have hword {w : List Char} {j : Json} (hw : IsWord w j) (rest : List Char) :
      ShowsIf False w rest :=
    showsIf_plain (fun h => absurd (hw.isWordChar _ h) (by decide)) rest
  have hleaf {j : Json} (h : ∀ path x, ¬ j.At path (.float x)) : ¬ j.AllFinite → False :=
    fun hj => hj fun path x hp => absurd hp (h path x)
  obtain ⟨⟨gaps, hcomma, hgaps⟩, ⟨blanks, hcolon, hblanks⟩⟩ := id hst
  induction j using induction generalizing rest with
  | null => exact (hword isWord_null rest).of_imp (hleaf fun _ _ => nofun)
  | bool b => cases b with
    | true => exact (hword isWord_true rest).of_imp (hleaf fun _ _ => nofun)
    | false => exact (hword isWord_false rest).of_imp (hleaf fun _ _ => nofun)
  | int n => exact (hword (isWord_int n) rest).of_imp (hleaf fun _ _ => nofun)
  | float x =>
    exact (showsIf_floatChars x rest).of_imp fun h =>
      Bool.eq_false_iff.mpr fun hx => h (allFinite_float hx)
  | text said => exact (showsIf_quotedChars _ _ rest).of_imp (hleaf fun _ _ => nofun)
  | array items ih =>
    rw [write_array hcomma]
    refine (showsIf_bracketed hgaps (by decide) (by decide) ih rest).of_imp fun h => ?_
    rw [allFinite_array] at h
    push Not at h
    exact h
  | object members ih =>
    rw [write_object hcomma]
    have hm : ∀ m ∈ members, ∀ rest, ShowsIf (¬ m.2.AllFinite) (memberChars style m) rest := by
      intro m hm rest
      have hmark : '"' ∉ style.colon := by
        rw [hcolon, List.mem_cons, not_or]
        exact ⟨by decide, quote_not_mem_gaps hblanks⟩
      exact (((showsIf_quotedChars _ _ _).append (showsIf_plain hmark _)).append
        (ih m hm rest)).of_imp .inr
    refine (showsIf_bracketed hgaps (by decide) (by decide) hm rest).of_imp fun h => ?_
    rw [allFinite_object] at h
    push Not at h
    exact h

/-! ## The trees that are written as the grammar has it -/

include hst in
/-- **An object is one object of the grammar exactly where all its doubles are finite.** -/
theorem isObject_write_iff (members : List (String × Json)) :
    IsObject (write style (.object members)) ↔ (Json.object members).AllFinite := by
  constructor
  · rintro ⟨before, t, after, hbefore, hafter, hs, h⟩
    by_contra hfinite
    obtain ⟨shown, hshown, hcapital⟩ := showsIf_write hst (.object members) []
    obtain ⟨c, hc, hcap⟩ := hcapital hfinite
    -- the grammar shows the blanks around the object and what the object shows
    obtain ⟨inside, hinside, ht⟩ := exists_shows_of_derives h
    have hblank {gaps : List Char} (hgaps : ∀ c ∈ gaps, isGap c = true) (rest : List Char) :
        Shows (gaps ++ rest) gaps rest := shows_append (quote_not_mem_gaps hgaps) rest
    have hall : Shows (write style (.object members)) (before ++ inside ++ after) [] := by
      rw [hs]
      refine ((hblank hbefore t).trans ht).trans ?_
      have := hblank hafter []
      rwa [List.append_nil] at this
    have heq : shown = before ++ inside ++ after := by
      unfold Shows at hshown hall
      rw [List.append_nil, hall] at hshown
      simpa [bare] using hshown.symm
    rw [heq, List.mem_append, List.mem_append] at hc
    have hnot : isCapital c = false := by
      rcases hc with (hc | hc) | hc
      · exact (gap_ne (hbefore c hc)).2
      · exact hinside c hc
      · exact (gap_ne (hafter c hc)).2
    rw [hcap] at hnot
    cases hnot
  · intro hfinite
    have h := derives_object hst
      (fun m hm => derives_write hst m.2 (allFinite_object.mp hfinite m hm)) []
    rw [List.append_nil] at h
    exact ⟨[], _, [], nofun, nofun, rfl, h⟩

end DiscreetLog.Json
