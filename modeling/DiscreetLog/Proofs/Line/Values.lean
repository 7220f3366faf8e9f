import DiscreetLog.Proofs.Json.Grammar
import DiscreetLog.Proofs.Line.Pairs

/-!
# Values side by side

Values are written one behind the other, with a blank between them. One that begins with a quote is
a quoted text, which ends at the first quote that is not escaped, and says what is displayed. Any
other one is what is displayed, and has none of the characters by which it could be taken for
something else (`Says`). So what stands side by side is taken apart again, whatever is displayed
(`values_say`).
-/

namespace DiscreetLog.Line

variable {σ : Objects}

/-! ## One value -/

/-- **How a value that is written says what is displayed.** -/
structure Says (said written : String) : Prop where
  /-- Behind a quote a quoted text begins, which goes up to the end. -/
  quoted : written.toList.head? = some '"' →
    Json.Quoted written.toList [] ∧ Json.readQuoted? written.toList.tail = some (said.toList, [])
  /-- Anything else is what is displayed, in characters that need no quotes. -/
  plain : written.toList.head? ≠ some '"' → written = said ∧ said ≠ ""
    ∧ ∀ c ∈ said.toList, Text.isBlank c = false ∧ Text.isPrintable c = true
      ∧ c ≠ '=' ∧ c ≠ '"' ∧ c ≠ '\\'
  /-- A value has no controls. -/
  noControl : ∀ c ∈ written.toList, 0x20 ≤ c.toNat

/-- A character that a value can have without quotes. -/
theorem isAwkward_eq_false_iff {c : Char} :
    isAwkward c = false
      ↔ Text.isBlank c = false ∧ Text.isPrintable c = true ∧ c ≠ '=' ∧ c ≠ '"' ∧ c ≠ '\\' := by
  simp only [isAwkward, Bool.or_eq_false_iff, decide_eq_false_iff_not, Bool.not_eq_false']
  tauto

/-- A control cannot be shown. -/
theorem le_of_isPrintable {c : Char} (h : Text.isPrintable c = true) : 0x20 ≤ c.toNat := by
  have hall : ∀ n < 0x20, Text.isPrintable (Char.ofNat n) = false := by decide
  by_contra hc
  have hn := hall c.toNat (by omega)
  rw [Char.ofNat_toNat, h] at hn
  cases hn

/-- **A value says what is displayed.** -/
theorem says_withQuotes (said : String) : Says said (withQuotes said) := by
  rw [withQuotes]
  cases hq : needsQuotes said with
  | true =>
    have hwritten := Json.quotedChars_append false said.toList []
    rw [List.append_nil] at hwritten
    rw [if_pos rfl, Json.quoted]
    refine ⟨fun _ => ⟨?_, ?_⟩, fun hne => ?_, fun c hc => ?_⟩
    · rw [String.toList_ofList, ← List.append_nil (Json.quotedChars _ _)]
      exact Json.quoted_quotedChars false said.toList []
    · rw [String.toList_ofList, hwritten, List.tail_cons]
      exact Json.readQuoted?_eq false said.toList []
    · rw [String.toList_ofList, hwritten] at hne
      exact absurd rfl hne
    · rw [String.toList_ofList] at hc
      exact Json.le_of_mem_quotedChars hc
  | false =>
    obtain ⟨hne, hplain⟩ := not_isAwkward hq
    have hplain := fun c hc => isAwkward_eq_false_iff.mp (hplain c hc)
    rw [if_neg (by decide)]
    refine ⟨fun hhead => ?_, fun _ => ⟨rfl, fun he => ?_, hplain⟩, fun c hc => ?_⟩
    · exact absurd rfl (hplain _ (List.mem_of_head? hhead)).2.2.2.1
    · exact hne (String.toList_eq_nil_iff.mpr he)
    · exact le_of_isPrintable (hplain c hc).2.1

/-! ## Values with blanks between them -/

/-- Values are read, one or more. -/
def readValues? : Nat → List Char → Option (List String)
  | 0, _ => none
  | steps + 1, s => do
    let (said, rest) ← readToken? s
    match rest with
    | [] => some [String.ofList said]
    | ' ' :: rest => (readValues? steps rest).map (String.ofList said :: ·)
    | _ => none

/-- **What the values of a text say.** -/
def valuesOf? (text : String) : Option (List String) :=
  if text = "" then some [] else readValues? text.toList.length text.toList

/-- **Values are read back.** -/
theorem readValues?_eq (said : String) (saids : List String) {steps : Nat}
    (hsteps : saids.length < steps) :
    readValues? steps ((withQuotes said).toList
        ++ (saids.map withQuotes).flatMap fun written => ' ' :: written.toList)
      = some (said :: saids) := by
  obtain ⟨steps, rfl⟩ : ∃ n, steps = n + 1 := ⟨steps - 1, by omega⟩
  induction saids generalizing said steps with
  | nil =>
    rw [List.map_nil, List.flatMap_nil, readValues?, readToken?_withQuotes said Text.stops_nil]
    dsimp only [Option.bind_eq_bind, Option.bind_some]
    rw [String.ofList_toList]
  | cons next saids ih =>
    obtain ⟨steps, rfl⟩ : ∃ n, steps = n + 1 := ⟨steps - 1, by simp at hsteps; omega⟩
    rw [List.map_cons, List.flatMap_cons, List.cons_append, readValues?,
      readToken?_withQuotes said (Text.stops_cons (by decide) _)]
    show (readValues? (steps + 1) _).map _ = _
    rw [ih next steps (by simp at hsteps; omega), String.ofList_toList]
    rfl

/-- What is written is not empty. -/
theorem withQuotes_ne_empty (said : String) : withQuotes said ≠ "" := by
  intro he
  have hsays := says_withQuotes said
  rw [he] at hsays
  obtain ⟨rfl, hne, -⟩ := hsays.plain (by decide)
  exact hne rfl

/-- **Values with blanks between them are read back**, whatever they display. -/
theorem valuesOf?_eq (saids : List String) :
    valuesOf? (" ".intercalate (saids.map withQuotes)) = some saids := by
  cases saids with
  | nil => rfl
  | cons said saids =>
    have hcount : saids.length
        ≤ ((saids.map withQuotes).flatMap fun written => ' ' :: written.toList).length := by
      rw [List.flatMap_map]
      exact Text.length_le_flatMap (fun _ => List.cons_ne_nil _ _) saids
    have hfirst : 0 < (withQuotes said).toList.length :=
      List.length_pos_iff.mpr (mt String.toList_eq_nil_iff.mp (withQuotes_ne_empty said))
    have hchars : (" ".intercalate ((said :: saids).map withQuotes)).toList
        = (withQuotes said).toList
          ++ (saids.map withQuotes).flatMap fun written => ' ' :: written.toList :=
      Text.toList_intercalate_cons " " (withQuotes said) (saids.map withQuotes)
    have hlength := congrArg List.length hchars
    rw [List.length_append] at hlength
    have hne : " ".intercalate ((said :: saids).map withQuotes) ≠ "" := by
      intro he
      rw [he, String.toList_empty, List.length_nil] at hlength
      omega
    rw [valuesOf?, if_neg hne, hlength, hchars]
    exact readValues?_eq said saids (by omega)

/-- **Values side by side say what is displayed.** Where a list of values can be displayed, each of
them can be written. The text that has them with blanks between them is read back as what is
displayed, value by value; and each of them says it either as a quoted text up to the quote that
ends it, or as it is, without blanks, characters that cannot be shown, equals signs, quotes and
backslashes. No control stands in any. -/
theorem values_say {vs : List Value} {saids : List String}
    (h : vs.mapM (display σ) = .ok saids) :
    ∃ written, vs.mapM (value σ) = .ok written
      ∧ valuesOf? (" ".intercalate written) = some saids
      ∧ List.Forall₂ Says saids written := by
  have hvalue : value σ = fun v => (display σ v).map withQuotes := by
    funext v
    rw [value]
    cases display σ v <;> rfl
  refine ⟨saids.map withQuotes, ?_, valuesOf?_eq saids, ?_⟩
  · rw [hvalue, Results.mapM_map, h]
    rfl
  · exact List.forall₂_map_right_iff.mpr (List.forall₂_same.mpr fun said _ => says_withQuotes said)

/-- A text that is empty, one that looks like the end of a quoted text and the begin of another, a
place, a mapping that holds a text with an escape in it, a text with a separator of lines, and one
that needs no quotes. -/
theorem values_say_nested :
    let vs : List Value := [.text "", .text "\\\" \"",
      .node none (.site ⟨.text "app.py", .int 3, .null⟩),
      .node none (.mapping .plain [(.text "k", .text "\\n=\n")]), .text "a\u2028b", .null]
    let saids := ["", "\\\" \"", "app.py:3", "\x7b\"k\":\"\\\\n=\\n\"\x7d", "a\u2028b", "None"]
    vs.mapM (display []) = .ok saids
      ∧ ∃ written, vs.mapM (value []) = .ok written
        ∧ valuesOf? (" ".intercalate written) = some saids
        ∧ List.Forall₂ Says saids written := by
  intro vs saids
  have h : vs.mapM (display []) = .ok saids := rfl
  exact ⟨h, values_say h⟩

end DiscreetLog.Line
