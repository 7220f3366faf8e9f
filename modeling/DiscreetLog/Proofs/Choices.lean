import DiscreetLog.Proofs.Settings
import Mathlib.Data.List.TakeWhile

/-!
# A setting's own values chosen again

Settings are copied by choosing their own values again, so that what has been normalized is
normalized once more. The level, the outputs and the service are taken as they come, and tokens that
are settled are left alone. A form is missing or it is stripped and lower-cased, in this order. So a
form of blanks is not missing when it is chosen, though nothing is left of it, and is missing when
it is chosen again: it names flat lines at first and structured ones in a copy. Settings with any
other form are their own copies (`copied_ofChoices`).
-/

namespace DiscreetLog

namespace Text

/-- **Blanks are stripped to nothing**, and nothing else is. -/
theorem trimChars_eq_nil_iff {s : List Char} : trimChars s = [] ↔ ∀ c ∈ s, isBlank c = true := by
  rw [trimChars, List.reverse_eq_nil_iff, trimStart, trimStart, List.dropWhile_eq_nil_iff]
  constructor
  · intro h c hc
    rw [← List.takeWhile_append_dropWhile (p := isBlank) (l := s), List.mem_append] at hc
    rcases hc with hc | hc
    · exact List.mem_takeWhile_imp hc
    · exact h c (List.mem_reverse.mpr hc)
  · intro h c hc
    exact h c ((List.dropWhile_suffix isBlank).subset (List.mem_reverse.mp hc))

theorem trim_eq_empty_iff {s : String} : trim s = "" ↔ isBlankText s = true := by
  rw [← String.toList_eq_nil_iff, toList_trim, trimChars_eq_nil_iff, isBlankText,
    List.all_eq_true]

theorem lower_eq_empty_iff {s : String} : lower s = "" ↔ s = "" := by
  constructor
  · exact fun h => Decidable.byContradiction fun hs => lower_ne_empty hs h
  · rintro rfl
    rfl

end Text

namespace Settings

/-- **A form of blanks**: one is chosen, and there is nothing in it but blanks. -/
def IsBlankForm (choice : Option String) : Prop :=
  ∃ form, choice = some form ∧ form ≠ "" ∧ Text.isBlankText form = true

/-- **Settings copied**: their own values are chosen again. -/
def copied (s : Settings) : Settings := ofChoices s.choices

/-- A form that is chosen is stripped and lower-cased. -/
theorem formatOf_some {form : String} (h : form ≠ "") :
    formatOf (some form) = Text.lower (Text.trim form) := by
  unfold formatOf
  split
  · rename_i he
    cases he
  · rename_i he
    cases he
    exact absurd rfl h
  · rename_i he
    cases he
    rfl

/-- **Nothing is left of a form exactly if it is one of blanks.** -/
theorem formatOf_eq_empty_iff {choice : Option String} :
    formatOf choice = "" ↔ IsBlankForm choice := by
  have hmissing : ¬ formatOf none = "" := by decide
  cases choice with
  | none => exact iff_of_false hmissing fun ⟨_, h, _⟩ => nomatch h
  | some form =>
    by_cases h : form = ""
    · subst h
      refine iff_of_false hmissing ?_
      rintro ⟨_, he, hne, -⟩
      cases he
      exact hne rfl
    · rw [formatOf_some h, Text.lower_eq_empty_iff, Text.trim_eq_empty_iff]
      exact ⟨fun hb => ⟨form, rfl, h, hb⟩, fun ⟨_, he, _, hb⟩ => by cases he; exact hb⟩

/-- **A form that something is left of is left alone.** -/
theorem formatOf_formatOf {choice : Option String} (h : formatOf choice ≠ "") :
    formatOf (some (formatOf choice)) = formatOf choice := by
  have hform : ∃ form, formatOf choice = Text.lower (Text.trim form) := by
    unfold formatOf
    exact ⟨_, rfl⟩
  obtain ⟨form, hf⟩ := hform
  rw [formatOf_some h, hf, Text.trim_lower_trim, Text.lower_lower]

/-- **What a copy has**: all that the settings have, and the structured form if nothing is left of
theirs. -/
theorem copied_eq (c : Choices) :
    (ofChoices c).copied
      = { ofChoices c with
          format := if (ofChoices c).format = "" then "json" else (ofChoices c).format } := by
  have htokens : Tokens.normalize ((ofChoices c).tokens.map some) = (ofChoices c).tokens :=
    Tokens.normalize_normalize c.keys
  have hformat : formatOf (some (ofChoices c).format)
      = if (ofChoices c).format = "" then "json" else (ofChoices c).format := by
    split
    · rename_i h
      rw [h]
      decide
    · rename_i h
      exact formatOf_formatOf h
  rw [copied, ofChoices, choices, htokens, hformat]

/-- A copy has a form. -/
theorem format_copied_ne_empty (c : Choices) : (ofChoices c).copied.format ≠ "" := by
  rw [copied_eq]
  dsimp only
  split
  · decide
  · assumption

/-- **Settings are their own copies exactly if something is left of their form.** -/
theorem copied_eq_self_iff {c : Choices} :
    (ofChoices c).copied = ofChoices c ↔ (ofChoices c).format ≠ "" := by
  constructor
  · intro h
    rw [← h]
    exact format_copied_ne_empty c
  · intro h
    rw [copied_eq, if_neg h]

/-- **Where nothing is left of a form, a copy writes lines of the other kind.** -/
theorem lineSink_copied_eq_iff {c : Choices} (w : Writer) :
    (ofChoices c).copied.lineSink w = (ofChoices c).lineSink w ↔ (ofChoices c).format ≠ "" := by
  by_cases h : (ofChoices c).format = ""
  · have hflat : (ofChoices c).lineSink w = .flat (.root (ofChoices c).threshold true) w := by
      rw [lineSink, h]
      exact if_neg (by decide)
    have hstructured : ∃ scope, (ofChoices c).copied.lineSink w = .structured scope w := by
      rw [lineSink, copied_eq, if_pos h]
      exact ⟨_, if_pos rfl⟩
    obtain ⟨scope, hs⟩ := hstructured
    rw [hflat, hs]
    exact iff_of_false (fun he => nomatch he) fun hne => hne h
  · rw [copied_eq_self_iff.mpr h]
    exact iff_of_true rfl h

/-- **Settings are their own copies unless their form is one of blanks.** A copy has the level, the
outputs, the tokens and the service of the settings in any case, and is its own copy. Its form, and
with it the kind of line that is written, is that of the settings exactly if the settings were not
made with a form of blanks, whether by a program or by an environment. -/
theorem copied_ofChoices (c : Choices) (env : Environment) :
    let s := ofChoices c
    (s.copied = s ↔ ¬ IsBlankForm c.format)
      ∧ (∀ w, s.copied.lineSink w = s.lineSink w ↔ ¬ IsBlankForm c.format)
      ∧ s.copied = { s with format := s.copied.format }
      ∧ s.copied.copied = s.copied
      ∧ ((ofEnvironment env).copied = ofEnvironment env
        ↔ ¬ IsBlankForm (env.lookup "LOG_FORMAT")) := by
  intro s
  have hblank (c : Choices) : (ofChoices c).format ≠ "" ↔ ¬ IsBlankForm c.format :=
    not_congr formatOf_eq_empty_iff
  refine ⟨copied_eq_self_iff.trans (hblank c), fun w => (lineSink_copied_eq_iff w).trans (hblank c),
    ?_, copied_eq_self_iff.mpr (format_copied_ne_empty c), ?_⟩
  · rw [copied_eq]
  · refine copied_eq_self_iff.trans ((hblank (choicesOf env)).trans (not_congr ?_))
    show IsBlankForm (some ((env.lookup "LOG_FORMAT").getD "json")) ↔ _
    cases env.lookup "LOG_FORMAT" with
    | none =>
      exact iff_of_false (mt formatOf_eq_empty_iff.mpr (by decide)) fun ⟨_, h, _⟩ => nomatch h
    | some form => rfl

/-- **A form of blanks is not that of the copy.** It makes flat lines, and the copy makes structured
ones. -/
theorem copied_ne_of_blank :
    let s := ofChoices { Choices.default with format := some " ", toStdout := true }
    s.copied ≠ s
      ∧ s.lineSink [.stdout] = .flat (.root .info true) [.stdout]
      ∧ s.copied.lineSink [.stdout] = .structured (.root .info true) [.stdout] := by
  intro s
  have hform : s.format = "" := by decide +kernel
  have hthreshold : s.threshold = .info := by decide +kernel
  have hcopied : s.copied = { s with format := "json" } :=
    (copied_eq _).trans (by rw [if_pos hform])
  refine ⟨mt copied_eq_self_iff.mp (not_not_intro hform), ?_, ?_⟩
  · rw [lineSink, hform, hthreshold]
    exact if_neg (by decide)
  · rw [hcopied, lineSink, if_pos rfl]
    exact congrArg (Sink.structured · [.stdout]) (congrArg (Scope.root · true) hthreshold)

end Settings

end DiscreetLog
