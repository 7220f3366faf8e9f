import DiscreetLog.Masking
import DiscreetLog.Proofs.Text.Lower

/-!
# Which keys a token is found in

Token and key are lower-cased each by itself, and the token is then looked for in the key. A key
that contains the token as it is written is therefore sensitive unless lower-casing tells the two
apart. It does so in one case, that of a capital sigma at an end of the token, which ends a word in
one of the two and not in the other (`matchKey_of_contained`).
-/

namespace DiscreetLog

theorem Text.toList_lower (s : String) : (lower s).toList = lowerChars s.toList := by
  rw [lower, String.toList_ofList]

namespace Tokens

/-- **A token that is not blank is kept**, stripped and lower-cased. -/
theorem normalize_cons {t : String} (ht : Text.trim t ≠ "") (keys : List (Option String)) :
    normalize (some t :: keys) = Text.lower (Text.trim t) :: normalize keys := by
  have he : (Text.trim t).isEmpty = false := Bool.eq_false_iff.mpr fun he =>
    ht (String.isEmpty_iff.mp he)
  refine List.filterMap_cons_some ?_
  dsimp only
  rw [he, if_neg Bool.false_ne_true]

theorem mem_normalize {keys : List (Option String)} {t : String} (h : some t ∈ keys)
    (ht : Text.trim t ≠ "") : Text.lower (Text.trim t) ∈ normalize keys := by
  obtain ⟨before, behind, rfl⟩ := List.append_of_mem h
  rw [normalize, List.filterMap_append]
  refine List.mem_append_right _ ?_
  have hc := normalize_cons ht behind
  rw [normalize] at hc
  rw [hc]
  exact List.mem_cons_self

/-- **A key is sensitive exactly if a token is part of its lower-case form.** -/
theorem matchKey_eq_true_iff {tokens : Tokens} {key : String} :
    tokens.matchKey key = true
      ↔ ∃ token ∈ tokens, token.toList <:+: Text.lowerChars key.toList := by
  simp only [matchKey, List.any_eq_true, Text.contains, Text.occursIn_iff, Text.toList_lower]

/-- The characters of a key that contains a token. -/
theorem toList_around (a s b : String) :
    (a ++ s ++ b).toList = a.toList ++ s.toList ++ b.toList := by
  rw [String.toList_append, String.toList_append]

/-- **When a token is found in a key that contains it.** Let a token that is not blank be among
those that are configured, and a key contain it, without the blanks around it, as it is written. If
the capital sigmas of the token have in the key the forms that they have by themselves, the key is
sensitive, and an attribute under it is masked. Whatever the key, this is so exactly for the tokens
in which no sigma has an open form; any other is missed in some key that contains it. -/
theorem matchKey_of_contained {t : String} (ht : Text.trim t ≠ "") :
    (∀ a b keys, some t ∈ keys →
      Text.KeepsSigmas a.toList.reverse b.toList (Text.trim t).toList →
      (normalize keys).matchKey (a ++ Text.trim t ++ b) = true
        ∧ ∀ σ maxDepth v, Masking.attr σ (normalize keys) maxDepth ⟨a ++ Text.trim t ++ b, v⟩
          = pure ⟨a ++ Text.trim t ++ b, .text mask⟩)
      ∧ ((∀ a b keys, some t ∈ keys →
          (normalize keys).matchKey (a ++ Text.trim t ++ b) = true)
        ↔ Text.Settled (Text.trim t).toList) := by
  have hs : (Text.trim t).toList ≠ [] := fun h => ht (String.toList_eq_nil_iff.mp h)
  have found {a b : String} {keys : List (Option String)} (hk : some t ∈ keys)
      (h : Text.lowerChars (Text.trim t).toList
        <:+: Text.lowerChars (a.toList ++ (Text.trim t).toList ++ b.toList)) :
      (normalize keys).matchKey (a ++ Text.trim t ++ b) = true := by
    rw [matchKey_eq_true_iff]
    refine ⟨_, mem_normalize hk ht, ?_⟩
    rw [Text.toList_lower, toList_around]
    exact h
  refine ⟨fun a b keys hk h => ?_, ?_⟩
  · have hm := found hk h.infix_lowerChars
    refine ⟨hm, fun σ maxDepth v => ?_⟩
    rw [Masking.attr, Masking.attrWith, hm]
    rfl
  · rw [← Text.infix_lowerChars_iff hs]
    constructor
    · intro h a b
      have hm := h (String.ofList a) (String.ofList b) [some t] List.mem_cons_self
      rw [normalize_cons ht, matchKey_eq_true_iff] at hm
      obtain ⟨token, htoken, hi⟩ := hm
      rw [List.mem_singleton.mp htoken, Text.toList_lower, toList_around, String.toList_ofList,
        String.toList_ofList] at hi
      exact hi
    · exact fun h a b keys hk => found hk (h a.toList b.toList)

/-- A token that ends in a sigma is found in a key that ends in it. It is one of those that are
missed elsewhere. -/
theorem matchKey_of_contained_ending :
    let t : String := " ΠΑΣ"
    Text.trim t ≠ ""
      ∧ Text.KeepsSigmas "ΚΩΔ".toList.reverse [] (Text.trim t).toList
      ∧ (normalize [none, some t]).matchKey ("ΚΩΔ" ++ Text.trim t ++ "") = true
      ∧ ¬ ∀ a b keys, some t ∈ keys →
        (normalize keys).matchKey (a ++ Text.trim t ++ b) = true := by
  intro t
  have ht : Text.trim t ≠ "" := by decide
  have hkeep : Text.KeepsSigmas "ΚΩΔ".toList.reverse [] (Text.trim t).toList :=
    Text.lowerBetween_eq_iff.mp (by decide +kernel)
  have hopen : ¬ Text.Settled (Text.trim t).toList := fun hs =>
    hs ['Π', 'Α'] [] (by decide) (by decide +kernel)
  obtain ⟨hfound, hiff⟩ := matchKey_of_contained ht
  exact ⟨ht, hkeep, (hfound "ΚΩΔ" "" [none, some t] (by simp) hkeep).1, mt hiff.mp hopen⟩

/-- **A key may contain a token and not be sensitive.** By itself the token is no word and has the
sigma that stands inside words; behind a letter it ends one. -/
theorem not_matchKey_of_contained :
    Text.trim "Σ" = "Σ" ∧ (normalize [some "Σ"]).matchKey ("Α" ++ Text.trim "Σ" ++ "") = false
      ∧ (Masking.attrs [] (normalize [some "Σ"]) 32 [⟨"ΑΣ", .text "hunter2"⟩]).result
        = .ok [⟨"ΑΣ", .text "hunter2"⟩] := by
  have hkey : (normalize [some "Σ"]).matchKey "ΑΣ" = false := by decide +kernel
  refine ⟨by decide, by decide +kernel, ?_⟩
  rw [Masking.attrs, List.mapM_cons, Masking.attr, Masking.attrWith, hkey]
  rfl

end Tokens

end DiscreetLog
