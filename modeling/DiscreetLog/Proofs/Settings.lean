import DiscreetLog.Proofs.Host.Actions
import DiscreetLog.Proofs.Text.Small
import DiscreetLog.Proofs.Tokens
import DiscreetLog.Setup

/-!
# One set of tokens from everywhere

Tokens come from a caller, from chosen settings or from the environment, as a list or as a text
with commas, and on the way to the stage that masks by them they are stripped and lower-cased up to
three times. A token that has been through it once is *settled* (`Tokens.Settled`): it is not
stripped again, it is in lower case, and it is not blank. Settled tokens are left alone however they
are read, so all ways lead to the same tokens (`Settings.tokens_agree`).
-/

namespace DiscreetLog

open DiscreetLog.Action

namespace Text

theorem toList_trim (s : String) : (trim s).toList = trimChars s.toList := by
  rw [trim, String.toList_ofList]

/-- **A text that has been stripped and lower-cased is left alone.** -/
theorem trim_lower_trim (s : String) : trim (lower (trim s)) = lower (trim s) := by
  rw [trim, toList_lower, toList_trim, trimChars_lowerChars, lower, toList_trim]

theorem lower_lower (s : String) : lower (lower s) = lower s := by
  rw [lower, toList_lower, lowerChars_lowerChars, lower]

theorem lower_ne_empty {s : String} (h : s ≠ "") : lower s ≠ "" := by
  rw [Ne, ← String.toList_eq_nil_iff, toList_lower]
  exact lowerChars_ne_nil (mt String.toList_eq_nil_iff.mp h)

end Text

namespace Tokens

/-- **A settled token**: it is stripped, in lower case, and not blank. -/
structure Settled (t : String) : Prop where
  trim_eq : Text.trim t = t
  lower_eq : Text.lower t = t
  ne_empty : t ≠ ""

/-- **The tokens of a list** are its items that are not blank, stripped and lower-cased. -/
theorem mem_normalize_iff {keys : List (Option String)} {t : String} :
    t ∈ normalize keys
      ↔ ∃ key, some key ∈ keys ∧ Text.trim key ≠ "" ∧ Text.lower (Text.trim key) = t := by
  constructor
  · intro h
    obtain ⟨key?, hkey, h⟩ := List.mem_filterMap.mp h
    cases key? with
    | none => cases h
    | some key =>
      dsimp only at h
      split at h
      · cases h
      · rename_i hb
        refine ⟨key, hkey, fun he => hb (String.isEmpty_iff.mpr he), Option.some.inj h⟩
  · rintro ⟨key, hkey, hb, rfl⟩
    exact mem_normalize hkey hb

/-- **What has been normalized is settled.** -/
theorem settled_of_mem_normalize {keys : List (Option String)} {t : String}
    (h : t ∈ normalize keys) : Settled t := by
  obtain ⟨key, -, hb, rfl⟩ := mem_normalize_iff.mp h
  exact ⟨Text.trim_lower_trim key, Text.lower_lower _, Text.lower_ne_empty hb⟩

/-- **Settled tokens are left alone.** -/
theorem normalize_of_settled {ts : Tokens} (h : ∀ t ∈ ts, Settled t) :
    normalize (ts.map some) = ts := by
  induction ts with
  | nil => rfl
  | cons t ts ih =>
    have ht := h t List.mem_cons_self
    rw [List.map_cons, normalize_cons (ht.trim_eq.symm ▸ ht.ne_empty), ht.trim_eq, ht.lower_eq,
      ih fun u hu => h u (List.mem_cons_of_mem t hu)]

theorem normalize_normalize (keys : List (Option String)) :
    normalize ((normalize keys).map some) = normalize keys :=
  normalize_of_settled fun _ => settled_of_mem_normalize

end Tokens

namespace Settings

/-! ## Lists with commas -/

/-- **A text with commas is the list of its parts.** -/
theorem parseKeys_eq_normalize (s : String) :
    parseKeys (some s) = Tokens.normalize ((Text.splitAt ',' s).map some) := by
  unfold parseKeys Tokens.normalize
  split
  · rename_i h
    cases h
  · rename_i h
    cases h
    rfl
  · rename_i h
    cases h
    rw [List.filterMap_map]
    rfl

/-- A token that was read from between commas has none in it. -/
theorem comma_not_mem_of_mem_parseKeys {s t : String} (h : t ∈ parseKeys (some s)) :
    ',' ∉ t.toList := by
  rw [parseKeys_eq_normalize] at h
  obtain ⟨key, hkey, -, rfl⟩ := Tokens.mem_normalize_iff.mp h
  obtain ⟨part, hpart, hk⟩ := List.mem_map.mp hkey
  cases hk
  obtain ⟨cs, hcs, rfl⟩ := List.mem_map.mp hpart
  rw [Text.toList_lower, Text.toList_trim, String.toList_ofList]
  exact Text.comma_not_mem_lowerChars fun hm =>
    Text.not_mem_of_mem_partsAt hcs (Text.mem_of_mem_trimChars hm)

/-- **Settled tokens without commas can be written with commas between them.** -/
theorem parseKeys_intercalate {ts : Tokens} (h : ∀ t ∈ ts, Tokens.Settled t ∧ ',' ∉ t.toList) :
    parseKeys (some (",".intercalate ts)) = ts := by
  cases ts with
  | nil => rfl
  | cons t ts =>
    have hparts : ∀ part ∈ (t :: ts).map String.toList, ',' ∉ part := by
      intro part hpart
      obtain ⟨u, hu, rfl⟩ := List.mem_map.mp hpart
      exact (h u hu).2
    have hne : (t :: ts).map String.toList ≠ [] := List.cons_ne_nil _ _
    have hsplit : Text.splitAt ',' (",".intercalate (t :: ts)) = t :: ts := by
      rw [Text.splitAt, String.toList_intercalate, show ",".toList = [','] from rfl,
        Text.partsAt_intercalate hne hparts, List.map_map]
      exact List.map_id'' (fun s => String.ofList_toList) _
    rw [parseKeys_eq_normalize, hsplit]
    exact Tokens.normalize_of_settled fun u hu => (h u hu).1

/-! ## The tokens of settings -/

/-- The choices that an environment makes have settled tokens, so they are those that are written
there. -/
theorem tokens_ofEnvironment (env : Environment) :
    (ofEnvironment env).tokens = parseKeys (env.lookup "LOG_REDACTED_KEYS") := by
  have hkeys : (ofEnvironment env).tokens
      = Tokens.normalize ((parseKeys (env.lookup "LOG_REDACTED_KEYS")).map some) := rfl
  rw [hkeys]
  cases env.lookup "LOG_REDACTED_KEYS" with
  | none => rfl
  | some s => rw [parseKeys_eq_normalize, Tokens.normalize_normalize]

/-- The chain that a set-up puts above another one. -/
theorem run_withMasking_eq (s : Settings) (c : Chain) (h : Host) :
    ∃ h', (s.withMasking c).run h
      = (.ok (if s.tokens.isEmpty then c
          else .masking ⟨Tokens.normalize (s.tokens.map some), none, defaultDepth⟩ c), h') := by
  unfold withMasking
  split
  · exact ⟨_, rfl⟩
  · exact ⟨_, rfl⟩

/-- **All ways lead to the same tokens.** A text with commas gives the tokens of its parts, read by
itself or chosen as a list. Chosen keys give the tokens that a masking stage would make of them
directly. Tokens that have been normalized are left alone, whether they are normalized again, chosen
again or written with commas and read again. So the tokens of the environment are those that are
written there, and those that a masking stage has after a set-up are those of the keys that were
chosen. -/
theorem tokens_agree (s : String) (keys : List (Option String)) (c : Choices) :
    let parts := (Text.splitAt ',' s).map some
    let ofKeys (keys : List (Option String)) : Settings := ofChoices { c with keys }
    Tokens.normalize parts = parseKeys (some s)
      ∧ (ofKeys parts).tokens = parseKeys (some s)
      ∧ (ofKeys keys).tokens = Tokens.normalize keys
      ∧ Tokens.normalize ((Tokens.normalize keys).map some) = Tokens.normalize keys
      ∧ (ofKeys ((ofKeys keys).tokens.map some)).tokens = (ofKeys keys).tokens
      ∧ parseKeys (some (",".intercalate (parseKeys (some s)))) = parseKeys (some s)
      ∧ (∀ env, (ofEnvironment env).tokens = parseKeys (env.lookup "LOG_REDACTED_KEYS"))
      ∧ ∀ inner h, ∃ h', ((ofKeys keys).withMasking inner).run h
        = (.ok (if (Tokens.normalize keys).isEmpty then inner
            else .masking ⟨Tokens.normalize keys, none, defaultDepth⟩ inner), h') := by
  intro parts ofKeys
  refine ⟨(parseKeys_eq_normalize s).symm, (parseKeys_eq_normalize s).symm, rfl,
    Tokens.normalize_normalize keys, Tokens.normalize_normalize keys, ?_, tokens_ofEnvironment, ?_⟩
  · refine parseKeys_intercalate fun t ht => ⟨?_, comma_not_mem_of_mem_parseKeys ht⟩
    rw [parseKeys_eq_normalize] at ht
    exact Tokens.settled_of_mem_normalize ht
  · intro inner h
    obtain ⟨h', hrun⟩ := (ofKeys keys).run_withMasking_eq inner h
    have htokens : (ofKeys keys).tokens = Tokens.normalize keys := rfl
    rw [htokens, Tokens.normalize_normalize] at hrun
    exact ⟨h', hrun⟩

end Settings

end DiscreetLog
