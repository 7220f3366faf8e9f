import DiscreetLog.Text.Case

/-!
# The lower-case form of a part of a text

Lower-casing goes through a text character by character, and of all characters the capital sigma
alone looks at what stands around it. So a part of a text is lower-cased there as it is by itself
exactly where each sigma in it keeps its form (`lowerBetween_eq_iff`).

What is around a sigma within the part may settle its form already: a letter behind it, a character
that is no letter before it, or a letter before it and something else behind it. Where it does not,
the form is *open*, and there is a text around the part that changes it. A part is found in the
lower-case form of every text around it exactly if no form in it is open (`infix_lowerChars_iff`).
-/

namespace DiscreetLog.Text

/-- **The lower-case form of a part of a text**, between what stands before it, which is given last
character first, and what stands behind it. -/
def lowerBetween (before behind : List Char) : List Char → List Char
  | [] => []
  | c :: rest =>
    (if c = 'Σ' then [lowerSigma before (rest ++ behind)] else lowerChar c)
      ++ lowerBetween (c :: before) behind rest

/-- **The sigmas of a part keep their forms** between what stands before it and behind it. -/
def KeepsSigmas (before behind part : List Char) : Prop :=
  ∀ x y, part = x ++ 'Σ' :: y →
    lowerSigma (x.reverse ++ before) (y ++ behind) = lowerSigma x.reverse y

/-- **The form of a sigma is open**: no letter stands behind it, and either nothing that counts as a
neighbour stands before it, or a letter does and nothing that counts stands behind it. -/
def SigmaOpen (before behind : List Char) : Prop :=
  meetsCased behind = false
    ∧ (before.all transparent.has = true
      ∨ meetsCased before = true ∧ behind.all transparent.has = true)

instance (before behind : List Char) : Decidable (SigmaOpen before behind) :=
  inferInstanceAs (Decidable (_ ∧ _))

/-- **A text without open forms**: each sigma in it has its form by itself. -/
def Settled (s : List Char) : Prop := ∀ x y, s = x ++ 'Σ' :: y → ¬ SigmaOpen x.reverse y

variable {before behind : List Char}

/-! ## Parts -/

/-- A part that nothing stands behind. -/
theorem lowerBetween_nil (before s : List Char) :
    lowerBetween before [] s = lowerAfter before s := by
  induction s generalizing before with
  | nil => rfl
  | cons c rest ih => rw [lowerBetween, lowerAfter, List.append_nil, ih]

/-- **The form of a text is put together from those of its parts**, each between the others. -/
theorem lowerAfter_append (before s behind : List Char) :
    lowerAfter before (s ++ behind)
      = lowerBetween before behind s ++ lowerAfter (s.reverse ++ before) behind := by
  induction s generalizing before with
  | nil => rfl
  | cons c rest ih =>
    rw [List.cons_append, lowerAfter, ih, lowerBetween, List.append_assoc, List.reverse_cons,
      List.append_assoc, List.singleton_append]

/-- The form of a text in three parts. -/
theorem lowerChars_append (a s b : List Char) :
    lowerChars (a ++ s ++ b)
      = lowerBetween [] (s ++ b) a ++ lowerBetween a.reverse b s
        ++ lowerBetween (s.reverse ++ a.reverse) [] b := by
  rw [lowerChars, List.append_assoc, lowerAfter_append, lowerAfter_append, List.append_nil,
    lowerBetween_nil, List.append_assoc]

/-- **What stands around a part does not change the length of its form.** -/
theorem length_lowerBetween (before behind before' behind' s : List Char) :
    (lowerBetween before behind s).length = (lowerBetween before' behind' s).length := by
  induction s generalizing before before' with
  | nil => rfl
  | cons c rest ih =>
    rw [lowerBetween, lowerBetween, List.length_append, List.length_append,
      ih (c :: before) (c :: before')]
    split <;> rfl

theorem lowerChar_ne_nil (c : Char) : lowerChar c ≠ [] := by
  unfold lowerChar
  split
  · exact List.cons_ne_nil _ _
  · split <;> exact List.cons_ne_nil _ _

/-- The form of a text that is not empty is not empty. -/
theorem lowerChars_ne_nil {s : List Char} (hs : s ≠ []) : lowerChars s ≠ [] := by
  cases s with
  | nil => exact absurd rfl hs
  | cons c rest =>
    rw [lowerChars, lowerAfter]
    refine List.append_ne_nil_of_left_ne_nil ?_ _
    split
    · exact List.cons_ne_nil _ _
    · exact lowerChar_ne_nil c

/-- The rest of a part, behind what the part begins with, is lower-cased as it is without the text
around the part exactly if each sigma in it has the same form in both. -/
theorem lowerBetween_eq_lowerAfter_iff {s x : List Char} :
    lowerBetween (x ++ before) behind s = lowerAfter x s
      ↔ ∀ y z, s = y ++ 'Σ' :: z →
        lowerSigma (y.reverse ++ (x ++ before)) (z ++ behind) = lowerSigma (y.reverse ++ x) z := by
  induction s generalizing x with
  | nil => exact iff_of_true rfl fun y z h => absurd h (by simp)
  | cons c rest ih =>
    have hrest := @ih (c :: x)
    rw [List.cons_append] at hrest
    rw [lowerBetween, lowerAfter]
    constructor
    · intro h y z hs
      have hlen : ∀ d e : Char, (if c = 'Σ' then [d] else lowerChar c).length
          = (if c = 'Σ' then [e] else lowerChar c).length := fun _ _ => by split <;> rfl
      obtain ⟨hc, hr⟩ := List.append_inj h (hlen _ _)
      cases y with
      | nil =>
        obtain ⟨rfl, rfl⟩ := List.cons.inj hs
        rw [if_pos rfl, if_pos rfl] at hc
        exact (List.cons.inj hc).1
      | cons d y =>
        obtain ⟨rfl, rfl⟩ := List.cons.inj hs
        have hy := hrest.mp hr y z rfl
        simpa only [List.reverse_cons, List.append_assoc, List.singleton_append] using hy
    · intro h
      have hr := hrest.mpr fun y z hs => by
        have hy := h (c :: y) z (by rw [hs, List.cons_append])
        simpa only [List.reverse_cons, List.append_assoc, List.singleton_append] using hy
      rw [hr]
      split
      · rename_i hc
        have hhead := h [] rest (by rw [hc, List.nil_append])
        rw [List.reverse_nil, List.nil_append, List.nil_append] at hhead
        rw [hhead]
      · rfl

/-- **A part is lower-cased as it is by itself exactly if its sigmas keep their forms.** -/
theorem lowerBetween_eq_iff {s : List Char} :
    lowerBetween before behind s = lowerChars s ↔ KeepsSigmas before behind s := by
  have hs := @lowerBetween_eq_lowerAfter_iff before behind s []
  simp only [List.nil_append, List.append_nil] at hs
  exact hs

/-! ## Open forms -/

/-- **What does not count as a neighbour is looked through**, and the first that counts decides. -/
theorem meetsCased_append (side more : List Char) :
    meetsCased (side ++ more)
      = if side.all transparent.has then meetsCased more else meetsCased side := by
  induction side with
  | nil => rfl
  | cons c side ih =>
    cases hc : transparent.has c with
    | true =>
      have hdrop (s : List Char) : meetsCased (c :: s) = meetsCased s := by
        rw [meetsCased, meetsCased, List.dropWhile_cons_of_pos hc]
      rw [List.cons_append, hdrop, hdrop, ih, List.all_cons, hc, Bool.true_and]
    | false =>
      have hdrop (s : List Char) : meetsCased (c :: s) = cased.has c := by
        rw [meetsCased, List.dropWhile_cons_of_neg (by rw [hc]; exact Bool.false_ne_true)]
      rw [List.cons_append, hdrop, hdrop, List.all_cons, hc, Bool.false_and,
        if_neg Bool.false_ne_true]

theorem meetsCased_of_all {side : List Char} (h : side.all transparent.has = true) :
    meetsCased side = false := by
  have hn := meetsCased_append side []
  rw [List.append_nil, h, if_pos rfl] at hn
  exact hn

/-- **A form that is not open stays** whatever is around. -/
theorem lowerSigma_append_of_not_open (h : ¬ SigmaOpen before behind) (x y : List Char) :
    lowerSigma (before ++ x) (behind ++ y) = lowerSigma before behind := by
  have hnone {side : List Char} (hs : meetsCased side = true) :
      side.all transparent.has = false := Bool.eq_false_iff.mpr fun ha => by
    rw [meetsCased_of_all ha] at hs
    cases hs
  rw [lowerSigma, lowerSigma, meetsCased_append, meetsCased_append]
  cases hbehind : meetsCased behind with
  | true => simp only [hnone hbehind, Bool.false_eq_true, if_false, Bool.not_true, Bool.and_false]
  | false =>
    rw [SigmaOpen, not_and, not_or, not_and] at h
    obtain ⟨hb, hl⟩ := h hbehind
    rw [if_neg hb]
    cases hbefore : meetsCased before with
    | true => rw [if_neg (hl hbefore)]
    | false => simp only [Bool.false_and, Bool.false_eq_true, if_false]

/-- **A form that is open changes** where a letter comes to stand before it, or where one comes to
stand behind it. -/
theorem lowerSigma_append_ne_of_open (h : SigmaOpen before behind) :
    (∀ c, meetsCased [c] = true → lowerSigma (before ++ [c]) behind ≠ lowerSigma before behind)
      ∨ ∀ c, meetsCased [c] = true →
        lowerSigma before (behind ++ [c]) ≠ lowerSigma before behind := by
  obtain ⟨hbehind, hb | ⟨hbefore, hl⟩⟩ := h
  · refine .inl fun c hc => ?_
    rw [lowerSigma, lowerSigma, meetsCased_append, hb, if_pos rfl, hc, hbehind,
      meetsCased_of_all hb]
    decide
  · refine .inr fun c hc => ?_
    rw [lowerSigma, lowerSigma, meetsCased_append, hl, if_pos rfl, hc, hbehind, hbefore]
    decide

/-! ## Finding a part -/

/-- **A part whose sigmas keep their forms is found** in the lower-case form of the text. -/
theorem KeepsSigmas.infix_lowerChars {a s b : List Char} (h : KeepsSigmas a.reverse b s) :
    lowerChars s <:+: lowerChars (a ++ s ++ b) := by
  rw [lowerChars_append, lowerBetween_eq_iff.mpr h]
  exact List.infix_append _ _ _

/-- A small letter that is lower-cased as itself, and is not a given one. -/
theorem exists_letter_ne (d : Char) :
    ∃ c, c ≠ d ∧ (∀ before behind, lowerBetween before behind [c] = [c])
      ∧ meetsCased [c] = true := by
  have hform {c : Char} (hc : c ≠ 'Σ') (hl : lowerChar c = [c]) (before behind : List Char) :
      lowerBetween before behind [c] = [c] := by
    rw [lowerBetween, if_neg hc, hl]
    rfl
  by_cases hd : d = 'a'
  · exact ⟨'b', by rw [hd]; decide, hform (by decide) (by decide +kernel), by decide +kernel⟩
  · exact ⟨'a', Ne.symm hd, hform (by decide) (by decide +kernel), by decide +kernel⟩

/-- Behind one more item a list is found only as what it was behind, if that item is not the first
one of the list. -/
theorem eq_of_infix_cons {l l' : List Char} {c : Char} (hl : l ≠ []) (hc : c ≠ l.head hl)
    (hlen : l.length = l'.length) (h : l <:+: c :: l') : l = l' := by
  rcases List.infix_cons_iff.mp h with hp | hi
  · rcases List.prefix_cons_iff.mp hp with rfl | ⟨t, rfl, -⟩
    · exact absurd rfl hl
    · exact absurd rfl hc
  · exact hi.eq_of_length hlen

/-- Before one more item a list is found only as what it was before, if that item is not the last
one of the list. -/
theorem eq_of_infix_concat {l l' : List Char} {c : Char} (hl : l ≠ []) (hc : c ≠ l.getLast hl)
    (hlen : l.length = l'.length) (h : l <:+: l' ++ [c]) : l = l' := by
  rcases List.infix_concat_iff.mp h with hp | hi
  · rcases List.suffix_concat_iff.mp hp with rfl | ⟨t, rfl, -⟩
    · exact absurd rfl hl
    · exact absurd (List.getLast_concat ..).symm hc
  · exact hi.eq_of_length hlen

/-- **A part is found in every text around it exactly if no form in it is open.** Where one is, a
single letter before the part or behind it keeps the part from being found. -/
theorem infix_lowerChars_iff {s : List Char} (hs : s ≠ []) :
    (∀ a b, lowerChars s <:+: lowerChars (a ++ s ++ b)) ↔ Settled s := by
  constructor
  · intro h x y hxy ho
    have hne := lowerChars_ne_nil hs
    have hlen (before behind : List Char) :
        (lowerChars s).length = (lowerBetween before behind s).length := by
      rw [lowerChars, ← lowerBetween_nil]
      exact length_lowerBetween ..
    rcases lowerSigma_append_ne_of_open ho with hchange | hchange
    · obtain ⟨c, hc, hform, hcased⟩ := exists_letter_ne ((lowerChars s).head hne)
      have hfound := h [c] []
      rw [lowerChars_append, hform, lowerBetween, List.append_nil] at hfound
      have heq := eq_of_infix_cons hne hc (hlen _ _) hfound
      have hkeep := lowerBetween_eq_iff.mp heq.symm x y hxy
      rw [List.append_nil] at hkeep
      exact hchange c hcased hkeep
    · obtain ⟨c, hc, hform, hcased⟩ := exists_letter_ne ((lowerChars s).getLast hne)
      have hfound := h [] [c]
      rw [lowerChars_append, hform, lowerBetween, List.nil_append] at hfound
      have heq := eq_of_infix_concat hne hc (hlen _ _) hfound
      have hkeep := lowerBetween_eq_iff.mp heq.symm x y hxy
      rw [List.reverse_nil, List.append_nil] at hkeep
      exact hchange c hcased hkeep
  · intro h a b
    refine KeepsSigmas.infix_lowerChars fun x y hxy => ?_
    exact lowerSigma_append_of_not_open (h x y hxy) _ _

end DiscreetLog.Text
