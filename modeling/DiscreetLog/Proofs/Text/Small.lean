import DiscreetLog.Proofs.Text.Lower
import DiscreetLog.Proofs.Text.Parts
import DiscreetLog.Text.Blank

/-!
# Lower-casing is done once

Small letters are no capitals. That is a property of the table and of nothing else: no run of
capitals meets the small letters of a run (`CaseRow.apart`), and neither does a run of blanks, the
comma, the capital sigma or the dotted capital I. So a text in lower case is its own lower-case form
(`lowerChars_lowerChars`), and lower-casing makes no blank and no comma where there was none.

A text without blanks around it therefore has none around its lower-case form either, and what has
been stripped and lower-cased once stays as it is (`trimChars_lowerChars`).
-/

namespace DiscreetLog.Text

/-! ## Small letters in the table -/

namespace CaseRow

/-- The small letter of the first capital of a run. -/
def firstSmall (r : CaseRow) : Nat := (r.first + r.shift).toNat

/-- The small letter of the last capital of a run. -/
def lastSmall (r : CaseRow) : Nat := (r.last + r.shift).toNat

/-- The small letters of a run are not among the code points between two others. -/
def avoids (r : CaseRow) (first last : Nat) : Bool :=
  Nat.blt r.lastSmall first || Nat.blt last r.firstSmall

/-- **The small letters of a run are not among the capitals of another**: they stand apart, or the
two alternate. -/
def apart (r q : CaseRow) : Bool :=
  r.avoids q.first q.last
    || (q.step == 2 && (r.step == 2 || r.first == r.last) && (r.firstSmall + q.first) % 2 == 1)

variable {r q : CaseRow} {n : Nat}

/-- The small letters of a run stand between that of the first capital and that of the last. -/
theorem small_mem (h : r.holds n = true) :
    r.firstSmall ≤ (n + r.shift).toNat ∧ (n + r.shift).toNat ≤ r.lastSmall := by
  simp only [holds, Bool.and_eq_true, decide_eq_true_eq] at h
  unfold firstSmall lastSmall
  omega

/-- What a run avoids is none of its small letters. -/
theorem not_mem_of_avoids {first last : Nat} (ha : r.avoids first last = true)
    (h : r.holds n = true) : ¬ (first ≤ (n + r.shift).toNat ∧ (n + r.shift).toNat ≤ last) := by
  have hm := small_mem h
  simp only [avoids, Bool.or_eq_true, Nat.blt_eq] at ha
  omega

/-- **A run that stands apart holds none of the small letters.** -/
theorem holds_small_of_apart (ha : r.apart q = true) (hr : 0 ≤ r.first + r.shift)
    (h : r.holds n = true) : q.holds (n + r.shift).toNat = false := by
  rw [apart, Bool.or_eq_true] at ha
  refine Bool.eq_false_iff.mpr fun hq => ?_
  simp only [holds, Bool.and_eq_true, decide_eq_true_eq] at hq
  rcases ha with ha | ha
  · exact not_mem_of_avoids ha h hq.1
  · simp only [Bool.and_eq_true, Bool.or_eq_true, beq_iff_eq] at ha
    obtain ⟨⟨hstep, hone⟩, hodd⟩ := ha
    simp only [holds, Bool.and_eq_true, decide_eq_true_eq] at h
    rw [hstep] at hq
    unfold firstSmall at hodd
    rcases hone with htwo | hone
    · rw [htwo] at h
      omega
    · omega

end CaseRow

/-- Code points that no capital is lower-cased to: the comma, the dotted capital I, the capital
sigma, those that are no characters, and the blanks. -/
def neverSmall : CharSet :=
  [(0x2C, 0x2C), (0x130, 0x130), (0x3A3, 0x3A3), (0xD800, 0xDFFF)] ++ blanks

/-- **Small letters are no capitals**, said of the table. -/
theorem capitals_apart :
    (capitals.all fun r => 0 ≤ r.first + r.shift && Nat.blt r.lastSmall 0x110000
    && (capitals.all r.apart && neverSmall.all fun s => r.avoids s.1 s.2)) = true := by
  decide +kernel

/-! ## Small letters -/

/-- **A character that stands in the lower-case form of another one.** It is its own lower-case
form, and it is a blank or a comma only if the other one is. -/
structure Small (c d : Char) : Prop where
  ne_sigma : d ≠ 'Σ'
  lowerChar_eq : lowerChar d = [d]
  isBlank_eq : isBlank c = false → isBlank d = false
  ne_comma : c ≠ ',' → d ≠ ','

theorem toNat_ofNat {n : Nat} (h : n.isValidChar) : (Char.ofNat n).toNat = n := by
  rw [Char.ofNat, dif_pos h]
  rfl

/-- The small letter of a capital. -/
theorem small_of_holds {c : Char} {r : CaseRow} (hr : r ∈ capitals) (hc : r.holds c.toNat = true) :
    Small c (Char.ofNat (c.toNat + r.shift).toNat) := by
  have htable := List.all_eq_true.mp capitals_apart r hr
  simp only [Bool.and_eq_true, decide_eq_true_eq, Nat.blt_eq, List.all_eq_true] at htable
  obtain ⟨⟨hfirst, hlast⟩, hapart, havoids⟩ := htable
  generalize hn : (c.toNat + r.shift).toNat = n
  have hnever (s : Nat × Nat) (hs : s ∈ neverSmall) : ¬ (s.1 ≤ n ∧ n ≤ s.2) := by
    rw [← hn]
    exact CaseRow.not_mem_of_avoids (havoids s hs) hc
  have hvalid : n.isValidChar := by
    have hm := CaseRow.small_mem hc
    have hs := hnever (0xD800, 0xDFFF) (by simp [neverSmall])
    rw [hn] at hm
    unfold Nat.isValidChar
    omega
  have hne (d : Char) (hd : (d.toNat, d.toNat) ∈ neverSmall) : Char.ofNat n ≠ d := by
    rintro rfl
    rw [toNat_ofNat hvalid] at hd
    exact hnever _ hd ⟨Nat.le_refl n, Nat.le_refl n⟩
  have hnone : capitals.find? (·.holds n) = none := List.find?_eq_none.mpr fun q hq => by
    rw [← hn, CaseRow.holds_small_of_apart (hapart q hq) hfirst hc]
    exact Bool.false_ne_true
  refine ⟨hne _ (by simp [neverSmall]), ?_, fun _ => ?_, fun _ => hne _ (by simp [neverSmall])⟩
  · rw [lowerChar, if_neg (hne _ (by simp [neverSmall])), toNat_ofNat hvalid, hnone]
  · refine Bool.eq_false_iff.mpr fun hb => ?_
    obtain ⟨s, hs, hm⟩ := CharSet.has_iff.mp hb
    rw [toNat_ofNat hvalid] at hm
    exact hnever s (List.mem_append_right _ hs) hm

/-- **What a character is lower-cased to**, the capital sigma apart. -/
theorem small_of_mem_lowerChar {c d : Char} (hc : c ≠ 'Σ') (h : d ∈ lowerChar c) : Small c d := by
  unfold lowerChar at h
  split at h
  · -- the dotted capital I has a small form of two characters
    rename_i hi
    subst hi
    simp only [List.mem_cons, List.not_mem_nil, or_false] at h
    rcases h with rfl | rfl <;>
      exact ⟨by decide, by decide +kernel, fun _ => by decide, fun _ => by decide⟩
  · rename_i hi
    split at h
    · rename_i r hr
      cases List.mem_singleton.mp h
      have hholds := List.find?_some (p := fun r : CaseRow => r.holds c.toNat) hr
      exact small_of_holds (List.mem_of_find?_eq_some hr) hholds
    · rename_i hnone
      cases List.mem_singleton.mp h
      refine ⟨hc, ?_, id, id⟩
      rw [lowerChar, if_neg hi, hnone]

/-- A sigma is small in either form. -/
theorem small_lowerSigma (before after : List Char) : Small 'Σ' (lowerSigma before after) := by
  unfold lowerSigma
  split <;> exact ⟨by decide, by decide +kernel, fun _ => by decide, fun _ => by decide⟩

/-- **What a character in a text is lower-cased to.** -/
theorem small_of_mem {c d : Char} {before after : List Char}
    (h : d ∈ if c = 'Σ' then [lowerSigma before after] else lowerChar c) : Small c d := by
  split at h
  · rename_i hc
    rw [hc, List.mem_singleton.mp h]
    exact small_lowerSigma before after
  · rename_i hc
    exact small_of_mem_lowerChar hc h

/-- **Each character of a lower-case form comes of one of the text.** -/
theorem exists_small_of_mem {before s : List Char} {d : Char} (h : d ∈ lowerAfter before s) :
    ∃ c ∈ s, Small c d := by
  induction s generalizing before with
  | nil => cases h
  | cons c rest ih =>
    rcases List.mem_append.mp h with hc | hrest
    · exact ⟨c, List.mem_cons_self, small_of_mem hc⟩
    · obtain ⟨c', hc', hs⟩ := ih hrest
      exact ⟨c', List.mem_cons_of_mem c hc', hs⟩

/-! ## Texts in lower case -/

/-- **A text of small characters is its own lower-case form.** -/
theorem lowerAfter_eq_self {before s : List Char}
    (h : ∀ d ∈ s, d ≠ 'Σ' ∧ lowerChar d = [d]) : lowerAfter before s = s := by
  induction s generalizing before with
  | nil => rfl
  | cons d rest ih =>
    obtain ⟨hne, hd⟩ := h d List.mem_cons_self
    rw [lowerAfter, if_neg hne, hd, ih fun e he => h e (List.mem_cons_of_mem d he),
      List.singleton_append]

/-- **Lower-casing twice is lower-casing once.** -/
theorem lowerChars_lowerChars (s : List Char) : lowerChars (lowerChars s) = lowerChars s := by
  refine lowerAfter_eq_self fun d hd => ?_
  obtain ⟨_, -, hs⟩ := exists_small_of_mem hd
  exact ⟨hs.ne_sigma, hs.lowerChar_eq⟩

/-- **A text without commas is lower-cased to one without commas.** -/
theorem comma_not_mem_lowerChars {s : List Char} (h : ',' ∉ s) : ',' ∉ lowerChars s := by
  intro hm
  obtain ⟨c, hc, hs⟩ := exists_small_of_mem hm
  exact hs.ne_comma (fun he => h (he ▸ hc)) rfl

/-! ## Blanks around a text -/

theorem stops_dropWhile (p : Char → Bool) (s : List Char) : Stops p (s.dropWhile p) := by
  intro c hc
  have hn := List.head?_dropWhile_not p s
  rw [hc] at hn
  exact hn

/-- **A text that neither begins nor ends with a blank** is not stripped. -/
theorem trimChars_eq_self {s : List Char} (hs : Stops isBlank s) (he : Stops isBlank s.reverse) :
    trimChars s = s := by
  rw [trimChars, trimStart, trimStart, hs.takeWhile_eq.2, he.takeWhile_eq.2, List.reverse_reverse]

/-- **A text that is stripped neither begins nor ends with a blank.** -/
theorem stops_trimChars (s : List Char) :
    Stops isBlank (trimChars s) ∧ Stops isBlank (trimChars s).reverse := by
  constructor
  · -- what the end of the text is stripped to begins as the text does
    have hs : Stops isBlank (trimStart s) := stops_dropWhile isBlank s
    have hpart : trimChars s <+: trimStart s := by
      rw [trimChars, ← List.reverse_suffix, List.reverse_reverse]
      exact List.dropWhile_suffix isBlank
    obtain ⟨cut, hcut⟩ := hpart
    intro c hc
    refine hs c ?_
    rw [← hcut, List.head?_append, hc, Option.some_or]
  · rw [trimChars, List.reverse_reverse]
    exact stops_dropWhile isBlank _

/-- What a text is stripped to is part of it. -/
theorem mem_of_mem_trimChars {s : List Char} {c : Char} (h : c ∈ trimChars s) : c ∈ s := by
  have hstart {t : List Char} (h : c ∈ trimStart t) : c ∈ t :=
    (List.dropWhile_suffix isBlank).subset h
  exact hstart (List.mem_reverse.mp (hstart (List.mem_reverse.mp h)))

/-- A text begins as its first part does. -/
theorem stops_append {p : Char → Bool} {part : List Char} (hne : part ≠ [])
    (h : ∀ d ∈ part, p d = false) (rest : List Char) : Stops p (part ++ rest) := by
  obtain ⟨c, part, rfl⟩ := List.exists_cons_of_ne_nil hne
  exact stops_cons (h c List.mem_cons_self) _

/-- The form of a character in a text has a character. -/
theorem form_ne_nil (c : Char) (before after : List Char) :
    (if c = 'Σ' then [lowerSigma before after] else lowerChar c) ≠ [] := by
  split
  · exact List.cons_ne_nil _ _
  · exact lowerChar_ne_nil c

/-- **Lower-casing makes no blank at the beginning or the end of a text.** -/
theorem stops_lowerChars {s : List Char} (hs : Stops isBlank s) (he : Stops isBlank s.reverse) :
    Stops isBlank (lowerChars s) ∧ Stops isBlank (lowerChars s).reverse := by
  constructor
  · cases s with
    | nil => exact stops_nil
    | cons c rest =>
      refine stops_append (form_ne_nil c _ _) (fun d hd => ?_) _
      exact (small_of_mem hd).isBlank_eq (hs c rfl)
  · rcases List.eq_nil_or_concat s with rfl | ⟨front, c, rfl⟩
    · exact stops_nil
    · rw [List.concat_eq_append] at he ⊢
      rw [lowerChars, lowerAfter_append, List.reverse_append, lowerAfter, lowerAfter,
        List.append_nil]
      refine stops_append (List.reverse_ne_nil_iff.mpr (form_ne_nil c _ _)) (fun d hd => ?_) _
      refine (small_of_mem (List.mem_reverse.mp hd)).isBlank_eq (he c ?_)
      rw [List.reverse_append, List.reverse_singleton, List.singleton_append, List.head?_cons]

/-- **What has been stripped and lower-cased once is not stripped again.** -/
theorem trimChars_lowerChars (s : List Char) :
    trimChars (lowerChars (trimChars s)) = lowerChars (trimChars s) := by
  obtain ⟨hs, he⟩ := stops_trimChars s
  obtain ⟨hs, he⟩ := stops_lowerChars hs he
  exact trimChars_eq_self hs he

end DiscreetLog.Text
