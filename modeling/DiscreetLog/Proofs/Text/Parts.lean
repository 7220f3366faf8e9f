import DiscreetLog.Text.Search

/-!
# The parts of a text

A reader takes a text apart from the front: it goes on while the characters are of one kind, and
stops at the first other one. What it has gone over and what is left are known where a part of such
characters is followed by one that is not.
-/

namespace DiscreetLog.Text

variable {p : Char → Bool} {part rest : List Char}

/-- A text begins with no character of a kind. -/
def Stops (p : Char → Bool) (s : List Char) : Prop := ∀ c, s.head? = some c → p c = false

theorem stops_nil : Stops p [] := nofun

theorem stops_cons {c : Char} (h : p c = false) (s : List Char) : Stops p (c :: s) := by
  rintro _ ⟨⟩
  exact h

/-- A text that stops at once. -/
theorem Stops.takeWhile_eq (h : Stops p rest) :
    rest.takeWhile p = [] ∧ rest.dropWhile p = rest := by
  cases rest with
  | nil => exact ⟨rfl, rfl⟩
  | cons c s =>
    have hc := h c rfl
    exact ⟨List.takeWhile_cons_of_neg (by simp [hc]), List.dropWhile_cons_of_neg (by simp [hc])⟩

/-- **What is gone over is the part of the one kind.** -/
theorem takeWhile_append (hpart : ∀ c ∈ part, p c = true) (hrest : Stops p rest) :
    (part ++ rest).takeWhile p = part := by
  rw [List.takeWhile_append_of_pos hpart, hrest.takeWhile_eq.1, List.append_nil]

/-- **What is left is the text behind it.** -/
theorem dropWhile_append (hpart : ∀ c ∈ part, p c = true) (hrest : Stops p rest) :
    (part ++ rest).dropWhile p = rest := by
  rw [List.dropWhile_append_of_pos hpart, hrest.takeWhile_eq.2]

/-- **A separator ends a part**, and the parts of the rest follow. -/
theorem partsAt_append {separator : Char} (h : separator ∉ part) (rest : List Char) :
    partsAt separator (part ++ separator :: rest) = part :: partsAt separator rest := by
  induction part with
  | nil => exact if_pos rfl
  | cons c part ih =>
    rw [List.mem_cons, not_or] at h
    rw [List.cons_append, partsAt, if_neg (Ne.symm h.1), ih h.2]

/-- A text without the separator is one part. -/
theorem partsAt_of_not_mem {separator : Char} (h : separator ∉ part) :
    partsAt separator part = [part] := by
  induction part with
  | nil => rfl
  | cons c part ih =>
    rw [List.mem_cons, not_or] at h
    rw [partsAt, if_neg (Ne.symm h.1), ih h.2]

/-- **No part has the separator in it.** -/
theorem not_mem_of_mem_partsAt {separator : Char} {s : List Char}
    (h : part ∈ partsAt separator s) : separator ∉ part := by
  induction s generalizing part with
  | nil =>
    rw [List.mem_singleton.mp h]
    exact List.not_mem_nil
  | cons c s ih =>
    rw [partsAt] at h
    split at h
    · rcases List.mem_cons.mp h with rfl | h
      · exact List.not_mem_nil
      · exact ih h
    · rename_i hc
      split at h
      · rw [List.mem_singleton.mp h, List.mem_singleton]
        exact Ne.symm hc
      · rename_i first parts hs
        rcases List.mem_cons.mp h with rfl | h
        · rw [List.mem_cons, not_or]
          exact ⟨Ne.symm hc, ih (hs ▸ List.mem_cons_self)⟩
        · exact ih (hs ▸ List.mem_cons_of_mem first h)

/-- **Parts put together are taken apart again**, if there is one at all and the separator is in
none of them. -/
theorem partsAt_intercalate {separator : Char} {parts : List (List Char)} (hne : parts ≠ [])
    (h : ∀ part ∈ parts, separator ∉ part) :
    partsAt separator ([separator].intercalate parts) = parts := by
  induction parts with
  | nil => exact absurd rfl hne
  | cons part parts ih =>
    have hpart := h part List.mem_cons_self
    cases parts with
    | nil => rw [List.intercalate_singleton, partsAt_of_not_mem hpart]
    | cons next parts =>
      rw [List.intercalate_cons_cons, List.append_assoc, List.singleton_append,
        partsAt_append hpart, ih (List.cons_ne_nil _ _) fun p hp => h p (List.mem_cons_of_mem _ hp)]

/-- **Texts with another one between them** are the first of them, and each of the others behind the
one between. -/
theorem toList_intercalate_cons (between part : String) (parts : List String) :
    (between.intercalate (part :: parts)).toList
      = part.toList ++ parts.flatMap fun part => between.toList ++ part.toList := by
  induction parts generalizing part with
  | nil => rw [String.intercalate_singleton, List.flatMap_nil, List.append_nil]
  | cons next parts ih =>
    rw [String.intercalate_cons_cons, String.toList_append, String.toList_append, ih,
      List.flatMap_cons, List.append_assoc, List.append_assoc]

/-- Where something is written for every item, there are at least as many characters as items. -/
theorem length_le_flatMap {α : Type} {f : α → List Char} (hf : ∀ x, f x ≠ []) (xs : List α) :
    xs.length ≤ (xs.flatMap f).length := by
  induction xs with
  | nil => exact Nat.le_refl 0
  | cons x xs ih =>
    have hx := List.length_pos_iff.mpr (hf x)
    rw [List.flatMap_cons, List.length_append, List.length_cons]
    omega

end DiscreetLog.Text
