import DiscreetLog.Json
import DiscreetLog.Proofs.Number.Rounding
import DiscreetLog.Proofs.Text.Parts

/-!
# Numbers as they are written

A `Numeral` is a number in the notation that structured output has for it: digits without a needless
zero in front, behind a point further digits, and an exponent. A double without a name of its own is
written as such a numeral, in whichever of the four ways its layout chooses, and the value of the
numeral is that of the decimal which `shortest` has found; so reading the text gives the double
again, and two doubles that are written alike are the same.
-/

namespace DiscreetLog

/-- **One decimal digit or more.** -/
structure Digits where
  chars : List Char
  ne_nil : chars ≠ []
  isDigit : ∀ c ∈ chars, c.isDigit = true

/-- **The exponent of a numeral**: a letter, a sign or none, and digits. -/
structure Exponent where
  mark : Char
  sign : List Char
  digits : Digits
  mark_mem : mark ∈ ['e', 'E']
  sign_mem : sign ∈ [[], ['+'], ['-']]

/-- **A number that is not negative, as it is written.** -/
structure Numeral where
  whole : Digits
  /-- What stands behind the point, if there is one. -/
  part : Option Digits
  exponent : Option Exponent
  /-- A zero stands in front of the point by itself. -/
  whole_eq : whole.chars.head? = some '0' → whole.chars = ['0']

namespace Digits

/-- The digits of a number. -/
def ofNat (n : Nat) : Digits :=
  ⟨Nat.toDigits 10 n, Nat.toDigits_ne_nil,
    fun _ => Nat.isDigit_of_mem_toDigits (by decide) (by decide)⟩

theorem natOfDigits?_eq {s : List Char} (hs : ∀ c ∈ s, c.isDigit = true) :
    Binary64.natOfDigits? s = some (Nat.ofDigitChars 10 s 0) := by
  rw [Binary64.natOfDigits?, if_pos (List.all_eq_true.mpr hs), Nat.ofDigitChars_eq_foldl]
  rfl

/-- What begins with a digit has no sign. -/
theorem signOf_eq {s : List Char} (hs : ∀ c, s.head? = some c → c.isDigit = true) :
    Binary64.signOf s = (false, s) := by
  unfold Binary64.signOf
  split
  · exact absurd (hs '-' rfl) (by decide)
  · exact absurd (hs '+' rfl) (by decide)
  · rfl

/-- A digit has no other case. -/
theorem toLower_eq {c : Char} (hc : c.isDigit = true) : c.toLower = c := by
  unfold Char.toLower
  refine dif_neg fun hu => ?_
  simp only [Char.isDigit, Bool.and_eq_true, decide_eq_true_eq, ge_iff_le,
    UInt32.le_iff_toNat_le] at hc hu
  exact absurd (hu.1.trans hc.2) (by decide)

end Digits

namespace Exponent

def chars (e : Exponent) : List Char := e.mark :: e.sign ++ e.digits.chars

/-- The number that an exponent says. -/
def value (e : Exponent) : Int :=
  let n : Int := Nat.ofDigitChars 10 e.digits.chars 0
  if e.sign = ['-'] then -n else n

/-- **An exponent is read as the number that it says.** -/
theorem exponentOf?_eq (e : Exponent) :
    Binary64.exponentOf? (e.sign ++ e.digits.chars) = some e.value := by
  have hempty : e.digits.chars.isEmpty = false := by
    simpa using e.digits.ne_nil
  have hunsigned : Binary64.signOf e.digits.chars = (false, e.digits.chars) :=
    Digits.signOf_eq fun c hc => e.digits.isDigit c (List.mem_of_mem_head? hc)
  have hsign := e.sign_mem
  simp only [List.mem_cons, List.not_mem_nil, or_false] at hsign
  unfold Binary64.exponentOf? value
  rcases hsign with h | h | h <;> rw [h]
  · rw [List.nil_append, hunsigned]
    simp [hempty, Digits.natOfDigits?_eq e.digits.isDigit]
  · simp [Binary64.signOf, hempty, Digits.natOfDigits?_eq e.digits.isDigit]
  · simp [Binary64.signOf, hempty, Digits.natOfDigits?_eq e.digits.isDigit]

end Exponent

namespace Numeral

variable (n : Numeral)

/-- The digits behind the point. -/
def partDigits : List Char := (n.part.map Digits.chars).getD []

/-- The point with the digits behind it. -/
def partChars : List Char :=
  match n.part with
  | none => []
  | some p => '.' :: p.chars

/-- The characters of the exponent. -/
def exponentChars : List Char := (n.exponent.map Exponent.chars).getD []

/-- **The characters of a numeral.** -/
def chars : List Char := n.whole.chars ++ n.partChars ++ n.exponentChars

/-- **The decimal that a numeral says.** -/
def decimal : Decimal :=
  ⟨Nat.ofDigitChars 10 (n.whole.chars ++ n.partDigits) 0,
    (n.exponent.map Exponent.value).getD 0 - n.partDigits.length⟩

theorem isDigit_of_mem_partDigits : ∀ c ∈ n.partDigits, c.isDigit = true := by
  unfold partDigits
  cases n.part with
  | none => nofun
  | some p => exact p.isDigit

/-- A letter that begins an exponent. -/
def isMark (c : Char) : Bool := c = 'e' || c = 'E'

theorem isMark_of_isDigit {c : Char} (h : c.isDigit = true) : isMark c = false := by
  unfold isMark
  rw [Bool.or_eq_false_iff, decide_eq_false_iff_not, decide_eq_false_iff_not]
  constructor <;> rintro rfl <;> cases h

theorem not_isMark_of_mem {c : Char} (h : c ∈ n.whole.chars ++ n.partChars) :
    (!isMark c) = true := by
  rw [Bool.not_eq_true']
  rcases List.mem_append.mp h with h | h
  · exact isMark_of_isDigit (n.whole.isDigit c h)
  · unfold partChars at h
    cases hp : n.part with
    | none => simp [hp] at h
    | some p =>
      simp only [hp, List.mem_cons] at h
      rcases h with rfl | h
      · rfl
      · exact isMark_of_isDigit (p.isDigit c h)

theorem stops_exponentChars : Text.Stops (!isMark ·) n.exponentChars := by
  unfold exponentChars
  cases n.exponent with
  | none => exact Text.stops_nil
  | some e =>
    refine Text.stops_cons (p := (!isMark ·)) ?_ _
    have := e.mark_mem
    simp only [List.mem_cons, List.not_mem_nil, or_false] at this
    rcases this with h | h <;> rw [h] <;> rfl

theorem stops_partChars : Text.Stops (· ≠ '.') n.partChars := by
  unfold partChars
  cases n.part with
  | none => exact Text.stops_nil
  | some p => exact Text.stops_cons (p := (· ≠ '.')) rfl _

/-- **A numeral is read as the decimal that it says.** -/
theorem magnitudeOf?_chars (negative : Bool) :
    Binary64.magnitudeOf? negative n.chars
      = some (Binary64.ofDecimal negative n.decimal.digits n.decimal.exponent) := by
  have hpoint : ∀ c ∈ n.whole.chars, (decide (c ≠ '.')) = true := by
    intro c hc
    rw [decide_eq_true_iff]
    rintro rfl
    exact absurd (n.whole.isDigit _ hc) (by decide)
  have hwhole : (n.whole.chars ++ n.partChars).takeWhile (· ≠ '.') = n.whole.chars :=
    Text.takeWhile_append hpoint n.stops_partChars
  have hpart : ((n.whole.chars ++ n.partChars).dropWhile (· ≠ '.')).drop 1 = n.partDigits := by
    rw [Text.dropWhile_append hpoint n.stops_partChars]
    unfold partChars partDigits
    cases n.part <;> rfl
  have hempty : (n.whole.chars.isEmpty && n.partDigits.isEmpty) = false := by
    simp [n.whole.ne_nil]
  have hdigits := Digits.natOfDigits?_eq fun c hc =>
    (List.mem_append.mp hc).elim (n.whole.isDigit c) (n.isDigit_of_mem_partDigits c)
  have htake : n.chars.takeWhile (!isMark ·) = n.whole.chars ++ n.partChars :=
    Text.takeWhile_append (fun _ => n.not_isMark_of_mem) n.stops_exponentChars
  have hdrop : n.chars.dropWhile (!isMark ·) = n.exponentChars :=
    Text.dropWhile_append (fun _ => n.not_isMark_of_mem) n.stops_exponentChars
  unfold isMark at htake hdrop
  unfold Binary64.magnitudeOf?
  simp only [htake, hdrop, hwhole, hpart, hempty, hdigits, exponentChars, decimal]
  cases n.exponent with
  | none => rfl
  | some e =>
    simp only [Option.map_some, Option.getD_some, Exponent.chars, List.cons_append]
    rw [e.exponentOf?_eq]
    rfl

end Numeral

namespace Numeral

variable (n : Numeral)

/-- A numeral begins with a digit. -/
theorem exists_chars_eq : ∃ c s, n.chars = c :: s ∧ c.isDigit = true := by
  obtain ⟨c, s, h⟩ := List.exists_cons_of_ne_nil n.whole.ne_nil
  refine ⟨c, s ++ n.partChars ++ n.exponentChars, ?_, n.whole.isDigit c (by simp [h])⟩
  rw [chars, h, List.cons_append, List.cons_append]

/-- The sign in front of a numeral is told from it. -/
theorem signOf_eq (negative : Bool) :
    Binary64.signOf ((if negative then ['-'] else []) ++ n.chars) = (negative, n.chars) := by
  obtain ⟨c, s, hs, hdigit⟩ := n.exists_chars_eq
  cases negative with
  | true => rfl
  | false =>
    refine Digits.signOf_eq fun d hd => ?_
    rw [hs] at hd
    cases hd
    exact hdigit

/-- **The characters of a numeral** are digits, a point, and those of an exponent. -/
theorem isDigit_or_mem_of_mem_chars {c : Char} (h : c ∈ n.chars) :
    c.isDigit = true ∨ c ∈ ['.', 'e', 'E', '+', '-'] := by
  rcases List.mem_append.mp h with h | h
  · rcases List.mem_append.mp h with h | h
    · exact .inl (n.whole.isDigit c h)
    · unfold partChars at h
      cases hp : n.part with
      | none => simp [hp] at h
      | some p =>
        rw [hp] at h
        rcases List.mem_cons.mp h with rfl | h
        · exact .inr (by decide)
        · exact .inl (p.isDigit c h)
  · unfold exponentChars at h
    cases he : n.exponent with
    | none => simp [he] at h
    | some e =>
      rw [he, Option.map_some, Option.getD_some, Exponent.chars, List.cons_append] at h
      rcases List.mem_cons.mp h with rfl | h
      · exact .inr ((by simp : ∀ c ∈ ['e', 'E'], c ∈ ['.', 'e', 'E', '+', '-']) _ e.mark_mem)
      · rcases List.mem_append.mp h with h | h
        · exact .inr ((by simp : ∀ s ∈ [[], ['+'], ['-']], ∀ c ∈ s, c ∈ ['.', 'e', 'E', '+', '-'])
            _ e.sign_mem c h)
        · exact .inl (e.digits.isDigit c h)

/-- A numeral with a point or an exponent is not all digits. -/
theorem natOfDigits?_chars (h : n.part = none → n.exponent ≠ none) :
    Binary64.natOfDigits? n.chars = none := by
  rw [Binary64.natOfDigits?, if_neg]
  intro hall
  rw [List.all_eq_true] at hall
  cases hp : n.part with
  | some p =>
    have hpoint : '.' ∈ n.chars := by simp [chars, partChars, hp]
    exact absurd (hall _ hpoint) (by decide)
  | none =>
    obtain ⟨e, he⟩ := Option.ne_none_iff_exists'.mp (h hp)
    have hmark : e.mark ∈ n.chars := by simp [chars, exponentChars, he, Exponent.chars]
    have hletter : ∀ c ∈ ['e', 'E'], c.isDigit = false := by simp
    exact absurd (hall _ hmark) (Bool.eq_false_iff.mp (hletter _ e.mark_mem))

end Numeral

/-! ## Decimals -/

/-- **The digits of a number do not begin with a zero.** -/
theorem head?_toDigits_ne {n : Nat} (hn : n ≠ 0) : (Nat.toDigits 10 n).head? ≠ some '0' := by
  induction n using Nat.strongRecOn with
  | _ n ih =>
    by_cases hlt : n < 10
    · have hone : ∀ n < 10, n ≠ 0 → [Nat.digitChar n].head? ≠ some '0' := by decide
      rw [Nat.toDigits_of_lt_base hlt]
      exact hone n hlt hn
    · have hle : 10 ≤ n := Nat.le_of_not_lt hlt
      rw [Nat.toDigits_of_base_le (by decide) hle,
        List.head?_append_of_ne_nil _ Nat.toDigits_ne_nil]
      exact ih (n / 10) (Nat.div_lt_self (by omega) (by decide)) (by omega)

namespace Decimal

/-- **The value of a decimal.** -/
def value (d : Decimal) : ℚ := d.digits * 10 ^ d.exponent

/-- The digits of a decimal. -/
def chars (d : Decimal) : List Char := Nat.toDigits 10 d.digits

theorem chars_ne_nil (d : Decimal) : d.chars ≠ [] := Nat.toDigits_ne_nil

theorem isDigit_of_mem_chars {d : Decimal} : ∀ c ∈ d.chars, c.isDigit = true :=
  (Digits.ofNat d.digits).isDigit

theorem isDigit_of_mem_replicate {k : Nat} : ∀ c ∈ List.replicate k '0', c.isDigit = true := by
  intro c hc
  rw [List.eq_of_mem_replicate hc]
  rfl

/-- A number with zeros in front of it, as digits. -/
def paddedDigits (width n : Nat) : Digits where
  chars := padded width n
  ne_nil := List.append_ne_nil_of_right_ne_nil _ Nat.toDigits_ne_nil
  isDigit c hc := (List.mem_append.mp hc).elim (isDigit_of_mem_replicate c)
    ((Digits.ofNat n).isDigit c)

theorem ofDigitChars_padded (width n : Nat) : Nat.ofDigitChars 10 (padded width n) 0 = n := by
  rw [padded, Nat.ofDigitChars_append, Nat.ofDigitChars_replicate_zero, Nat.mul_zero,
    Nat.ofDigitChars_ten_toDigits]

/-- The exponent that a layout writes. -/
def exponentOf (l : Layout) (e : Int) : Exponent where
  mark := 'e'
  sign := [if e < 0 then '-' else '+']
  digits := paddedDigits l.exponentDigits e.natAbs
  mark_mem := List.mem_cons_self
  sign_mem := by split <;> simp

theorem value_exponentOf (l : Layout) (e : Int) : (exponentOf l e).value = e := by
  unfold Exponent.value exponentOf paddedDigits
  simp only [ofDigitChars_padded]
  rcases lt_or_ge e 0 with he | he
  · simp only [if_pos he, if_true]
    omega
  · rw [if_neg (not_lt.mpr he), if_neg (by decide)]
    omega

/-- Some of the digits of a decimal, and the rest of them behind the point. -/
def pointed (d : Decimal) (hd : d.digits ≠ 0) (k : Nat) (hk : 0 < k) (e : Option Exponent) :
    Numeral where
  whole :=
    { chars := d.chars.take k
      ne_nil := by simp [chars, Nat.toDigits_ne_nil, hk.ne']
      isDigit := fun c hc => isDigit_of_mem_chars c (List.mem_of_mem_take hc) }
  part :=
    if h : d.chars.drop k = [] then none
    else some ⟨d.chars.drop k, h, fun c hc => isDigit_of_mem_chars c (List.mem_of_mem_drop hc)⟩
  exponent := e
  whole_eq h := by
    rw [List.head?_take, if_neg hk.ne'] at h
    exact absurd h (head?_toDigits_ne hd)

section Pointed

variable (d : Decimal) (hd : d.digits ≠ 0) (k : Nat) (hk : 0 < k) (e : Option Exponent)

theorem chars_pointed :
    (d.pointed hd k hk e).chars
      = d.chars.take k ++ (if d.chars.drop k = [] then [] else '.' :: d.chars.drop k)
        ++ (e.map Exponent.chars).getD [] := by
  unfold Numeral.chars Numeral.partChars Numeral.exponentChars pointed
  dsimp only
  split_ifs <;> rfl

theorem decimal_pointed :
    (d.pointed hd k hk e).decimal
      = ⟨d.digits, (e.map Exponent.value).getD 0 - (d.chars.drop k).length⟩ := by
  have hpart : (d.pointed hd k hk e).partDigits = d.chars.drop k := by
    unfold Numeral.partDigits pointed
    dsimp only
    split
    · rename_i h
      rw [h]
      rfl
    · rfl
  unfold Numeral.decimal
  rw [hpart]
  simp only [pointed, List.take_append_drop]
  rw [chars, Nat.ofDigitChars_ten_toDigits]

theorem part_pointed_ne (h : k < d.chars.length) : (d.pointed hd k hk e).part ≠ none := by
  unfold pointed
  dsimp only
  rw [dif_neg (by rw [List.drop_eq_nil_iff]; omega)]
  nofun

end Pointed

/-- The numeral of digits without a digit in front of the point. -/
def small (zeros : Nat) (d : Decimal) : Numeral where
  whole := ⟨['0'], by decide, List.forall_mem_singleton.mpr rfl⟩
  part := some
    { chars := List.replicate zeros '0' ++ d.chars
      ne_nil := List.append_ne_nil_of_right_ne_nil _ d.chars_ne_nil
      isDigit := fun c hc => (List.mem_append.mp hc).elim (isDigit_of_mem_replicate c)
        (isDigit_of_mem_chars c) }
  exponent := none
  whole_eq _ := rfl

theorem chars_small (zeros : Nat) (d : Decimal) :
    (small zeros d).chars = '0' :: '.' :: List.replicate zeros '0' ++ d.chars := by
  simp [Numeral.chars, Numeral.partChars, Numeral.exponentChars, small]

theorem decimal_small (zeros : Nat) (d : Decimal) :
    (small zeros d).decimal = ⟨d.digits, 0 - (zeros + d.chars.length : Nat)⟩ := by
  unfold Numeral.decimal small Numeral.partDigits
  simp only [Option.map_some, Option.getD_some, Option.map_none, Option.getD_none,
    List.length_append, List.length_replicate, Nat.ofDigitChars_append]
  rw [Nat.ofDigitChars_replicate_zero, chars]
  exact congrArg (Decimal.mk · _) Nat.ofDigitChars_ten_toDigits

/-- The numeral of digits that all stand in front of the point. -/
def large (zeros : Nat) (d : Decimal) (hd : d.digits ≠ 0) : Numeral where
  whole :=
    { chars := d.chars ++ List.replicate zeros '0'
      ne_nil := List.append_ne_nil_of_left_ne_nil d.chars_ne_nil _
      isDigit := fun c hc => (List.mem_append.mp hc).elim (isDigit_of_mem_chars c)
        (isDigit_of_mem_replicate c) }
  part := some ⟨['0'], by decide, List.forall_mem_singleton.mpr rfl⟩
  exponent := none
  whole_eq h := by
    dsimp only at h
    rw [List.head?_append_of_ne_nil _ d.chars_ne_nil] at h
    exact absurd h (head?_toDigits_ne hd)

theorem chars_large (zeros : Nat) (d : Decimal) (hd : d.digits ≠ 0) :
    (large zeros d hd).chars = d.chars ++ List.replicate zeros '0' ++ ['.', '0'] := by
  simp [Numeral.chars, Numeral.partChars, Numeral.exponentChars, large]

theorem value_large (zeros : Nat) (d : Decimal) (hd : d.digits ≠ 0) :
    (large zeros d hd).decimal.value = d.digits * 10 ^ (zeros : Int) := by
  unfold value Numeral.decimal large Numeral.partDigits
  simp only [Option.map_some, Option.getD_some, Option.map_none, Option.getD_none,
    List.length_cons, List.length_nil, Nat.ofDigitChars_append]
  have hzero (n : Nat) : Nat.ofDigitChars 10 ['0'] n = 10 * n :=
    Nat.ofDigitChars_replicate_zero (n := 1)
  rw [chars, Nat.ofDigitChars_ten_toDigits, Nat.ofDigitChars_replicate_zero, hzero]
  push_cast
  rw [zpow_neg_one, zpow_natCast]
  ring

/-- **A decimal is written as a numeral of its value**, which has a point or an exponent. -/
theorem exists_numeral_write (l : Layout) (d : Decimal) (hd : d.digits ≠ 0) :
    ∃ n : Numeral, l.write d = n.chars ∧ n.decimal.value = d.value
      ∧ (n.part = none → n.exponent ≠ none) := by
  have hlength : 0 < d.chars.length := Nat.length_toDigits_pos
  unfold Layout.write
  extract_lets digits first
  have hfirst : first = d.chars.length + d.exponent - 1 := rfl
  have hdigits : digits = d.chars := rfl
  split
  · -- with an exponent
    refine ⟨d.pointed hd 1 Nat.one_pos (some (exponentOf l first)), ?_, ?_, fun _ => nofun⟩
    · rw [chars_pointed, hdigits]
      have hexponent :
          ((some (exponentOf l first)).map Exponent.chars).getD [] = l.exponent first := rfl
      rw [hexponent]
      rcases hd : d.chars with _ | ⟨c, _ | ⟨c', rest⟩⟩
      · rw [hd] at hlength
        cases hlength
      · rfl
      · rfl
    · rw [decimal_pointed, value, value, Option.map_some, Option.getD_some, value_exponentOf,
        List.length_drop]
      congr 2
      dsimp only
      omega
  split
  · -- without a digit in front of the point
    refine ⟨small (-first - 1).toNat d, ?_, ?_, nofun⟩
    · rw [chars_small, hdigits]
    · rw [decimal_small, value, value]
      congr 2
      dsimp only
      omega
  split
  · -- without a digit other than zero behind the point
    refine ⟨large d.exponent.toNat d hd, ?_, ?_, nofun⟩
    · rw [chars_large, hdigits]
    · rw [value_large, value]
      congr 2
      omega
  · -- with digits on both sides of the point
    refine ⟨d.pointed hd (first + 1).toNat (by omega) none, ?_, ?_, fun h => ?_⟩
    · rw [chars_pointed, hdigits, if_neg (by rw [List.drop_eq_nil_iff]; omega), Option.map_none,
        Option.getD_none, List.append_nil]
    · rw [decimal_pointed, value, value, Option.map_none, Option.getD_none, List.length_drop]
      congr 2
      dsimp only
      omega
    · exact absurd h (part_pointed_ne d hd _ _ none (by omega))

/-! ## The shortest decimal -/

/-- **A decimal reads back** as a double. -/
def ReadsBack (d : Decimal) (x : Binary64) : Prop :=
  Binary64.ofDecimal false d.digits d.exponent = x

theorem ReadsBack.of_value {d d' : Decimal} {x : Binary64} (h : d.ReadsBack x)
    (hv : d'.value = d.value) : d'.ReadsBack x := (Binary64.ofDecimal_congr false hv).trans h

/-- Zeros at the end do not matter to the value. -/
theorem value_dropZeros (fuel : Nat) (d : Decimal) : (dropZeros fuel d).value = d.value := by
  induction fuel generalizing d with
  | zero => rfl
  | succ fuel ih =>
    rw [dropZeros]
    split
    · rename_i h
      rw [Bool.and_eq_true, decide_eq_true_eq, decide_eq_true_eq] at h
      have hdigits : d.digits / 10 * 10 = d.digits :=
        Nat.div_mul_cancel (Nat.dvd_of_mod_eq_zero h.2)
      rw [ih, value, value]
      dsimp only
      rw [zpow_add₀ (by norm_num), zpow_one, ← hdigits]
      simp only [Nat.mul_div_cancel _ (Nat.succ_pos 9)]
      push_cast
      ring
    · rfl

/-- **The decimal that is found on a grid reads back.** -/
theorem readsBack_of_onGrid? {x : Binary64} {num den count : Nat} {d : Decimal}
    (h : onGrid? x num den count = some d) : d.ReadsBack x := by
  unfold onGrid? at h
  dsimp only at h
  have hreads {digits : Nat}
      (hr : decide (Binary64.ofDecimal false digits (magnitude num den - count) = x) = true) :
      (Decimal.mk digits (magnitude num den - count)).ReadsBack x := by
    simpa [ReadsBack] using hr
  split at h
  · -- both neighbours read back, and the nearer one is one of them
    rename_i hbelow habove
    cases h
    rcases Binary64.divNearest_eq_or (scaled num den (magnitude num den - count)).1
      (scaled num den (magnitude num den - count)).2 with hd | hd <;> rw [hd]
    · exact hreads hbelow
    · exact hreads habove
  · rename_i hbelow _
    cases h
    exact hreads hbelow
  · rename_i _ habove
    cases h
    exact hreads habove
  · cases h

/-- **The exact expansion reads back.** -/
theorem readsBack_expansion {m : Nat} {e : Int} (hc : Binary64.Canonical m e) :
    (expansion m e).ReadsBack (.finite false m e hc) := by
  refine Binary64.ofDecimal_exact false hc ?_
  unfold expansion
  split
  · rename_i he
    obtain ⟨n, rfl⟩ := Int.eq_ofNat_of_zero_le he
    rw [Int.toNat_natCast, Nat.pow_eq, zpow_zero, mul_one, Nat.cast_mul, Nat.cast_pow,
      Nat.cast_ofNat, zpow_natCast]
  · rename_i he
    obtain ⟨n, rfl⟩ : ∃ n : Nat, e = -n := ⟨(-e).toNat, by omega⟩
    have hten : (10 : ℚ) ^ n = 5 ^ n * 2 ^ n := by rw [← mul_pow]; norm_num
    rw [neg_neg, Int.toNat_natCast, Nat.pow_eq, zpow_neg, zpow_neg, zpow_natCast, zpow_natCast,
      hten, Nat.cast_mul, Nat.cast_pow, Nat.cast_ofNat]
    field_simp

/-- **The shortest decimal of a double reads back.** -/
theorem readsBack_shortest {m : Nat} {e : Int} (hc : Binary64.Canonical m e) :
    (shortest m e hc).ReadsBack (.finite false m e hc) := by
  unfold shortest
  dsimp only
  split
  · rename_i d hd
    obtain ⟨i, -, hi⟩ := List.exists_of_findSome?_eq_some hd
    exact (readsBack_of_onGrid? hi).of_value (value_dropZeros _ d)
  · exact (readsBack_expansion hc).of_value (value_dropZeros _ _)

/-- The shortest decimal of a double that is not zero is not zero. -/
theorem digits_shortest_ne {m : Nat} {e : Int} (hc : Binary64.Canonical m e) (hm : m ≠ 0) :
    (shortest m e hc).digits ≠ 0 := by
  intro h
  have hback := readsBack_shortest hc
  unfold ReadsBack at hback
  rw [h, Binary64.ofDecimal, if_pos rfl] at hback
  cases hback
  exact hm rfl

end Decimal

/-! ## Doubles -/

namespace Numeral

/-- The numeral of zero. -/
def zero : Numeral where
  whole := ⟨['0'], by decide, List.forall_mem_singleton.mpr rfl⟩
  part := some ⟨['0'], by decide, List.forall_mem_singleton.mpr rfl⟩
  exponent := none
  whole_eq _ := rfl

end Numeral

namespace Binary64

/-- **A finite double is written as a numeral that says it**, with a point or an exponent, behind
its sign. -/
theorem exists_numeral {m : Nat} {e : Int} (hc : Canonical m e) :
    ∃ n : Numeral, (∀ negative, Json.floatChars (.finite negative m e hc)
        = (if negative then ['-'] else []) ++ n.chars)
      ∧ (∀ negative,
        ofDecimal negative n.decimal.digits n.decimal.exponent = .finite negative m e hc)
      ∧ (n.part = none → n.exponent ≠ none) := by
  have hwritten {n : Numeral} (hn : (if m = 0 then ['0', '.', '0']
      else Decimal.Layout.plain.write (Decimal.shortest m e hc)) = n.chars) (negative : Bool) :
      Json.floatChars (.finite negative m e hc) = (if negative then ['-'] else []) ++ n.chars := by
    unfold Json.floatChars write
    dsimp only
    rw [hn, String.toList_ofList]
    cases negative <;> rfl
  by_cases hm : m = 0
  · subst hm
    obtain rfl : e = -1074 := hc.2.2.2.resolve_left (by decide)
    exact ⟨.zero, hwritten rfl, fun _ => rfl, nofun⟩
  · obtain ⟨n, hn, hv, hp⟩ :=
      Decimal.exists_numeral_write .plain _ (Decimal.digits_shortest_ne hc hm)
    refine ⟨n, hwritten ((if_neg hm).trans hn), fun negative => ?_, hp⟩
    have hback := (Decimal.readsBack_shortest hc).of_value hv
    rw [ofDecimal_withSign, hback]
    rfl

/-- **The text of a double is read as the double.** -/
theorem ofText?_floatChars (x : Binary64) :
    ofText? (String.ofList (Json.floatChars x)) = some x := by
  cases x with
  | nan => rfl
  | infinite negative => cases negative <;> rfl
  | finite negative m e hc =>
    obtain ⟨n, hn, hv, -⟩ := exists_numeral hc
    obtain ⟨c, s, hs, hdigit⟩ := n.exists_chars_eq
    -- none of the words begins with a digit
    have hword {w : String} (hw : w.toList.head?.all (!·.isDigit) = true) :
        String.ofList (n.chars.map Char.toLower) ≠ w := by
      rintro rfl
      rw [String.toList_ofList, hs, List.map_cons, Digits.toLower_eq hdigit, List.head?_cons,
        Option.all_some, hdigit] at hw
      cases hw
    unfold ofText?
    rw [String.toList_ofList, hn, n.signOf_eq]
    dsimp only
    split
    · rename_i h
      exact absurd h (hword (by decide))
    · rename_i h
      exact absurd h (hword (by decide))
    · rename_i h
      exact absurd h (hword (by decide))
    · rw [n.magnitudeOf?_chars, hv]

end Binary64

end DiscreetLog
