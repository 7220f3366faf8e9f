import DiscreetLog.Number.Reading
import Mathlib.Algebra.Order.Field.Power
import Mathlib.Algebra.Order.Field.Rat
import Mathlib.Data.Int.Log
import Mathlib.Data.Rat.Floor
import Mathlib.Tactic.FieldSimp
import Mathlib.Tactic.NormNum
import Mathlib.Tactic.Positivity
import Mathlib.Tactic.Ring

/-!
# The double nearest to a number

What a fraction or a decimal is rounded to depends on the number alone, and not on how it is
written: `nearest` is that function of the number, and `round` and `ofDecimal` are both equal to
it. A number that is a double is rounded to that double, so nothing is lost where nothing has to
be.

The exponent of the double is read off the number's logarithm, which `exponentFor` finds by
counting bits; the mantissa is the number divided by that power of two and rounded to a whole
number.
-/

namespace DiscreetLog.Binary64

/-- **The double nearest to a number** that is not negative, with either sign. -/
def nearest (negative : Bool) (q : ℚ) : Binary64 := round negative q.num.toNat q.den

theorem cast_num_div_den {q : ℚ} (hq : 0 ≤ q) : ((q.num.toNat : Nat) : ℚ) / q.den = q := by
  have hcast : ((q.num.toNat : Nat) : ℚ) = (q.num : ℚ) := by
    exact_mod_cast Int.toNat_of_nonneg (Rat.num_nonneg.mpr hq)
  rw [hcast, Rat.num_div_den]

/-- A double that has digits. -/
def isFinite : Binary64 → Bool
  | .finite .. => true
  | _ => false

/-! ## Whole numbers -/

theorem divNearest_mul_left {k : Nat} (hk : 0 < k) (num den : Nat) :
    divNearest (k * num) (k * den) = divNearest num den := by
  unfold divNearest
  have hlt : k * den < 2 * (k * (num % den)) ↔ den < 2 * (num % den) := by
    rw [Nat.mul_left_comm, Nat.mul_lt_mul_left hk]
  have heq : 2 * (k * (num % den)) = k * den ↔ 2 * (num % den) = den := by
    rw [Nat.mul_left_comm, Nat.mul_right_inj hk.ne']
  simp only [Nat.mul_div_mul_left _ _ hk, Nat.mul_mod_mul_left, hlt, heq]

/-- A quotient that is rounded does not depend on how it is written. -/
theorem divNearest_congr {num den num' den' : Nat} (hd : 0 < den) (hd' : 0 < den')
    (h : num * den' = num' * den) : divNearest num den = divNearest num' den' := by
  rw [← divNearest_mul_left hd', ← divNearest_mul_left hd num', Nat.mul_comm den' num, h,
    Nat.mul_comm num', Nat.mul_comm den']

/-- A whole number is not changed. -/
theorem divNearest_mul {m den : Nat} (hd : 0 < den) : divNearest (m * den) den = m := by
  unfold divNearest
  simp only [Nat.mul_div_cancel _ hd, Nat.mul_mod_left]
  simp [hd.ne]

theorem le_divNearest {m num den : Nat} (hd : 0 < den) (h : m * den ≤ num) :
    m ≤ divNearest num den := by
  have hm : m ≤ num / den := (Nat.le_div_iff_mul_le hd).mpr h
  unfold divNearest
  dsimp only
  split
  · exact hm.trans (Nat.le_succ _)
  · exact hm

theorem divNearest_le {m num den : Nat} (h : num < m * den) : divNearest num den ≤ m := by
  have hm : num / den < m := Nat.div_lt_of_lt_mul (by rwa [Nat.mul_comm] at h)
  unfold divNearest
  dsimp only
  split
  · exact hm
  · exact hm.le

/-- A quotient is rounded to one of its neighbours. -/
theorem divNearest_eq_or (num den : Nat) :
    divNearest num den = num / den ∨ divNearest num den = num / den + 1 := by
  unfold divNearest
  dsimp only
  split
  · exact .inr rfl
  · exact .inl rfl

theorem divNearest_eq_zero {num den : Nat} (h : 2 * num < den) : divNearest num den = 0 := by
  have hlt : num < den := by omega
  unfold divNearest
  simp only [Nat.div_eq_of_lt hlt, Nat.mod_eq_of_lt hlt]
  rw [if_neg]
  simp
  omega

/-! ## Powers of two -/

theorem den_scaled_pos {den : Nat} (hd : 0 < den) (num : Nat) (e : Int) :
    0 < (scaled num den e).2 := by
  unfold scaled
  split
  · exact Nat.mul_pos hd (Nat.pow_pos (by decide))
  · exact hd

/-- **A scaled fraction is the fraction divided by the power of two.** -/
theorem scaled_eq {den : Nat} (hd : 0 < den) (num : Nat) (e : Int) :
    ((scaled num den e).1 : ℚ) / (scaled num den e).2 = num / den / 2 ^ e := by
  have hd' : (den : ℚ) ≠ 0 := by positivity
  unfold scaled
  split
  · rename_i h
    obtain ⟨n, rfl⟩ := Int.eq_ofNat_of_zero_le h
    simp only [Nat.pow_eq, Int.toNat_natCast, Nat.cast_mul, Nat.cast_pow,
      Nat.cast_ofNat, zpow_natCast]
    rw [div_div]
  · rename_i h
    obtain ⟨n, rfl⟩ : ∃ n : Nat, e = -n := ⟨(-e).toNat, by omega⟩
    simp only [Nat.pow_eq, neg_neg, Int.toNat_natCast, Nat.cast_mul, Nat.cast_pow, Nat.cast_ofNat,
      zpow_neg, zpow_natCast, div_inv_eq_mul]
    rw [mul_div_right_comm]

theorem lt_zpow_iff {q : ℚ} (hq : 0 < q) {e : Int} : q < 2 ^ e ↔ Int.log 2 q < e := by
  rw [← Int.lt_zpow_iff_log_lt Nat.one_lt_two hq, Nat.cast_ofNat]

theorem zpow_le_iff {q : ℚ} (hq : 0 < q) {e : Int} : 2 ^ e ≤ q ↔ e ≤ Int.log 2 q := by
  rw [← Int.zpow_le_iff_le_log Nat.one_lt_two hq, Nat.cast_ofNat]

section Fraction

variable {num den : Nat}

/-- **The bits of both sides of a fraction** leave two powers of two that it can begin at. -/
theorem log_div_mem (hn : 0 < num) (hd : 0 < den) :
    (Nat.log2 num : Int) - Nat.log2 den - 1 ≤ Int.log 2 ((num : ℚ) / den)
      ∧ Int.log 2 ((num : ℚ) / den) < (Nat.log2 num : Int) - Nat.log2 den + 1 := by
  have hq : (0 : ℚ) < num / den := by positivity
  set a : Int := (Nat.log2 num : Int) with ha
  set b : Int := (Nat.log2 den : Int) with hb
  constructor
  · have h1 : (2 : ℚ) ^ a ≤ num := by
      rw [ha, zpow_natCast]
      exact_mod_cast Nat.log2_self_le hn.ne'
    have h2 : (den : ℚ) ≤ 2 ^ (b + 1) := by
      rw [hb]
      exact_mod_cast (Nat.lt_log2_self (n := den)).le
    rw [← zpow_le_iff hq, le_div_iff₀ (by positivity)]
    calc (2 : ℚ) ^ (a - b - 1) * den ≤ 2 ^ (a - b - 1) * 2 ^ (b + 1) := by gcongr
      _ = 2 ^ a := by rw [← zpow_add₀ (by norm_num)]; congr 1; ring
      _ ≤ num := h1
  · have h1 : (num : ℚ) < 2 ^ (a + 1) := by
      rw [ha]
      exact_mod_cast Nat.lt_log2_self (n := num)
    have h2 : (2 : ℚ) ^ b ≤ den := by
      rw [hb, zpow_natCast]
      exact_mod_cast Nat.log2_self_le hd.ne'
    rw [← lt_zpow_iff hq, div_lt_iff₀ (by positivity)]
    calc (num : ℚ) < 2 ^ (a + 1) := h1
      _ = 2 ^ (a - b + 1) * 2 ^ b := by rw [← zpow_add₀ (by norm_num)]; congr 1; ring
      _ ≤ (2 : ℚ) ^ (a - b + 1) * den := by gcongr

theorem cast_leastFull : ((leastFull : Nat) : ℚ) = 2 ^ (52 : Int) := by norm_num [leastFull]

/-- **The exponent for a number is read off its logarithm.** -/
theorem exponentFor_eq (hn : 0 < num) (hd : 0 < den) :
    exponentFor num den = max (Int.log 2 ((num : ℚ) / den) - 52) (-1074) := by
  have hq : (0 : ℚ) < num / den := by positivity
  obtain ⟨hbelow, habove⟩ := log_div_mem hn hd
  unfold exponentFor
  dsimp only
  set guess : Int := (Nat.log2 num : Int) - Nat.log2 den - 52 with hg
  -- the mantissa at the guess is too small exactly where the fraction begins one power lower
  have hguess : (scaled num den guess).1 < leastFull * (scaled num den guess).2
      ↔ Int.log 2 ((num : ℚ) / den) < guess + 52 := by
    have hpos : (0 : ℚ) < (scaled num den guess).2 := by exact_mod_cast den_scaled_pos hd num _
    rw [← lt_zpow_iff hq, ← Nat.cast_lt (α := ℚ), Nat.cast_mul, ← div_lt_iff₀ hpos, scaled_eq hd,
      div_lt_iff₀ (by positivity), cast_leastFull, ← zpow_add₀ (by norm_num), add_comm guess]
  split
  · rename_i h
    have := hguess.mp h
    congr 1
    omega
  · rename_i h
    have := mt hguess.mpr h
    congr 1
    omega

/-- The mantissa of a fraction at an exponent. -/
def mantissaAt (num den : Nat) (e : Int) : Nat :=
  divNearest (scaled num den e).1 (scaled num den e).2

/-- A mantissa of at most 54 bits with its exponent, as a double. -/
def carried (negative : Bool) (m : Nat) (e : Int) : Binary64 :=
  let p := if m = beyondMantissa then (leastFull, e + 1) else (m, e)
  if h : Canonical p.1 p.2 then .finite negative p.1 p.2 h else .infinite negative

theorem round_of_ne_zero (negative : Bool) (hn : num ≠ 0) :
    round negative num den
      = carried negative (mantissaAt num den (exponentFor num den)) (exponentFor num den) := by
  rw [round, if_neg hn]
  rfl

/-- A mantissa does not depend on how the fraction is written. -/
theorem mantissaAt_congr {num' den' : Nat} (hd : 0 < den) (hd' : 0 < den')
    (h : (num : ℚ) / den = num' / den') (e : Int) :
    mantissaAt num den e = mantissaAt num' den' e := by
  have hpos := den_scaled_pos hd num e
  have hpos' := den_scaled_pos hd' num' e
  have heq := (scaled_eq hd num e).trans ((congrArg (· / (2 : ℚ) ^ e) h).trans
    (scaled_eq hd' num' e).symm)
  rw [div_eq_div_iff (by positivity) (by positivity)] at heq
  exact divNearest_congr hpos hpos' (by exact_mod_cast heq)

/-- **What a fraction is rounded to does not depend on how it is written.** -/
theorem round_congr {num' den' : Nat} (negative : Bool) (hd : 0 < den) (hd' : 0 < den')
    (h : (num : ℚ) / den = num' / den') : round negative num den = round negative num' den' := by
  have hzero : num = 0 ↔ num' = 0 := by
    rw [div_eq_div_iff (by positivity) (by positivity)] at h
    have h : num * den' = num' * den := by exact_mod_cast h
    constructor
    · rintro rfl
      simpa [hd.ne'] using h.symm
    · rintro rfl
      simpa [hd'.ne'] using h
  by_cases hn : num = 0
  · rw [hn, hzero.mp hn]
    rfl
  · have he : exponentFor num den = exponentFor num' den' := by
      rw [exponentFor_eq (Nat.pos_of_ne_zero hn) hd,
        exponentFor_eq (Nat.pos_of_ne_zero (mt hzero.mpr hn)) hd', h]
    rw [round_of_ne_zero _ hn, round_of_ne_zero _ (mt hzero.mpr hn), he, mantissaAt_congr hd hd' h]

/-- **A fraction is rounded to the double nearest to its value.** -/
theorem round_eq_nearest (negative : Bool) (hd : 0 < den) :
    round negative num den = nearest negative (num / den) := by
  exact round_congr negative hd (Rat.den_pos _) (cast_num_div_den (by positivity)).symm

/-! ## Which double it is -/

/-- A number at least as large as a power of two leaves at least as large a mantissa. -/
theorem le_mantissaAt (hd : 0 < den) {m : Nat} {e : Int} (h : (m : ℚ) * 2 ^ e ≤ num / den) :
    m ≤ mantissaAt num den e := by
  have hpos : (0 : ℚ) < (scaled num den e).2 := by exact_mod_cast den_scaled_pos hd num e
  refine le_divNearest (den_scaled_pos hd num e) ?_
  rw [← le_div_iff₀ (by positivity), ← scaled_eq hd, le_div_iff₀ hpos] at h
  exact_mod_cast h

theorem mantissaAt_le (hd : 0 < den) {m : Nat} {e : Int} (h : (num : ℚ) / den < m * 2 ^ e) :
    mantissaAt num den e ≤ m := by
  have hpos : (0 : ℚ) < (scaled num den e).2 := by exact_mod_cast den_scaled_pos hd num e
  refine divNearest_le ?_
  rw [← div_lt_iff₀ (by positivity), ← scaled_eq hd, div_lt_iff₀ hpos] at h
  exact_mod_cast h

theorem mantissaAt_eq (hd : 0 < den) {m : Nat} {e : Int} (h : (num : ℚ) / den = m * 2 ^ e) :
    mantissaAt num den e = m := by
  have hpos : (0 : ℚ) < (scaled num den e).2 := by exact_mod_cast den_scaled_pos hd num e
  rw [← div_eq_iff (by positivity), ← scaled_eq hd, div_eq_iff hpos.ne'] at h
  have h : (scaled num den e).1 = m * (scaled num den e).2 := by exact_mod_cast h
  rw [mantissaAt, h]
  exact divNearest_mul (den_scaled_pos hd num e)

theorem cast_beyondMantissa : ((beyondMantissa : Nat) : ℚ) = 2 ^ (53 : Int) := by
  norm_num [beyondMantissa]

/-- **A double is rounded to itself.** -/
theorem round_exact (negative : Bool) {m : Nat} {e : Int} (hc : Canonical m e) (hd : 0 < den)
    (h : (num : ℚ) / den = m * 2 ^ e) : round negative num den = .finite negative m e hc := by
  by_cases hm : m = 0
  · subst hm
    have he : e = -1074 := hc.2.2.2.resolve_left (by decide)
    subst he
    have hn : num = 0 := by simpa [hd.ne'] using h
    rw [hn]
    rfl
  have hq : (0 : ℚ) < num / den := by
    rw [h]
    have : 0 < m := Nat.pos_of_ne_zero hm
    positivity
  have hn : num ≠ 0 := by
    rintro rfl
    simp at hq
  have he : exponentFor num den = e := by
    rw [exponentFor_eq (Nat.pos_of_ne_zero hn) hd]
    have habove : Int.log 2 ((num : ℚ) / den) < 53 + e := by
      rw [← lt_zpow_iff hq, h, zpow_add₀ (by norm_num),
        ← cast_beyondMantissa]
      gcongr
      exact hc.1
    have hlow : -1074 ≤ e := hc.2.1
    rcases hc.2.2.2 with hfull | hleast
    · have hbelow : 52 + e ≤ Int.log 2 ((num : ℚ) / den) := by
        rw [← zpow_le_iff hq, h, zpow_add₀ (by norm_num),
          ← cast_leastFull]
        gcongr
      omega
    · omega
  rw [round_of_ne_zero _ hn, he, mantissaAt_eq hd h, carried]
  simp only [hc.1.ne, if_false, dif_pos hc]

/-- What is at least a power of two beyond all doubles is infinite. -/
theorem round_eq_infinite (negative : Bool) (hd : 0 < den)
    (h : (2 : ℚ) ^ (1024 : Int) ≤ num / den) : round negative num den = .infinite negative := by
  have hq : (0 : ℚ) < num / den := lt_of_lt_of_le (by positivity) h
  have hn : num ≠ 0 := by
    rintro rfl
    simp at hq
  have hlog : 1024 ≤ Int.log 2 ((num : ℚ) / den) := by
    rw [← zpow_le_iff hq]
    exact h
  have he : 972 ≤ exponentFor num den := by
    rw [exponentFor_eq (Nat.pos_of_ne_zero hn) hd]
    omega
  rw [round_of_ne_zero _ hn, carried]
  refine dif_neg fun hc => ?_
  have := hc.2.2.1
  split at this <;> omega

/-- What is less than half of the smallest double is zero. -/
theorem round_eq_zero (negative : Bool) (hd : 0 < den) (h : (num : ℚ) / den < 2 ^ (-1075 : Int)) :
    round negative num den = zero negative := by
  by_cases hn : num = 0
  · rw [hn]
    rfl
  have hq : (0 : ℚ) < num / den := by
    have : 0 < num := Nat.pos_of_ne_zero hn
    positivity
  have hlog : Int.log 2 ((num : ℚ) / den) < -1075 := by
    rw [← lt_zpow_iff hq]
    exact h
  have he : exponentFor num den = -1074 := by
    rw [exponentFor_eq (Nat.pos_of_ne_zero hn) hd]
    omega
  have hm : mantissaAt num den (-1074) = 0 := by
    have hpos : (0 : ℚ) < (scaled num den (-1074)).2 := by
      exact_mod_cast den_scaled_pos hd num _
    refine divNearest_eq_zero ?_
    have hhalf : (num : ℚ) / den / 2 ^ (-1074 : Int) < 1 / 2 := by
      rw [div_lt_iff₀ (by positivity)]
      calc (num : ℚ) / den < 2 ^ (-1075 : Int) := h
        _ = 1 / 2 * 2 ^ (-1074 : Int) := by
          rw [show (-1075 : Int) = -1 + -1074 by rfl, zpow_add₀ (by norm_num)]
          norm_num
    rw [← scaled_eq hd, div_lt_div_iff₀ hpos (by norm_num)] at hhalf
    have hhalf : (scaled num den (-1074)).1 * 2 < 1 * (scaled num den (-1074)).2 := by
      exact_mod_cast hhalf
    omega
  rw [round_of_ne_zero _ hn, he, hm]
  rfl

/-- **What is less than a power of two below the greatest double is rounded to a double.** -/
theorem isFinite_round (negative : Bool) (hd : 0 < den)
    (h : (num : ℚ) / den < 2 ^ (1023 : Int)) : (round negative num den).isFinite = true := by
  by_cases hn : num = 0
  · rw [hn]
    rfl
  have hq : (0 : ℚ) < num / den := by
    have : 0 < num := Nat.pos_of_ne_zero hn
    positivity
  have hlog : Int.log 2 ((num : ℚ) / den) < 1023 := by
    rw [← lt_zpow_iff hq]
    exact h
  have he := exponentFor_eq (Nat.pos_of_ne_zero hn) hd
  set e := exponentFor num den
  have hle : mantissaAt num den e ≤ beyondMantissa := by
    refine mantissaAt_le hd ?_
    rw [cast_beyondMantissa, ← zpow_add₀ (by norm_num)]
    exact (lt_zpow_iff hq).mpr (by omega)
  have hfull : leastFull ≤ mantissaAt num den e ∨ e = -1074 := by
    rcases le_or_gt (-1074) (Int.log 2 ((num : ℚ) / den) - 52) with hl | hl
    · refine .inl (le_mantissaAt hd ?_)
      rw [cast_leastFull, ← zpow_add₀ (by norm_num)]
      exact (zpow_le_iff hq).mpr (by omega)
    · exact .inr (by omega)
  rw [round_of_ne_zero _ hn, carried]
  have hc : Canonical
      (if mantissaAt num den e = beyondMantissa then (leastFull, e + 1)
        else (mantissaAt num den e, e)).1
      (if mantissaAt num den e = beyondMantissa then (leastFull, e + 1)
        else (mantissaAt num den e, e)).2 := by
    split
    · exact ⟨show leastFull < beyondMantissa by decide, by dsimp only; omega, by dsimp only; omega,
        .inl le_rfl⟩
    · exact ⟨by dsimp only; omega, by dsimp only; omega, by dsimp only; omega, hfull⟩
  rw [dif_pos hc]
  rfl

end Fraction

/-! ## Decimals -/

/-- A decimal beyond 400 places is beyond all doubles. -/
theorem nearest_of_large (negative : Bool) {q : ℚ} (h : 10 ^ (401 : Int) ≤ q) :
    nearest negative q = .infinite negative := by
  have hq : 0 ≤ q := (by positivity : (0 : ℚ) ≤ 10 ^ (401 : Int)).trans h
  refine round_eq_infinite negative (Rat.den_pos q) ?_
  rw [cast_num_div_den hq]
  calc (2 : ℚ) ^ (1024 : Int) ≤ 2 ^ ((3 : Int) * 401) :=
        zpow_le_zpow_right₀ (by norm_num) (by norm_num)
    _ = (2 ^ (3 : Int)) ^ (401 : Int) := zpow_mul _ _ _
    _ ≤ 10 ^ (401 : Int) := zpow_le_zpow_left₀ (by norm_num) (by norm_num) (by norm_num)
    _ ≤ q := h

/-- A decimal whose first digit stands 400 places behind the point is below all doubles. -/
theorem nearest_of_small (negative : Bool) {q : ℚ} (hq : 0 ≤ q) (h : q < 10 ^ (-400 : Int)) :
    nearest negative q = zero negative := by
  refine round_eq_zero negative (Rat.den_pos q) ?_
  rw [cast_num_div_den hq]
  calc q < 10 ^ (-400 : Int) := h
    _ ≤ (2 ^ (3 : Int)) ^ (-400 : Int) := by
        rw [zpow_neg, zpow_neg]
        exact inv_anti₀ (by positivity)
          (zpow_le_zpow_left₀ (by norm_num) (by norm_num) (by norm_num))
    _ = 2 ^ ((3 : Int) * -400) := (zpow_mul _ _ _).symm
    _ ≤ 2 ^ (-1075 : Int) := zpow_le_zpow_right₀ (by norm_num) (by norm_num)

/-- **A decimal is rounded to the double nearest to its value**, however many places it has. -/
theorem ofDecimal_eq_nearest (negative : Bool) (m : Nat) (e : Int) :
    ofDecimal negative m e = nearest negative (m * 10 ^ e) := by
  by_cases hm : m = 0
  · subst hm
    rw [ofDecimal, if_pos rfl, Nat.cast_zero, zero_mul]
    rfl
  have hm1 : (1 : ℚ) ≤ m := by exact_mod_cast Nat.pos_of_ne_zero hm
  rw [ofDecimal, if_neg hm]
  split
  · rename_i he
    refine (nearest_of_large negative ?_).symm
    calc (10 : ℚ) ^ (401 : Int) ≤ 10 ^ e := zpow_le_zpow_right₀ (by norm_num) he
      _ ≤ m * 10 ^ e := le_mul_of_one_le_left (by positivity) hm1
  split
  · rename_i he
    refine (nearest_of_small negative (by positivity) ?_).symm
    have hlog : (m : ℚ) < 10 ^ ((Nat.log2 m : Int) + 1) := by
      calc (m : ℚ) < 2 ^ ((Nat.log2 m : Int) + 1) := by exact_mod_cast Nat.lt_log2_self (n := m)
        _ ≤ 10 ^ ((Nat.log2 m : Int) + 1) :=
          zpow_le_zpow_left₀ (by omega) (by norm_num) (by norm_num)
    calc (m : ℚ) * 10 ^ e < 10 ^ ((Nat.log2 m : Int) + 1) * 10 ^ e := by gcongr
      _ = 10 ^ ((Nat.log2 m : Int) + 1 + e) := (zpow_add₀ (by norm_num) _ _).symm
      _ ≤ 10 ^ (-400 : Int) := zpow_le_zpow_right₀ (by norm_num) (by omega)
  split
  · rename_i he
    obtain ⟨n, rfl⟩ := Int.eq_ofNat_of_zero_le he
    rw [round_eq_nearest negative Nat.one_pos, Int.toNat_natCast, Nat.pow_eq, Nat.cast_one,
      div_one, Nat.cast_mul, Nat.cast_pow, Nat.cast_ofNat, zpow_natCast]
  · rename_i he
    obtain ⟨n, rfl⟩ : ∃ n : Nat, e = -n := ⟨(-e).toNat, by omega⟩
    rw [neg_neg, Int.toNat_natCast, Nat.pow_eq, round_eq_nearest negative (Nat.pow_pos (by decide)),
      Nat.cast_pow, Nat.cast_ofNat, zpow_neg, zpow_natCast, div_eq_mul_inv]

/-- **Decimals of the same value are rounded to the same double.** -/
theorem ofDecimal_congr (negative : Bool) {m m' : Nat} {e e' : Int}
    (h : (m : ℚ) * 10 ^ e = m' * 10 ^ e') : ofDecimal negative m e = ofDecimal negative m' e' := by
  rw [ofDecimal_eq_nearest, ofDecimal_eq_nearest, h]

/-- **The decimal of a double is rounded to the double.** -/
theorem ofDecimal_exact (negative : Bool) {m k : Nat} {e f : Int} (hc : Canonical k f)
    (h : (m : ℚ) * 10 ^ e = k * 2 ^ f) : ofDecimal negative m e = .finite negative k f hc := by
  rw [ofDecimal_eq_nearest]
  refine round_exact negative hc (Rat.den_pos _) ?_
  rw [cast_num_div_den (by positivity), h]

/-- A double with a sign, in place of the one it has. -/
def withSign (negative : Bool) : Binary64 → Binary64
  | .nan => .nan
  | .infinite _ => .infinite negative
  | .finite _ m e h => .finite negative m e h

/-- **The sign does not matter to the rounding.** -/
theorem ofDecimal_withSign (negative : Bool) (m : Nat) (e : Int) :
    ofDecimal negative m e = (ofDecimal false m e).withSign negative := by
  have hcarried (m : Nat) (e : Int) :
      carried negative m e = (carried false m e).withSign negative := by
    unfold carried
    dsimp only
    split_ifs <;> rfl
  have hround (num den : Nat) :
      round negative num den = (round false num den).withSign negative := by
    by_cases hn : num = 0
    · rw [hn]
      rfl
    · rw [round_of_ne_zero _ hn, round_of_ne_zero _ hn, hcarried]
  unfold ofDecimal
  rw [hround, hround]
  split_ifs <;> rfl

end DiscreetLog.Binary64
