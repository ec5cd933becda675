import Mathlib.Data.List.DropRight
import Mathlib.Data.Nat.Cast.Order.Field
import Mathlib.Tactic.NormNum.Pow
import TaskShell.Proofs.Number.Rounding

/-!
# Shortest decimals

The digits of a number are looked for on finer and finer grids of powers of ten, until one of its
decimals lies in the interval of the number. Seventeen digits always do: a step of their grid is less
than the interval is wide. So the search ends within the interval, and what it finds is read as the
number.

## Main definitions

* `Binary64.decimalFraction` — a coefficient and an exponent as a fraction.
* `Binary64.Digits.value`, `Binary64.Digits.IsDecimal` — what digits stand for, and that they can be
  laid out.

## Main results

* `Binary64.ofDecimal_eq_of_contains` — a decimal in the interval of a number is read as it.
* `Binary64.Interval.holds_iff` — integers decide whether an interval holds a decimal.
* `Binary64.exists_shortest` — the digits that are found lie in the interval.
-/

set_option autoImplicit false

namespace TaskShell.Binary64

open Number (twoTo tenTo)

variable {n d m c : ℕ} {e E : ℤ} {q : ℚ}

/-! ## Decimals -/

/-- Powers of ten of a whole exponent are positive. -/
lemma ten_zpow_pos (e : ℤ) : (0 : ℚ) < 10 ^ e :=
  zpow_pos (by norm_num) e

/-- A positive number lies between the powers of ten at its number of digits. -/
lemma ten_zpow_digitCount_le (hc : 0 < c) :
    (10 : ℚ) ^ ((digitCount c : ℤ) - 1) ≤ c ∧ (c : ℚ) < 10 ^ (digitCount c : ℤ) := by
  have hcount : digitCount c = (Nat.toDigits 10 c).length := if_neg hc.ne'
  obtain ⟨k, hk⟩ : ∃ k, digitCount c = k + 1 :=
    ⟨digitCount c - 1, by have := Nat.length_toDigits_pos (n := c) (b := 10); omega⟩
  rw [hk, Nat.cast_add_one, add_sub_cancel_right, zpow_natCast]
  constructor
  · by_contra hlt
    have hlt' : c < 10 ^ k := by exact_mod_cast not_le.1 hlt
    cases k with
    | zero => omega
    | succ k =>
      have := (Nat.length_toDigits_le_iff (by decide) (Nat.succ_pos k)).2 hlt'
      omega
  · have := (Nat.length_toDigits_le_iff (n := c) (b := 10) (by decide) (Nat.succ_pos k)).1 (by omega)
    exact_mod_cast this

/-- A coefficient and an exponent as a fraction. -/
def decimalFraction (c : ℕ) (E : ℤ) : ℕ × ℕ :=
  if E < 0 then (c, tenTo (-E).toNat) else (c * tenTo E.toNat, 1)

/-- The fraction of a coefficient and an exponent. -/
lemma decimalFraction_div (c : ℕ) (E : ℤ) :
    ((decimalFraction c E).1 : ℚ) / ((decimalFraction c E).2 : ℕ) = c * 10 ^ E := by
  have hvalue := mul_zpow_eq 10 c E
  rw [Nat.cast_ofNat] at hvalue
  rw [hvalue, decimalFraction]
  split <;> rfl

/-- The denominator of such a fraction is positive. -/
lemma decimalFraction_pos (c : ℕ) (E : ℤ) : 0 < (decimalFraction c E).2 := by
  unfold decimalFraction
  split
  · exact Nat.pow_pos (by decide)
  · exact Nat.one_pos

/-- The powers of ten beyond the largest and the smallest numbers. -/
lemma ten_zpow_bounds : (2 : ℚ) ^ 53 * 2 ^ (971 : ℤ) < 10 ^ (310 : ℤ) ∧
    (10 : ℚ) ^ (-330 : ℤ) < 1 / 2 * 2 ^ (-1074 : ℤ) := by
  have hlarge : 2 ^ 53 * 2 ^ 971 < 10 ^ 310 := by decide +kernel
  have hsmall : 2 * 2 ^ 1074 < 10 ^ 330 := by decide +kernel
  constructor
  · exact_mod_cast hlarge
  · rw [zpow_neg, zpow_neg, one_div, ← mul_inv]
    refine inv_strictAnti₀ (by positivity) ?_
    exact_mod_cast hsmall

/-- What is near to a positive number of the format lies between these powers of ten. -/
lemma IsNear.bounds (fits : Fits m e) (hm : 0 < m) (h : IsNear m e (q / 2 ^ e)) :
    (10 : ℚ) ^ (-330 : ℤ) < q ∧ q < 10 ^ (310 : ℤ) := by
  have hpos := two_zpow_pos e
  have hm' : (1 : ℚ) ≤ m := by exact_mod_cast hm
  have hlt : (m : ℚ) ≤ 2 ^ 53 - 1 := by
    have : ((m + 1 : ℕ) : ℚ) ≤ ((2 ^ 53 : ℕ) : ℚ) := by exact_mod_cast fits.significand_lt
    push_cast at this
    linarith
  have hlow := h.low
  have hhigh := h.high
  rw [le_div_iff₀ hpos] at hlow
  rw [div_le_iff₀ hpos] at hhigh
  constructor
  · refine ten_zpow_bounds.2.trans_le (le_trans ?_ hlow)
    have hleast : (2 : ℚ) ^ (-1074 : ℤ) ≤ 2 ^ e :=
      zpow_le_zpow_right₀ (by norm_num) fits.least_le
    exact mul_le_mul (by linarith) hleast (two_zpow_pos _).le (by linarith)
  · refine (hhigh.trans ?_).trans_lt ten_zpow_bounds.1
    have hgreatest : (2 : ℚ) ^ e ≤ 2 ^ (971 : ℤ) :=
      zpow_le_zpow_right₀ (by norm_num) fits.le_greatest
    exact mul_le_mul (by linarith) hgreatest hpos.le (by positivity)

/-- A decimal in the interval of a number of the format is read as that number. -/
theorem ofDecimal_eq_of_contains (fits : Fits m e) (hm : 0 < m)
    (h : (intervalOf m e).Contains (c * 10 ^ E)) (negative : Bool) :
    ofDecimal negative c E = .finite negative m e fits := by
  obtain ⟨hsmallest, hlargest⟩ := (IsNear.of_contains hm h).bounds fits hm
  have hten := ten_zpow_pos E
  have hc : 0 < c := by
    have hpos : (0 : ℚ) < c * 10 ^ E := (ten_zpow_pos _).trans hsmallest
    exact_mod_cast pos_of_mul_pos_left hpos hten.le
  obtain ⟨hdigits₁, hdigits₂⟩ := ten_zpow_digitCount_le hc
  have hlarge : ¬ 310 < E + digitCount c := by
    intro hlarge
    have hpow : (10 : ℚ) ^ (310 : ℤ) ≤ 10 ^ ((digitCount c : ℤ) - 1 + E) :=
      zpow_le_zpow_right₀ (by norm_num) (by omega)
    rw [zpow_add₀ (by norm_num)] at hpow
    exact absurd (hpow.trans (mul_le_mul_of_nonneg_right hdigits₁ hten.le)) (not_le.2 hlargest)
  have hsmall : ¬ E + digitCount c < -330 := by
    intro hsmall
    have hpow : (10 : ℚ) ^ ((digitCount c : ℤ) + E) ≤ 10 ^ (-330 : ℤ) :=
      zpow_le_zpow_right₀ (by norm_num) (by omega)
    rw [zpow_add₀ (by norm_num)] at hpow
    exact absurd ((mul_lt_mul_of_pos_right hdigits₂ hten).le.trans hpow) (not_le.2 hsmallest)
  have hratio : ofRatio negative (decimalFraction c E).1 (decimalFraction c E).2 =
      .finite negative m e fits := by
    refine ofRatio_eq_of_contains fits hm (decimalFraction_pos c E) ?_ negative
    rwa [decimalFraction_div]
  unfold ofDecimal
  rw [if_neg hc.ne']
  dsimp only
  rw [if_neg hlarge, if_neg hsmall, ← hratio]
  unfold decimalFraction
  split <;> rfl

/-! ## The shortest digits -/

/-- What digits stand for. -/
def Digits.value (digits : Digits) : ℚ :=
  Nat.ofDigitChars 10 digits.digits 0 * 10 ^ (digits.point - digits.digits.length)

/-- Digits that stand for a decimal, without the zeros at their end. -/
lemma Digits.value_ofCoefficient (c : ℕ) (E : ℤ) : (Digits.ofCoefficient c E).value = c * 10 ^ E := by
  set kept := (Nat.toDigits 10 c).rdropWhile (· == '0') with hkept
  obtain ⟨zeros, hzeros⟩ : ∃ zeros : ℕ, Nat.toDigits 10 c = kept ++ List.replicate zeros '0' := by
    refine ⟨((Nat.toDigits 10 c).rtakeWhile (· == '0')).length, ?_⟩
    rw [← List.eq_replicate_of_mem (l := (Nat.toDigits 10 c).rtakeWhile (· == '0')) fun a ha => by
        simpa using List.mem_rtakeWhile_imp ha, List.rdropWhile_append_rtakeWhile]
  have hc : Nat.ofDigitChars 10 (Nat.toDigits 10 c) 0 = c :=
    Nat.ofDigitChars_toDigits (by decide) (by decide)
  rw [hzeros, Nat.ofDigitChars_append, Nat.ofDigitChars_replicate_zero] at hc
  have hlength : (Nat.toDigits 10 c).length = kept.length + zeros := by
    rw [hzeros, List.length_append, List.length_replicate]
  change (Nat.ofDigitChars 10 kept 0 : ℚ) *
    10 ^ (E + ((Nat.toDigits 10 c).length : ℤ) - (kept.length : ℤ)) = _
  rw [hlength, ← hc]
  rw [show E + ((kept.length + zeros : ℕ) : ℤ) - kept.length = zeros + E by push_cast; ring,
    zpow_add₀ (by norm_num), zpow_natCast]
  push_cast
  ring

/-- Digits that can be laid out: there are some, and they are decimal. -/
structure Digits.IsDecimal (digits : Digits) : Prop where
  ne_nil : digits.digits ≠ []
  isDigit : ∀ c ∈ digits.digits, c.isDigit = true

/-- The digits of a decimal that is not zero can be laid out. -/
lemma Digits.isDecimal_ofCoefficient (hc : 0 < c) (E : ℤ) : (Digits.ofCoefficient c E).IsDecimal := by
  constructor
  · intro hnil
    have hvalue := Digits.value_ofCoefficient c E
    rw [Digits.value, hnil, Nat.ofDigitChars_nil, Nat.cast_zero, zero_mul] at hvalue
    have : (0 : ℚ) < c := by exact_mod_cast hc
    exact absurd hvalue (mul_pos this (ten_zpow_pos E)).ne
  · intro a ha
    have ha' : a ∈ Nat.toDigits 10 c := by
      have := (List.dropWhile_sublist _).subset (List.mem_reverse.1 ha)
      exact List.mem_reverse.1 this
    exact Nat.isDigit_of_mem_toDigits (by decide) (by decide) ha'

/-! ## The search -/

/-- The nearest integer is the whole part of a fraction or the next one. -/
lemma roundHalfEven_eq_or (n d : ℕ) : roundHalfEven n d = n / d ∨ roundHalfEven n d = n / d + 1 := by
  unfold roundHalfEven
  dsimp only
  split
  · exact .inl rfl
  · split
    · exact .inr rfl
    · split
      · exact .inl rfl
      · exact .inr rfl

/-- The steps on a grid of powers of ten. -/
lemma gridSteps_div (n d : ℕ) (E : ℤ) :
    ((gridSteps n d E).1 : ℚ) / ((gridSteps n d E).2 : ℕ) = n / d / 10 ^ E := by
  have hvalue := div_zpow_eq 10 n d E
  rw [Nat.cast_ofNat] at hvalue
  rw [hvalue, gridSteps]
  split <;> rfl

/-- Their denominator is positive. -/
lemma gridSteps_pos (hd : 0 < d) (n : ℕ) (E : ℤ) : 0 < (gridSteps n d E).2 := by
  unfold gridSteps
  split
  · exact hd
  · exact Nat.mul_pos hd (Nat.pow_pos (by decide))

/-- Whether an interval holds a decimal is decided with integers. -/
lemma Interval.holds_iff (i : Interval) (c : ℕ) (E : ℤ) :
    i.holds c E = true ↔ i.Contains (c * 10 ^ E) := by
  have hdecimal : (0 : ℚ) < ((decimalFraction c E).2 : ℕ) := by exact_mod_cast decimalFraction_pos c E
  have hbound (bound : ℕ) : (0 : ℚ) < ((fraction bound i.exponent).2 : ℕ) := by
    exact_mod_cast fraction_pos bound i.exponent
  -- each comparison is one of products
  have hle (bound : ℕ) : (fraction bound i.exponent).1 * (decimalFraction c E).2 ≤
      (decimalFraction c E).1 * (fraction bound i.exponent).2 ↔
        (bound : ℚ) * 2 ^ i.exponent ≤ c * 10 ^ E := by
    rw [← fraction_div, ← decimalFraction_div, div_le_div_iff₀ (hbound bound) hdecimal]
    exact_mod_cast Iff.rfl
  have hge (bound : ℕ) : (decimalFraction c E).1 * (fraction bound i.exponent).2 ≤
      (fraction bound i.exponent).1 * (decimalFraction c E).2 ↔
        (c : ℚ) * 10 ^ E ≤ bound * 2 ^ i.exponent := by
    rw [← fraction_div, ← decimalFraction_div, div_le_div_iff₀ hdecimal (hbound bound)]
    exact_mod_cast Iff.rfl
  change (if i.closed then
      decide ((fraction i.low i.exponent).1 * (decimalFraction c E).2 ≤
          (decimalFraction c E).1 * (fraction i.low i.exponent).2) &&
        decide ((decimalFraction c E).1 * (fraction i.high i.exponent).2 ≤
          (fraction i.high i.exponent).1 * (decimalFraction c E).2)
    else
      decide ((fraction i.low i.exponent).1 * (decimalFraction c E).2 <
          (decimalFraction c E).1 * (fraction i.low i.exponent).2) &&
        decide ((decimalFraction c E).1 * (fraction i.high i.exponent).2 <
          (fraction i.high i.exponent).1 * (decimalFraction c E).2)) = true ↔ _
  unfold Interval.Contains
  cases i.closed with
  | true => simp [hle, hge]
  | false =>
    simp only [Bool.false_eq_true, if_false, Bool.and_eq_true, decide_eq_true_eq, ← not_le, hle,
      hge, true_imp_iff]
    constructor
    · rintro ⟨hlow, hhigh⟩
      exact ⟨(not_le.1 hlow).le, (not_le.1 hhigh).le, (not_le.1 hlow).ne, (not_le.1 hhigh).ne⟩
    · rintro ⟨hlow, hhigh, hlow', hhigh'⟩
      exact ⟨not_le.2 (lt_of_le_of_ne hlow hlow'), not_le.2 (lt_of_le_of_ne hhigh hhigh')⟩

/-- The search ends with a decimal in the interval, if what is found on the last grid lies there. -/
lemma exists_searchDigits {i : Interval} {magnitude : ℤ} (hd : 0 < d)
    (hlast : ∀ c : ℕ, IsNearest c (n / d / 10 ^ (magnitude - 17)) →
      i.Contains (c * 10 ^ (magnitude - 17)))
    (fuel count : ℕ) (hcount : count + fuel = 17) :
    ∃ (c : ℕ) (E : ℤ), searchDigits i n d magnitude fuel count = .ofCoefficient c E ∧
      i.Contains (c * 10 ^ E) := by
  induction fuel generalizing count with
  | zero =>
    obtain rfl : count = 17 := hcount
    refine ⟨_, _, rfl, ?_⟩
    have hnearest := isNearest_roundHalfEven (gridSteps_pos hd n (magnitude - 17))
      (gridSteps n d (magnitude - 17)).1
    rw [gridSteps_div] at hnearest
    exact hlast _ hnearest
  | succ fuel ih =>
    unfold searchDigits
    dsimp only
    split
    · next hboth =>
      rw [Bool.and_eq_true] at hboth
      refine ⟨_, _, rfl, ?_⟩
      rw [← Interval.holds_iff]
      rcases roundHalfEven_eq_or (gridSteps n d (magnitude - count)).1
        (gridSteps n d (magnitude - count)).2 with hround | hround <;> rw [hround]
      · exact hboth.1
      · exact hboth.2
    · split
      · next hdown => exact ⟨_, _, rfl, (Interval.holds_iff _ _ _).1 hdown⟩
      · split
        · next hup => exact ⟨_, _, rfl, (Interval.holds_iff _ _ _).1 hup⟩
        · exact ih (count + 1) (by omega)

/-- The power of ten before the first digit of a fraction is not above it. -/
lemma ten_zpow_decimalExponent_le (h : (10 : ℚ) ^ (-330 : ℤ) < n / d) :
    (10 : ℚ) ^ (decimalExponent n d - 1) ≤ n / d := by
  have hd : (0 : ℚ) < d := by
    rcases Nat.eq_zero_or_pos d with rfl | hd
    · rw [Nat.cast_zero, div_zero] at h
      exact absurd h (not_lt.2 (ten_zpow_pos _).le)
    · exact_mod_cast hd
  have hmul (k : ℕ) : ((n * tenTo k : ℕ) : ℚ) / d = n / d * 10 ^ (k : ℤ) := by
    change ((n * 10 ^ k : ℕ) : ℚ) / d = _
    push_cast
    rw [zpow_natCast, div_mul_eq_mul_div]
  have hwhole : 0 < n * tenTo 330 / d := by
    have hone : (1 : ℚ) ≤ (n * tenTo 330 : ℕ) / d := by
      rw [hmul]
      rw [zpow_neg, inv_lt_iff_one_lt_mul₀ (ten_zpow_pos _)] at h
      exact h.le
    rw [le_div_iff₀ hd, one_mul] at hone
    exact Nat.div_pos (by exact_mod_cast hone) (by exact_mod_cast hd)
  obtain ⟨hdigits, -⟩ := ten_zpow_digitCount_le hwhole
  have hfloor : ((n * tenTo 330 / d : ℕ) : ℚ) ≤ (n * tenTo 330 : ℕ) / d := Nat.cast_div_le
  rw [hmul] at hfloor
  rw [decimalExponent, sub_right_comm, zpow_sub₀ (by norm_num), div_le_iff₀ (ten_zpow_pos _)]
  exact hdigits.trans hfloor

/-- What is closer to a number than seventeen digits allow lies in its interval. -/
lemma contains_of_close (fits : Fits m e) (hm : 0 < m) {t : ℚ} (hlow : m - m / (2 * 10 ^ 16) ≤ t)
    (hhigh : t ≤ m + m / (2 * 10 ^ 16)) : (intervalOf m e).Contains (t * 2 ^ e) := by
  have hlt : (m : ℚ) < 2 ^ 53 := by exact_mod_cast fits.significand_lt
  have hlowEnd : lowEnd m e < t := by
    unfold lowEnd
    split
    · next hdense =>
      have hm' : (m : ℚ) = 2 ^ 52 := by exact_mod_cast hdense.1
      rw [hm'] at hlow ⊢
      linarith
    · linarith
  have hhighEnd : t < m + 1 / 2 := by linarith
  rw [contains_iff hm]
  exact ⟨hlowEnd.le, hhighEnd.le, fun _ => ⟨hlowEnd.ne, hhighEnd.ne⟩⟩

/-- The shortest digits of a positive number lie in its interval. -/
theorem exists_shortest (fits : Fits m e) (hm : 0 < m) :
    ∃ (c : ℕ) (E : ℤ), shortest m e = .ofCoefficient c E ∧
      (intervalOf m e).Contains (c * 10 ^ E) := by
  have hpos := two_zpow_pos e
  have hself : (intervalOf m e).Contains (m * 2 ^ e) := by
    have hm' : (0 : ℚ) ≤ m := by positivity
    exact contains_of_close fits hm (by linarith) (by linarith)
  have hsmallest := ((IsNear.of_contains hm hself).bounds fits hm).1
  have hfraction := fraction_div m e
  unfold shortest
  rw [if_neg hm.ne']
  dsimp only
  refine exists_searchDigits (fraction_pos m e) (fun c hnearest => ?_) 16 1 rfl
  have hdigit : (10 : ℚ) ^ (decimalExponent (fraction m e).1 (fraction m e).2 - 1) ≤ m * 2 ^ e := by
    rw [← hfraction]
    exact ten_zpow_decimalExponent_le (by rwa [hfraction])
  generalize decimalExponent (fraction m e).1 (fraction m e).2 = magnitude at *
  -- a step of the last grid is small
  have hgrid : (10 : ℚ) ^ (magnitude - 17) * 10 ^ 16 = 10 ^ (magnitude - 1) := by
    rw [← zpow_natCast, ← zpow_add₀ (by norm_num)]
    congr 1
    push_cast
    ring
  have hten := ten_zpow_pos (magnitude - 17)
  have hlow := hnearest.low
  have hhigh := hnearest.high
  rw [hfraction, le_div_iff₀ hten] at hlow
  rw [hfraction, div_le_iff₀ hten] at hhigh
  generalize (10 : ℚ) ^ (magnitude - 17) = step at *
  obtain ⟨t, ht⟩ : ∃ t, (c : ℚ) * step = t * 2 ^ e :=
    ⟨c * step / 2 ^ e, (div_mul_cancel₀ _ hpos.ne').symm⟩
  rw [ht]
  refine contains_of_close fits hm ?_ ?_
  · refine le_of_mul_le_mul_right ?_ hpos
    rw [sub_mul, div_mul_eq_mul_div, ← ht, ← sub_nonneg]
    linarith
  · refine le_of_mul_le_mul_right ?_ hpos
    rw [add_mul, div_mul_eq_mul_div, ← ht]
    linarith

end TaskShell.Binary64
