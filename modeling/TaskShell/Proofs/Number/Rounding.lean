import Mathlib.Algebra.Order.AbsoluteValue.Basic
import Mathlib.Tactic.Linarith
import Mathlib.Tactic.Positivity
import Mathlib.Tactic.Ring
import TaskShell.Number.Shortest
import TaskShell.Proofs.Number.Rational

/-!
# Rounding to the format

A number of the format stands for an interval, that of the rational numbers which are nearer to it
than to any other. Each fraction in it rounds to the number: a fraction has but one exponent at which
it is rounded, and at this exponent the number is the nearest integer. Just below a power of two the
unit is half as large, and the fraction first rounds to a whole power of two there.

## Main definitions

* `Binary64.IsNearest` — an integer is nearest to a rational number.
* `Binary64.Scales` — the exponent at which a rational number is rounded.
* `Binary64.Interval.Contains`, `Binary64.IsNear` — the interval of a number, and what lies in it
  counted in units of the number.

## Main results

* `Binary64.isNearest_roundHalfEven` — a fraction rounds to the nearest integer.
* `Binary64.scales_exponentOf` — the exponent of a fraction is found from the lengths of its parts.
* `Binary64.contains_iff` — the interval of a number, in its units.
* `Binary64.ofRatio_eq_of_contains` — a fraction in the interval of a number rounds to it.
-/

set_option autoImplicit false

namespace TaskShell.Binary64

open Number (twoTo tenTo)

variable {n d m : ℕ} {e : ℤ} {q : ℚ}

/-! ## Fractions -/

/-- Powers of two of a whole exponent are positive. -/
lemma two_zpow_pos (e : ℤ) : (0 : ℚ) < 2 ^ e :=
  zpow_pos (by norm_num) e

/-- A number times a power of a base: a negative exponent divides, any other multiplies. -/
lemma mul_zpow_eq (base n : ℕ) (e : ℤ) : (n : ℚ) * base ^ e =
    if e < 0 then (n : ℚ) / (base ^ (-e).toNat : ℕ)
    else ((n * base ^ e.toNat : ℕ) : ℚ) / (1 : ℕ) := by
  split
  · next h =>
    obtain ⟨k, rfl⟩ : ∃ k : ℕ, e = -k := ⟨(-e).toNat, by omega⟩
    rw [neg_neg, Int.toNat_natCast, zpow_neg, zpow_natCast, div_eq_mul_inv, Nat.cast_pow]
  · next h =>
    obtain ⟨k, rfl⟩ : ∃ k : ℕ, e = k := ⟨e.toNat, by omega⟩
    rw [Int.toNat_natCast, zpow_natCast, Nat.cast_one, div_one, Nat.cast_mul, Nat.cast_pow]

/-- A quotient over a power of a base: a negative exponent goes above, any other below. -/
lemma div_zpow_eq (base n d : ℕ) (e : ℤ) : (n : ℚ) / d / base ^ e =
    if e < 0 then ((n * base ^ (-e).toNat : ℕ) : ℚ) / d
    else (n : ℚ) / (d * base ^ e.toNat : ℕ) := by
  split
  · next h =>
    obtain ⟨k, rfl⟩ : ∃ k : ℕ, e = -k := ⟨(-e).toNat, by omega⟩
    rw [neg_neg, Int.toNat_natCast, zpow_neg, zpow_natCast, div_inv_eq_mul, div_mul_eq_mul_div,
      Nat.cast_mul, Nat.cast_pow]
  · next h =>
    obtain ⟨k, rfl⟩ : ∃ k : ℕ, e = k := ⟨e.toNat, by omega⟩
    rw [Int.toNat_natCast, zpow_natCast, div_div, Nat.cast_mul, Nat.cast_pow]

/-- A significand and an exponent as a fraction. -/
lemma fraction_div (m : ℕ) (e : ℤ) :
    ((fraction m e).1 : ℚ) / ((fraction m e).2 : ℕ) = m * 2 ^ e := by
  have hvalue := mul_zpow_eq 2 m e
  rw [Nat.cast_ofNat] at hvalue
  rw [hvalue, fraction]
  split <;> rfl

/-- The denominator of such a fraction is positive. -/
lemma fraction_pos (m : ℕ) (e : ℤ) : 0 < (fraction m e).2 := by
  unfold fraction
  split
  · exact Nat.two_pow_pos _
  · exact Nat.one_pos

/-- A scaled quotient is a quotient divided by a power of two. -/
lemma scaled_div (n d : ℕ) (e : ℤ) :
    ((scaled n d e).1 : ℚ) / ((scaled n d e).2 : ℕ) = n / d / 2 ^ e := by
  have hvalue := div_zpow_eq 2 n d e
  rw [Nat.cast_ofNat] at hvalue
  rw [hvalue, scaled]
  split <;> rfl

/-- The denominator of a scaled quotient is positive. -/
lemma scaled_pos (hd : 0 < d) (n : ℕ) (e : ℤ) : 0 < (scaled n d e).2 := by
  unfold scaled
  split
  · exact hd
  · exact Nat.mul_pos hd (Nat.two_pow_pos _)

/-! ## The nearest integer -/

/-- An integer is nearest to a rational number: it is at most a half away, and even if it is a half
away. -/
structure IsNearest (m : ℕ) (t : ℚ) : Prop where
  low : (m : ℚ) - 1 / 2 ≤ t
  high : t ≤ m + 1 / 2
  even : (m : ℚ) - 1 / 2 = t ∨ t = m + 1 / 2 → m % 2 = 0

/-- No two integers are nearest to a number: one of two that are a half away is odd. -/
lemma IsNearest.unique {a b : ℕ} {t : ℚ} (ha : IsNearest a t) (hb : IsNearest b t) : a = b := by
  have hle : ∀ {a b : ℕ}, IsNearest a t → IsNearest b t → a ≤ b := by
    intro a b ha hb
    by_contra hlt
    have hsucc : ((b + 1 : ℕ) : ℚ) ≤ a := by exact_mod_cast Nat.lt_of_not_le hlt
    push_cast at hsucc
    have hlow := ha.low
    have hhigh := hb.high
    have hnext : (a : ℚ) = b + 1 := by linarith
    have heven := ha.even (.inl (by linarith))
    have heven' := hb.even (.inr (by linarith))
    have : a = b + 1 := by exact_mod_cast hnext
    omega
  exact le_antisymm (hle ha hb) (hle hb ha)

/-- A fraction rounds to the integer nearest to it. -/
lemma isNearest_roundHalfEven (hd : 0 < d) (n : ℕ) : IsNearest (roundHalfEven n d) (n / d) := by
  -- the same with integers
  have hspec : 2 * (roundHalfEven n d * d) ≤ 2 * n + d ∧ 2 * n ≤ 2 * (roundHalfEven n d * d) + d ∧
      (2 * (roundHalfEven n d * d) = 2 * n + d ∨ 2 * n = 2 * (roundHalfEven n d * d) + d →
        roundHalfEven n d % 2 = 0) := by
    have hn := Nat.div_add_mod n d
    have hr := Nat.mod_lt n hd
    have hcomm := Nat.mul_comm (n / d) d
    unfold roundHalfEven
    dsimp only
    split
    · omega
    · split
      · rw [Nat.add_mul, Nat.one_mul]
        omega
      · split
        · omega
        · rw [Nat.add_mul, Nat.one_mul]
          omega
  obtain ⟨hlow, hhigh, heven⟩ := hspec
  have hd' : (0 : ℚ) < d := by exact_mod_cast hd
  refine ⟨?_, ?_, fun htie => heven ?_⟩
  · have : (2 * (roundHalfEven n d * d) : ℚ) ≤ 2 * n + d := by exact_mod_cast hlow
    rw [le_div_iff₀ hd']
    linarith
  · have : (2 * n : ℚ) ≤ 2 * (roundHalfEven n d * d) + d := by exact_mod_cast hhigh
    rw [div_le_iff₀ hd']
    linarith
  · rw [eq_div_iff hd'.ne', div_eq_iff hd'.ne'] at htie
    refine htie.imp (fun htie => ?_) fun htie => ?_
    · have : (2 * (roundHalfEven n d * d) : ℚ) = 2 * n + d := by linarith
      exact_mod_cast this
    · have : (2 * n : ℚ) = 2 * (roundHalfEven n d * d) + d := by linarith
      exact_mod_cast this

/-- A scaled quotient rounds to the integer nearest to it. -/
lemma roundHalfEven_scaled (hd : 0 < d) (h : IsNearest m (n / d / 2 ^ e)) :
    roundHalfEven (scaled n d e).1 (scaled n d e).2 = m := by
  rw [← scaled_div] at h
  exact (isNearest_roundHalfEven (scaled_pos hd n e) _).unique h

/-! ## Exponents -/

/-- The exponent at which a rational number is rounded: the least one that leaves a whole part of at
most 53 bits, but not below that of the format. -/
structure Scales (q : ℚ) (e : ℤ) : Prop where
  least_le : -1074 ≤ e
  lt : q < 2 ^ 53 * 2 ^ e
  full_or_least : 2 ^ 52 * 2 ^ e ≤ q ∨ e = -1074

/-- No number has two such exponents. -/
lemma Scales.unique {a b : ℤ} (ha : Scales q a) (hb : Scales q b) : a = b := by
  have hle : ∀ {a b : ℤ}, Scales q a → Scales q b → b ≤ a := by
    intro a b ha hb
    by_contra hlt
    have hfull := hb.full_or_least.resolve_right (by have := ha.least_le; omega)
    have hpow : (2 : ℚ) ^ (a + 1) ≤ 2 ^ b := zpow_le_zpow_right₀ (by norm_num) (by omega)
    rw [zpow_add_one₀ (by norm_num)] at hpow
    have := ha.lt
    linarith
  exact le_antisymm (hle hb ha) (hle ha hb)

/-- A positive number lies between the powers of two at its length. -/
lemma two_zpow_log2_le (hn : 0 < n) :
    (2 : ℚ) ^ (n.log2 : ℤ) ≤ n ∧ (n : ℚ) < 2 ^ ((n.log2 : ℤ) + 1) := by
  rw [zpow_add_one₀ (by norm_num), zpow_natCast]
  constructor
  · exact_mod_cast Nat.log2_self_le hn.ne'
  · have := Nat.lt_log2_self (n := n)
    rw [pow_succ] at this
    exact_mod_cast this

/-- Comparing the parts of a scaled quotient is comparing the quotient. -/
lemma le_scaled_iff (hd : 0 < d) (n k : ℕ) (e : ℤ) :
    twoTo k * (scaled n d e).2 ≤ (scaled n d e).1 ↔ (2 : ℚ) ^ k * 2 ^ e ≤ n / d := by
  have hpos : (0 : ℚ) < ((scaled n d e).2 : ℕ) := by exact_mod_cast scaled_pos hd n e
  rw [← le_div_iff₀ (two_zpow_pos e), ← scaled_div, le_div_iff₀ hpos]
  change 2 ^ k * _ ≤ _ ↔ _
  exact_mod_cast Iff.rfl

/-- The exponent of a fraction is found from the lengths of its two parts. -/
lemma scales_exponentOf (hn : 0 < n) (hd : 0 < d) : Scales ((n : ℚ) / d) (exponentOf n d) := by
  have hd' : (0 : ℚ) < d := by exact_mod_cast hd
  obtain ⟨hn₁, hn₂⟩ := two_zpow_log2_le hn
  obtain ⟨hd₁, hd₂⟩ := two_zpow_log2_le hd
  -- the quotient lies between two powers of two that are next to each other but one
  have hlow : (2 : ℚ) ^ ((n.log2 : ℤ) - d.log2 - 1) < n / d := by
    rw [show (n.log2 : ℤ) - d.log2 - 1 = n.log2 - (d.log2 + 1) by ring, zpow_sub₀ (by norm_num),
      div_lt_div_iff₀ (two_zpow_pos _) hd']
    exact mul_lt_mul' hn₁ hd₂ hd'.le (lt_of_lt_of_le (two_zpow_pos _) hn₁)
  have hhigh : (n : ℚ) / d < 2 ^ ((n.log2 : ℤ) - d.log2 + 1) := by
    rw [show (n.log2 : ℤ) - d.log2 + 1 = n.log2 + 1 - d.log2 by ring, zpow_sub₀ (by norm_num),
      div_lt_div_iff₀ hd' (two_zpow_pos _)]
    exact mul_lt_mul hn₂ hd₁ (two_zpow_pos _) (two_zpow_pos _).le
  have hpow : ∀ (k : ℕ) (a : ℤ), (2 : ℚ) ^ k * 2 ^ a = 2 ^ (a + k) := fun k a => by
    rw [zpow_add₀ (by norm_num), zpow_natCast, mul_comm]
  unfold exponentOf
  set guess := max ((n.log2 : ℤ) - d.log2 - 53) (-1074) with hguess
  simp only [le_scaled_iff hd]
  have hleast : -1074 ≤ guess := le_max_right _ _
  split
  · next hbig =>
    -- only a guess above the least exponent can be too low
    have hguess' : guess = (n.log2 : ℤ) - d.log2 - 53 := by
      by_contra hne
      have hle : (2 : ℚ) ^ ((n.log2 : ℤ) - d.log2 + 1) ≤ 2 ^ (guess + (53 : ℕ)) :=
        zpow_le_zpow_right₀ (by norm_num) (by omega)
      rw [hpow] at hbig
      exact absurd (hbig.trans_lt hhigh) (not_lt.2 hle)
    refine ⟨by omega, ?_, .inl ?_⟩
    · rw [hpow, hguess']
      convert hhigh using 2
      push_cast
      ring
    · rw [hpow] at hbig ⊢
      convert hbig using 2
      push_cast
      ring
  · next hsmall =>
    refine ⟨hleast, not_le.1 hsmall, ?_⟩
    rcases max_choice ((n.log2 : ℤ) - d.log2 - 53) (-1074) with hmax | hmax
    · left
      rw [hpow, hguess, hmax]
      refine le_trans (le_of_eq ?_) hlow.le
      congr 1
      push_cast
      ring
    · exact .inr (hguess.trans hmax)

/-! ## Intervals -/

/-- A rational number lies in an interval. -/
def Interval.Contains (i : Interval) (q : ℚ) : Prop :=
  (i.low : ℚ) * 2 ^ i.exponent ≤ q ∧ q ≤ i.high * 2 ^ i.exponent ∧
    (i.closed = false → (i.low : ℚ) * 2 ^ i.exponent ≠ q ∧ q ≠ i.high * 2 ^ i.exponent)

/-- A number is nearest to a multiple of its unit. Below a power of two the units are half as large. -/
structure IsNear (m : ℕ) (e : ℤ) (t : ℚ) : Prop extends IsNearest m t where
  dense : m = 2 ^ 52 → -1074 < e → (m : ℚ) - 1 / 4 ≤ t

/-- Where the interval of a number begins, in units of the number. -/
def lowEnd (m : ℕ) (e : ℤ) : ℚ :=
  if m = 2 ^ 52 ∧ -1074 < e then m - 1 / 4 else m - 1 / 2

/-- The interval of a number, in units of the number. -/
lemma contains_iff (hm : 0 < m) (t : ℚ) : (intervalOf m e).Contains (t * 2 ^ e) ↔
    lowEnd m e ≤ t ∧ t ≤ m + 1 / 2 ∧ (m % 2 ≠ 0 → lowEnd m e ≠ t ∧ t ≠ m + 1 / 2) := by
  have hpos := two_zpow_pos e
  have hunit : ∀ k : ℕ, (k : ℚ) * 2 ^ (intervalOf m e).exponent = k / 4 * 2 ^ e := by
    intro k
    change (k : ℚ) * 2 ^ (e - 2) = _
    rw [zpow_sub₀ (by norm_num)]
    ring
  have hhigh : ((intervalOf m e).high : ℚ) / 4 = m + 1 / 2 := by
    simp only [intervalOf]
    push_cast
    ring
  have hlow : ((intervalOf m e).low : ℚ) / 4 = lowEnd m e := by
    unfold lowEnd
    change (((if m = 2 ^ 52 ∧ -1074 < e then 4 * m - 1 else 4 * m - 2) : ℕ) : ℚ) / 4 = _
    split
    · rw [Nat.cast_sub (by omega)]
      push_cast
      ring
    · rw [Nat.cast_sub (by omega)]
      push_cast
      ring
  have hodd : (intervalOf m e).closed = false ↔ m % 2 ≠ 0 := by
    simp [intervalOf]
  have hcancel : ∀ {a b : ℚ}, a * 2 ^ e = b * 2 ^ e ↔ a = b := mul_left_inj' hpos.ne'
  simp only [Interval.Contains, hunit, mul_le_mul_iff_left₀ hpos, ne_eq, hcancel, hlow, hhigh, hodd]

/-- A number in the interval of another one is near to it. -/
lemma IsNear.of_contains (hm : 0 < m) (h : (intervalOf m e).Contains q) :
    IsNear m e (q / 2 ^ e) := by
  rw [← div_mul_cancel₀ q (two_zpow_pos e).ne', contains_iff hm] at h
  obtain ⟨hlow, hhigh, hopen⟩ := h
  unfold lowEnd at hlow hopen
  refine ⟨⟨?_, hhigh, fun hend => ?_⟩, fun hm' he => ?_⟩
  · refine le_trans ?_ hlow
    split <;> linarith
  · by_contra hodd
    obtain ⟨hlow', hhigh'⟩ := hopen hodd
    rcases hend with hend | hend
    · split at hlow'
      · next hdense => exact hodd (by rw [hdense.1]; rfl)
      · exact hlow' hend
    · exact hhigh' hend
  · rwa [if_pos ⟨hm', he⟩] at hlow

/-! ## Rounding -/

variable {negative : Bool}

/-- At the exponent of a number, a fraction that it is nearest to rounds to it. -/
lemma ofRatio_of_exponentOf_eq (fits : Fits m e) (hn : n ≠ 0) (hd : 0 < d) (he : exponentOf n d = e)
    (hnearest : IsNearest m (n / d / 2 ^ e)) :
    ofRatio negative n d = .finite negative m e fits := by
  unfold ofRatio
  rw [if_neg hn]
  dsimp only
  rw [he, roundHalfEven_scaled hd hnearest, if_neg fits.significand_lt.ne]
  exact dif_pos fits

/-- With the unit half as large, a fraction that a power of two is nearest to rounds to it. -/
lemma ofRatio_of_exponentOf_eq_sub_one (fits : Fits (2 ^ 52) e) (hn : n ≠ 0) (hd : 0 < d)
    (he : exponentOf n d = e - 1) (hnearest : IsNearest (2 ^ 53) (n / d / 2 ^ (e - 1))) :
    ofRatio negative n d = .finite negative (2 ^ 52) e fits := by
  unfold ofRatio
  rw [if_neg hn]
  dsimp only
  have hfull : 2 ^ 53 = twoTo 53 := rfl
  rw [he, roundHalfEven_scaled hd hnearest, if_pos hfull, sub_add_cancel]
  exact dif_pos fits

/-- What is near to a number and not below the least fraction with its exponent has this exponent. -/
lemma IsNear.scales (fits : Fits m e) (h : IsNear m e (q / 2 ^ e))
    (hfull : 2 ^ 52 ≤ q / 2 ^ e ∨ e = -1074) : Scales q e := by
  have hpos := two_zpow_pos e
  have hlt : (m : ℚ) + 1 ≤ 2 ^ 53 := by exact_mod_cast Nat.succ_le_of_lt fits.significand_lt
  have hhigh := h.high
  refine ⟨fits.least_le, ?_, hfull.imp_left fun hle => (le_div_iff₀ hpos).1 hle⟩
  rw [← div_lt_iff₀ hpos]
  linarith

/-- What is near to a number and below the least fraction with its exponent is near to a power of
two, and has the exponent before. -/
lemma IsNear.scales_sub_one (fits : Fits m e) (h : IsNear m e (q / 2 ^ e)) (hbelow : q / 2 ^ e < 2 ^ 52)
    (he : e ≠ -1074) :
    m = 2 ^ 52 ∧ Scales q (e - 1) ∧ IsNearest (2 ^ 53) (q / 2 ^ (e - 1)) := by
  have hpower : m = 2 ^ 52 := by
    refine le_antisymm ?_ (fits.full_or_least.resolve_right he)
    by_contra hgt
    have : ((2 ^ 52 + 1 : ℕ) : ℚ) ≤ m := by exact_mod_cast Nat.lt_of_not_le hgt
    push_cast at this
    have := h.low
    linarith
  have hleast : -1074 < e := lt_of_le_of_ne fits.least_le (Ne.symm he)
  have hdense := h.dense hpower hleast
  rw [hpower] at hdense
  push_cast at hdense
  have hunit : q / 2 ^ (e - 1) = 2 * (q / 2 ^ e) := by
    rw [zpow_sub_one₀ (by norm_num), ← div_div, div_inv_eq_mul, mul_comm]
  have hpos := two_zpow_pos (e - 1)
  refine ⟨hpower, ⟨by omega, ?_, .inl ?_⟩, ⟨?_, ?_, fun _ => by norm_num⟩⟩
  · rw [← div_lt_iff₀ hpos, hunit]
    linarith
  · rw [← le_div_iff₀ hpos, hunit]
    linarith
  · rw [hunit]
    push_cast
    linarith
  · rw [hunit]
    push_cast
    linarith

/-- **A fraction in the interval of a number rounds to it.** -/
theorem ofRatio_eq_of_contains (fits : Fits m e) (hm : 0 < m) (hd : 0 < d)
    (h : (intervalOf m e).Contains ((n : ℚ) / d)) (negative : Bool) :
    ofRatio negative n d = .finite negative m e fits := by
  have hnear := IsNear.of_contains hm h
  have hn : n ≠ 0 := by
    rintro rfl
    have hlow := hnear.low
    have hm' : (1 : ℚ) ≤ m := by exact_mod_cast hm
    rw [Nat.cast_zero, zero_div, zero_div] at hlow
    linarith
  have hscales := scales_exponentOf (Nat.pos_of_ne_zero hn) hd
  by_cases hfull : (2 : ℚ) ^ 52 ≤ n / d / 2 ^ e ∨ e = -1074
  · have he := hscales.unique (hnear.scales fits hfull)
    exact ofRatio_of_exponentOf_eq fits hn hd he hnear.toIsNearest
  · rw [not_or, not_le] at hfull
    obtain ⟨rfl, hbefore, hnearest⟩ := hnear.scales_sub_one fits hfull.1 hfull.2
    exact ofRatio_of_exponentOf_eq_sub_one fits hn hd (hscales.unique hbefore) hnearest

end TaskShell.Binary64
