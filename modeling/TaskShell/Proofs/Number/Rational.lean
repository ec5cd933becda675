import Mathlib.Algebra.Order.Field.Power
import Mathlib.Algebra.Order.Field.Rat
import Mathlib.Data.Rat.Cast.Order
import Mathlib.Tactic.Lemma
import Mathlib.Tactic.NormNum
import TaskShell.Number.Binary64

/-!
# Floating-point numbers as rational ones

The comparisons of a floating-point number with an integer multiply out powers of two. They are
those of the rational number that it stands for.

## Main definitions

* `Binary64.rational?` — the rational number that a finite one is.

## Main results

* `Binary64.lessThan_iff`, `Binary64.greaterThan_iff` — comparison with an integer.
-/

set_option autoImplicit false

namespace TaskShell.Binary64

/-- The rational number that a finite number is. -/
def rational? : Binary64 → Option ℚ
  | .finite negative significand exponent _ => some (signed negative significand * 2 ^ exponent)
  | _ => none

variable {negative : Bool} {significand : Nat} {exponent bound : Int}
  {fits : Fits significand exponent}

/-- Powers of two are positive. -/
lemma twoTo_pos {k : ℕ} : (0 : ℚ) < (Number.twoTo k : ℕ) := by
  exact_mod_cast Nat.two_pow_pos k

/-- A negative exponent divides. -/
lemma signed_mul_zpow_of_neg (h : exponent < 0) :
    (signed negative significand : ℚ) * 2 ^ exponent =
      signed negative significand / (Number.twoTo (-exponent).toNat : ℕ) := by
  obtain ⟨k, rfl⟩ : ∃ k : ℕ, exponent = -k := ⟨(-exponent).toNat, by omega⟩
  rw [neg_neg, Int.toNat_natCast, zpow_neg, zpow_natCast, div_eq_mul_inv]
  norm_cast

/-- Any other exponent multiplies. -/
lemma signed_mul_zpow_of_nonneg (h : ¬ exponent < 0) :
    (signed negative significand : ℚ) * 2 ^ exponent =
      signed negative (significand * Number.twoTo exponent.toNat) := by
  obtain ⟨k, rfl⟩ : ∃ k : ℕ, exponent = k := ⟨exponent.toNat, by omega⟩
  rw [Int.toNat_natCast, zpow_natCast]
  cases negative <;> simp [signed]

/-- A finite number is below an integer as a rational number is. -/
lemma lessThan_finite_iff : (finite negative significand exponent fits).lessThan bound = true ↔
    (signed negative significand : ℚ) * 2 ^ exponent < bound := by
  rw [lessThan]
  split
  · next h =>
    rw [signed_mul_zpow_of_neg h, div_lt_iff₀ twoTo_pos, decide_eq_true_iff]
    exact_mod_cast Iff.rfl
  · next h =>
    rw [signed_mul_zpow_of_nonneg h, decide_eq_true_iff]
    exact_mod_cast Iff.rfl

/-- A finite number is above an integer as a rational number is. -/
lemma greaterThan_finite_iff : (finite negative significand exponent fits).greaterThan bound = true ↔
    (bound : ℚ) < signed negative significand * 2 ^ exponent := by
  rw [greaterThan]
  split
  · next h =>
    rw [signed_mul_zpow_of_neg h, lt_div_iff₀ twoTo_pos, decide_eq_true_iff]
    exact_mod_cast Iff.rfl
  · next h =>
    rw [signed_mul_zpow_of_nonneg h, decide_eq_true_iff]
    exact_mod_cast Iff.rfl

/-- What is below an integer: a finite number that is, and the negative infinity. -/
theorem lessThan_iff {x : Binary64} : x.lessThan bound = true ↔
    x = .infinite true ∨ ∃ q, x.rational? = some q ∧ q < bound := by
  cases x with
  | finite negative significand exponent => simp [lessThan_finite_iff, rational?]
  | infinite negative => simp [lessThan, rational?]
  | nan => simp [lessThan, rational?]

/-- What is above an integer: a finite number that is, and the positive infinity. -/
theorem greaterThan_iff {x : Binary64} : x.greaterThan bound = true ↔
    x = .infinite false ∨ ∃ q, x.rational? = some q ∧ bound < q := by
  cases x with
  | finite negative significand exponent => simp [greaterThan_finite_iff, rational?]
  | infinite negative => simp [greaterThan, rational?]
  | nan => simp [greaterThan, rational?]

end TaskShell.Binary64
