import Mathlib.Data.String.Basic
import Mathlib.Tactic.Lemma
import TaskShell.Instant

/-!
# Texts of instants are ordered as the instants

The text by which a record is dated is a row of numbers, the greater units first, each in as many
digits as it can have, and a fraction of a second that is left out where it is zero. Later days have
later dates, so the numbers of two instants are ordered as the instants, and the texts are ordered
as the numbers. A fraction that is left out gives way to the sign of the offset, which comes before
the point that a fraction begins with.

## Main definitions

* `CalendarDate.yearDay` — the year of a day, and the day within the year.
* `Instant.numbers`, `Instant.fraction` — the numbers of a text, and what follows them.
* `Instant.spell` — numbers in their widths, each with what follows it.

## Main results

* `Instant.padded_lt_padded` — numbers of the same width are ordered as texts.
* `CalendarDate.numbers_lt` — later days have later dates.
* `Instant.text_lt_text_iff` — texts are ordered as their instants.
-/

set_option autoImplicit false

namespace TaskShell

/-! ## Lists in lexicographic order -/

/-- Of lists that begin with parts of the same length, one comes first if its part does. -/
lemma append_lt_append_of_lt {α : Type} [LT α] {a b : List α} (hlength : a.length = b.length)
    (h : a < b) (x y : List α) : a ++ x < b ++ y := by
  induction a generalizing b with
  | nil =>
    rw [List.length_nil, eq_comm, List.length_eq_zero_iff] at hlength
    rw [hlength] at h
    exact absurd h (List.not_lt_nil [])
  | cons c a ih =>
    cases b with
    | nil => exact absurd h (List.not_lt_nil _)
    | cons d b =>
      rw [List.cons_append, List.cons_append, List.cons_lt_cons_iff]
      rcases List.cons_lt_cons_iff.1 h with hlt | ⟨heq, hrest⟩
      · exact .inl hlt
      · exact .inr ⟨heq, ih (by simpa using hlength) hrest⟩

/-! ## Dates -/

namespace CalendarDate

/-- A year, counted from the first of some years, and a day of the year, counted from zero. -/
abbrev YearDay := Nat × Nat

/-- One day comes before another: in an earlier year, or earlier in the same year. -/
def YearDay.Before (a b : YearDay) : Prop :=
  a.1 < b.1 ∨ a.1 = b.1 ∧ a.2 < b.2

/-- The year and the day within four years, of which the last may have a leap day. -/
def inCycle (days : Nat) : YearDay :=
  let year := min (days / 365) 3
  (year, days - 365 * year)

/-- The year and the day within a century. -/
def inCentury (days : Nat) : YearDay :=
  let rest := inCycle (days % 1461)
  (4 * (days / 1461) + rest.1, rest.2)

/-- The year and the day within four centuries, of which the last may have a leap day more. -/
def inEra (days : Nat) : YearDay :=
  let century := min (days / 36524) 3
  let rest := inCentury (days - 36524 * century)
  (100 * century + rest.1, rest.2)

/-- The year of a day, and the day within the year. -/
def yearDay (days : Nat) : YearDay :=
  let rest := inEra (days % 146097)
  (400 * (days / 146097) + rest.1 + 1, rest.2)

/-- The date of a day: its year, and month and day within the year. -/
lemma ofDays_eq (days : Nat) :
    ofDays days =
      ⟨(yearDay days).1, (monthFrom (yearDay days).1 1 11 (yearDay days).2).1,
        (monthFrom (yearDay days).1 1 11 (yearDay days).2).2⟩ := by
  simp only [ofDays, yearDay, inEra, inCentury, inCycle, Nat.add_assoc]

/-! ### Years -/

variable {x y : Nat}

/-- Of two days, the later is in a later one of some blocks of days, or later in the same block. The
blocks after the last one count to it. -/
lemma capped_cases (h : x < y) (size last : Nat) :
    min (x / size) last < min (y / size) last ∨ min (x / size) last = min (y / size) last ∧
      x - size * min (x / size) last < y - size * min (y / size) last := by
  have hmono : x / size ≤ y / size := Nat.div_le_div_right h.le
  have hstart : size * min (x / size) last ≤ x :=
    (Nat.mul_le_mul_left size (min_le_left _ _)).trans (Nat.mul_div_le x size)
  rcases Nat.lt_or_ge (min (x / size) last) (min (y / size) last) with hlt | hge
  · exact .inl hlt
  · have hsame : min (x / size) last = min (y / size) last := by omega
    rw [← hsame]
    omega

/-- Of two days, the later is in a later one of endless blocks, or later in the same block. -/
lemma quotient_cases (h : x < y) (size : Nat) :
    x / size < y / size ∨ x / size = y / size ∧ x % size < y % size := by
  have hcases := capped_cases h size (y / size)
  have hmono : x / size ≤ y / size := Nat.div_le_div_right h.le
  rwa [min_eq_left hmono, min_self, ← Nat.mod_eq_sub, ← Nat.mod_eq_sub] at hcases

/-- Blocks of years are put in front of what is ordered within a block. -/
lemma YearDay.Before.nest {a b : YearDay} {years block block' : Nat} (ha : a.1 < years)
    (h : block < block' ∨ block = block' ∧ a.Before b) :
    YearDay.Before (years * block + a.1, a.2) (years * block' + b.1, b.2) := by
  unfold YearDay.Before at *
  dsimp only
  rcases h with hlt | ⟨rfl, hbefore⟩
  · have hblock : years * (block + 1) ≤ years * block' := Nat.mul_le_mul_left years hlt
    rw [Nat.mul_succ] at hblock
    omega
  · omega

/-- Four years have four years, and no year has more than 366 days. -/
lemma inCycle_bounds (h : x < 1461) : (inCycle x).1 < 4 ∧ (inCycle x).2 < 366 := by
  simp only [inCycle]
  omega

/-- A century has a hundred years, even one with a leap day more. -/
lemma inCentury_bounds (h : x < 36525) : (inCentury x).1 < 100 ∧ (inCentury x).2 < 366 := by
  have hcycle := inCycle_bounds (Nat.mod_lt x (by decide : 1461 > 0))
  simp only [inCentury]
  omega

/-- Four centuries have four hundred years. -/
lemma inEra_bounds (h : x < 146097) : (inEra x).1 < 400 ∧ (inEra x).2 < 366 := by
  have hcentury : x - 36524 * min (x / 36524) 3 < 36525 := by omega
  have hbounds := inCentury_bounds hcentury
  simp only [inEra]
  omega

/-- Later days within four years come later. -/
lemma before_inCycle (h : x < y) : (inCycle x).Before (inCycle y) :=
  capped_cases h 365 3

/-- Later days within a century come later. -/
lemma before_inCentury (h : x < y) : (inCentury x).Before (inCentury y) :=
  .nest (inCycle_bounds (Nat.mod_lt x (by decide))).1
    ((quotient_cases h 1461).imp_right (And.imp_right before_inCycle))

/-- Later days within four centuries come later. -/
lemma before_inEra (hx : x < 146097) (h : x < y) : (inEra x).Before (inEra y) :=
  .nest (inCentury_bounds (by omega)).1
    ((capped_cases h 36524 3).imp_right (And.imp_right before_inCentury))

/-- Later days come later. -/
lemma before_yearDay (h : x < y) : (yearDay x).Before (yearDay y) := by
  have hx : x % 146097 < 146097 := Nat.mod_lt x (by decide)
  have hbefore := YearDay.Before.nest (inEra_bounds hx).1
    ((quotient_cases h 146097).imp_right (And.imp_right (before_inEra hx)))
  unfold YearDay.Before at hbefore ⊢
  simp only [yearDay]
  omega

/-- The days up to the end of the year 9999 are in years of four digits. -/
lemma yearDay_bounds (h : x < 3652059) : (yearDay x).1 < 10000 ∧ (yearDay x).2 < 366 := by
  have hbounds := inEra_bounds (Nat.mod_lt x (by decide : 146097 > 0))
  have hlast : yearDay 3652059 = (10000, 0) := by decide
  have hbefore := before_yearDay h
  unfold YearDay.Before at hbefore
  rw [hlast] at hbefore
  refine ⟨by omega, ?_⟩
  exact hbounds.2

/-! ### Months -/

/-- The days of a month are 28 at least and 31 at most. -/
lemma daysIn_bounds (year month : Nat) : 28 ≤ daysIn year month ∧ daysIn year month ≤ 31 := by
  unfold daysIn
  split
  · split <;> decide
  · split <;> decide

/-- The month of a day is none before the first. -/
lemma le_month_monthFrom (year month ahead n : Nat) :
    month ≤ (monthFrom year month ahead n).1 := by
  induction ahead generalizing month n with
  | zero => exact le_rfl
  | succ ahead ih =>
    unfold monthFrom
    split
    · exact le_rfl
    · exact (Nat.le_succ month).trans (ih _ _)

/-- The month of a day is none after the last, and the day is one of the month, or of those that the
last month has too many. -/
lemma monthFrom_bounds (year month ahead n : Nat) :
    (monthFrom year month ahead n).1 ≤ month + ahead ∧
      (monthFrom year month ahead n).2 ≤ max 31 (n + 1 - 28 * ahead) := by
  induction ahead generalizing month n with
  | zero => simp [monthFrom]
  | succ ahead ih =>
    have hdays := daysIn_bounds year month
    unfold monthFrom
    split
    · dsimp only
      omega
    · have hrest := ih (month + 1) (n - daysIn year month)
      omega

/-- Later days of a year have a later month, or are later in the same month. -/
lemma monthFrom_lt_monthFrom {n n' : Nat} (h : n < n') (year month ahead : Nat) :
    [(monthFrom year month ahead n).1, (monthFrom year month ahead n).2] <
      [(monthFrom year month ahead n').1, (monthFrom year month ahead n').2] := by
  induction ahead generalizing month n n' with
  | zero => simp [monthFrom, List.cons_lt_cons_iff, h]
  | succ ahead ih =>
    unfold monthFrom
    by_cases hn : n < daysIn year month
    · rw [if_pos hn, List.cons_lt_cons_iff]
      by_cases hn' : n' < daysIn year month
      · rw [if_pos hn']
        exact .inr ⟨rfl, by simp [List.cons_lt_cons_iff, h]⟩
      · rw [if_neg hn']
        exact .inl (le_month_monthFrom year (month + 1) ahead _)
    · rw [if_neg hn, if_neg (by omega)]
      exact ih (by omega) (month + 1)

/-- The numbers of a date. -/
def numbers (date : CalendarDate) : List Nat :=
  [date.year, date.month, date.day]

/-- Later days have later dates. -/
theorem numbers_lt (h : x < y) : (ofDays x).numbers < (ofDays y).numbers := by
  simp only [ofDays_eq, numbers]
  rw [List.cons_lt_cons_iff]
  rcases before_yearDay h with hlt | ⟨heq, hday⟩
  · exact .inl hlt
  · rw [heq]
    exact .inr ⟨rfl, monthFrom_lt_monthFrom hday _ 1 11⟩

end CalendarDate

namespace Instant

/-! ## Numbers in a fixed width -/

variable {width n m : Nat}

/-- A number that is padded to one more digit ends in its last digit. -/
lemma padded_succ (hwidth : 0 < width) :
    padded (width + 1) n = padded width (n / 10) ++ [(n % 10).digitChar] := by
  unfold padded
  rcases Nat.lt_or_ge n 10 with hn | hn
  · obtain ⟨w, rfl⟩ := Nat.exists_eq_succ_of_ne_zero hwidth.ne'
    rw [Nat.div_eq_of_lt hn, Nat.mod_eq_of_lt hn, Nat.toDigits_of_lt_base hn, Nat.toDigits_zero]
    simp [List.replicate_succ']
  · rw [Nat.toDigits_of_base_le (by decide) hn]
    simp

/-- A number of one digit is that digit. -/
lemma padded_one (h : n < 10) : padded 1 n = [n.digitChar] := by
  simp [padded, Nat.toDigits_of_lt_base h]

/-- A number is padded to its width, if it does not exceed it. -/
lemma length_padded (hwidth : 0 < width) (h : n < 10 ^ width) :
    (padded width n).length = width := by
  have hdigits := (Nat.length_toDigits_le_iff (b := 10) (by decide) hwidth).2 h
  rw [padded, List.length_append, List.length_replicate]
  omega

/-- Digits are ordered as characters. -/
lemma digitChar_lt (h : n < m) (hm : m < 10) : n.digitChar < m.digitChar := by
  have hall : ∀ m < 10, ∀ n < m, n.digitChar < m.digitChar := by decide
  exact hall m hm n h

/-- Numbers of the same width are ordered as texts. -/
theorem padded_lt_padded (hwidth : 0 < width) (hm : m < 10 ^ width) (h : n < m) :
    padded width n < padded width m := by
  induction width, hwidth using Nat.le_induction generalizing n m with
  | base =>
    rw [padded_one (by omega), padded_one (by omega)]
    exact List.cons_lt_cons_iff.2 (.inl (digitChar_lt h (by omega)))
  | succ width hwidth ih =>
    have hfront : m / 10 < 10 ^ width := by
      rw [pow_succ] at hm
      omega
    rw [padded_succ hwidth, padded_succ hwidth]
    rcases Nat.lt_or_ge (n / 10) (m / 10) with hlt | hge
    · refine append_lt_append_of_lt ?_ (ih hfront hlt) _ _
      rw [length_padded hwidth hfront, length_padded hwidth (hlt.trans hfront)]
    · have hsame : n / 10 = m / 10 := by omega
      have hdigit : n % 10 < m % 10 := by omega
      rw [hsame]
      exact List.append_left_lt (List.cons_lt_cons_iff.2
        (.inl (digitChar_lt hdigit (Nat.mod_lt m (by decide)))))

/-! ## Rows of numbers -/

/-- A width for each number, and what follows it. -/
abbrev Layout := List (Nat × List Char)

/-- Numbers in their widths, each with what follows it. -/
def spell : Layout → List Nat → List Char
  | (width, mark) :: layout, n :: numbers => padded width n ++ mark ++ spell layout numbers
  | _, _ => []

/-- Numbers fit a layout: there is one for each width, which it does not exceed. -/
def Fits (layout : Layout) (numbers : List Nat) : Prop :=
  List.Forall₂ (fun place n => 0 < place.1 ∧ n < 10 ^ place.1) layout numbers

/-- Rows of numbers are ordered as texts, whatever follows them. -/
lemma spell_lt_spell {layout : Layout} {numbers numbers' : List Nat} (hfits : Fits layout numbers)
    (hfits' : Fits layout numbers') (h : numbers < numbers') (x y : List Char) :
    spell layout numbers ++ x < spell layout numbers' ++ y := by
  induction hfits generalizing numbers' with
  | nil =>
    cases hfits'
    exact absurd h (List.not_lt_nil [])
  | @cons place n layout numbers hn _ ih =>
    obtain ⟨width, mark⟩ := place
    cases hfits' with
    | @cons _ m _ numbers' hm hrest =>
      simp only [spell, List.append_assoc]
      rcases List.cons_lt_cons_iff.1 h with hlt | ⟨rfl, hlater⟩
      · refine append_lt_append_of_lt ?_ (padded_lt_padded hn.1 hm.2 hlt) _ _
        rw [length_padded hn.1 hn.2, length_padded hm.1 hm.2]
      · exact List.append_left_lt (List.append_left_lt (ih hrest hlater))

/-! ## Texts of instants -/

/-- The numbers of a time of day. -/
def timeNumbers (second : Nat) : List Nat :=
  [second / 3600, second / 60 % 60, second % 60]

/-- The numbers of a text: those of the date, then those of the time of day. -/
def numbers (t : Instant) : List Nat :=
  let seconds := t.micros / 1000000
  (CalendarDate.ofDays (seconds / 86400)).numbers ++ timeNumbers (seconds % 86400)

/-- The layout of the numbers of a text. -/
def layout : Layout :=
  [(4, ['-']), (2, ['-']), (2, ['T']), (2, [':']), (2, [':']), (2, [])]

/-- What follows the numbers of a text: the fraction, where it is not zero, and the offset. -/
def fraction (micros : Nat) : List Char :=
  (if micros = 0 then [] else '.' :: padded 6 micros) ++ "+00:00".toList

/-- A text is its numbers and what follows them. -/
lemma chars_eq (t : Instant) :
    t.chars = spell layout t.numbers ++ fraction (t.micros % 1000000) := by
  simp [chars, spell, layout, numbers, timeNumbers, CalendarDate.numbers, fraction]

variable {a b : Instant}

/-- Later times of day have later numbers. -/
lemma timeNumbers_lt (h : n < m) : timeNumbers n < timeNumbers m := by
  simp only [timeNumbers, List.cons_lt_cons_iff, List.not_lt_nil, and_false, or_false]
  omega

/-- Of two instants, the later has later numbers, or the same numbers and a greater fraction. -/
lemma numbers_cases (h : a.micros < b.micros) :
    a.numbers < b.numbers ∨
      a.numbers = b.numbers ∧ a.micros % 1000000 < b.micros % 1000000 := by
  rcases CalendarDate.quotient_cases h 1000000 with hseconds | ⟨hseconds, hmicros⟩
  · refine .inl ?_
    simp only [numbers]
    rcases CalendarDate.quotient_cases hseconds 86400 with hdays | ⟨hdays, hsecond⟩
    · refine append_lt_append_of_lt ?_ (CalendarDate.numbers_lt hdays) _ _
      rfl
    · rw [hdays]
      exact List.append_left_lt (timeNumbers_lt hsecond)
  · refine .inr ⟨?_, hmicros⟩
    rw [numbers, hseconds, numbers]

/-- The numbers of the instants up to the end of the year 9999 fit their layout. -/
lemma fits_numbers (h : a.micros < dated) : Fits layout a.numbers := by
  have hdays : a.micros / 1000000 / 86400 < 3652059 := by
    unfold dated at h
    omega
  have hyear := CalendarDate.yearDay_bounds hdays
  have hmonth := CalendarDate.monthFrom_bounds
    (CalendarDate.yearDay (a.micros / 1000000 / 86400)).1 1 11
    (CalendarDate.yearDay (a.micros / 1000000 / 86400)).2
  have hsecond : a.micros / 1000000 % 86400 < 86400 := Nat.mod_lt _ (by decide)
  simp only [numbers, CalendarDate.ofDays_eq]
  refine .cons ⟨?_, ?_⟩ <| .cons ⟨?_, ?_⟩ <| .cons ⟨?_, ?_⟩ <| .cons ⟨?_, ?_⟩ <| .cons ⟨?_, ?_⟩ <|
    .cons ⟨?_, ?_⟩ .nil <;> dsimp only <;> omega

/-- Greater fractions are ordered as texts: none comes before any, as the sign of the offset comes
before the point. -/
lemma fraction_lt_fraction (hm : m < 1000000) (h : n < m) : fraction n < fraction m := by
  have hm0 : m ≠ 0 := by omega
  unfold fraction
  rw [if_neg hm0]
  by_cases hn0 : n = 0
  · rw [if_pos hn0]
    exact List.cons_lt_cons_iff.2 (.inl (by decide))
  · rw [if_neg hn0]
    refine List.cons_lt_cons_iff.2 (.inr ⟨rfl, append_lt_append_of_lt ?_ ?_ _ _⟩)
    · rw [length_padded (by decide) (h.trans hm), length_padded (by decide) hm]
    · exact padded_lt_padded (by decide) hm h

/-- A later instant has a later text. -/
lemma text_lt_text (ha : a.micros < dated) (hb : b.micros < dated) (h : a.micros < b.micros) :
    a.text < b.text := by
  rw [text, text, String.lt_iff_toList_lt, String.toList_ofList, String.toList_ofList, chars_eq,
    chars_eq]
  rcases numbers_cases h with hlt | ⟨hsame, hmicros⟩
  · exact spell_lt_spell (fits_numbers ha) (fits_numbers hb) hlt _ _
  · rw [hsame]
    exact List.append_left_lt (fraction_lt_fraction (Nat.mod_lt _ (by decide)) hmicros)

/-- Up to the end of the year 9999, texts are ordered as their instants. -/
theorem text_lt_text_iff (ha : a.micros < dated) (hb : b.micros < dated) :
    a.text < b.text ↔ a.micros < b.micros := by
  constructor
  · intro h
    rcases Nat.lt_trichotomy a.micros b.micros with hlt | heq | hgt
    · exact hlt
    · have hsame : a = b := by
        cases a
        exact congrArg Instant.mk heq
      rw [hsame] at h
      exact absurd h (lt_irrefl _)
    · exact absurd h (text_lt_text hb ha hgt).asymm
  · exact text_lt_text ha hb

/-- Up to the end of the year 9999, instants with the same text are the same. -/
lemma eq_of_text_eq (ha : a.micros < dated) (hb : b.micros < dated) (h : a.text = b.text) :
    a = b := by
  have hab : ¬ a.micros < b.micros := by rw [← text_lt_text_iff ha hb, h]; exact lt_irrefl _
  have hba : ¬ b.micros < a.micros := by rw [← text_lt_text_iff hb ha, h]; exact lt_irrefl _
  cases a
  cases b
  exact congrArg Instant.mk (by dsimp only at hab hba; omega)

end Instant

end TaskShell
