import Mathlib.Tactic.Lemma
import TaskShell.Json

/-!
# Texts in JSON

A text is written between quotes with its unusual characters escaped, and it is read back
character by character.

## Main results

* `Text.hexNumber?_hexDigits` — a number in hexadecimal reads back.
* `Json.takeChar?_writeChar` — a character that is written is read, whatever follows it.
* `Json.takeText?_writeText` — so is a text.
-/

set_option autoImplicit false

namespace TaskShell.Text

/-! ## Hexadecimal numbers -/

/-- One digit more. -/
lemma hexNumber?_append (ds : List Char) (d : Char) :
    hexNumber? (ds ++ [d]) = (hexNumber? ds).bind fun n => (hexDigit? d).map (16 * n + ·) := by
  rw [hexNumber?, List.foldl_append]
  change (do return 16 * (← hexNumber? ds) + (← hexDigit? d)) = _
  cases hexNumber? ds with
  | none => rfl
  | some n => cases hexDigit? d <;> rfl

/-- The values of the sixteen digits. -/
lemma hexDigit?_digitChar {n : Nat} (h : n < 16) : hexDigit? (Nat.digitChar n) = some n := by
  have hall : ∀ n < 16, hexDigit? (Nat.digitChar n) = some n := by decide
  exact hall n h

/-- Zeros alone spell zero. -/
lemma hexNumber?_replicate (k : Nat) : hexNumber? (List.replicate k '0') = some 0 := by
  induction k with
  | zero => rfl
  | succ k ih =>
    rw [List.replicate_succ', hexNumber?_append, ih]
    rfl

/-- A number in hexadecimal with zeros before it reads back. -/
lemma hexNumber?_toDigits (k n : Nat) :
    hexNumber? (List.replicate k '0' ++ Nat.toDigits 16 n) = some n := by
  induction n using Nat.strongRecOn with
  | ind n ih =>
    by_cases hn : n < 16
    · rw [Nat.toDigits_of_lt_base hn, hexNumber?_append, hexNumber?_replicate, hexDigit?_digitChar hn]
      simp
    · rw [Nat.toDigits_of_base_le (by decide) (Nat.le_of_not_lt hn), ← List.append_assoc,
        hexNumber?_append, ih (n / 16) (by omega), hexDigit?_digitChar (Nat.mod_lt n (by decide))]
      exact congrArg some (Nat.div_add_mod n 16)

/-- A number in hexadecimal reads back. -/
lemma hexNumber?_hexDigits (width n : Nat) : hexNumber? (hexDigits width n) = some n :=
  hexNumber?_toDigits _ n

/-- A unit of sixteen bits has four digits. -/
lemma exists_hexDigits_four {n : Nat} (h : n < 0x10000) :
    ∃ a b c d, hexDigits 4 n = [a, b, c, d] := by
  have hlength : (hexDigits 4 n).length = 4 := by
    have := (Nat.length_toDigits_le_iff (n := n) (b := 16) (k := 4) (by decide) (by decide)).2 h
    simp only [hexDigits, List.length_append, List.length_replicate]
    omega
  match hexDigits 4 n, hlength with
  | [a, b, c, d], _ => exact ⟨a, b, c, d, rfl⟩

end TaskShell.Text

namespace TaskShell.Json

/-! ## Characters -/

/-- A unit that is escaped is read. -/
lemma takeUnit?_unitEscape {unit : Nat} (h : unit < 0x10000) (rest : List Char) :
    takeUnit? (unitEscape unit ++ rest) = some (unit, rest) := by
  obtain ⟨a, b, c, d, hdigits⟩ := Text.exists_hexDigits_four h
  have hnumber := Text.hexNumber?_hexDigits 4 unit
  rw [hdigits] at hnumber
  rw [unitEscape, hdigits]
  change (Text.hexNumber? [a, b, c, d]).map (·, rest) = _
  rw [hnumber]
  rfl

/-- No character is a surrogate. -/
lemma surrogate_ne (c : Char) : ¬ (0xD800 ≤ c.toNat ∧ c.toNat < 0xE000) := by
  have hc := c.valid
  change c.toNat < 0xD800 ∨ 0xDFFF < c.toNat ∧ c.toNat < 0x110000 at hc
  omega

/-- A character of sixteen bits that is escaped is read. -/
lemma takeCode?_unitEscape {c : Char} (h : c.toNat < 0x10000) (rest : List Char) :
    takeCode? (unitEscape c.toNat ++ rest) = some (c, rest) := by
  have hsurrogate := surrogate_ne c
  rw [takeCode?, takeUnit?_unitEscape h]
  simp only [Option.bind_eq_bind, Option.bind_some]
  rw [if_neg (by omega), Char.ofNat_toNat]
  rfl

/-- Two surrogates that are escaped are read as one character. -/
lemma takeCode?_surrogates {first second : Nat} (hfirst : 0xD800 ≤ first ∧ first < 0xDC00)
    (hsecond : 0xDC00 ≤ second ∧ second < 0xE000) (rest : List Char) :
    takeCode? (unitEscape first ++ (unitEscape second ++ rest)) =
      some (Char.ofNat (0x10000 + (first - 0xD800) * 0x400 + (second - 0xDC00)), rest) := by
  have htake : takeSecond? (unitEscape second ++ rest) = some (second, rest) := by
    rw [takeSecond?, takeUnit?_unitEscape (by omega), Option.filter_some, if_pos]
    simpa only [Bool.and_eq_true, decide_eq_true_eq] using hsecond
  rw [takeCode?, takeUnit?_unitEscape (by omega)]
  simp only [Option.bind_eq_bind, Option.bind_some]
  rw [if_pos hfirst, htake]
  rfl

/-- The two surrogates of a character beyond sixteen bits. -/
lemma surrogates_spec {c : Char} (h : ¬ c.toNat < 0x10000) :
    (0xD800 ≤ 0xD800 + (c.toNat - 0x10000) / 0x400 ∧
        0xD800 + (c.toNat - 0x10000) / 0x400 < 0xDC00) ∧
      (0xDC00 ≤ 0xDC00 + (c.toNat - 0x10000) % 0x400 ∧
        0xDC00 + (c.toNat - 0x10000) % 0x400 < 0xE000) ∧
      0x10000 + (0xD800 + (c.toNat - 0x10000) / 0x400 - 0xD800) * 0x400 +
        (0xDC00 + (c.toNat - 0x10000) % 0x400 - 0xDC00) = c.toNat := by
  have hc := c.valid
  change c.toNat < 0xD800 ∨ 0xDFFF < c.toNat ∧ c.toNat < 0x110000 at hc
  omega

/-- The letter of a short escape stands for its character, and it is not that of a unit. -/
lemma shortEscape?_shortLetter? {c letter : Char} (h : shortLetter? c = some letter) :
    shortEscape? letter = some c ∧ letter ≠ 'u' := by
  unfold shortLetter? at h
  split at h <;> cases h <;> exact ⟨rfl, by decide⟩

/-- Neither the quote nor the backslash stands for itself. -/
lemma ne_of_shortLetter?_eq_none {c : Char} (h : shortLetter? c = none) : c ≠ '"' ∧ c ≠ '\\' := by
  constructor <;> rintro rfl <;> exact nomatch h

/-- **A character that is written is read, whatever follows it.** -/
theorem takeChar?_writeChar (c : Char) (rest : List Char) :
    takeChar? (writeChar c ++ rest) = some (c, rest) := by
  unfold writeChar
  cases hshort : shortLetter? c with
  | some letter =>
    obtain ⟨hescape, hu⟩ := shortEscape?_shortLetter? hshort
    simp [takeChar?, hescape]
  | none =>
    dsimp only
    split
    · next hplain =>
      have hcode : ¬ c.toNat < 32 := Nat.not_lt.2 hplain.1
      simp [takeChar?, (ne_of_shortLetter?_eq_none hshort).2, hcode]
    · split
      · next hunit => exact takeCode?_unitEscape hunit rest
      · next hunit =>
        obtain ⟨hfirst, hsecond, hcode⟩ := surrogates_spec hunit
        have htake := takeCode?_surrogates hfirst hsecond rest
        rw [hcode, Char.ofNat_toNat, ← List.append_assoc] at htake
        exact htake

/-- A character that is written does not start with a quote. -/
lemma head_writeChar_ne (c : Char) (rest : List Char) :
    ∀ rest', writeChar c ++ rest ≠ '"' :: rest' := by
  intro rest'
  unfold writeChar
  cases hshort : shortLetter? c with
  | some letter => simp
  | none =>
    dsimp only
    split
    · simpa using fun h => absurd h (ne_of_shortLetter?_eq_none hshort).1
    · split <;> exact fun h => absurd (List.cons.inj h).1 (by decide)

/-- Characters that are written are read up to the closing quote. -/
lemma takeText?_flatMap (cs rest : List Char) {fuel : Nat} (hfuel : cs.length < fuel) :
    takeText? fuel (cs.flatMap writeChar ++ '"' :: rest) = some (cs, rest) := by
  induction cs generalizing fuel with
  | nil =>
    obtain ⟨fuel, rfl⟩ := Nat.exists_eq_succ_of_ne_zero (Nat.ne_of_gt hfuel)
    rfl
  | cons c cs ih =>
    obtain ⟨fuel, rfl⟩ := Nat.exists_eq_succ_of_ne_zero (Nat.ne_of_gt (Nat.zero_lt_of_lt hfuel))
    have ih' : takeText? fuel (cs.flatMap writeChar ++ '"' :: rest) = some (cs, rest) :=
      ih (Nat.lt_of_succ_lt_succ hfuel)
    rw [List.flatMap_cons, List.append_assoc]
    have htake := takeChar?_writeChar c (cs.flatMap writeChar ++ '"' :: rest)
    unfold takeText?
    split
    · next heq => exact absurd heq (head_writeChar_ne c _ _)
    · rw [htake]
      simp [ih']

/-- A character has at least one when it is written. -/
lemma length_le_length_flatMap (cs : List Char) : cs.length ≤ (cs.flatMap writeChar).length := by
  induction cs with
  | nil => exact Nat.le_refl 0
  | cons c cs ih =>
    have hpos : 0 < (writeChar c).length := by
      rw [List.length_pos_iff]
      intro hnil
      have htake := takeChar?_writeChar c []
      rw [hnil] at htake
      exact nomatch htake
    rw [List.flatMap_cons, List.length_append, List.length_cons]
    omega

/-- **A text that is written is read.** -/
theorem takeText?_writeText (s : String) (rest : List Char) {cs : List Char}
    (hcs : writeText s ++ rest = '"' :: cs) :
    takeText? (cs.length + 1) cs = some (s.toList, rest) := by
  have hrest : cs = s.toList.flatMap writeChar ++ '"' :: rest := by
    simpa [writeText] using hcs.symm
  subst hrest
  refine takeText?_flatMap _ _ ?_
  have := length_le_length_flatMap s.toList
  simp only [List.length_append, List.length_cons]
  omega

end TaskShell.Json
