import TaskShell.Proofs.Command.Grammar
import TaskShell.Proofs.Text.Case
import TaskShell.Shortcut

/-!
# Letters of the basic alphabet, and blanks

Between the space and the tilde, lower case moves the letters `A` to `Z` and nothing else. On texts of
such characters the full lower case is therefore the one that compares ids, and two of these texts are
equal in the one just if they are in the other, or just if their upper cases are. In any text the
letters `A` to `Z` may be put in lower case without effect on its lower case, on whether it is a word,
and on the keywords that it reads as. Blanks are few, so that what holds of all of them is checked one
by one.

## Main definitions

* `Text.basicLower` — the lower case of a letter from `A` to `Z`.
* `Text.IsBasic`, `Text.IsBasicLetter` — the characters from the space to the tilde, and the letters
  among them.
* `Text.IsAscii` — the texts of code points below 128.
* `Text.blankCodes` — the code points of blanks.

## Main results

* `Text.apply_basicLower` — what does not tell the letters from their lower case tells none apart.
* `Chars.lowerFrom_map_basicLower` — lower case of a text with letters in lower case already.
* `Text.lower_eq_lower_iff` — on basic texts both lower cases tell the same apart.
* `Text.upper_eq_upper_iff` — so does upper case, on ASCII texts.
* `Text.forall_isBlank` — what holds of all blanks.
-/

set_option autoImplicit false

namespace TaskShell

namespace Text

/-- What all characters of a text have in common is checked for one after the other. -/
instance (priority := high) decidableForallMem {P : Char → Prop} [DecidablePred P] (cs : List Char) :
    Decidable (∀ c ∈ cs, P c) :=
  List.decidableBAll P cs

/-! ## Basic characters -/

/-- The lower case of a letter from `A` to `Z`; every other character stays. -/
def basicLower (c : Char) : Char :=
  if 'A' ≤ c ∧ c ≤ 'Z' then Char.ofNat (c.toNat + 32) else c

/-- A character from the space to the tilde. -/
def IsBasic (c : Char) : Prop :=
  ' ' ≤ c ∧ c ≤ '~'

instance (c : Char) : Decidable (IsBasic c) :=
  inferInstanceAs (Decidable (_ ∧ _))

/-- A letter from `a` to `z` or from `A` to `Z`. -/
def IsBasicLetter (c : Char) : Prop :=
  ('a' ≤ c ∧ c ≤ 'z') ∨ ('A' ≤ c ∧ c ≤ 'Z')

instance (c : Char) : Decidable (IsBasicLetter c) :=
  inferInstanceAs (Decidable (_ ∨ _))

/-- Ids are compared with their letters `A` to `Z` in lower case. -/
lemma foldBasic_eq (s : String) : foldBasic s = s.toList.map basicLower := rfl

/-- What gives the same for the letters `A` to `Z` as for their lower case does so for every
character. -/
lemma apply_basicLower {α : Type} {f : Char → α}
    (h : ∀ code ∈ List.range' 65 26, f (Char.ofNat (code + 32)) = f (Char.ofNat code)) (c : Char) :
    f (basicLower c) = f c := by
  unfold basicLower
  split
  · next hletter =>
    have hcode : c.toNat ∈ List.range' 65 26 := by
      have hfirst : 65 ≤ c.toNat := hletter.1
      have hlast : c.toNat ≤ 90 := hletter.2
      rw [List.mem_range'_1]
      omega
    have hsame := h _ hcode
    rwa [Char.ofNat_toNat] at hsame
  · rfl

/-- A property of all code points from the space to the tilde is one of all basic characters. -/
lemma forall_isBasic {P : Char → Prop} (h : ∀ code ∈ List.range' 32 95, P (Char.ofNat code)) {c : Char}
    (hc : IsBasic c) : P c := by
  have hcode : c.toNat ∈ List.range' 32 95 := by
    have hfirst : 32 ≤ c.toNat := hc.1
    have hlast : c.toNat ≤ 126 := hc.2
    rw [List.mem_range'_1]
    omega
  have hall := h _ hcode
  rwa [Char.ofNat_toNat] at hall

/-- A letter is between the space and the tilde. -/
lemma IsBasicLetter.isBasic {c : Char} (h : IsBasicLetter c) : IsBasic c := by
  rcases h with ⟨hfirst, hlast⟩ | ⟨hfirst, hlast⟩
  · have hends : ' ' ≤ 'a' ∧ 'z' ≤ '~' := by decide
    exact ⟨Char.le_trans hends.1 hfirst, Char.le_trans hlast hends.2⟩
  · have hends : ' ' ≤ 'A' ∧ 'Z' ≤ '~' := by decide
    exact ⟨Char.le_trans hends.1 hfirst, Char.le_trans hlast hends.2⟩

/-- Characters of words are told apart without regard to letter case. -/
@[simp] lemma isWord_basicLower (c : Char) : isWord (basicLower c) = isWord c :=
  apply_basicLower (by decide +kernel) c

/-- Letters are told apart without regard to letter case. -/
lemma isBasicLetter_basicLower (c : Char) : IsBasicLetter (basicLower c) ↔ IsBasicLetter c := by
  have hsame : decide (IsBasicLetter (basicLower c)) = decide (IsBasicLetter c) :=
    apply_basicLower (f := fun c => decide (IsBasicLetter c)) (by decide) c
  simpa using hsame

/-- What does not depend on letter case holds of all characters of a text if it does in another
letter case. -/
lemma forall_of_fold {P : Char → Prop} (hP : ∀ c, P (basicLower c) ↔ P c) {cs cs' : List Char}
    (h : cs.map basicLower = cs'.map basicLower) (hall : ∀ c ∈ cs, P c) : ∀ c ∈ cs', P c := by
  have hlower : ∀ c ∈ cs'.map basicLower, P c := by
    rw [← h]
    simpa [hP] using hall
  simpa [hP] using hlower

/-- A letter is a character of words and of keys, and it is neither a dash nor a quote nor a blank. -/
lemma IsBasicLetter.spec {c : Char} (h : IsBasicLetter c) :
    isWord c = true ∧ isKey c = true ∧ c ≠ '-' ∧ Token.isPlain c = true :=
  forall_isBasic (P := fun c => IsBasicLetter c →
    isWord c = true ∧ isKey c = true ∧ c ≠ '-' ∧ Token.isPlain c = true) (by decide +kernel)
    h.isBasic h

/-! ## Blanks -/

/-- The code points of blanks. -/
def blankCodes : List Nat :=
  List.range' 9 5 ++ List.range' 28 5 ++ List.range' 8192 11 ++
    [133, 160, 5760, 8232, 8233, 8239, 8287, 12288]

/-- A property of the code points of blanks is one of all blanks. -/
lemma forall_isBlank {P : Char → Prop} (h : ∀ code ∈ blankCodes, P (Char.ofNat code)) {c : Char}
    (hc : isBlank c = true) : P c := by
  have hcode : c.toNat ∈ blankCodes := by
    simp only [isBlank, Bool.or_eq_true, Bool.and_eq_true, decide_eq_true_eq, beq_iff_eq] at hc
    simp only [blankCodes, List.mem_append, List.mem_range'_1, List.mem_cons, List.not_mem_nil,
      or_false]
    omega
  have hall := h _ hcode
  rwa [Char.ofNat_toNat] at hall

/-- A character of words is no blank. -/
lemma isBlank_of_isWord {c : Char} (h : isWord c = true) : isBlank c = false := by
  by_contra hblank
  have hword : isWord c = false :=
    forall_isBlank (P := fun c => isWord c = false) (by decide +kernel) (by simpa using hblank)
  rw [h] at hword
  exact nomatch hword

end Text

namespace Shortcut

open TaskShell.Text

/-- Keywords are read without regard to letter case. -/
@[simp] lemma keyLetter_basicLower (c : Char) : keyLetter (basicLower c) = keyLetter c :=
  apply_basicLower (by decide) c

/-- A keyword reads a blank as itself. -/
lemma keyLetter_of_isBlank {c : Char} (h : isBlank c = true) : keyLetter c = c :=
  forall_isBlank (P := fun c => keyLetter c = c) (by decide) h

/-- A basic character without relatives outside of the basic alphabet is read from its own letter, in
either case, and from nothing else. -/
lemma keyLetter_eq_iff {c d : Char} (hd : IsBasic d) (halone : d ∉ ['i', 's', 'k']) :
    keyLetter c = d ↔ basicLower c = d := by
  have hrelatives : ∀ e ∈ ['İ', 'ı', 'ſ', '\u212a'], keyLetter e ∈ ['i', 's', 'k'] ∧
      basicLower e = e ∧ ¬ IsBasic e := by
    decide
  by_cases hc : c ∈ ['İ', 'ı', 'ſ', '\u212a']
  · obtain ⟨hkey, hself, hfar⟩ := hrelatives c hc
    constructor
    · rintro rfl
      exact absurd hkey halone
    · rintro rfl
      rw [hself] at hd
      exact absurd hd hfar
  · simp only [List.mem_cons, List.not_mem_nil, or_false, not_or] at hc
    simp [keyLetter, basicLower, hc]

end Shortcut

namespace Chars

open TaskShell.Text

/-! ## Lower case -/

/-- The lower case of a basic character is that of the letters `A` to `Z`. -/
lemma lowerChar_of_isBasic {c : Char} (h : IsBasic c) : c ≠ 'Σ' ∧ lowerChar c = [basicLower c] :=
  forall_isBasic (P := fun c => c ≠ 'Σ' ∧ lowerChar c = [basicLower c]) (by decide +kernel) h

/-- The lower case of a basic text is that of its letters `A` to `Z`. -/
lemma lowerFrom_of_isBasic {cs : List Char} (h : ∀ c ∈ cs, IsBasic c) (afterCased : Bool) :
    lowerFrom afterCased cs = cs.map basicLower := by
  induction cs generalizing afterCased with
  | nil => rfl
  | cons c cs ih =>
    obtain ⟨hc, hcs⟩ := List.forall_mem_cons.1 h
    obtain ⟨hsigma, hlower⟩ := lowerChar_of_isBasic hc
    rw [lowerFrom, if_neg hsigma, hlower, ih hcs]
    rfl

/-- Blanks stay in lower case. -/
lemma isLower_of_isBlank {c : Char} (h : isBlank c = true) : IsLower c :=
  forall_isBlank (by decide +kernel) h

section Context

variable (c : Char)

/-- A letter in lower case has the same lower case. -/
@[simp] lemma lowerChar_basicLower : lowerChar (basicLower c) = lowerChar c :=
  apply_basicLower (f := lowerChar) (by decide +kernel) c

/-- Case-ignorable characters are told apart without regard to letter case. -/
@[simp] lemma isCaseIgnorable_basicLower : isCaseIgnorable (basicLower c) = isCaseIgnorable c :=
  apply_basicLower (f := isCaseIgnorable) (by decide +kernel) c

/-- Cased characters are told apart without regard to letter case. -/
@[simp] lemma isCased_basicLower : isCased (basicLower c) = isCased c :=
  apply_basicLower (f := isCased) (by decide +kernel) c

/-- Only a capital sigma becomes one. -/
@[simp] lemma basicLower_eq_sigma : basicLower c = 'Σ' ↔ c = 'Σ' := by
  have hsame : decide (basicLower c = 'Σ') = decide (c = 'Σ') :=
    apply_basicLower (f := fun c => decide (c = 'Σ')) (by decide) c
  simpa using hsame

end Context

/-- Whether a text starts cased does not depend on the case of its letters. -/
lemma startsCased_map_basicLower (cs : List Char) :
    startsCased (cs.map basicLower) = startsCased cs := by
  induction cs with
  | nil => rfl
  | cons c cs ih => simp [startsCased, ih]

/-- Lower case does not depend on whether letters are in lower case already. -/
theorem lowerFrom_map_basicLower (afterCased : Bool) (cs : List Char) :
    lowerFrom afterCased (cs.map basicLower) = lowerFrom afterCased cs := by
  induction cs generalizing afterCased with
  | nil => rfl
  | cons c cs ih => simp [lowerFrom, startsCased_map_basicLower, ih]

end Chars

namespace Text

/-- On basic texts both lower cases tell the same apart. -/
theorem lower_eq_lower_iff {a b : String} (ha : ∀ c ∈ a.toList, IsBasic c)
    (hb : ∀ c ∈ b.toList, IsBasic c) : lower a = lower b ↔ foldBasic a = foldBasic b := by
  rw [lower, lower, String.ofList_inj, Chars.lower, Chars.lower, Chars.lowerFrom_of_isBasic ha,
    Chars.lowerFrom_of_isBasic hb, foldBasic_eq, foldBasic_eq]

/-! ## Upper case -/

/-- A text of characters with code points below 128. -/
def IsAscii (s : String) : Prop :=
  ∀ c ∈ s.toList, c.toNat < 128

instance (s : String) : Decidable (IsAscii s) :=
  inferInstanceAs (Decidable (∀ c ∈ s.toList, c.toNat < 128))

/-- The upper case of a letter from `a` to `z`; every other character stays. -/
def basicUpper (c : Char) : Char :=
  if 'a' ≤ c ∧ c ≤ 'z' then Char.ofNat (c.toNat - 32) else c

/-- The upper case of an ASCII character is that of the letters `a` to `z`, which undoes their lower
case and is undone by it. -/
lemma upperChar_of_ascii {c : Char} (h : c.toNat < 128) : Chars.upperChar c = [basicUpper c] ∧
    basicUpper (basicLower c) = basicUpper c ∧ basicLower (basicUpper c) = basicLower c := by
  have hall : ∀ code ∈ List.range 128, Chars.upperChar (Char.ofNat code) =
      [basicUpper (Char.ofNat code)] ∧
      basicUpper (basicLower (Char.ofNat code)) = basicUpper (Char.ofNat code) ∧
      basicLower (basicUpper (Char.ofNat code)) = basicLower (Char.ofNat code) := by
    decide +kernel
  have hcode := hall c.toNat (List.mem_range.2 h)
  rwa [Char.ofNat_toNat] at hcode

/-- The upper case of an ASCII text is that of its letters `a` to `z`. -/
lemma upper_of_isAscii {s : String} (h : IsAscii s) :
    upper s = String.ofList (s.toList.map basicUpper) := by
  rw [upper, Chars.upper, List.map_eq_flatMap]
  exact congrArg String.ofList (List.flatMap_congr fun c hc => (upperChar_of_ascii (h c hc)).1)

/-- On ASCII texts upper case tells the same apart as the lower case that compares ids. -/
theorem upper_eq_upper_iff {a b : String} (ha : IsAscii a) (hb : IsAscii b) :
    upper a = upper b ↔ foldBasic a = foldBasic b := by
  have hback : ∀ {s : String}, IsAscii s →
      (s.toList.map basicLower).map basicUpper = s.toList.map basicUpper ∧
        (s.toList.map basicUpper).map basicLower = s.toList.map basicLower := by
    intro s hs
    rw [List.map_map, List.map_map]
    exact ⟨List.map_congr_left fun c hc => (upperChar_of_ascii (hs c hc)).2.1,
      List.map_congr_left fun c hc => (upperChar_of_ascii (hs c hc)).2.2⟩
  rw [upper_of_isAscii ha, upper_of_isAscii hb, String.ofList_inj, foldBasic_eq, foldBasic_eq]
  constructor
  · intro hsame
    rw [← (hback ha).2, hsame, (hback hb).2]
  · intro hsame
    rw [← (hback ha).1, hsame, (hback hb).1]

end Text

end TaskShell
