import Mathlib.Logic.Basic
import Mathlib.Tactic.ByContra
import Mathlib.Tactic.Lemma
import TaskShell.Text.Case
import TaskShell.Text.Words

/-!
# Lower case, once and in context

What is in lower case stays as it is in lower case. A piece of a text has the same lower case as on
its own, save for its capital sigmas: the form of a sigma depends on its neighbours, which may stand
outside the piece. A piece whose sigmas are all decided by their neighbours within it has one lower
case wherever it stands; any other piece has a text around it in whose lower case that of the piece
does not occur.

## Main definitions

* `Text.marks` — numbers marked by the binary digits of one number.
* `Chars.IsLower` — characters that are their own lower case in every context.
* `Chars.lowerBetween` — the lower case of a piece of a text.
* `Chars.Decided`, `Chars.Settled` — a sigma decided within a piece, and a piece with no others.

## Main results

* `Chars.lowerFrom_lowerFrom`, `Text.lower_lower` — lower case in lower case.
* `Chars.lowerFrom_append` — the lower case of a text in two pieces.
* `Chars.settled_iff` — settled pieces are those that are found in every text around them.
-/

set_option autoImplicit false

namespace TaskShell

/-! ## The table of lower case -/

namespace Text

/-- The number whose binary digits mark some numbers. -/
def marks (codes : List Nat) : Nat :=
  codes.foldr (fun code sum => 1 <<< code ||| sum) 0

/-- The digits of the marks of some numbers. -/
lemma testBit_marks (codes : List Nat) (n : Nat) :
    (marks codes).testBit n = true ↔ n ∈ codes := by
  induction codes with
  | nil => simp [marks]
  | cons code codes ih =>
    rw [marks, List.foldr_cons, ← marks, Nat.testBit_or, Bool.or_eq_true, ih, Nat.one_shiftLeft,
      Nat.testBit_two_pow]
    simp [eq_comm]

/-- Numbers are apart if their marks have no digit in common. For long lists this is decided faster
than by comparing the numbers. -/
lemma notMem_of_marks {codes others : List Nat} (h : marks codes &&& marks others = 0) {n : Nat}
    (hn : n ∈ codes) : n ∉ others := by
  intro hother
  have hdigit : (marks codes &&& marks others).testBit n = true := by
    simp [Nat.testBit_and, testBit_marks, hn, hother]
  rw [h, Nat.zero_testBit] at hdigit
  exact nomatch hdigit

namespace CaseRun

/-- The code points of a run. -/
def codes (run : CaseRun) : List Nat :=
  List.range' run.first ((run.last - run.first) / run.stride + 1) run.stride

/-- The code point that a run moves a code point to. -/
def image (run : CaseRun) (code : Nat) : Nat :=
  (code + run.shift).toNat

/-- What a run covers is one of its code points. -/
lemma mem_codes {run : CaseRun} {code : Nat} (h : run.covers code = true) : code ∈ run.codes := by
  simp only [covers, Bool.and_eq_true, decide_eq_true_eq, beq_iff_eq] at h
  obtain ⟨⟨hfirst, hlast⟩, hstride⟩ := h
  refine List.mem_range'.2 ⟨(code - run.first) / run.stride, ?_, ?_⟩
  · have hplace : (code - run.first) / run.stride ≤ (run.last - run.first) / run.stride :=
      Nat.div_le_div_right (by omega)
    omega
  · have hsteps := Nat.div_add_mod (code - run.first) run.stride
    omega

/-- A code point that is moved belongs to a run, which moves it there. -/
lemma exists_of_image? {runs : List CaseRun} {code code' : Nat}
    (h : image? runs code = some code') :
    ∃ run ∈ runs, run.covers code = true ∧ code' = run.image code := by
  induction runs with
  | nil => exact nomatch h
  | cons run runs ih =>
    unfold image? at h
    split at h
    · exact nomatch h
    · split at h
      · next hcovers => exact ⟨run, List.mem_cons_self, hcovers, (Option.some.inj h).symm⟩
      · obtain ⟨other, hmem, hother⟩ := ih h
        exact ⟨other, List.mem_cons_of_mem run hmem, hother⟩

end CaseRun

/-- The code points with a one-to-one lower case, and those that these become. -/
def lowered : List Nat := lowerRuns.flatMap CaseRun.codes

/-- What the code points with a one-to-one lower case become. -/
def lowerImages : List Nat := lowerRuns.flatMap fun run => run.codes.map run.image

/-- The lower case of a code point has no other lower case, and it is not the capital `I` with a dot
above. -/
lemma notMem_lowered {code : Nat} (h : code ∈ lowerImages) : code ∉ 'İ'.toNat :: lowered := by
  have hapart : marks lowerImages &&& marks ('İ'.toNat :: lowered) = 0 := by decide +kernel
  exact notMem_of_marks hapart h

/-- A code point with a one-to-one lower case, and what it becomes. -/
lemma mem_of_image? {code code' : Nat} (h : CaseRun.image? lowerRuns code = some code') :
    code ∈ lowered ∧ code' ∈ lowerImages := by
  obtain ⟨run, hrun, hcovers, rfl⟩ := CaseRun.exists_of_image? h
  have hcode := CaseRun.mem_codes hcovers
  exact ⟨List.mem_flatMap.2 ⟨run, hrun, hcode⟩,
    List.mem_flatMap.2 ⟨run, hrun, List.mem_map_of_mem hcode⟩⟩

end Text

/-! ## Lower case in lower case -/

namespace Chars

open TaskShell.Text

/-- A character is its own lower case in every context. -/
def IsLower (c : Char) : Prop :=
  c ≠ 'Σ' ∧ lowerChar c = [c]

instance (c : Char) : Decidable (IsLower c) :=
  inferInstanceAs (Decidable (c ≠ 'Σ' ∧ lowerChar c = [c]))

/-- The one-to-one lower case of a character stays as it is, save for the capital `I` with a dot
above. -/
lemma isLower_lowerSimple {c : Char} (h : c ≠ 'İ') : IsLower (lowerSimple c) := by
  have hfixed : lowerSimple c ≠ 'İ' ∧ lowerSimple (lowerSimple c) = lowerSimple c := by
    cases hcode : CaseRun.image? lowerRuns c.toNat with
    | none =>
      have hself : lowerSimple c = c := by simp only [lowerSimple, hcode]
      rw [hself, hself]
      exact ⟨h, rfl⟩
    | some code =>
      have hmoved : lowerSimple c = Char.ofNat code := by simp only [lowerSimple, hcode]
      -- a number that is no code point stands for the null character
      have hnumber : (Char.ofNat code).toNat = code ∨ Char.ofNat code = Char.ofNat 0 := by
        by_cases hvalid : code.isValidChar
        · left
          have hcoded : Char.ofNat code = Char.ofNatAux code hvalid := dif_pos hvalid
          rw [hcoded]
          rfl
        · exact .inr (dif_neg hvalid)
      rw [hmoved]
      rcases hnumber with hnumber | hnull
      · have hapart := notMem_lowered (mem_of_image? hcode).2
        rw [List.mem_cons, not_or] at hapart
        refine ⟨fun hdotted => hapart.1 (by rw [← hnumber, hdotted]), ?_⟩
        have hstays : CaseRun.image? lowerRuns (Char.ofNat code).toNat = none := by
          rw [hnumber, ← Option.not_isSome_iff_eq_none, Option.isSome_iff_exists]
          rintro ⟨further, hfurther⟩
          exact hapart.2 (mem_of_image? hfurther).1
        simp only [lowerSimple, hstays]
      · rw [hnull]
        decide +kernel
  have hsigma : lowerSimple c ≠ 'Σ' := by
    intro hsigma
    have hsmall : lowerSimple 'Σ' = 'σ' := by decide +kernel
    rw [hsigma, hsmall] at hfixed
    exact absurd hfixed.2 (by decide)
  exact ⟨hsigma, by rw [lowerChar, if_neg hfixed.1, hfixed.2]⟩

/-- A lower case has characters that are their own lower case. -/
lemma isLower_of_mem_lowerFrom {afterCased : Bool} {cs : List Char} :
    ∀ d ∈ lowerFrom afterCased cs, IsLower d := by
  induction cs generalizing afterCased with
  | nil => simp [lowerFrom]
  | cons c cs ih =>
    intro d hd
    rcases List.mem_append.1 hd with hmapped | hrest
    · have hsigmas : IsLower 'ς' ∧ IsLower 'σ' := by decide +kernel
      have hdotted : IsLower 'i' ∧ IsLower (Char.ofNat 775) := by decide +kernel
      split at hmapped
      · split at hmapped
        · rw [List.mem_singleton.1 hmapped]
          exact hsigmas.1
        · rw [List.mem_singleton.1 hmapped]
          exact hsigmas.2
      · unfold lowerChar at hmapped
        split at hmapped
        · simp only [List.mem_cons, List.not_mem_nil, or_false] at hmapped
          rcases hmapped with rfl | rfl
          · exact hdotted.1
          · exact hdotted.2
        · next hplain =>
          rw [List.mem_singleton.1 hmapped]
          exact isLower_lowerSimple hplain
    · exact ih d hrest

/-- A text of characters that are their own lower case stays as it is. -/
lemma lowerFrom_of_isLower {afterCased : Bool} {cs : List Char} (h : ∀ c ∈ cs, IsLower c) :
    lowerFrom afterCased cs = cs := by
  induction cs generalizing afterCased with
  | nil => rfl
  | cons c cs ih =>
    obtain ⟨⟨hsigma, hchar⟩, hrest⟩ := List.forall_mem_cons.1 h
    rw [lowerFrom, if_neg hsigma, hchar, ih hrest]
    rfl

/-- **Lower case stays as it is in lower case**, in whatever context. -/
theorem lowerFrom_lowerFrom (before afterCased : Bool) (cs : List Char) :
    lowerFrom before (lowerFrom afterCased cs) = lowerFrom afterCased cs :=
  lowerFrom_of_isLower isLower_of_mem_lowerFrom

end Chars

/-- **Lower case stays as it is in lower case.** -/
@[simp] theorem Text.lower_lower (s : String) : lower (lower s) = lower s := by
  simp only [lower, String.toList_ofList, Chars.lower, Chars.lowerFrom_lowerFrom]

namespace Chars

/-! ## Pieces of texts -/

/-- Whether a text that did or did not end cased does so after one more character. -/
def casedAfter (afterCased : Bool) (c : Char) : Bool :=
  if isCaseIgnorable c then afterCased else isCased c

/-- Whether a text that did or did not end cased does so after more characters. -/
def endsCased (afterCased : Bool) (cs : List Char) : Bool :=
  cs.foldl casedAfter afterCased

/-- The lower case of a character before `following`. -/
def lowerAt (afterCased : Bool) (following : List Char) (c : Char) : List Char :=
  if c = 'Σ' then (if afterCased && !startsCased following then ['ς'] else ['σ']) else lowerChar c

/-- The lower case of a piece of a text before `following`. -/
def lowerBetween (following : List Char) : Bool → List Char → List Char
  | _, [] => []
  | afterCased, c :: cs =>
    lowerAt afterCased (cs ++ following) c ++ lowerBetween following (casedAfter afterCased c) cs

variable {afterCased : Bool} {cs following before after : List Char}

/-- The lower case of a text in two pieces. -/
theorem lowerFrom_append (afterCased : Bool) (cs following : List Char) :
    lowerFrom afterCased (cs ++ following) =
      lowerBetween following afterCased cs ++ lowerFrom (endsCased afterCased cs) following := by
  induction cs generalizing afterCased with
  | nil => rfl
  | cons c cs ih =>
    change lowerAt afterCased (cs ++ following) c ++
      lowerFrom (casedAfter afterCased c) (cs ++ following) = _
    rw [ih, lowerBetween, List.append_assoc]
    rfl

/-- The lower case of a text is that of a piece with nothing behind it. -/
lemma lowerFrom_eq_lowerBetween (afterCased : Bool) (cs : List Char) :
    lowerFrom afterCased cs = lowerBetween [] afterCased cs := by
  simpa [lowerFrom] using lowerFrom_append afterCased cs []

/-- The lower case of a piece in two parts. -/
lemma lowerBetween_append (following : List Char) (afterCased : Bool) (cs ds : List Char) :
    lowerBetween following afterCased (cs ++ ds) =
      lowerBetween (ds ++ following) afterCased cs ++
        lowerBetween following (endsCased afterCased cs) ds := by
  induction cs generalizing afterCased with
  | nil => rfl
  | cons c cs ih =>
    rw [List.cons_append, lowerBetween, lowerBetween, ih, List.append_assoc, List.append_assoc]
    rfl

/-- The length of the lower case of a piece does not depend on what is around it. -/
lemma length_lowerBetween (following others : List Char) (afterCased afterCased' : Bool)
    (cs : List Char) : (lowerBetween following afterCased cs).length =
      (lowerBetween others afterCased' cs).length := by
  induction cs generalizing afterCased afterCased' with
  | nil => rfl
  | cons c cs ih =>
    have hchar : (lowerAt afterCased (cs ++ following) c).length =
        (lowerAt afterCased' (cs ++ others) c).length := by
      unfold lowerAt
      split
      · split <;> split <;> rfl
      · rfl
    rw [lowerBetween, lowerBetween, List.length_append, List.length_append, hchar, ih]

/-! ## Settled pieces -/

/-- Whether a text ends cased depends on what is before it, unless it has a character that counts. -/
lemma endsCased_cases (cs : List Char) :
    (∀ afterCased, endsCased afterCased cs = afterCased) ∨
      ∀ afterCased, endsCased afterCased cs = endsCased false cs := by
  induction cs with
  | nil => exact .inl fun _ => rfl
  | cons c cs ih =>
    cases hc : isCaseIgnorable c with
    | true => simpa [endsCased, casedAfter, hc] using ih
    | false =>
      right
      intro afterCased
      simp [endsCased, casedAfter, hc]

/-- Whether a text starts cased depends on what is behind it, unless it has a character that
counts. -/
lemma startsCased_cases (cs : List Char) :
    (∀ following, startsCased (cs ++ following) = startsCased following) ∨
      ∀ following, startsCased (cs ++ following) = startsCased cs := by
  induction cs with
  | nil => exact .inl fun _ => rfl
  | cons c cs ih =>
    cases hc : isCaseIgnorable c with
    | true => simpa [startsCased, hc] using ih
    | false =>
      right
      intro following
      simp [startsCased, hc]

/-- A sigma between two parts of a piece is decided within the piece. Of the nearest characters that
are not case-ignorable, the one before it is there and is not cased, or the one behind it is there and
is cased, or both are there. -/
def Decided (before after : List Char) : Prop :=
  endsCased true before = false ∨ startsCased after = true ∨
    endsCased false before = true ∧ startsCased (after ++ ['a']) = false

instance (before after : List Char) : Decidable (Decided before after) :=
  inferInstanceAs (Decidable (_ ∨ _ ∨ _ ∧ _))

/-- Every sigma of a piece is decided within it. -/
def Settled (cs : List Char) : Prop :=
  ∀ n < cs.length, cs[n]? = some 'Σ' → Decided (cs.take n) (cs.drop (n + 1))

instance (cs : List Char) : Decidable (Settled cs) :=
  inferInstanceAs (Decidable (∀ n < cs.length, _))

/-- A sigma of a settled piece is decided by what is around it there. -/
lemma Settled.decided (h : Settled (before ++ 'Σ' :: after)) : Decided before after := by
  have hdecided := h before.length (by simp) (by simp)
  simpa using hdecided

/-- A piece that is not settled has a sigma that is not decided. -/
lemma exists_of_not_settled (h : ¬ Settled cs) :
    ∃ before after, cs = before ++ 'Σ' :: after ∧ ¬ Decided before after := by
  simp only [Settled, not_forall] at h
  obtain ⟨n, hn, hsigma, hundecided⟩ := h
  refine ⟨cs.take n, cs.drop (n + 1), ?_, hundecided⟩
  rw [List.getElem?_eq_getElem hn, Option.some.injEq] at hsigma
  rw [← hsigma, ← List.drop_eq_getElem_cons hn, List.take_append_drop]

/-- A sigma that is decided has one form, whatever is around the piece. -/
lemma Decided.form_eq (h : Decided before after) (afterCased : Bool) (following : List Char) :
    (endsCased afterCased before && !startsCased (after ++ following)) =
      (endsCased false before && !startsCased after) := by
  have hnothing : startsCased [] = false := rfl
  have hletter : startsCased ['a'] = true := by decide +kernel
  rcases endsCased_cases before with hends | hends
  · -- nothing before it counts, so what is behind it decides
    rcases startsCased_cases after with hstarts | hstarts
    · have hopen := hstarts []
      rw [List.append_nil, hnothing] at hopen
      rcases h with h | h | h
      · simp [hends] at h
      · simp [hopen] at h
      · simp [hends] at h
    · rcases h with h | h | h
      · simp [hends] at h
      · simp [hstarts, h]
      · simp [hends] at h
  · rcases startsCased_cases after with hstarts | hstarts
    · have hopen := hstarts []
      rw [List.append_nil, hnothing] at hopen
      rcases h with h | h | h
      · simp [hends afterCased, (hends true).symm.trans h]
      · simp [hopen] at h
      · simp [hstarts, hletter] at h
    · rw [hends, hstarts]

/-- A settled piece has the same lower case wherever it stands.

**Proof sketch.** Induction on what is left of the piece: the form of a sigma is the same, as it is
decided by what has been passed and what is still to come. -/
lemma Settled.lowerBetween_eq (h : Settled cs) (afterCased : Bool) (following : List Char) :
    lowerBetween following afterCased cs = lower cs := by
  have hrest : ∀ rest before, cs = before ++ rest →
      lowerBetween following (endsCased afterCased before) rest =
        lowerBetween [] (endsCased false before) rest := by
    intro rest
    induction rest with
    | nil => exact fun _ _ => rfl
    | cons c rest ih =>
      intro before hcs
      have hchar : lowerAt (endsCased afterCased before) (rest ++ following) c =
          lowerAt (endsCased false before) (rest ++ []) c := by
        unfold lowerAt
        split
        · next hsigma =>
          rw [hcs, hsigma] at h
          rw [h.decided.form_eq, List.append_nil]
        · rfl
      have hnext : ∀ afterCased, casedAfter (endsCased afterCased before) c =
          endsCased afterCased (before ++ [c]) := by
        intro afterCased
        simp [endsCased, List.foldl_append]
      rw [lowerBetween, lowerBetween, hchar, hnext, hnext, ih (before ++ [c]) (by simpa using hcs)]
  rw [lower, lowerFrom_eq_lowerBetween]
  exact hrest cs [] rfl

/-- The lower case of a settled piece occurs in that of every text around it. -/
theorem Settled.infix_lower (h : Settled cs) (front back : List Char) :
    lower cs <:+: lower (front ++ cs ++ back) := by
  have htext : lower (front ++ cs ++ back) = lowerBetween (cs ++ back) false front ++
      lowerBetween back (endsCased false front) cs ++
        lowerFrom (endsCased false (front ++ cs)) back := by
    rw [← lowerBetween_append]
    exact lowerFrom_append false (front ++ cs) back
  rw [htext, h.lowerBetween_eq]
  exact ⟨_, _, rfl⟩

/-! ## Pieces that are not settled -/

/-- The forms of a sigma in two contexts are the same if the piece has the same lower case in both. -/
lemma form_eq_of_lowerBetween_eq {afterCased' : Bool} {others : List Char}
    (h : lowerBetween following afterCased (before ++ 'Σ' :: after) =
      lowerBetween others afterCased' (before ++ 'Σ' :: after)) :
    (endsCased afterCased before && !startsCased (after ++ following)) =
      (endsCased afterCased' before && !startsCased (after ++ others)) := by
  rw [lowerBetween_append, lowerBetween_append] at h
  have hsigma := (List.append_inj h (length_lowerBetween _ _ _ _ _)).2
  simp only [lowerBetween, lowerAt, if_true] at hsigma
  generalize (endsCased afterCased before && !startsCased (after ++ following)) = form at hsigma ⊢
  generalize (endsCased afterCased' before && !startsCased (after ++ others)) = form' at hsigma ⊢
  cases form <;> cases form' <;> simp at hsigma ⊢

/-- A letter that differs from a given character, if there is one. -/
lemma exists_letter (c? : Option Char) :
    ∃ letter, some letter ≠ c? ∧ isCaseIgnorable letter = false ∧ isCased letter = true ∧
      lowerChar letter = [letter] ∧ letter ≠ 'Σ' := by
  by_cases ha : some 'a' = c?
  · exact ⟨'b', by rw [← ha]; decide, by decide +kernel⟩
  · exact ⟨'a', ha, by decide +kernel⟩

/-- What occurs in a list that is one longer begins it or ends it. -/
lemma eq_or_eq_of_infix {α : Type} {short : List α} {a : α} {long : List α}
    (h : short <:+: a :: long) (hlength : short.length = long.length) :
    short = long ∨ short.head? = some a ∨ short = [] := by
  rcases List.infix_cons_iff.1 h with hprefix | hpart
  · cases short with
    | nil => exact .inr (.inr rfl)
    | cons b short =>
      right
      left
      rw [(List.cons_prefix_cons.1 hprefix).1]
      rfl
  · exact .inl (hpart.eq_of_length hlength)

/-- A sigma with nothing before it that counts is not found behind a letter, if nothing cased is
behind it. -/
lemma exists_front (h : cs = before ++ 'Σ' :: after) (hbefore : endsCased true before = true)
    (hopen : endsCased false before = false) (hafter : startsCased after = false) :
    ∃ letter, ¬ lower cs <:+: lower (letter :: cs) := by
  obtain ⟨letter, hletter, hcounts, hcased, hlower, hsigma⟩ := exists_letter (lower cs).head?
  refine ⟨letter, fun hpart => ?_⟩
  have htext : lower (letter :: cs) = letter :: lowerBetween [] true cs := by
    rw [← lowerFrom_eq_lowerBetween, lower, lowerFrom, if_neg hsigma, hlower, hcounts, hcased]
    rfl
  have halone : lower cs = lowerBetween [] false cs := lowerFrom_eq_lowerBetween false cs
  rw [htext] at hpart
  have hlength : (lower cs).length = (lowerBetween [] true cs).length := by
    rw [halone]
    exact length_lowerBetween _ _ _ _ _
  rcases eq_or_eq_of_infix hpart hlength with hsame | hhead | hnil
  · rw [halone, h] at hsame
    have hforms := form_eq_of_lowerBetween_eq hsame
    simp [hopen, hbefore, hafter] at hforms
  · exact hletter hhead.symm
  · rw [hnil] at hlength
    rw [h, lowerBetween_append] at hlength
    simp only [lowerBetween, lowerAt, if_true] at hlength
    split at hlength <;> simp at hlength

/-- A sigma behind something cased is not found before a letter, if nothing behind it counts. -/
lemma exists_back (h : cs = before ++ 'Σ' :: after) (hbefore : endsCased false before = true)
    (hafter : startsCased after = false) (hopen : startsCased (after ++ ['a']) = true) :
    ∃ letter, ¬ lower cs <:+: lower (cs ++ [letter]) := by
  obtain ⟨letter, hletter, hcounts, hcased, hlower, hsigma⟩ := exists_letter (lower cs).getLast?
  refine ⟨letter, fun hpart => ?_⟩
  have hstarts : startsCased (after ++ [letter]) = true := by
    rcases startsCased_cases after with hall | hall
    · rw [hall]
      simp [startsCased, hcounts, hcased]
    · rw [hall, hafter] at hopen
      exact nomatch hopen
  have htext : lower (cs ++ [letter]) = lowerBetween [letter] false cs ++ [letter] := by
    rw [lower, lowerFrom_append, lowerFrom, if_neg hsigma, hlower]
    rfl
  have halone : lower cs = lowerBetween [] false cs := lowerFrom_eq_lowerBetween false cs
  have hlength : (lower cs).reverse.length = (lowerBetween [letter] false cs).reverse.length := by
    rw [List.length_reverse, List.length_reverse, halone]
    exact length_lowerBetween _ _ _ _ _
  have hreverse : (lower cs).reverse <:+: letter :: (lowerBetween [letter] false cs).reverse := by
    rw [htext] at hpart
    simpa using List.reverse_infix.2 hpart
  rcases eq_or_eq_of_infix hreverse hlength with hsame | hhead | hnil
  · rw [List.reverse_inj, halone, h] at hsame
    have hforms := form_eq_of_lowerBetween_eq hsame
    simp [hbefore, hafter, hstarts] at hforms
  · rw [List.head?_reverse] at hhead
    exact hletter hhead.symm
  · rw [hnil] at hlength
    rw [h, lowerBetween_append] at hlength
    simp only [lowerBetween, lowerAt, if_true] at hlength
    split at hlength <;> simp at hlength

/-- **Settled pieces are those that are found in every text around them**, in lower case.

**Proof sketch.** A sigma that is not decided takes the other form next to a letter before the piece or
behind it. Then the text in lower case is one character longer than the piece, so that the piece would
have to begin it or end it; where it would not meet the sigma, it meets the letter, which is chosen to
differ from it. -/
theorem settled_iff : Settled cs ↔ ∀ front back, lower cs <:+: lower (front ++ cs ++ back) := by
  refine ⟨fun h => h.infix_lower, fun h => ?_⟩
  by_contra hsettled
  obtain ⟨before, after, hcs, hundecided⟩ := exists_of_not_settled hsettled
  simp only [Decided, not_or, not_and, Bool.not_eq_false, Bool.not_eq_true] at hundecided
  obtain ⟨hbefore, hafter, hboth⟩ := hundecided
  cases hopen : endsCased false before with
  | false =>
    obtain ⟨letter, hnot⟩ := exists_front hcs hbefore hopen hafter
    exact hnot (by simpa using h [letter] [])
  | true =>
    obtain ⟨letter, hnot⟩ := exists_back hcs hopen hafter (hboth hopen)
    exact hnot (by simpa using h [] [letter])

end Chars

end TaskShell
