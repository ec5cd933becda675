import TaskShell.Number.Reader
import TaskShell.Proofs.Number.Shortest

/-!
# Numbers read back

A number that is written out is a sign and digits, with a point or an exponent if it is a
floating-point number. The reader takes the sign, the digits up to a mark, and what the mark gives;
so it gets the number that was written. Whole numbers are read up to a limit of digits.

## Main definitions

* `Number.Spells` — how a decimal is written out.

## Main results

* `Number.readInt?_toString` — a whole number that is not too long reads back.
* `Number.Spells.readDecimal?` — a decimal that is written out is read.
* `Binary64.exists_spells_layout` — digits are laid out as what they stand for.
* `Binary64.readFloat?_text` — the text of a number reads back as the number.
-/

set_option autoImplicit false

namespace TaskShell.Number

open TaskShell.Text

/-! ## Digits -/

/-- A decimal digit is one of ten characters. -/
lemma exists_digitChar {c : Char} (h : c.isDigit = true) : ∃ n < 10, c = Nat.digitChar n := by
  simp only [Char.isDigit, Bool.and_eq_true, decide_eq_true_eq] at h
  have hcode : ∀ code ≤ 57, 48 ≤ code → ∃ n < 10, Char.ofNat code = Nat.digitChar n := by decide
  obtain ⟨n, hn, hc⟩ := hcode c.toNat h.2 h.1
  rw [Char.ofNat_toNat] at hc
  exact ⟨n, hn, hc⟩

/-- What holds of the ten digits holds of every digit. -/
lemma forall_isDigit {P : Char → Prop} (h : ∀ n < 10, P (Nat.digitChar n)) {c : Char}
    (hc : c.isDigit = true) : P c := by
  obtain ⟨n, hn, rfl⟩ := exists_digitChar hc
  exact h n hn

/-- The value of a basic digit. -/
lemma digit?_of_isDigit {c : Char} (h : c.isDigit = true) : digit? c = some (c.toNat - 48) :=
  forall_isDigit (P := fun c => digit? c = some (c.toNat - 48)) (by decide +kernel) h

/-- The value of a basic digit to the base ten. -/
lemma digitIn?_of_isDigit {c : Char} (h : c.isDigit = true) : digitIn? 10 c = some (c.toNat - 48) :=
  forall_isDigit (P := fun c => digitIn? 10 c = some (c.toNat - 48)) (by decide +kernel) h

variable {digit? : Char → Option Nat} {ds rest : List Char} {negative : Bool}

/-- Digits are taken up to a character that is neither a digit nor a low line. -/
lemma takeDigitsBy_append (hds : ∀ c ∈ ds, c.isDigit = true)
    (hvalue : ∀ c, c.isDigit = true → digit? c = some (c.toNat - 48))
    (hrest : ∀ c ∈ rest.head?, digit? c = none ∧ c ≠ '_') :
    takeDigitsBy digit? (ds ++ rest) = (ds.map fun c => c.toNat - 48, rest) := by
  induction ds with
  | nil =>
    cases rest with
    | nil => rfl
    | cons c cs => simp [takeDigitsBy, (hrest c rfl).1]
  | cons d ds ih =>
    have hd := hvalue d (hds d List.mem_cons_self)
    have ih' := ih fun c hc => hds c (List.mem_cons_of_mem d hc)
    -- what follows the digit is no low line
    have hnext : ∀ c' cs', ds ++ rest ≠ '_' :: c' :: cs' := by
      intro c' cs' heq
      cases ds with
      | nil =>
        rw [List.nil_append] at heq
        exact (hrest '_' (by rw [heq]; rfl)).2 rfl
      | cons d' ds' =>
        have : d' = '_' := (List.cons.inj heq).1
        have hd' := hds d' (by simp)
        rw [this] at hd'
        exact absurd hd' (by decide)
    rw [List.cons_append, takeDigitsBy, hd]
    dsimp only
    split
    · next hnil =>
      obtain ⟨rfl, rfl⟩ := List.append_eq_nil_iff.1 hnil
      rfl
    · next heq => exact absurd heq (hnext _ _)
    · rw [ih']
      rfl

/-- The digits of a number are decimal. -/
lemma isDigit_toDigits (n : ℕ) : ∀ c ∈ Nat.toDigits 10 n, c.isDigit = true :=
  fun _ hc => Nat.isDigit_of_mem_toDigits (by decide) (by decide) hc

/-- The number that digits spell. -/
lemma ofDigits_map (ds : List Char) :
    ofDigits (ds.map fun c => c.toNat - 48) = Nat.ofDigitChars 10 ds 0 := by
  rw [ofDigits, ofDigitsIn, List.foldl_map]
  rfl

/-- The characters that end digits in a number that is written out. -/
lemma digit?_of_mark {c : Char} (h : c = '.' ∨ c = 'e') : Text.digit? c = none ∧ c ≠ '_' := by
  rcases h with rfl | rfl <;> decide +kernel

/-- Decimal digits are taken up to a mark. -/
lemma takeDigits_append (hds : ∀ c ∈ ds, c.isDigit = true)
    (hrest : ∀ c ∈ rest.head?, c = '.' ∨ c = 'e') :
    takeDigits (ds ++ rest) = (ds.map fun c => c.toNat - 48, rest) :=
  takeDigitsBy_append hds (fun _ => digit?_of_isDigit) fun c hc => digit?_of_mark (hrest c hc)

/-- Digits alone are all taken. -/
lemma takeDigitsBy_of_isDigit (hds : ∀ c ∈ ds, c.isDigit = true)
    (hvalue : ∀ c, c.isDigit = true → digit? c = some (c.toNat - 48)) :
    takeDigitsBy digit? ds = (ds.map fun c => c.toNat - 48, []) := by
  have hrest : ∀ c ∈ ([] : List Char).head?, digit? c = none ∧ c ≠ '_' := by simp
  simpa using takeDigitsBy_append hds hvalue hrest

/-! ## Numbers without padding -/

/-- The characters of numbers are the digits and a few marks. -/
lemma isNumeric_iff {c : Char} : isNumeric c = true ↔
    c.isDigit = true ∨ c = '-' ∨ c = '+' ∨ c = '.' ∨ c = 'e' ∨ c = 'E' := by
  have hdigit : (decide ('0' ≤ c) && decide (c ≤ '9')) = c.isDigit := rfl
  rw [isNumeric, hdigit]
  simp only [Bool.or_eq_true, beq_iff_eq, or_assoc]

/-- The characters of numbers are no padding. -/
lemma isPadding_of_isNumeric {c : Char} (h : isNumeric c = true) : isPadding c = false := by
  rcases isNumeric_iff.1 h with hdigit | rfl | rfl | rfl | rfl | rfl
  · exact forall_isDigit (P := fun c => isPadding c = false) (by decide) hdigit
  all_goals decide

/-- A number that is written out has no padding. -/
lemma unpad_of_isNumeric {cs : List Char} (h : ∀ c ∈ cs, isNumeric c = true) : unpad cs = cs := by
  have hnone : ∀ c ∈ cs, ¬ isPadding c = true := fun c hc => by
    rw [isPadding_of_isNumeric (h c hc)]
    decide
  have hdrop : cs.dropWhile isPadding = cs := by
    cases cs with
    | nil => rfl
    | cons c cs => exact List.dropWhile_cons_of_neg (hnone c List.mem_cons_self)
  have hend : cs.reverse.dropWhile isPadding = cs.reverse := by
    cases hcs : cs.reverse with
    | nil => rfl
    | cons c rest =>
      refine List.dropWhile_cons_of_neg (hnone c ?_)
      rw [← List.mem_reverse, hcs]
      exact List.mem_cons_self
  rw [unpad, hdrop, Chars.dropEnd, hend, List.reverse_reverse]

/-- A number that starts with a digit has no sign. -/
lemma takeSign_of_isDigit {c : Char} {cs : List Char} (h : c.isDigit = true) :
    takeSign (c :: cs) = (false, c :: cs) := by
  unfold takeSign
  split
  · next heq =>
    obtain rfl := (List.cons.inj heq).1
    exact absurd h (by decide)
  · next heq =>
    obtain rfl := (List.cons.inj heq).1
    exact absurd h (by decide)
  · rfl

/-- The sign of a number is taken off. -/
lemma takeSign_signed {c : Char} {cs : List Char} (h : c.isDigit = true) (negative : Bool) :
    takeSign ((if negative then ['-'] else []) ++ c :: cs) = (negative, c :: cs) := by
  cases negative with
  | true => rfl
  | false => exact takeSign_of_isDigit h

/-- A number with a sign and a digit after it is not the name of one. -/
lemma readFloat?_signed {c : Char} {cs : List Char} (hc : c.isDigit = true)
    (hcs : ∀ a ∈ cs, isNumeric a = true) (negative : Bool) {s : String}
    (hs : s.toList = (if negative then ['-'] else []) ++ c :: cs) :
    readFloat? s = readDecimal? negative (c :: cs) := by
  have hnumeric : ∀ a ∈ s.toList, isNumeric a = true := by
    intro a ha
    rw [hs] at ha
    rcases List.mem_append.1 ha with hsign | hrest
    · cases negative with
      | true => exact (List.mem_singleton.1 hsign) ▸ (by decide)
      | false => exact absurd hsign List.not_mem_nil
    · rcases List.mem_cons.1 hrest with rfl | hrest
      · exact isNumeric_iff.2 (.inl hc)
      · exact hcs a hrest
  have hname : ∀ (d : Char) (ds : List Char), d.isDigit = false →
      String.ofList (foldBasic (String.ofList (c :: cs))) ≠ String.ofList (d :: ds) := by
    intro d ds hd heq
    have hfold : (if 'A' ≤ c ∧ c ≤ 'Z' then Char.ofNat (c.toNat + 32) else c) = c :=
      forall_isDigit (P := fun c =>
        (if 'A' ≤ c ∧ c ≤ 'Z' then Char.ofNat (c.toNat + 32) else c) = c) (by decide) hc
    have hlist := congrArg String.toList heq
    simp only [foldBasic, String.toList_ofList, List.map_cons, hfold, List.cons.injEq] at hlist
    rw [hlist.1, hd] at hc
    exact nomatch hc
  unfold readFloat?
  rw [unpad_of_isNumeric hnumeric, hs, takeSign_signed hc]
  dsimp only
  rw [if_neg, if_neg]
  · exact hname 'n' ['a', 'n'] rfl
  · rintro (h | h)
    · exact hname 'i' ['n', 'f'] rfl h
    · exact hname 'i' ['n', 'f', 'i', 'n', 'i', 't', 'y'] rfl h

/-! ## Whole numbers -/

/-- A whole number is written out as a sign and digits. -/
lemma toList_toString (n : ℤ) : (toString n).toList =
    (if decide (n < 0) then ['-'] else []) ++ Nat.toDigits 10 n.natAbs := by
  cases n with
  | ofNat m =>
    have hm : ¬ (Int.ofNat m < 0) := by simp
    rw [decide_eq_false hm]
    exact String.toList_ofList
  | negSucc m =>
    rw [decide_eq_true (Int.negSucc_lt_zero m)]
    change ("-" ++ Nat.repr (m + 1)).toList = _
    rw [String.toList_append, Nat.repr_eq_ofList_toDigits,
      String.toList_ofList (l := Nat.toDigits 10 (m + 1))]
    rfl

/-- A decimal number has no mark of its base. -/
lemma dropMark_ten (cs : List Char) : dropMark 10 cs = cs := by
  unfold dropMark
  split
  · exact if_neg nofun
  · rfl

/-- A sign applied to the magnitude of a whole number. -/
lemma signed_natAbs (n : ℤ) : Binary64.signed (decide (n < 0)) n.natAbs = n := by
  unfold Binary64.signed
  split
  · next h =>
    have := of_decide_eq_true h
    omega
  · next h =>
    have := of_decide_eq_false (Bool.eq_false_iff.2 h)
    omega

/-- A number is below a power of ten just if it has no more digits. -/
lemma lt_tenTo_iff {n k : ℕ} (hk : 0 < k) : n < tenTo k ↔ (Nat.toDigits 10 n).length ≤ k :=
  (Nat.length_toDigits_le_iff (by decide) hk).symm

/-- **A whole number that is not too long reads back.** -/
theorem readInt?_toString {n : ℤ} (h : n.natAbs < tenTo digitLimit) :
    readInt? (toString n) = some n := by
  have hdigits := isDigit_toDigits n.natAbs
  have hlength : (Nat.toDigits 10 n.natAbs).length ≤ digitLimit := (lt_tenTo_iff (by decide)).1 h
  have hvalue : Nat.ofDigitChars 10 (Nat.toDigits 10 n.natAbs) 0 = n.natAbs :=
    Nat.ofDigitChars_toDigits (by decide) (by decide)
  obtain ⟨d, ds, hcons⟩ := List.exists_cons_of_ne_nil (Nat.toDigits_ne_nil (n := n.natAbs) (b := 10))
  rw [hcons] at hdigits hlength hvalue
  obtain ⟨hd, hds⟩ := List.forall_mem_cons.1 hdigits
  have hnumeric : ∀ c ∈ (if decide (n < 0) then ['-'] else []) ++ d :: ds, isNumeric c = true := by
    rw [List.forall_mem_append]
    refine ⟨?_, fun c hc => isNumeric_iff.2 (.inl (hdigits c hc))⟩
    split
    · exact List.forall_mem_singleton.2 rfl
    · exact List.forall_mem_nil _
  have htake := takeDigitsBy_of_isDigit hdigits fun _ => digitIn?_of_isDigit
  unfold readInt? readIntIn
  rw [toList_toString, hcons, unpad_of_isNumeric hnumeric, takeSign_signed hd]
  dsimp only
  rw [dropMark_ten, htake]
  dsimp only
  rw [if_neg (by simp), if_neg (by simpa using hlength), ← ofDigits, ofDigits_map, hvalue,
    signed_natAbs]
  rfl

/-! ## Decimals -/

/-- A decimal with a point, and what its exponent part gives. -/
lemma readDecimal?_point {part tail : List Char} (hds : ∀ c ∈ ds, c.isDigit = true) (hne : ds ≠ [])
    (hpart : ∀ c ∈ part, c.isDigit = true) (htail : ∀ c ∈ tail.head?, c = 'e') :
    readDecimal? negative (ds ++ '.' :: (part ++ tail)) = (readExponent? tail).map fun exponent =>
      .ofDecimal negative (Nat.ofDigitChars 10 (ds ++ part) 0) (exponent - part.length) := by
  have hmark : ∀ c ∈ ('.' :: (part ++ tail)).head?, c = '.' ∨ c = 'e' := by
    rintro c hc
    exact .inl (Option.some.inj hc).symm
  unfold readDecimal?
  rw [takeDigits_append hds hmark]
  dsimp only
  rw [takeFraction, takeDigits_append hpart fun c hc => .inr (htail c hc)]
  simp only [List.isEmpty_map, ← List.map_append, ofDigits_map, List.length_map]
  rw [if_neg (by simp [hne])]

/-- A decimal without a point, and what its exponent part gives. -/
lemma readDecimal?_whole {tail : List Char} (hds : ∀ c ∈ ds, c.isDigit = true) (hne : ds ≠ [])
    (htail : ∀ c ∈ tail.head?, c = 'e') :
    readDecimal? negative (ds ++ tail) = (readExponent? tail).map fun exponent =>
      .ofDecimal negative (Nat.ofDigitChars 10 ds 0) exponent := by
  have hpart : takeFraction tail = ([], tail) := by
    unfold takeFraction
    split
    · exact absurd (htail '.' rfl) (by decide)
    · rfl
  unfold readDecimal?
  rw [takeDigits_append hds fun c hc => .inr (htail c hc)]
  dsimp only
  rw [hpart]
  dsimp only
  rw [List.append_nil, ofDigits_map, List.length_nil, if_neg (by simp [hne])]
  simp

/-- An exponent with a sign. -/
lemma readExponent?_signed (hds : ∀ c ∈ ds, c.isDigit = true) (hne : ds ≠ []) (negative : Bool) :
    readExponent? ('e' :: (if negative then '-' else '+') :: ds) =
      some (Binary64.signed negative (Nat.ofDigitChars 10 ds 0)) := by
  have hsign : takeSign ((if negative then '-' else '+') :: ds) = (negative, ds) := by
    cases negative <;> rfl
  have htake : takeDigits ds = (ds.map fun c => c.toNat - 48, []) :=
    takeDigitsBy_of_isDigit hds fun _ => digit?_of_isDigit
  rw [readExponent?, if_pos (.inl rfl), hsign]
  dsimp only
  rw [htake]
  split
  · next heq => exact absurd (List.map_eq_nil_iff.1 (Prod.mk.inj heq).1) hne
  · next heq =>
    obtain ⟨rfl, -⟩ := Prod.mk.inj heq
    rw [ofDigits_map]
  · next heq => exact absurd rfl (heq _)

/-! ## What a decimal looks like -/

/-- How a decimal is written out: with a point, with an exponent, or with both. -/
inductive Spells : List Char → ℕ → ℤ → Prop
  | point {ds part : List Char} (whole : ∀ c ∈ ds, c.isDigit = true) (ne : ds ≠ [])
      (fraction : ∀ c ∈ part, c.isDigit = true) :
      Spells (ds ++ '.' :: part) (Nat.ofDigitChars 10 (ds ++ part) 0) (-part.length)
  | exponent {ds es : List Char} (whole : ∀ c ∈ ds, c.isDigit = true) (ne : ds ≠ [])
      (digits : ∀ c ∈ es, c.isDigit = true) (exponent_ne : es ≠ []) (below : Bool) :
      Spells (ds ++ 'e' :: (if below then '-' else '+') :: es) (Nat.ofDigitChars 10 ds 0)
        (Binary64.signed below (Nat.ofDigitChars 10 es 0))
  | both {ds part es : List Char} (whole : ∀ c ∈ ds, c.isDigit = true) (ne : ds ≠ [])
      (fraction : ∀ c ∈ part, c.isDigit = true) (digits : ∀ c ∈ es, c.isDigit = true)
      (exponent_ne : es ≠ []) (below : Bool) :
      Spells (ds ++ '.' :: (part ++ 'e' :: (if below then '-' else '+') :: es))
        (Nat.ofDigitChars 10 (ds ++ part) 0)
        (Binary64.signed below (Nat.ofDigitChars 10 es 0) - part.length)

variable {cs : List Char} {coefficient : ℕ} {exponent : ℤ}

/-- A decimal that is written out is read. -/
lemma Spells.readDecimal? (h : Spells cs coefficient exponent) (negative : Bool) :
    readDecimal? negative cs = some (.ofDecimal negative coefficient exponent) := by
  cases h with
  | @point ds part whole ne fraction =>
    have hread : readDecimal? negative (ds ++ '.' :: (part ++ [])) = (readExponent? []).map _ :=
      readDecimal?_point whole ne fraction (by simp)
    rw [List.append_nil] at hread
    rw [hread, readExponent?, Option.map_some, zero_sub]
  | @exponent ds es whole ne digits exponent_ne below =>
    rw [readDecimal?_whole whole ne (by simp), readExponent?_signed digits exponent_ne]
    rfl
  | @both ds part es whole ne fraction digits exponent_ne below =>
    rw [readDecimal?_point whole ne fraction (by simp), readExponent?_signed digits exponent_ne]
    rfl

/-- A decimal starts with a digit, has a point or an exponent, and consists of characters of
numbers. -/
lemma Spells.shape (h : Spells cs coefficient exponent) :
    (∃ c rest, cs = c :: rest ∧ c.isDigit = true) ∧ (∀ c ∈ cs, isNumeric c = true) ∧
      ∃ c ∈ cs, c = '.' ∨ c = 'e' := by
  have hhead : ∀ {ds rest : List Char}, (∀ c ∈ ds, c.isDigit = true) → ds ≠ [] →
      ∃ c rest', ds ++ rest = c :: rest' ∧ c.isDigit = true := by
    intro ds rest hds hne
    obtain ⟨c, ds, rfl⟩ := List.exists_cons_of_ne_nil hne
    exact ⟨c, ds ++ rest, rfl, hds c List.mem_cons_self⟩
  have hdigits : ∀ {ds : List Char}, (∀ c ∈ ds, c.isDigit = true) → ∀ c ∈ ds, isNumeric c = true :=
    fun hds c hc => isNumeric_iff.2 (.inl (hds c hc))
  have hsign : ∀ below : Bool, isNumeric (if below then '-' else '+') = true := by decide
  cases h with
  | point whole ne fraction =>
    refine ⟨hhead whole ne, ?_, '.', by simp, .inl rfl⟩
    simp only [List.forall_mem_append, List.forall_mem_cons]
    exact ⟨hdigits whole, by decide, hdigits fraction⟩
  | exponent whole ne digits exponent_ne below =>
    refine ⟨hhead whole ne, ?_, 'e', by simp, .inr rfl⟩
    simp only [List.forall_mem_append, List.forall_mem_cons]
    exact ⟨hdigits whole, by decide, hsign below, hdigits digits⟩
  | both whole ne fraction digits exponent_ne below =>
    refine ⟨hhead whole ne, ?_, '.', by simp, .inl rfl⟩
    simp only [List.forall_mem_append, List.forall_mem_cons]
    exact ⟨hdigits whole, by decide, hdigits fraction, by decide, hsign below, hdigits digits⟩

end TaskShell.Number

namespace TaskShell.Binary64

open Number (Spells)

/-- Zeros before digits do not count. -/
lemma ofDigitChars_zeros_append (zeros : ℕ) (ds : List Char) :
    Nat.ofDigitChars 10 (List.replicate zeros '0' ++ ds) 0 = Nat.ofDigitChars 10 ds 0 := by
  rw [Nat.ofDigitChars_append, Nat.ofDigitChars_replicate_zero, mul_zero]

/-- Zeros are digits. -/
lemma isDigit_replicate (k : ℕ) : ∀ c ∈ List.replicate k '0', c.isDigit = true := by
  intro c hc
  rw [List.eq_of_mem_replicate hc]
  rfl

/-- Digits after a point, with zeros between. -/
lemma exists_spells_before {ds : List Char} (hds : ∀ c ∈ ds, c.isDigit = true) (k : ℕ) :
    ∃ (coefficient : ℕ) (exponent : ℤ),
      Spells ('0' :: '.' :: (List.replicate k '0' ++ ds)) coefficient exponent ∧
        (coefficient : ℚ) * 10 ^ exponent = Digits.value ⟨ds, -k⟩ := by
  refine ⟨_, _, @Spells.point ['0'] _ (isDigit_replicate 1) (List.cons_ne_nil _ _)
    (List.forall_mem_append.2 ⟨isDigit_replicate k, hds⟩), ?_⟩
  rw [Digits.value, ← ofDigitChars_zeros_append (k + 1) ds, List.length_append,
    List.length_replicate]
  congr 2
  push_cast
  ring

/-- Digits before a point, with zeros between, and one after it. -/
lemma exists_spells_after {ds : List Char} (hds : ∀ c ∈ ds, c.isDigit = true) (hne : ds ≠ [])
    (k : ℕ) : ∃ (coefficient : ℕ) (exponent : ℤ),
      Spells (ds ++ List.replicate k '0' ++ '.' :: ['0']) coefficient exponent ∧
        (coefficient : ℚ) * 10 ^ exponent = Digits.value ⟨ds, ds.length + k⟩ := by
  refine ⟨_, _, Spells.point (List.forall_mem_append.2 ⟨hds, isDigit_replicate k⟩) (by simp [hne])
    (isDigit_replicate 1), ?_⟩
  have hzero : ['0'] = List.replicate 1 '0' := rfl
  rw [Digits.value, hzero, List.append_assoc, List.replicate_append_replicate,
    Nat.ofDigitChars_append, Nat.ofDigitChars_replicate_zero, List.length_replicate]
  push_cast
  rw [add_sub_cancel_left, zpow_natCast, pow_succ]
  norm_num
  ring

/-- Digits with a point between two of them. -/
lemma exists_spells_between {ds : List Char} (hds : ∀ c ∈ ds, c.isDigit = true) {whole : ℕ}
    (hpos : 0 < whole) (hlt : whole < ds.length) : ∃ (coefficient : ℕ) (exponent : ℤ),
      Spells (ds.take whole ++ '.' :: ds.drop whole) coefficient exponent ∧
        (coefficient : ℚ) * 10 ^ exponent = Digits.value ⟨ds, whole⟩ := by
  refine ⟨_, _, Spells.point (fun c hc => hds c (List.mem_of_mem_take hc)) ?_
    (fun c hc => hds c (List.mem_of_mem_drop hc)), ?_⟩
  · rw [← List.length_pos_iff, List.length_take]
    omega
  · rw [Digits.value, List.take_append_drop, List.length_drop, Nat.cast_sub hlt.le, neg_sub]

/-- Digits with a point among zeros before them, among themselves or among zeros after them. -/
lemma exists_spells_positional {digits : Digits} (h : digits.IsDecimal) :
    ∃ (coefficient : ℕ) (exponent : ℤ), Spells (positional digits) coefficient exponent ∧
      (coefficient : ℚ) * 10 ^ exponent = digits.value := by
  obtain ⟨ds, point⟩ := digits
  obtain ⟨hne, hds⟩ := h
  dsimp only at hne hds
  unfold positional
  dsimp only
  split
  · next hpoint =>
    obtain ⟨k, rfl⟩ : ∃ k : ℕ, point = -k := ⟨(-point).toNat, by omega⟩
    rw [neg_neg, Int.toNat_natCast]
    exact exists_spells_before hds k
  · next hpoint =>
    obtain ⟨whole, rfl⟩ : ∃ whole : ℕ, point = whole := ⟨point.toNat, by omega⟩
    rw [Int.toNat_natCast]
    rcases Nat.lt_or_ge whole ds.length with hlt | hle
    · have hlayout : ds.take whole ++ List.replicate (whole - ds.length) '0' ++ ['.'] ++
          (if (ds.drop whole).isEmpty then ['0'] else ds.drop whole) =
            ds.take whole ++ '.' :: ds.drop whole := by
        have htail : ¬ ds.drop whole = [] := by simpa using hlt
        rw [Nat.sub_eq_zero_of_le hlt.le]
        simp [htail]
      rw [hlayout]
      exact exists_spells_between hds (by omega) hlt
    · obtain ⟨k, rfl⟩ := Nat.exists_eq_add_of_le hle
      have hlayout : ds.take (ds.length + k) ++ List.replicate (ds.length + k - ds.length) '0' ++
          ['.'] ++ (if (ds.drop (ds.length + k)).isEmpty then ['0'] else ds.drop (ds.length + k)) =
            ds ++ List.replicate k '0' ++ '.' :: ['0'] := by
        simp
      rw [hlayout, Nat.cast_add]
      exact exists_spells_after hds hne k

/-- The digits of an exponent are at least two, the first perhaps a zero. -/
lemma exponentDigits_spec (n : ℕ) :
    let digits := Nat.toDigits 10 n
    let es := if digits.length < 2 then '0' :: digits else digits
    es ≠ [] ∧ (∀ c ∈ es, c.isDigit = true) ∧ Nat.ofDigitChars 10 es 0 = n := by
  have hdigits := Number.isDigit_toDigits n
  have hvalue : Nat.ofDigitChars 10 (Nat.toDigits 10 n) 0 = n :=
    Nat.ofDigitChars_toDigits (by decide) (by decide)
  dsimp only
  split
  · exact ⟨List.cons_ne_nil _ _, List.forall_mem_cons.2 ⟨rfl, hdigits⟩, hvalue⟩
  · exact ⟨Nat.toDigits_ne_nil, hdigits, hvalue⟩

/-- Digits with an exponent. -/
lemma exists_spells_scientific {digits : Digits} (h : digits.IsDecimal) :
    ∃ (coefficient : ℕ) (exponent : ℤ), Spells (scientific plain digits) coefficient exponent ∧
      (coefficient : ℚ) * 10 ^ exponent = digits.value := by
  obtain ⟨ds, point⟩ := digits
  obtain ⟨hne, hds⟩ := h
  dsimp only at hne hds
  obtain ⟨d, tail, rfl⟩ := List.exists_cons_of_ne_nil hne
  obtain ⟨hd, htail⟩ := List.forall_mem_cons.1 hds
  have hone : ∀ c ∈ [d], c.isDigit = true := List.forall_mem_singleton.2 hd
  have hes := exponentDigits_spec (point - 1).natAbs
  have hsign : (if point - 1 < 0 then '-' else '+') =
      if decide (point - 1 < 0) = true then '-' else '+' := by
    simp
  unfold scientific Digits.value
  dsimp only at hes ⊢
  generalize (if (Nat.toDigits 10 (point - 1).natAbs).length < 2 then
    '0' :: Nat.toDigits 10 (point - 1).natAbs else Nat.toDigits 10 (point - 1).natAbs) = es at hes ⊢
  obtain ⟨hesne, hesdigits, hesvalue⟩ := hes
  have hsigned : signed (decide (point - 1 < 0)) (Nat.ofDigitChars 10 es 0) = point - 1 := by
    rw [hesvalue, Number.signed_natAbs]
  rw [hsign]
  cases tail with
  | nil =>
    refine ⟨_, _, Spells.exponent hone (List.cons_ne_nil _ _) hesdigits hesne _, ?_⟩
    rw [hsigned]
    simp
  | cons c tail =>
    refine ⟨_, _, Spells.both hone (List.cons_ne_nil _ _) htail hesdigits hesne _, ?_⟩
    rw [hsigned, List.singleton_append]
    congr 2
    simp only [List.length_cons]
    push_cast
    ring

/-- Digits laid out in the plain style are written out as what they stand for. -/
lemma exists_spells_layout {digits : Digits} (h : digits.IsDecimal) :
    ∃ (coefficient : ℕ) (exponent : ℤ), Spells (plain.layout digits) coefficient exponent ∧
      (coefficient : ℚ) * 10 ^ exponent = digits.value := by
  unfold Style.layout
  split
  · exact exists_spells_positional h
  · exact exists_spells_scientific h

/-! ## Numbers read back -/

/-- The digits of a number are decimal, and they are read as the number. -/
lemma exists_spells_shortest {m : ℕ} {e : ℤ} (fits : Fits m e) :
    ∃ (coefficient : ℕ) (exponent : ℤ), Spells (plain.layout (shortest m e)) coefficient exponent ∧
      ∀ negative, ofDecimal negative coefficient exponent = .finite negative m e fits := by
  rcases Nat.eq_zero_or_pos m with rfl | hm
  · -- there is but one zero
    obtain rfl : e = -1074 := fits.full_or_least.resolve_left (by decide)
    have hzero : ∀ c ∈ ['0'], c.isDigit = true := List.forall_mem_singleton.2 rfl
    refine ⟨_, _, Spells.point hzero (List.cons_ne_nil _ _) hzero, ?_⟩
    exact fun negative => rfl
  · obtain ⟨c, E, hshortest, hcontains⟩ := exists_shortest fits hm
    have hc : 0 < c := by
      have hpos := (ten_zpow_pos _).trans ((IsNear.of_contains hm hcontains).bounds fits hm).1
      exact_mod_cast pos_of_mul_pos_left hpos (ten_zpow_pos E).le
    obtain ⟨coefficient, exponent, hspells, hvalue⟩ :=
      exists_spells_layout (Digits.isDecimal_ofCoefficient hc E)
    rw [← hshortest] at hspells
    rw [← Digits.value_ofCoefficient, ← hvalue] at hcontains
    exact ⟨coefficient, exponent, hspells, ofDecimal_eq_of_contains fits hm hcontains⟩

/-- The text of a finite number is a sign and its digits. -/
lemma toList_text (negative : Bool) {m : ℕ} {e : ℤ} (fits : Fits m e) :
    (finite negative m e fits).text.toList =
      (if negative then ['-'] else []) ++ plain.layout (shortest m e) := by
  rw [text, textWith]
  cases negative <;> simp [plain]

/-- **The text of a number reads back as the number.** -/
theorem readFloat?_text (x : Binary64) : Number.readFloat? x.text = some x := by
  cases x with
  | nan => decide +kernel
  | infinite negative => cases negative <;> decide +kernel
  | finite negative m e fits =>
    obtain ⟨coefficient, exponent, hspells, hread⟩ := exists_spells_shortest fits
    obtain ⟨⟨c, rest, hcons, hc⟩, hnumeric, -⟩ := hspells.shape
    have htext := toList_text negative fits
    rw [hcons] at hnumeric htext
    rw [Number.readFloat?_signed hc (List.forall_mem_cons.1 hnumeric).2 negative htext, ← hcons,
      hspells.readDecimal?, hread]

end TaskShell.Binary64
