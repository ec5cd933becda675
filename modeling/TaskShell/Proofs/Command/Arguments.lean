import TaskShell.Command.Arguments
import TaskShell.Proofs.Command.Placement

/-!
# Arguments come back as tokens

Each argument that is not empty stands in the joined line as one closed word with the same content:
a plain run, a span, or the head of an assignment glued to a span. Blanks separate these words, so
the tokens of the line are the arguments again, and what the line does with each of them is told from
the argument alone.

## Main definitions

* `Command.argumentWord` — the word for an argument.
* `Command.AssignmentForm`, `Command.ArgumentPlays` — what an argument is for.

## Main results

* `Command.exists_layout_joinArguments` — the layout of a joined line.
* `Command.arguments_round_trip` — its tokens, and the command that it spells.
-/

set_option autoImplicit false

namespace TaskShell.Command

open Token (IsKeyword FlagBody FlagForm PairForm Segment Word Layout isPlain)

/-! ## Assignments -/

/-- The form of an assignment: two dashes or one, a key, `=` and a value, or a key, a colon and a
value. After a single dash no other dash begins the key, unless it is the whole key. -/
inductive AssignmentForm (text key value : List Char) : Prop
  | long (keyword : IsKeyword key) (form : text = '-' :: '-' :: key ++ '=' :: value)
  | short (keyword : IsKeyword key) (form : text = '-' :: key ++ '=' :: value)
      (only : ∀ rest, key = '-' :: rest → rest = [])
  | pair (keyword : IsKeyword key) (form : text = key ++ ':' :: value)

/-- Key characters are plain. -/
lemma isPlain_of_isKey {c : Char} (h : Text.isKey c = true) : isPlain c = true := by
  have hcode : 45 ≤ c.toNat ∧ c.toNat ≤ 122 := by
    simp only [Text.isKey, Bool.or_eq_true, Bool.and_eq_true, decide_eq_true_eq, beq_iff_eq,
      Char.le_def, UInt32.le_iff_toNat_le] at h
    rcases h with (((h | h) | h) | rfl) | rfl
    · exact ⟨le_trans (by decide) h.1, le_trans h.2 (by decide)⟩
    · exact ⟨le_trans (by decide) h.1, le_trans h.2 (by decide)⟩
    · exact ⟨le_trans (by decide) h.1, le_trans h.2 (by decide)⟩
    · decide
    · decide
  have hquote : Token.isQuote c = false := by
    by_contra hquote
    simp only [Token.isQuote, Bool.not_eq_false, Bool.or_eq_true, beq_iff_eq] at hquote
    rcases hquote with rfl | rfl <;> exact absurd hcode.1 (by decide)
  have hblank : Text.isBlank c = false := by
    simp only [Text.isBlank, Bool.or_eq_false_iff, Bool.and_eq_false_iff, decide_eq_false_iff_not,
      beq_eq_false_iff_ne]
    omega
  simp [isPlain, hquote, hblank]

/-- An assignment is split before its value. -/
lemma AssignmentForm.split {text key value : List Char} (h : AssignmentForm text key value) :
    ∃ head, splitAssignment? text = some (head, value) := by
  rcases h with ⟨⟨hne, hkey⟩, rfl⟩ | ⟨⟨hne, hkey⟩, rfl, -⟩ | ⟨⟨hne, hkey⟩, rfl⟩ <;>
    obtain ⟨k, ks, rfl⟩ := List.exists_cons_of_ne_nil hne
  · have hkeys : ∀ c ∈ '-' :: '-' :: k :: ks, Text.isKey c = true := by
      simpa [Text.isKey] using hkey
    rw [splitAssignment?, Token.takeKey_append ('=' :: value) hkeys (by simp [Text.isKey])]
    exact ⟨_, rfl⟩
  · have hkeys : ∀ c ∈ '-' :: k :: ks, Text.isKey c = true := by
      simpa [Text.isKey] using hkey
    rw [splitAssignment?, Token.takeKey_append ('=' :: value) hkeys (by simp [Text.isKey])]
    exact ⟨_, rfl⟩
  · rw [splitAssignment?, Token.takeKey_append (':' :: value) hkey (by simp [Text.isKey])]
    exact ⟨k :: ks ++ [':'], by simp⟩

/-- What is split is an assignment, and its head is a plain run. -/
lemma exists_form_of_split {text head value : List Char}
    (h : splitAssignment? text = some (head, value)) :
    text = head ++ value ∧ (Segment.plain head).WellFormed ∧
      ∃ key, AssignmentForm text key value := by
  have hrun : ∀ {key : List Char} {mark : Char}, (∀ c ∈ key, Text.isKey c = true) →
      isPlain mark = true → (Segment.plain (key ++ [mark])).WellFormed := by
    intro key mark hkey hmark
    refine ⟨by simp, fun c hc => ?_⟩
    rcases List.mem_append.1 hc with hc | hc
    · exact isPlain_of_isKey (hkey c hc)
    · rw [List.mem_singleton.1 hc]
      exact hmark
  unfold splitAssignment? at h
  split at h
  · next k key value hcut =>
    cases h
    obtain ⟨htext, hkey⟩ := Token.eq_append_of_takeKey hcut
    have hkeyword : IsKeyword (k :: key) :=
      ⟨List.cons_ne_nil _ _, fun c hc => hkey c (List.mem_cons_of_mem _ hc)⟩
    refine ⟨by simp [htext], hrun hkey (by decide), ?_⟩
    by_cases hlong : k = '-' ∧ key ≠ []
    · obtain ⟨rfl, hne⟩ := hlong
      exact ⟨key, .long ⟨hne, fun c hc => hkeyword.2 c (List.mem_cons_of_mem _ hc)⟩ htext⟩
    · refine ⟨k :: key, .short hkeyword htext fun rest hrest => ?_⟩
      obtain ⟨rfl, rfl⟩ := List.cons.inj hrest
      by_contra hne
      exact hlong ⟨rfl, hne⟩
  · next k key value hcut =>
    cases h
    obtain ⟨htext, hkey⟩ := Token.eq_append_of_takeKey hcut
    exact ⟨by simp [htext], hrun hkey (by decide), k :: key,
      .pair ⟨List.cons_ne_nil _ _, hkey⟩ htext⟩
  · exact nomatch h

/-- After its key, the body of a flag goes on with no key character and no colon. -/
lemma exists_tail_of_flagBody {text key value : List Char} (h : FlagBody text key value) :
    ∃ tail, text = key ++ tail ∧ (∀ c ∈ tail.head?, Text.isKey c = false) ∧
      tail.head? ≠ some ':' := by
  obtain ⟨-, rfl | ⟨rfl | rfl, -⟩⟩ := h
  · exact ⟨_, rfl, by simp [Text.isKey], by simp⟩
  · exact ⟨[], by simp, by simp, by simp⟩
  · exact ⟨_, rfl, by simp [Text.isKey], by simp⟩

/-- A text with a colon after its first key characters has not the form of a flag. -/
lemma not_flagForm_of_colon {key value k v : List Char} (hkey : ∀ c ∈ key, Text.isKey c = true) :
    ¬ FlagForm (key ++ ':' :: value) k v := by
  have hbody : ∀ dashes body : List Char, (∀ c ∈ dashes, Text.isKey c = true) →
      FlagBody body k v → key ++ ':' :: value ≠ dashes ++ body := by
    intro dashes body hdashes hfits h
    obtain ⟨tail, rfl, htail, hcolon⟩ := exists_tail_of_flagBody hfits
    rw [← List.append_assoc] at h
    have hsame := (Chars.run_unique hkey (List.forall_mem_append.2 ⟨hdashes, hfits.1.2⟩)
      (by simp [Text.isKey]) htail h).2
    rw [← hsame] at hcolon
    exact hcolon rfl
  rintro (⟨body, htext, hfits⟩ | ⟨body, htext, hfits, -⟩)
  · exact hbody ['-', '-'] body (by simp [Text.isKey]) hfits htext
  · exact hbody ['-'] body (by simp [Text.isKey]) hfits htext

/-- A word with the form of an assignment to a value that is not empty sets a flag, unless it begins
with a quote. -/
lemma AssignmentForm.plays {w : Word} {key value : List Char}
    (h : AssignmentForm w.content key value) (hvalue : value ≠ []) (hbegins : w.isQuoted = false) :
    w.Plays (.setting (String.ofList key) (String.ofList value)) := by
  rcases h with ⟨hkeyword, hform⟩ | ⟨hkeyword, hform, honly⟩ | ⟨hkeyword, hform⟩
  · exact .flag hbegins (.long (key ++ '=' :: value) hform ⟨hkeyword, .inl rfl⟩)
  · refine .flag hbegins (.short (key ++ '=' :: value) hform ⟨hkeyword, .inl rfl⟩ ?_)
    intro rest k v hrest hfits
    obtain ⟨c, key, rfl⟩ := List.exists_cons_of_ne_nil hkeyword.1
    obtain ⟨rfl, rfl⟩ := List.cons.inj hrest
    -- the key is a single dash, and no key stands between it and `=`
    rw [honly key rfl] at hfits
    obtain ⟨tail, htail, -⟩ := exists_tail_of_flagBody hfits
    obtain ⟨k, ks, rfl⟩ := List.exists_cons_of_ne_nil hfits.1.1
    have hk := hfits.1.2 k List.mem_cons_self
    rw [← (List.cons.inj htail).1] at hk
    exact nomatch hk
  · refine .pair hbegins (fun k v => ?_) ⟨hkeyword, hvalue, hform⟩
    rw [hform]
    exact not_flagForm_of_colon hkeyword.2

/-! ## The word for an argument -/

/-- The quote that is put around a text. -/
def quoteMark (cs : List Char) : Char :=
  if cs.contains '"' then '\'' else '"'

/-- The word for an argument: a plain run if all of it is plain, else a span, which for an assignment
holds only the value. -/
def argumentWord (cs : List Char) : Word :=
  if cs.all isPlain then [.plain cs]
  else
    match splitAssignment? cs with
    | some (head, value) => [.plain head, .quoted (quoteMark value) value true]
    | none => [.quoted (quoteMark cs) cs true]

/-- A plain argument is its own word. -/
lemma argumentWord_of_plain {cs : List Char} (h : ∀ c ∈ cs, isPlain c = true) :
    argumentWord cs = [.plain cs] :=
  if_pos (List.all_eq_true.2 h)

/-- Any other argument has a span in its word. -/
lemma argumentWord_of_special {cs : List Char} (h : ∃ c ∈ cs, isPlain c = false) :
    argumentWord cs = match splitAssignment? cs with
      | some (head, value) => [.plain head, .quoted (quoteMark value) value true]
      | none => [.quoted (quoteMark cs) cs true] := by
  refine if_neg fun hall => ?_
  obtain ⟨c, hc, hspecial⟩ := h
  rw [List.all_eq_true.1 hall c hc] at hspecial
  exact nomatch hspecial

/-- A text that does not hold both quotes does not hold the one that is put around it. -/
lemma quoteMark_wellFormed {cs : List Char} (h : ¬ ('"' ∈ cs ∧ '\'' ∈ cs)) :
    (Segment.quoted (quoteMark cs) cs true).WellFormed := by
  by_cases hdouble : '"' ∈ cs
  · have hmark : quoteMark cs = '\'' := by simp [quoteMark, hdouble]
    rw [hmark]
    exact ⟨rfl, fun hsingle => h ⟨hdouble, hsingle⟩⟩
  · have hmark : quoteMark cs = '"' := by simp [quoteMark, hdouble]
    rw [hmark]
    exact ⟨rfl, hdouble⟩

/-- The word for an argument is how the argument stands in the line. -/
lemma spelling_argumentWord (cs : List Char) : (argumentWord cs).spelling = argumentText cs := by
  have hany : (cs.any fun c => Text.isBlank c || Token.isQuote c) = !cs.all isPlain := by
    rw [List.any_eq_not_all_not]
    congr 2
    funext c
    simp [isPlain, Bool.and_comm]
  unfold argumentText argumentWord
  rw [hany]
  cases cs.all isPlain with
  | true => simp [Word.spelling, Segment.spelling]
  | false =>
    cases splitAssignment? cs with
    | some parts => simp [Word.spelling, Segment.spelling, quote, quoteMark]
    | none => simp [Word.spelling, Segment.spelling, quote, quoteMark]

/-- The word for an argument stands for the argument. -/
lemma content_argumentWord (cs : List Char) : (argumentWord cs).content = cs := by
  unfold argumentWord
  split
  · simp [Word.content, Segment.content]
  · split
    · next head value hsplit =>
      simpa [Word.content, Segment.content] using (exists_form_of_split hsplit).1.symm
    · simp [Word.content, Segment.content]

/-- An argument that is not empty and does not hold both quotes has a closed word. -/
lemma argumentWord_wellFormed {cs : List Char} (hne : cs ≠ [])
    (hquotes : ¬ ('"' ∈ cs ∧ '\'' ∈ cs)) :
    (argumentWord cs).WellFormed ∧ (argumentWord cs).isClosed = true := by
  unfold argumentWord
  split
  · next hplain =>
    have hrun : (Segment.plain cs).WellFormed := ⟨hne, List.all_eq_true.1 hplain⟩
    exact ⟨⟨⟨by simpa using hrun, List.isChain_singleton _⟩, List.cons_ne_nil _ _⟩, rfl⟩
  · split
    · next head value hsplit =>
      obtain ⟨htext, hhead, -⟩ := exists_form_of_split hsplit
      have hvalue : ¬ ('"' ∈ value ∧ '\'' ∈ value) := by
        rintro ⟨hdouble, hsingle⟩
        rw [htext] at hquotes
        exact hquotes ⟨List.mem_append_right _ hdouble, List.mem_append_right _ hsingle⟩
      refine ⟨⟨⟨?_, ?_⟩, List.cons_ne_nil _ _⟩, rfl⟩
      · simpa using ⟨hhead, quoteMark_wellFormed hvalue⟩
      · exact List.isChain_pair.2 ⟨rfl, .inr rfl⟩
    · have hspan := quoteMark_wellFormed hquotes
      exact ⟨⟨⟨by simpa using hspan, List.isChain_singleton _⟩, List.cons_ne_nil _ _⟩, rfl⟩

/-! ## What an argument is for -/

/-- What an argument is for. Without blanks and quotes it is for what it is as a word of a line;
otherwise an assignment sets a flag, and anything else is positional. -/
inductive ArgumentPlays (argument : String) : Role → Prop
  | bare {role : Role} (plain : ∀ c ∈ argument.toList, isPlain c = true)
      (plays : Word.Plays [.plain argument.toList] role) : ArgumentPlays argument role
  | assigned {key value : List Char} (special : ∃ c ∈ argument.toList, isPlain c = false)
      (form : AssignmentForm argument.toList key value) :
      ArgumentPlays argument (.setting (String.ofList key) (String.ofList value))
  | whole (special : ∃ c ∈ argument.toList, isPlain c = false)
      (noForm : ∀ key value, ¬ AssignmentForm argument.toList key value) :
      ArgumentPlays argument (.positional argument)

/-- Every argument is for something. -/
lemma exists_argumentPlays (argument : String) : ∃ role, ArgumentPlays argument role := by
  by_cases hplain : ∀ c ∈ argument.toList, isPlain c = true
  · exact ⟨_, .bare hplain (Token.Word.plays_iff.2 rfl)⟩
  · have hspecial : ∃ c ∈ argument.toList, isPlain c = false := by simpa using hplain
    by_cases hform : ∃ key value, AssignmentForm argument.toList key value
    · obtain ⟨key, value, hform⟩ := hform
      exact ⟨_, .assigned hspecial hform⟩
    · exact ⟨_, .whole hspecial fun key value h => hform ⟨key, value, h⟩⟩

/-- What an argument is for its word is for. -/
lemma ArgumentPlays.plays {argument : String} {role : Role} (h : ArgumentPlays argument role) :
    (argumentWord argument.toList).Plays role := by
  have hcontent := content_argumentWord argument.toList
  rcases h with ⟨hplain, hplays⟩ | ⟨hspecial, hform⟩ | ⟨hspecial, hnoForm⟩
  · rw [argumentWord_of_plain hplain]
    exact hplays
  · obtain ⟨head, hsplit⟩ := hform.split
    obtain ⟨htext, hhead, -⟩ := exists_form_of_split hsplit
    have hword : (argumentWord argument.toList).isQuoted = false := by
      rw [argumentWord_of_special hspecial, hsplit]
      rfl
    refine AssignmentForm.plays (by rwa [hcontent]) ?_ hword
    -- the head is plain, so what is not is in the value
    rintro rfl
    obtain ⟨c, hc, hnot⟩ := hspecial
    rw [htext, List.append_nil] at hc
    rw [hhead.2 c hc] at hnot
    exact nomatch hnot
  · have hsplit : splitAssignment? argument.toList = none := by
      rw [Option.eq_none_iff_forall_ne_some]
      rintro ⟨head, value⟩ hsplit
      obtain ⟨-, -, key, hform⟩ := exists_form_of_split hsplit
      exact hnoForm key value hform
    have hword : (argumentWord argument.toList).isQuoted = true := by
      rw [argumentWord_of_special hspecial, hsplit]
      rfl
    simpa [hcontent] using Word.Plays.quoted hword

/-- An argument is for what its word is for, and for nothing else. -/
theorem argumentPlays_iff {argument : String} {role : Role} :
    ArgumentPlays argument role ↔ role = Role.ofToken (argumentWord argument.toList).token := by
  refine ⟨fun h => Token.Word.plays_iff.1 h.plays, ?_⟩
  rintro rfl
  obtain ⟨role, hrole⟩ := exists_argumentPlays argument
  rwa [← Token.Word.plays_iff.1 hrole.plays]

/-- What arguments are for is told from their words. -/
lemma forall₂_argumentPlays_iff {arguments : List String} {roles : List Role} :
    List.Forall₂ ArgumentPlays arguments roles ↔
      roles = arguments.map fun a => Role.ofToken (argumentWord a.toList).token :=
  forall₂_iff_eq_map (r := ArgumentPlays) fun _ _ => argumentPlays_iff

/-! ## The joined line -/

/-- The words for the arguments that are not empty. -/
def argumentWords (arguments : List String) : List Word :=
  (arguments.filter (· ≠ "")).map fun argument => argumentWord argument.toList

/-- A first argument stands before a blank and the line for the others. -/
lemma toList_joinArguments_cons (argument : String) (arguments : List String) :
    (joinArguments (argument :: arguments)).toList = argumentText argument.toList ++
      if arguments = [] then [] else ' ' :: (joinArguments arguments).toList := by
  cases arguments with
  | nil => simp [joinArguments, Text.join]
  | cons a arguments => simp [joinArguments, Text.join]

/-- **A joined line has a layout whose words are those for its arguments.**

**Proof sketch.** Induction on the arguments. What follows an argument has a layout that begins with
a blank, or is empty; an empty argument leaves that blank to the indent, and the word for any other
goes before it. -/
theorem exists_layout_joinArguments {arguments : List String}
    (h : ∀ argument ∈ arguments, ¬ ('"' ∈ argument.toList ∧ '\'' ∈ argument.toList)) :
    ∃ l : Layout, l.WellFormed ∧ l.spelling = (joinArguments arguments).toList ∧
      l.words.map Prod.fst = argumentWords arguments := by
  induction arguments with
  | nil =>
    exact ⟨⟨[], []⟩, ⟨⟨List.forall_mem_nil _, .nil⟩, List.forall_mem_nil _⟩, rfl, rfl⟩
  | cons argument arguments ih =>
    obtain ⟨hargument, harguments⟩ := List.forall_mem_cons.1 h
    obtain ⟨l, hl, hspelling, hwords, hgap⟩ : ∃ l : Layout, l.WellFormed ∧
        l.spelling = (if arguments = [] then [] else ' ' :: (joinArguments arguments).toList) ∧
        l.words.map Prod.fst = argumentWords arguments ∧ (l.indent = [] → l.words = []) := by
      by_cases hnil : arguments = []
      · rw [hnil]
        exact ⟨⟨[], []⟩, ⟨⟨List.forall_mem_nil _, .nil⟩, List.forall_mem_nil _⟩, rfl, rfl,
          fun _ => rfl⟩
      · obtain ⟨l, hl, hspelling, hwords⟩ := ih harguments
        refine ⟨⟨' ' :: l.indent, l.words⟩, ⟨hl.toApart, ?_⟩, ?_, hwords, nofun⟩
        · exact List.forall_mem_cons.2 ⟨rfl, hl.indent_blank⟩
        · rw [if_neg hnil, ← hspelling]
          rfl
    rw [toList_joinArguments_cons, ← hspelling]
    by_cases hempty : argument = ""
    · subst hempty
      refine ⟨l, hl, rfl, ?_⟩
      rw [hwords]
      rfl
    · obtain ⟨hword, hclosed⟩ := argumentWord_wellFormed (by simpa using hempty) hargument
      refine ⟨_, hl.cons hword hclosed hgap, ?_, ?_⟩
      · rw [Layout.spelling, List.nil_append, Token.spellAll_cons, spelling_argumentWord]
        rfl
      · rw [List.map_cons, hwords]
        simp [argumentWords, hempty]

/-- **Arguments come back as tokens.** If no argument holds both quotes, the tokens of the joined
line are the arguments that are not empty, and in the command everything has its place, by the one
thing that each of these arguments is for.

**Proof sketch.** The words of the joined line are those for the arguments, all of them closed, so
trimming leaves them. The token of each holds the argument, and the word is for what the argument is
for. -/
theorem arguments_round_trip (arguments : List String)
    (h : ∀ argument ∈ arguments, ¬ ('"' ∈ argument.toList ∧ '\'' ∈ argument.toList)) :
    Token.texts (joinArguments arguments) = arguments.filter (· ≠ "") ∧
    ∃ roles, (ofLine (joinArguments arguments)).PlacedBy roles ∧
      ∀ other, List.Forall₂ ArgumentPlays (arguments.filter (· ≠ "")) other ↔ other = roles := by
  obtain ⟨l, hl, hspelling, hwords⟩ := exists_layout_joinArguments h
  constructor
  · have htext : ∀ argument : String,
        String.ofList (argumentWord argument.toList).token.text = argument := by
      intro argument
      rw [Word.token, content_argumentWord, String.ofList_toList]
    rw [Token.texts, ← hspelling, Token.split_spelling hl, Layout.tokens_eq, hwords, argumentWords]
    simp [Function.comp_def, htext]
  · have hclosed : ∀ p ∈ l.words, Word.isClosed p.1 = true := by
      intro p hp
      have hword := List.mem_map_of_mem (f := Prod.fst) hp
      rw [hwords, argumentWords, List.mem_map] at hword
      obtain ⟨argument, hmem, hsame⟩ := hword
      obtain ⟨hmem, hne⟩ := List.mem_filter.1 hmem
      rw [← hsame]
      exact (argumentWord_wellFormed (by simpa using hne) (h argument hmem)).2
    obtain ⟨l', hl', hwords', hspelling'⟩ := hl.trim hclosed
    have hplaced := ofLine_placed (joinArguments arguments)
    rw [← hspelling, ← hspelling', Token.split_spelling hl', Layout.tokens_eq, hwords', hwords,
      argumentWords, List.map_map, List.map_map] at hplaced
    exact ⟨_, hplaced, fun _ => forall₂_argumentPlays_iff⟩

/-- Arguments with an apostrophe, blanks, a double quote and one that is empty. -/
def errand : List String :=
  ["create", "task", "Mom's car", "", "--notes=ask \"Al\"", "due:to day", "-u"]

/-- The round trip of these arguments. -/
theorem arguments_round_trip_errand :
    (∀ argument ∈ errand, ¬ ('"' ∈ argument.toList ∧ '\'' ∈ argument.toList)) ∧
    Token.texts (joinArguments errand) =
      ["create", "task", "Mom's car", "--notes=ask \"Al\"", "due:to day", "-u"] ∧
    (ofLine (joinArguments errand)).PlacedBy [.positional "create", .positional "task",
      .positional "Mom's car", .setting "notes" "ask \"Al\"", .setting "due" "to day",
      .setting "u" "true"] := by
  have hquotes : ∀ argument ∈ errand, ¬ ('"' ∈ argument.toList ∧ '\'' ∈ argument.toList) := by
    decide
  obtain ⟨htexts, roles, hplaced, hroles⟩ := arguments_round_trip errand hquotes
  refine ⟨hquotes, htexts, ?_⟩
  convert hplaced
  exact (hroles _).1 (forall₂_argumentPlays_iff.2 (by decide +kernel))

end TaskShell.Command
