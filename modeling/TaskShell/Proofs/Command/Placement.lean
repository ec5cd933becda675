import Mathlib.Data.List.Forall2
import TaskShell.Proofs.Command.Grammar

/-!
# What the words of a line are for

A word that begins with a quote is positional. Any other word sets a flag if its text has the form
of a flag, or else of a pair, and is positional if it has neither. In the command that a line spells
every word has the place of its role: the first three positional words are verb, entity and target,
and each flag has the value that was set last.

## Main definitions

* `Token.FlagForm`, `Token.PairForm` — the texts that set flags.
* `Role`, `Token.Word.Plays` — what a word can be for, and what it is for.
* `Command.PlacedBy` — a command in which everything has its place.

## Main results

* `Token.flag?_eq_some_iff`, `Token.pair?_eq_some_iff` — what the two readers accept.
* `Command.ofLine_placed` — a command has everything in its place.
* `Command.line_grammar` — a line has one layout, which gives its tokens and its command.
-/

set_option autoImplicit false

namespace TaskShell

/-! ## Looking up what was stored last -/

namespace Entries

variable {α : Type}

/-- Of values stored in turn under a key the last one is found. -/
lemma value?_ofPairs (pairs : List (String × α)) (key : String) :
    (ofPairs pairs).value? key = value? pairs.reverse key := by
  have hoverlay : ∀ entries : Entries α, (entries.overlay pairs).value? key =
      (value? pairs.reverse key).or (entries.value? key) := by
    induction pairs with
    | nil => exact fun _ => rfl
    | cons pair pairs ih =>
      obtain ⟨k, v⟩ := pair
      intro entries
      rw [overlay, List.foldl_cons, ← overlay, ih, value?_put, List.reverse_cons, value?_append]
      cases value? pairs.reverse key with
      | some value => rfl
      | none => by_cases hk : k = key <;> simp [value?, hk]
  rw [ofPairs, hoverlay, value?, Option.or_none]

end Entries

namespace Token

/-! ## Texts that set flags -/

/-- A key: at least one letter, digit, `_` or `-`. -/
def IsKeyword (key : List Char) : Prop :=
  key ≠ [] ∧ ∀ c ∈ key, Text.isKey c = true

/-- What stands after the dashes of a flag: a key alone, after which the text may end with a line end
and whose value is `true`, or a key, `=` and any value. -/
def FlagBody (text key value : List Char) : Prop :=
  IsKeyword key ∧
    (text = key ++ '=' :: value ∨
      (text = key ∨ text = key ++ ['\n']) ∧ value = "true".toList)

/-- The form of a flag: two dashes and its body. If no body follows two dashes, one is enough, and a
second one then belongs to the key. -/
inductive FlagForm (text key value : List Char) : Prop
  | long (body : List Char) (form : text = '-' :: '-' :: body) (fits : FlagBody body key value)
  | short (body : List Char) (form : text = '-' :: body) (fits : FlagBody body key value)
      (only : ∀ rest k v, body = '-' :: rest → ¬ FlagBody rest k v)

/-- The form of a pair: a key, a colon and a value that is not empty. -/
def PairForm (text key value : List Char) : Prop :=
  IsKeyword key ∧ value ≠ [] ∧ text = key ++ ':' :: value

/-- A key is taken from the front of a text up to the first other character. -/
lemma takeKey_append {key : List Char} (rest : List Char) (hkey : ∀ c ∈ key, Text.isKey c = true)
    (hrest : ∀ c ∈ rest.head?, Text.isKey c = false) : takeKey (key ++ rest) = (key, rest) := by
  obtain ⟨htake, hdrop⟩ := Chars.takeWhile_run hkey hrest
  rw [takeKey, htake, hdrop]

/-- The parts into which a text is cut after its key. -/
lemma eq_append_of_takeKey {text key rest : List Char} (h : takeKey text = (key, rest)) :
    text = key ++ rest ∧ ∀ c ∈ key, Text.isKey c = true := by
  unfold takeKey at h
  obtain ⟨rfl, rfl⟩ := Prod.mk.inj h
  exact ⟨List.takeWhile_append_dropWhile.symm, fun c hc => List.mem_takeWhile_imp hc⟩

/-- The bodies of flags are what the reader of bodies accepts. -/
lemma keyValue?_eq_some_iff {text key value : List Char} :
    keyValue? text = some (key, value) ↔ FlagBody text key value := by
  constructor
  · intro h
    unfold keyValue? at h
    split at h
    · exact nomatch h
    · next k hne hcut =>
      cases h
      obtain ⟨htext, hkey⟩ := eq_append_of_takeKey hcut
      rw [List.append_nil] at htext
      exact ⟨⟨hne, hkey⟩, .inr ⟨.inl htext, rfl⟩⟩
    · next k hne hcut =>
      cases h
      obtain ⟨htext, hkey⟩ := eq_append_of_takeKey hcut
      exact ⟨⟨hne, hkey⟩, .inr ⟨.inr htext, rfl⟩⟩
    · next k v hne hcut =>
      cases h
      obtain ⟨htext, hkey⟩ := eq_append_of_takeKey hcut
      exact ⟨⟨hne, hkey⟩, .inl htext⟩
    · exact nomatch h
  · rintro ⟨⟨hne, hkey⟩, hform⟩
    obtain ⟨c, cs, rfl⟩ := List.exists_cons_of_ne_nil hne
    unfold keyValue?
    rcases hform with rfl | ⟨rfl | rfl, rfl⟩
    · rw [takeKey_append ('=' :: value) hkey (by simp [Text.isKey])]
      rfl
    · have hcut := takeKey_append [] hkey (by simp)
      rw [List.append_nil] at hcut
      rw [hcut]
    · rw [takeKey_append ['\n'] hkey (by simp [Text.isKey])]
      rfl

/-- The forms of flags are what the reader of flags accepts. -/
theorem flag?_eq_some_iff {text key value : List Char} :
    flag? text = some (key, value) ↔ FlagForm text key value := by
  have hnone : ∀ {rest : List Char}, keyValue? rest = none ↔ ∀ k v, ¬ FlagBody rest k v := by
    intro rest
    rw [Option.eq_none_iff_forall_ne_some]
    exact ⟨fun h k v hbody => h (k, v) (keyValue?_eq_some_iff.2 hbody),
      fun h p hp => h p.1 p.2 (keyValue?_eq_some_iff.1 hp)⟩
  constructor
  · intro h
    unfold flag? at h
    split at h
    · next rest =>
      rcases Option.or_eq_some_iff.1 h with h | ⟨hlong, h⟩
      · exact .long rest rfl (keyValue?_eq_some_iff.1 h)
      · refine .short ('-' :: rest) rfl (keyValue?_eq_some_iff.1 h) fun rest' k v hrest => ?_
        cases hrest
        exact hnone.1 hlong k v
    · next rest hsingle =>
      exact .short rest rfl (keyValue?_eq_some_iff.1 h) fun rest' k v hrest =>
        (hsingle rest' hrest).elim
    · exact nomatch h
  · rintro (⟨body, rfl, hbody⟩ | ⟨body, rfl, hbody, honly⟩)
    · rw [flag?, keyValue?_eq_some_iff.2 hbody, Option.some_or]
    · unfold flag?
      split
      · next rest hrest =>
        obtain rfl : body = '-' :: rest := (List.cons.inj hrest).2
        rw [hnone.2 fun k v => honly rest k v rfl, Option.none_or]
        exact keyValue?_eq_some_iff.2 hbody
      · next rest _ hrest =>
        obtain rfl : body = rest := (List.cons.inj hrest).2
        exact keyValue?_eq_some_iff.2 hbody
      · next hdash => exact absurd rfl (hdash body)

/-- The forms of pairs are what the reader of pairs accepts. -/
theorem pair?_eq_some_iff {text key value : List Char} :
    pair? text = some (key, value) ↔ PairForm text key value := by
  constructor
  · intro h
    unfold pair? at h
    split at h
    · exact nomatch h
    · next k c v hne hcut =>
      cases h
      obtain ⟨htext, hkey⟩ := eq_append_of_takeKey hcut
      exact ⟨⟨hne, hkey⟩, List.cons_ne_nil _ _, htext⟩
    · exact nomatch h
  · rintro ⟨⟨hne, hkey⟩, hvalue, rfl⟩
    obtain ⟨k, ks, rfl⟩ := List.exists_cons_of_ne_nil hne
    obtain ⟨c, cs, rfl⟩ := List.exists_cons_of_ne_nil hvalue
    have hcut := takeKey_append (':' :: c :: cs) hkey (by simp [Text.isKey])
    rw [pair?, hcut]
    rfl

end Token

/-! ## Roles -/

/-- Items that each stand in a relation to one thing stand in it to the list of these things. -/
lemma forall₂_iff_eq_map {α β : Type} {r : α → β → Prop} {f : α → β}
    (h : ∀ a b, r a b ↔ b = f a) {as : List α} {bs : List β} :
    List.Forall₂ r as bs ↔ bs = as.map f := by
  induction as generalizing bs with
  | nil => simp
  | cons a as ih => cases bs <;> simp [h, ih]

/-- What a word is for: it is positional, or it sets a flag. -/
inductive Role
  | positional (text : String)
  | setting (key value : String)
  deriving DecidableEq, Repr

namespace Role

/-- The text of a positional word. -/
def word? : Role → Option String
  | .positional text => some text
  | .setting .. => none

/-- The flag that is set, and its value. -/
def setting? : Role → Option (String × String)
  | .positional _ => none
  | .setting key value => some (key, value)

/-- The role of a token. -/
def ofToken (token : Token) : Role :=
  match token.setting? with
  | some (key, value) => .setting (String.ofList key) (String.ofList value)
  | none => .positional (String.ofList token.text)

end Role

namespace Token

/-- What a word is for. A quote at its beginning makes it positional; otherwise the form of a flag
comes before that of a pair. -/
inductive Word.Plays (w : Word) : Role → Prop
  | quoted (begins : w.isQuoted = true) : Plays w (.positional (String.ofList w.content))
  | flag {key value : List Char} (begins : w.isQuoted = false)
      (form : FlagForm w.content key value) :
      Plays w (.setting (String.ofList key) (String.ofList value))
  | pair {key value : List Char} (begins : w.isQuoted = false)
      (noFlag : ∀ k v, ¬ FlagForm w.content k v) (form : PairForm w.content key value) :
      Plays w (.setting (String.ofList key) (String.ofList value))
  | bare (begins : w.isQuoted = false) (noFlag : ∀ k v, ¬ FlagForm w.content k v)
      (noPair : ∀ k v, ¬ PairForm w.content k v) :
      Plays w (.positional (String.ofList w.content))

/-- The reader of flags finds none just if the text has not the form of one. -/
lemma flag?_eq_none_iff {text : List Char} :
    flag? text = none ↔ ∀ k v, ¬ FlagForm text k v := by
  simp only [Option.eq_none_iff_forall_ne_some, Prod.forall, ne_eq, flag?_eq_some_iff]

/-- The reader of pairs finds none just if the text has not the form of one. -/
lemma pair?_eq_none_iff {text : List Char} :
    pair? text = none ↔ ∀ k v, ¬ PairForm text k v := by
  simp only [Option.eq_none_iff_forall_ne_some, Prod.forall, ne_eq, pair?_eq_some_iff]

/-- A word is for what its token is for, and for nothing else. -/
theorem Word.plays_iff {w : Word} {role : Role} : w.Plays role ↔ role = Role.ofToken w.token := by
  have htoken : w.token = ⟨w.content, w.isQuoted⟩ := rfl
  constructor
  · rintro (hbegins | ⟨hbegins, hflag⟩ | ⟨hbegins, hnoFlag, hpair⟩ | ⟨hbegins, hnoFlag, hnoPair⟩)
    · simp [Role.ofToken, Token.setting?, htoken, hbegins]
    · simp [Role.ofToken, Token.setting?, htoken, hbegins, flag?_eq_some_iff.2 hflag]
    · simp [Role.ofToken, Token.setting?, htoken, hbegins, flag?_eq_none_iff.2 hnoFlag,
        pair?_eq_some_iff.2 hpair]
    · simp [Role.ofToken, Token.setting?, htoken, hbegins, flag?_eq_none_iff.2 hnoFlag,
        pair?_eq_none_iff.2 hnoPair]
  · rintro rfl
    cases hbegins : w.isQuoted with
    | true =>
      simp only [Role.ofToken, Token.setting?, htoken, hbegins, if_true]
      exact .quoted hbegins
    | false =>
      simp only [Role.ofToken, Token.setting?, htoken, hbegins, Bool.false_eq_true, if_false]
      cases hflag : flag? w.content with
      | some setting => exact .flag hbegins (flag?_eq_some_iff.1 hflag)
      | none =>
        have hnoFlag := flag?_eq_none_iff.1 hflag
        cases hpair : pair? w.content with
        | some setting => exact .pair hbegins hnoFlag (pair?_eq_some_iff.1 hpair)
        | none => exact .bare hbegins hnoFlag (pair?_eq_none_iff.1 hpair)

/-- The roles of words are those of their tokens. -/
lemma forall₂_plays_iff {words : List Word} {roles : List Role} :
    List.Forall₂ Word.Plays words roles ↔ roles = words.map fun w => Role.ofToken w.token :=
  forall₂_iff_eq_map (r := Word.Plays) fun _ _ => Word.plays_iff

end Token

namespace Command

/-- A command in which everything has its place: the first three positional words are verb, entity
and target, and a flag has the value that was set last, in one entry for each flag. -/
structure PlacedBy (c : Command) (roles : List Role) : Prop where
  verb : c.verb = (roles.filterMap Role.word?)[0]?
  entity : c.entity = (roles.filterMap Role.word?)[1]?
  target : c.target = (roles.filterMap Role.word?)[2]?
  flags : ∀ key, c.flags.value? key = Entries.value? (roles.filterMap Role.setting?).reverse key
  keys : c.flags.keys.Nodup

/-- The positional words among tokens are those among their roles. -/
lemma filterMap_word? (tokens : List Token) :
    (tokens.map Role.ofToken).filterMap Role.word? = positionals tokens := by
  induction tokens with
  | nil => rfl
  | cons token tokens ih =>
    unfold positionals at ih ⊢
    rw [List.map_cons, List.filterMap_cons, ih]
    cases hsetting : token.setting? <;> simp [Role.ofToken, Role.word?, hsetting]

/-- The settings among tokens are those among their roles. -/
lemma ofPairs_filterMap_setting? (tokens : List Token) :
    Entries.ofPairs ((tokens.map Role.ofToken).filterMap Role.setting?) = flagsOf tokens := by
  rw [List.filterMap_map, flagsOf]
  congr 2
  funext token
  cases hsetting : token.setting? <;> simp [Role.ofToken, Role.setting?, hsetting]

/-- **A command has everything in its place.** -/
theorem ofLine_placed (line : String) :
    (ofLine line).PlacedBy ((Token.split (Chars.trim line.toList)).map Role.ofToken) := by
  constructor
  · rw [filterMap_word?]; rfl
  · rw [filterMap_word?]; rfl
  · rw [filterMap_word?]; rfl
  · intro key
    rw [← Entries.value?_ofPairs, ofPairs_filterMap_setting?]
    rfl
  · exact Entries.nodup_keys_ofPairs _

/-- **Every line has exactly one layout, which gives its tokens and its command.** The tokens of a
line are what the words of its layout stand for, and in the command everything has its place, by the
one role of each word of the trimmed line.

**Proof sketch.** The tokens of a layout are read off it word by word; there is a layout by induction
on the line, and at most one since no part of it can end anywhere else. A word has the role of its
token and no other, and a command is made of the roles of its tokens. -/
theorem line_grammar :
    (∀ l : Token.Layout, l.WellFormed →
      Token.texts (String.ofList l.spelling) =
        l.words.map fun (w, _) => String.ofList w.content) ∧
    (∀ line : String, ∃! l : Token.Layout, l.WellFormed ∧ l.spelling = line.toList) ∧
    ∀ (line : String) (l : Token.Layout), l.WellFormed → l.spelling = (Text.trim line).toList →
      ∃ roles, (ofLine line).PlacedBy roles ∧
        ∀ other, List.Forall₂ Token.Word.Plays (l.words.map Prod.fst) other ↔ other = roles := by
  refine ⟨fun l hl => ?_, fun line => ?_, fun line l hl hline => ?_⟩
  · rw [Token.texts, String.toList_ofList, Token.split_spelling hl, Token.Layout.tokens,
      List.map_map]
    rfl
  · obtain ⟨l, hl, hline⟩ := Token.exists_layout line.toList
    exact ⟨l, ⟨hl, hline⟩, fun l' ⟨hl', hline'⟩ => hl'.unique hl (hline'.trans hline.symm)⟩
  · have htokens : Token.split (Chars.trim line.toList) = l.tokens := by
      rw [← Token.split_spelling hl, hline, Text.trim, String.toList_ofList]
    have hplaced := ofLine_placed line
    rw [htokens, Token.Layout.tokens_eq, List.map_map] at hplaced
    exact ⟨_, hplaced, fun _ => Token.forall₂_plays_iff⟩

/-- Words that glue runs to spans, with an empty span, a flag set twice and a span that stays open. -/
def gluedWords : List Token.Spaced :=
  [([.plain "create".toList], " ".toList),
   ([.quoted '"' "Bug ".toList true, .plain "#12".toList, .quoted '\'' [] true], " \t".toList),
   ([.plain "--notes=a".toList], " ".toList),
   ([.plain "--notes=".toList, .quoted '\'' "b \"c\"".toList true], " ".toList),
   ([.plain "due:x".toList, .quoted '"' " it's".toList false], [])]

/-- The grammar at such a line. -/
theorem line_grammar_glued :
    Token.Layout.WellFormed ⟨"  ".toList, gluedWords⟩ ∧
    Token.texts "  create \"Bug \"#12'' \t--notes=a --notes='b \"c\"' due:x\" it's" =
      ["create", "Bug #12", "--notes=a", "--notes=b \"c\"", "due:x it's"] ∧
    (ofLine "  create \"Bug \"#12'' \t--notes=a --notes='b \"c\"' due:x\" it's").PlacedBy
      [.positional "create", .positional "Bug #12", .setting "notes" "a",
        .setting "notes" "b \"c\"", .setting "due" "x it's"] := by
  obtain ⟨htexts, -, hplaces⟩ := line_grammar
  have hindented : Token.Layout.WellFormed ⟨"  ".toList, gluedWords⟩ := by decide
  have htrimmed : Token.Layout.WellFormed ⟨[], gluedWords⟩ := by decide
  have hline : String.ofList (Token.Layout.spelling ⟨"  ".toList, gluedWords⟩) =
      "  create \"Bug \"#12'' \t--notes=a --notes='b \"c\"' due:x\" it's" := by
    decide +kernel
  obtain ⟨roles, hplaced, hroles⟩ :=
    hplaces (String.ofList (Token.Layout.spelling ⟨"  ".toList, gluedWords⟩)) _ htrimmed
      (by decide +kernel)
  refine ⟨hindented, ?_, ?_⟩
  · rw [← hline, htexts _ hindented]
    decide +kernel
  · rw [← hline]
    convert hplaced
    exact (hroles _).1 (Token.forall₂_plays_iff.2 (by decide +kernel))

end Command

end TaskShell
