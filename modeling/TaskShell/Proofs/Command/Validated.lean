import Mathlib.Tactic.Lemma
import TaskShell.Shell.Dispatch

/-!
# What validation lets through

A command is normalized before it is validated. Normalization leaves no plural of a kind of records
and no other word for a verb, so the words that validation accepts are those that the commands know.
Only a first word that is empty, which a line can hold in quotes alone, is accepted and known to no
command.

## Main definitions

* `Command.Safe` — what a command that runs can rely on.
* `Command.firstPositional?` — the first positional token of a line.

## Main results

* `Vocabulary.entity_eq_name` — an accepted word for a kind of records has become its name.
* `Command.safe_parse` — the command of a line that breaks no rule is safe.
* `Command.firstPositional?_of_verb_empty` — an empty verb comes from an empty quoted token.
-/

set_option autoImplicit false

namespace TaskShell

/-! ## Words -/

/-- Lower case leaves at least one character of each. -/
lemma Chars.lowerFrom_ne_nil (afterCased : Bool) (c : Char) (cs : List Char) :
    lowerFrom afterCased (c :: cs) ≠ [] := by
  unfold lowerFrom lowerChar
  split
  · split <;> exact List.cons_ne_nil _ _
  · split <;> exact List.cons_ne_nil _ _

/-- Only the empty text is empty in lower case. -/
lemma Text.eq_empty_of_lower {s : String} (h : Text.lower s = "") : s = "" := by
  have hlower : Chars.lower s.toList = [] := String.ofList_eq_empty_iff.1 h
  cases hchars : s.toList with
  | nil => exact String.toList_eq_nil_iff.1 hchars
  | cons c cs =>
    rw [hchars] at hlower
    exact absurd hlower (Chars.lowerFrom_ne_nil false c cs)

namespace Vocabulary

/-- Every plural of a kind of records stands for it. -/
lemma isSome_of_plural : ∀ word ∈ Entity.all.map fun kind => plural kind.name,
    (entityAliases.value? word).isSome = true := by
  decide

/-- A word for a kind of records that validation accepts once it is normalized has become the name
of the kind, never its plural. -/
theorem entity_eq_name {word : String} (h : entity word ∈ Command.validEntities) :
    ∃ kind : Entity, entity word = kind.name := by
  unfold entity at *
  dsimp only at *
  cases halias : entityAliases.value? (Text.lower word) with
  | some kind => exact ⟨kind, rfl⟩
  | none =>
    rw [halias] at h
    rcases List.mem_append.1 h with hname | hplural
    · obtain ⟨kind, -, hkind⟩ := List.mem_map.1 hname
      exact ⟨kind, hkind.symm⟩
    · have hstands := isSome_of_plural _ hplural
      dsimp only at hstands
      rw [halias] at hstands
      exact nomatch hstands

/-- No word for a verb stands for the empty one. -/
lemma verb_eq_empty {word : String} (h : verb word = "") : word = "" := by
  unfold verb at h
  dsimp only at h
  split at h
  · next found _ => cases found <;> exact absurd h (by decide)
  · exact Text.eq_empty_of_lower h

end Vocabulary

/-! ## Tokens -/

namespace Token

/-- The characters of a token so far, while one is read. -/
def Place.Begun : Place → Prop
  | .between => True
  | .plain quoted sofar | .span _ quoted sofar => quoted = false → sofar ≠ []

/-- A token that does not begin with a quote is not empty. -/
lemma text_ne_nil_of_splitFrom {place : Place} {cs : List Char} (hplace : place.Begun) :
    ∀ token ∈ splitFrom place cs, token.quoted = false → token.text ≠ [] := by
  have hreverse : ∀ {quoted : Bool} {sofar : List Char}, (quoted = false → sofar ≠ []) →
      ∀ token ∈ [Token.mk sofar.reverse quoted], token.quoted = false → token.text ≠ [] := by
    intro quoted sofar hbegun token htoken hplain
    rw [List.mem_singleton.1 htoken] at hplain ⊢
    exact fun hnil => hbegun hplain (List.reverse_eq_nil_iff.1 hnil)
  induction cs generalizing place with
  | nil =>
    cases place with
    | between => exact fun token htoken => nomatch htoken
    | plain quoted sofar => exact hreverse hplace
    | span mark quoted sofar => exact hreverse hplace
  | cons c cs ih =>
    cases place with
    | between =>
      unfold splitFrom
      split
      · exact ih fun hquoted => nomatch hquoted
      · split
        · exact ih trivial
        · exact ih fun _ => List.cons_ne_nil _ _
    | plain quoted sofar =>
      unfold splitFrom
      split
      · exact ih hplace
      · split
        · exact List.forall_mem_cons.2
            ⟨hreverse hplace _ (List.mem_singleton.2 rfl), ih trivial⟩
        · exact ih fun _ => List.cons_ne_nil _ _
    | span mark quoted sofar =>
      unfold splitFrom
      split
      · exact ih hplace
      · exact ih fun _ => List.cons_ne_nil _ _

/-- A token of a line that does not begin with a quote is not empty. -/
lemma text_ne_nil_of_split {line : List Char} {token : Token} (h : token ∈ split line)
    (hplain : token.quoted = false) : token.text ≠ [] := by
  have hbegun : Place.between.Begun := trivial
  exact text_ne_nil_of_splitFrom hbegun token h hplain

end Token

namespace Command

/-- The first positional token of a line. -/
def firstPositional? (line : String) : Option Token :=
  (Token.split (Chars.trim line.toList)).find? fun token => token.setting?.isNone

/-- The first word of a command is the text of the first positional token. -/
lemma verb_ofLine (line : String) :
    (ofLine line).verb = (firstPositional? line).map fun token => String.ofList token.text := by
  unfold ofLine positionals firstPositional?
  dsimp only
  rw [← List.head?_eq_getElem?, List.head?_map, List.head?_filter]

/-- An empty first word is an empty token that begins with a quote. -/
lemma firstPositional?_of_empty {line : String} (h : (ofLine line).verb = some "") :
    firstPositional? line = some ⟨[], true⟩ := by
  rw [verb_ofLine] at h
  obtain ⟨⟨text, quoted⟩, hfirst, hempty⟩ := Option.map_eq_some_iff.1 h
  have htext : text = [] := String.ofList_eq_empty_iff.1 hempty
  cases quoted with
  | true => rw [hfirst, htext]
  | false =>
    have hread := List.mem_of_find?_eq_some hfirst
    exact absurd htext (Token.text_ne_nil_of_split hread rfl)

/-- A command without a first word has no second one. -/
lemma entity_of_verb_none {line : String} (h : (ofLine line).verb = none) :
    (ofLine line).entity = none := by
  exact List.getElem?_eq_none_iff.2 (Nat.le_trans (List.getElem?_eq_none_iff.1 h) (Nat.zero_le 1))

/-! ## Rules -/

variable {c : Command}

/-- A word that is given and not empty is there. -/
lemma nonEmpty?_eq_some {word : Option String} {s : String} :
    nonEmpty? word = some s ↔ word = some s ∧ s ≠ "" := by
  simp [nonEmpty?, Option.filter_eq_some_iff]

/-- A word is given and not empty if there is a word that is not empty. -/
lemma given_eq_isSome (word : Option String) : given word = (nonEmpty? word).isSome := by
  cases word with
  | none => rfl
  | some s => by_cases hs : s = "" <;> simp [given, nonEmpty?, hs]

/-- What a command that runs can rely on: its verb is known or empty; if it names a kind of records,
it does so by its name; it names a record where its verb acts on one; and its priority and its
status, where it gives them, are among the choices. -/
structure Safe (c : Command) : Prop where
  verb : ∃ verb, c.verb = some verb ∧ (verb = "" ∨ verb ∈ validVerbs)
  entity : c.entity = none ∨ c.entity = some "" ∨ ∃ kind : Entity, c.entity = some kind.name
  target : ∀ verb ∈ targetVerbs, c.verb = some verb → ∃ id, c.recordId? = some id ∧ id ≠ ""
  priority : ∀ value, c.flagValue? "priority" = some value →
    Text.lower value ∈ Choice.priorities
  status : ∀ value, c.flagValue? "status" = some value → Text.lower value ∈ Choice.statuses

/-- A command that breaks no rule gives a verb or a kind of records, and each of the rules finds
nothing wrong with it. -/
lemma problem?_eq_none (h : c.problem? = none) :
    (given c.verb || given c.entity) = true ∧ c.verbProblem? = none ∧ c.entityProblem? = none ∧
      c.targetProblem? = none ∧ c.choiceProblem? "priority" Choice.priorities = none ∧
      c.choiceProblem? "status" Choice.statuses = none := by
  unfold problem? at h
  split at h
  · exact nomatch h
  · next hgiven =>
    simp only [Option.or_eq_none_iff] at h
    refine ⟨?_, h.1, h.2.1, h.2.2.1, h.2.2.2⟩
    rw [← Bool.not_or] at hgiven
    simpa only [Bool.not_eq_true, Bool.not_eq_false'] using hgiven

/-- A verb that validation accepts is known or empty. -/
lemma mem_validVerbs {verb : String} (h : c.verbProblem? = none) (hverb : c.verb = some verb) :
    verb = "" ∨ verb ∈ validVerbs := by
  by_cases hempty : verb = ""
  · exact .inl hempty
  · unfold verbProblem? at h
    rw [nonEmpty?_eq_some.2 ⟨hverb, hempty⟩] at h
    simpa [hempty] using h

/-- A kind of records that validation accepts is one of its words, or empty. -/
lemma mem_validEntities {entity : String} (h : c.entityProblem? = none)
    (hentity : c.entity = some entity) : entity = "" ∨ entity ∈ validEntities := by
  by_cases hempty : entity = ""
  · exact .inl hempty
  · unfold entityProblem? at h
    rw [nonEmpty?_eq_some.2 ⟨hentity, hempty⟩] at h
    simpa [hempty] using h

/-- A verb that acts on one record comes with the id of one, if validation accepts it. -/
lemma recordId?_of_target {verb : String} (h : c.targetProblem? = none)
    (hverb : c.verb = some verb) (htarget : verb ∈ targetVerbs) :
    ∃ id, c.recordId? = some id ∧ id ≠ "" := by
  unfold recordId?
  cases htargeted : nonEmpty? c.target with
  | some id => exact ⟨id, rfl, (nonEmpty?_eq_some.1 htargeted).2⟩
  | none =>
    cases hflag : c.flagValue? "id" with
    | some id =>
      obtain ⟨hid, hfilled⟩ := nonEmpty?_eq_some.1 hflag
      exact ⟨id, hid, hfilled⟩
    | none =>
      have hmissing : given c.target = false := by
        rw [given_eq_isSome, htargeted]
        rfl
      simp [targetProblem?, hverb, htarget, hmissing, hflag] at h

/-- The value of a flag that must be one of some choices is, if validation accepts it. -/
lemma mem_choices {name value : String} {choices : List String}
    (h : c.choiceProblem? name choices = none) (hvalue : c.flagValue? name = some value) :
    Text.lower value ∈ choices := by
  unfold choiceProblem? at h
  rw [hvalue] at h
  simpa [Choice.rejection?] using h

/-! ## Commands of lines -/

variable {aliases : Entries String} {line : String}

/-- The command of a line that breaks no rule is safe.

**Proof sketch.** A line without a verb has no second word either, so it gives nothing. What
normalization makes of the second word is a name of a kind of records if validation accepts it. The
other properties are what the rules check. -/
theorem safe_parse (h : (parse aliases line).problem? = none) : (parse aliases line).Safe := by
  obtain ⟨hgiven, hverb, hentity, htarget, hpriority, hstatus⟩ := problem?_eq_none h
  refine ⟨?_, ?_, fun verb hacts hname => recordId?_of_target htarget hname hacts,
    fun value => mem_choices hpriority, fun value => mem_choices hstatus⟩
  · cases hfirst : (ofLine (Shortcut.expand aliases line)).verb with
    | none =>
      have hnone : given (parse aliases line).verb = false ∧
          given (parse aliases line).entity = false := by
        simp [parse, normalize, given, hfirst, entity_of_verb_none hfirst]
      rw [hnone.1, hnone.2] at hgiven
      exact nomatch hgiven
    | some word =>
      have hnormal : (parse aliases line).verb = some (Vocabulary.verb word) := by
        simp [parse, normalize, hfirst]
      exact ⟨_, hnormal, mem_validVerbs hverb hnormal⟩
  · cases hsecond : (ofLine (Shortcut.expand aliases line)).entity with
    | none => exact .inl (by simp [parse, normalize, hsecond])
    | some word =>
      have hnormal : (parse aliases line).entity = some (Vocabulary.entity word) := by
        simp [parse, normalize, hsecond]
      rcases mem_validEntities hentity hnormal with hempty | hmem
      · exact .inr (.inl (by rw [hnormal, hempty]))
      · obtain ⟨kind, hkind⟩ := Vocabulary.entity_eq_name hmem
        exact .inr (.inr ⟨kind, by rw [hnormal, hkind]⟩)

/-- The verb of the command of a line is empty only if the first positional token is empty and begins
with a quote. -/
theorem firstPositional?_of_verb_empty (h : (parse aliases line).verb = some "") :
    firstPositional? (Shortcut.expand aliases line) = some ⟨[], true⟩ := by
  obtain ⟨word, hword, hempty⟩ := Option.map_eq_some_iff.1
    (show (ofLine (Shortcut.expand aliases line)).verb.map Vocabulary.verb = some "" from h)
  rw [Vocabulary.verb_eq_empty hempty] at hword
  exact firstPositional?_of_empty hword

end Command

namespace Shell

variable {aliases : Entries String}

/-- `help` and `man` are answered before validation. -/
lemma isSome_builtin? (history : List String) {c : Command} (line : String)
    (h : c.verb = some "help" ∨ c.verb = some "man") : (builtin? history c line).isSome = true := by
  unfold builtin?
  dsimp only
  split
  · rfl
  · next hnotHelp =>
    rw [if_pos (.inl (h.resolve_left fun hhelp => hnotHelp (.inl hhelp)))]
    split <;> rfl

/-- A line that is not answered before validation and breaks no rule has a verb with a command of its
own, or else its first positional token is empty and begins with a quote. -/
theorem verb_or_firstPositional? {history : List String} {line : String}
    (hbuiltin : builtin? history (Command.parse aliases (Text.trim line)) line = none)
    (hproblem : (Command.parse aliases (Text.trim line)).problem? = none) :
    (∃ verb, (Command.parse aliases (Text.trim line)).verb.bind Verb.ofName? = some verb ∧
        verb ≠ .help ∧ verb ≠ .man) ∨
      Command.firstPositional? (Shortcut.expand aliases (Text.trim line)) = some ⟨[], true⟩ := by
  obtain ⟨word, hword, hempty | hvalid⟩ := (Command.safe_parse hproblem).verb
  · exact .inr (Command.firstPositional?_of_verb_empty (by rw [hword, hempty]))
  · obtain ⟨verb, -, rfl⟩ := List.mem_map.1 hvalid
    have hneither : ¬((Command.parse aliases (Text.trim line)).verb = some "help" ∨
        (Command.parse aliases (Text.trim line)).verb = some "man") := by
      intro hanswered
      have hlines := isSome_builtin? history line hanswered
      rw [hbuiltin] at hlines
      exact nomatch hlines
    refine .inl ⟨verb, by rw [hword]; exact verb.ofName?_name, ?_, ?_⟩
    · rintro rfl
      exact hneither (.inl hword)
    · rintro rfl
      exact hneither (.inr hword)

end Shell

end TaskShell
