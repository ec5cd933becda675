import TaskShell.Proofs.Command.Aliases
import TaskShell.Proofs.Command.Validated
import TaskShell.Proofs.Shell.Action
import TaskShell.Proofs.Text.Case

/-!
# Lines of a few words

A line of words with single blanks between them spells the command in which each word has its place.
If no alias stands for the line and its first word heads no shortcut, it is not expanded; and if its
command breaks no rule and none of the answers before validation is meant for it, the command is run
once the session has remembered the line.

## Main definitions

* `Command.ofRoles` — the command of some roles.
* `Shortcut.Unaliased` — no alias stands for a line.
* `Shell.obey` — a command run, or what is wrong with it told.

## Main results

* `Command.ofLine_spellApart` — the command that words with blanks between them spell.
* `Command.problem?_of_known` — commands that break no rule.
* `Shortcut.expand_of_heading` — a line that stays as it is.
* `Shell.perform_run` — the command of a line, run.
-/

set_option autoImplicit false

namespace TaskShell

/-! ## Lower case with blanks -/

namespace Chars

/-- A character that is its own lower case stays in lower case. -/
lemma mem_lowerFrom {c : Char} (hc : IsLower c) {cs : List Char} (h : c ∈ cs) (afterCased : Bool) :
    c ∈ lowerFrom afterCased cs := by
  induction cs generalizing afterCased with
  | nil => exact absurd h List.not_mem_nil
  | cons d cs ih =>
    rw [lowerFrom, List.mem_append]
    rcases List.mem_cons.1 h with rfl | h
    · left
      rw [if_neg hc.1, hc.2]
      exact List.mem_singleton_self _
    · exact .inr (ih h _)

end Chars

/-- A text with a blank is no single word in lower case. -/
lemma Text.lower_ne_of_blank {s word : String} {c : Char} (hc : isBlank c = true) (h : c ∈ s.toList)
    (hword : ∀ d ∈ word.toList, isBlank d = false) : lower s ≠ word := by
  rintro rfl
  have hmem : c ∈ (lower s).toList := by
    rw [lower, String.toList_ofList]
    exact Chars.mem_lowerFrom (Chars.isLower_of_isBlank hc) h false
  rw [hword c hmem] at hc
  exact absurd hc (by decide)

/-! ## Words in their places -/

namespace Command

open Token (Word)

variable {w : Word} {ws : List Word}

/-- The command of some roles: the first three positional words are verb, entity and target, and flags
are set in turn. -/
def ofRoles (roles : List Role) (raw : String) : Command :=
  let words := roles.filterMap Role.word?
  { verb := words[0]?, entity := words[1]?, target := words[2]?,
    flags := .ofPairs (roles.filterMap Role.setting?), raw }

/-- A line of words with single blanks between them is trimmed. -/
lemma trim_of_spellApart (hw : w.Complete) (hws : ∀ v ∈ ws, Word.Complete v) {line : String}
    (hline : line.toList = Token.spellApart w ws) : Text.trim line = line := by
  rw [Text.trim, hline, Token.trim_spellApart hw hws, ← hline, String.ofList_toList]

/-- Words with single blanks between them spell the command of their roles. -/
lemma ofLine_spellApart (hw : w.Complete) (hws : ∀ v ∈ ws, Word.Complete v) {line : String}
    (hline : line.toList = Token.spellApart w ws) :
    ofLine line = ofRoles ((w :: ws).map fun v => Role.ofToken v.token) line := by
  have htokens : Token.split (Chars.trim line.toList) = (w :: ws).map Word.token := by
    rw [hline, Token.trim_spellApart hw hws, Token.split_spellApart hw hws]
  unfold ofLine ofRoles
  dsimp only
  rw [htokens, ← filterMap_word?, ← ofPairs_filterMap_setting?, List.map_map]
  rfl

/-- A known verb on a kind of records breaks no rule, if it has a target where it needs one and the
choices among its flags are accepted. -/
lemma problem?_of_known {c : Command} {verb : String} {kind : Entity} (hverb : c.verb = some verb)
    (hknown : verb ∈ validVerbs) (hentity : c.entity = some kind.name)
    (htarget : c.targetProblem? = none)
    (hpriority : c.choiceProblem? "priority" Choice.priorities = none)
    (hstatus : c.choiceProblem? "status" Choice.statuses = none) : c.problem? = none := by
  have hkind : nonEmpty? (some kind.name) = some kind.name ∧ kind.name ∈ validEntities := by
    cases kind <;> decide
  have hword : nonEmpty? (some verb) = some verb := by
    refine nonEmpty?_eq_some.2 ⟨rfl, ?_⟩
    rintro rfl
    exact absurd hknown (by decide)
  have hverbs : c.verbProblem? = none := by
    unfold verbProblem?
    rw [hverb, hword]
    simp [hknown]
  have hentities : c.entityProblem? = none := by
    unfold entityProblem?
    rw [hentity, hkind.1]
    simp [hkind.2]
  have hgiven : given c.verb = true := by
    rw [given_eq_isSome, hverb, hword]
    rfl
  unfold problem?
  rw [hgiven, hverbs, hentities, htarget, hpriority, hstatus]
  rfl

end Command

/-! ## Lines that are not expanded -/

namespace Shortcut

variable {aliases : Entries String} {line : String}

/-- No alias stands for a line, letter case aside. -/
def Unaliased (aliases : Entries String) (line : String) : Prop :=
  Command.nonEmpty? (aliases.value? (Text.lower line)) = none

/-- Without aliases there is none for any line. -/
lemma unaliased_nil (line : String) : Unaliased [] line := rfl

/-- Without an alias for it, a trimmed line is what the built-in shortcuts make of it. -/
lemma Unaliased.expand_eq (h : Unaliased aliases line) (htrim : Text.trim line = line) :
    expand aliases line = (builtin? line.toList).getD line := by
  have hnone : (aliases.value? (Text.lower line)).filter (· != "") = none := h
  have hchars : Chars.trim line.toList = line.toList := by
    rw [← String.toList_ofList (l := Chars.trim line.toList)]
    exact congrArg String.toList htrim
  unfold expand
  dsimp only
  rw [hchars, ← Text.lower, hnone]

/-- A line without an alias whose first word heads no shortcut stays as it is. -/
lemma expand_of_heading {word rest : List Char} (htrim : Text.trim line = line)
    (halias : Unaliased aliases line) (hline : line.toList = word ++ ' ' :: rest)
    (hword : ∀ c ∈ word, Text.isBlank c = false) (hrest : ∀ c ∈ rest.head?, Text.isBlank c = false)
    (h : isKeyword headings word = false) : expand aliases line = line := by
  rw [halias.expand_eq htrim, hline, builtin?_of_heading hword hrest h]
  rfl

end Shortcut

/-! ## Commands that are run -/

namespace Shell

variable {aliases : Entries String} {line : String} {w : World}

/-- A command obeyed: it is run, or the user is told what is wrong with it. -/
def obey (c : Command) (line : String) : Shell (Progress Activity) :=
  match c.problem? with
  | some problem => do
    complain problem
    return .finished
  | none => dispatch c line

/-- A command that is answered before validation is answered once the session has remembered the
line. -/
lemma perform_run_builtin {lines : List String}
    (h : ∀ history, builtin? history (Command.parse aliases (Text.trim line)) line = some lines) :
    (run aliases line).perform w = (.ok .finished,
      { w with session := w.session.remember line, journal := w.journal ++ lines.map .line }) := by
  unfold run
  rw [perform_bind_of_ok (perform_modifySession _ _), perform_bind_of_ok (perform_get _)]
  dsimp only
  rw [h]
  rfl

/-- The command of a trimmed line with a blank, with a verb that is not answered before validation, is
obeyed once the session has remembered the line. -/
lemma perform_run_obey {c : Command} {verb : String} (htrim : Text.trim line = line)
    (hblank : ' ' ∈ line.toList) (hparse : Command.parse aliases line = c)
    (hverb : c.verb = some verb) (hlate : verb ∉ ["help", "man", "history", "init"]) :
    (run aliases line).perform w =
      (obey c line).perform { w with session := w.session.remember line } := by
  have hbare : Text.lower (Text.trim line) ≠ "help" ∧ Text.lower (Text.trim line) ≠ "man" := by
    rw [htrim]
    exact ⟨Text.lower_ne_of_blank (by decide) hblank (by decide),
      Text.lower_ne_of_blank (by decide) hblank (by decide)⟩
  have hbuiltin : ∀ history, builtin? history c line = none := by
    intro history
    simp only [List.mem_cons, List.not_mem_nil, or_false, not_or] at hlate
    unfold builtin?
    simp [hverb, hlate, hbare]
  unfold run
  rw [perform_bind_of_ok (perform_modifySession _ _), perform_bind_of_ok (perform_get _), htrim,
    hparse]
  dsimp only
  rw [hbuiltin]
  rfl

/-- Such a command is run if it breaks no rule. -/
lemma perform_run {c : Command} {verb : String} (htrim : Text.trim line = line)
    (hblank : ' ' ∈ line.toList) (hparse : Command.parse aliases line = c)
    (hverb : c.verb = some verb) (hlate : verb ∉ ["help", "man", "history", "init"])
    (hproblem : c.problem? = none) :
    (run aliases line).perform w =
      (dispatch c line).perform { w with session := w.session.remember line } := by
  rw [perform_run_obey htrim hblank hparse hverb hlate, obey, hproblem]

end Shell

end TaskShell
