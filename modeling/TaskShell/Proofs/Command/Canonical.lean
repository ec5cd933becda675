import TaskShell.Proofs.Schema.Collecting
import TaskShell.Proofs.Text.Case

/-!
# Words are normalized once

A word for a verb or for a kind of records is put in lower case, and if it is an alias then, the name
of what it stands for takes its place. A word is canonical if it is in lower case and no alias. All
names are canonical, and a word in lower case stays as it is in lower case, whatever its letters. So
normalization leaves canonical words and nothing else, these are the words that it leaves alone, and
a second pass finds nothing to do.

## Main definitions

* `Vocabulary.IsCanonical` — words that are in lower case and no aliases.
* `Vocabulary.form` — the form of a word by any aliases.
* `Vocabulary.Canonizes` — what is asked of a function that puts words in canonical form.

## Main results

* `Vocabulary.canonizes_form` — aliases for canonical names put words in canonical form.
* `Vocabulary.Canonizes.eq_self_iff` — the words that stay as they are.
* `Command.normalize_settles` — a second normalization changes nothing, of words and of commands.
-/

set_option autoImplicit false

namespace TaskShell

namespace Vocabulary

variable {α : Type} {aliases : Entries α} {name : α → String} {f : String → String} {word : String}

/-- A word is in lower case, and it is no alias. -/
def IsCanonical (aliases : Entries α) (word : String) : Prop :=
  Text.lower word = word ∧ word ∉ aliases.keys

instance (aliases : Entries α) (word : String) : Decidable (IsCanonical aliases word) :=
  inferInstanceAs (Decidable (_ ∧ _))

/-- What is asked of a function that puts words in canonical form. -/
structure Canonizes (aliases : Entries α) (name : α → String) (f : String → String) : Prop where
  /-- An alias, in any letter case, becomes the name of what it stands for. -/
  renames : ∀ word a, (Text.lower word, a) ∈ aliases → f word = name a
  /-- Any other word is put in lower case. -/
  lowers : ∀ word, Text.lower word ∉ aliases.keys → f word = Text.lower word
  /-- What comes out is canonical. -/
  canonical : ∀ word, IsCanonical aliases (f word)

/-- The words that stay as they are are the canonical ones. -/
theorem Canonizes.eq_self_iff (h : Canonizes aliases name f) :
    f word = word ↔ IsCanonical aliases word := by
  constructor
  · intro hsame
    rw [← hsame]
    exact h.canonical word
  · rintro ⟨hlower, halias⟩
    rw [h.lowers word (by rwa [hlower]), hlower]

/-- A second pass changes nothing. -/
theorem Canonizes.settles (h : Canonizes aliases name f) (word : String) : f (f word) = f word :=
  h.eq_self_iff.2 (h.canonical word)

/-- The form of a word: the name of what the word in lower case is an alias for, or else the word in
lower case. -/
def form (aliases : Entries α) (name : α → String) (word : String) : String :=
  match aliases.value? (Text.lower word) with
  | some a => name a
  | none => Text.lower word

/-- **Aliases put words in canonical form**, if they are different and stand for canonical names. -/
theorem canonizes_form (haliases : aliases.keys.Nodup)
    (hnames : ∀ a, IsCanonical aliases (name a)) : Canonizes aliases name (form aliases name) where
  renames word a h := by rw [form, (Entries.value?_eq_some_iff haliases).2 h]
  lowers word h := by rw [form, Entries.value?_eq_none_iff.2 h]
  canonical word := by
    unfold form
    split
    · next a _ => exact hnames a
    · next hnone => exact ⟨Text.lower_lower word, Entries.value?_eq_none_iff.1 hnone⟩

/-- Words for kinds of records are put in canonical form. -/
lemma canonizes_entity : Canonizes entityAliases Entity.name entity := by
  have hform : entity = form entityAliases Entity.name := by
    funext word
    unfold entity form
    dsimp only
    cases entityAliases.value? (Text.lower word) <;> rfl
  rw [hform]
  refine canonizes_form (by decide) fun kind => ?_
  cases kind <;> decide +kernel

/-- Words for verbs are put in canonical form. -/
lemma canonizes_verb : Canonizes verbAliases Verb.name verb := by
  have hform : verb = form verbAliases Verb.name := by
    funext word
    unfold verb form
    dsimp only
    cases verbAliases.value? (Text.lower word) <;> rfl
  rw [hform]
  refine canonizes_form (by decide) fun verb => ?_
  cases verb <;> decide +kernel

end Vocabulary

namespace Command

open Vocabulary (IsCanonical Canonizes entityAliases verbAliases canonizes_entity canonizes_verb)

/-- A command whose words are canonical. -/
def Canonical (c : Command) : Prop :=
  (∀ word, c.verb = some word → IsCanonical verbAliases word) ∧
    ∀ word, c.entity = some word → IsCanonical entityAliases word

/-- Normalization leaves a command with canonical words. -/
lemma canonical_normalize (c : Command) : c.normalize.Canonical := by
  constructor <;> intro word hword
  · obtain ⟨typed, -, rfl⟩ := Option.map_eq_some_iff.1 hword
    exact canonizes_verb.canonical typed
  · obtain ⟨typed, -, rfl⟩ := Option.map_eq_some_iff.1 hword
    exact canonizes_entity.canonical typed

/-- The commands that normalization leaves alone are those with canonical words. -/
lemma normalize_eq_self_iff {c : Command} : c.normalize = c ↔ c.Canonical := by
  have hstays : ∀ {f : String → String} {given : Option String},
      given.map f = given ↔ ∀ word, given = some word → f word = word := by
    intro f given
    cases given <;> simp
  obtain ⟨verb, entity, target, flags, raw⟩ := c
  simp only [normalize, mk.injEq, and_true, hstays, canonizes_verb.eq_self_iff,
    canonizes_entity.eq_self_iff, Canonical]

/-- **Normalization comes to an end after one pass.**

* For every command a second normalization changes nothing, and neither target nor flags nor the line
  as it was typed are ever changed; the commands that stay as they are are those with canonical words.
* For every word, whatever its letters, the form that it takes as a word for a kind of records, or as
  one for a verb, is its own form.
* These forms are the ones that the aliases give: an alias becomes a name, any other word is put in
  lower case, and what comes out is in lower case and no alias.

**Proof sketch.** Lower case in lower case stays as it is (`Text.lower_lower`), and no name is an
alias. -/
theorem normalize_settles :
    (∀ c : Command, c.normalize.normalize = c.normalize ∧ c.normalize.target = c.target ∧
      c.normalize.flags = c.flags ∧ c.normalize.raw = c.raw ∧
      (c.normalize = c ↔ c.Canonical)) ∧
    (∀ word, Vocabulary.entity (Vocabulary.entity word) = Vocabulary.entity word ∧
      Vocabulary.verb (Vocabulary.verb word) = Vocabulary.verb word) ∧
    Canonizes entityAliases Entity.name Vocabulary.entity ∧
    Canonizes verbAliases Verb.name Vocabulary.verb := by
  refine ⟨fun c => ⟨?_, rfl, rfl, rfl, normalize_eq_self_iff⟩, fun word => ?_, canonizes_entity,
    canonizes_verb⟩
  · exact normalize_eq_self_iff.2 c.canonical_normalize
  · exact ⟨canonizes_entity.settles word, canonizes_verb.settles word⟩

/-- A sigma at the end of a word, a letter that becomes two, and one that is like an `s` and is none. -/
example : Vocabulary.verb "ΑΣ" = "ας" ∧ Vocabulary.verb "İ" = "i\u0307" ∧
    Vocabulary.entity "TAſKS" = "taſks" ∧ Vocabulary.entity "TASKS" = "task" := by
  decide +kernel

end Command

end TaskShell
