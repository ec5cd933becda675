import TaskShell.Proofs.Command.Repair
import TaskShell.Proofs.Schema.Building
import TaskShell.Proofs.Schema.Collecting

/-!
# Choices are judged twice

The priority and the status on a line are judged twice: by the rules for commands, which have one
list of words for all kinds of records, and by the field of the kind of records that the line is
about, when the record is built. The lists are the same but for the status of subtasks, of which
there are fewer. So the two judgements agree word for word, save that a line may give a subtask a
status that only other records have: the rule keeps quiet and the field does not.

## Main definitions

* `Command.Rule.flag?` — the flag that a rule is about.
* `Command.Misplaced` — a status that a command may name and a subtask cannot have.
* `Command.Judged` — what a rule and a field have to do with each other.

## Main results

* `Command.exists_problem?_iff` — when a rule is the first that a command breaks.
* `Command.choices_judged` — where the two judgements agree, and where they do not.
-/

set_option autoImplicit false

namespace TaskShell

namespace Command

variable {c : Command} {kind : Entity} {rule : Rule} {problem : Problem} {name v s : String}
  {choices : List String} {f : Field}

/-! ## The first rule that is broken -/

/-- A rule is the first that a command breaks just if it is broken and those before it are kept. -/
theorem exists_problem?_iff (c : Command) (rule : Rule) :
    (∃ problem, c.problem? = some problem ∧ problem.rule = rule) ↔
      (rule.check c).isSome ∧ ∀ earlier : Rule, earlier.place < rule.place →
        earlier.check c = none := by
  constructor
  · rintro ⟨problem, hproblem, rfl⟩
    obtain ⟨hbroken, hkept⟩ := problem?_spec hproblem
    exact ⟨by rw [hbroken]; rfl, hkept⟩
  · rintro ⟨hbroken, hkept⟩
    cases hproblem : c.problem? with
    | none =>
      rw [problem?_eq_findSome?, List.findSome?_eq_none_iff] at hproblem
      rw [hproblem rule (by cases rule <;> decide)] at hbroken
      exact nomatch hbroken
    | some problem =>
      obtain ⟨hfirst, hbefore⟩ := problem?_spec hproblem
      refine ⟨problem, rfl, Rule.place_injective (Nat.le_antisymm ?_ ?_)⟩
      · refine Nat.le_of_not_lt fun hlt => ?_
        rw [hbefore rule hlt] at hbroken
        exact nomatch hbroken
      · refine Nat.le_of_not_lt fun hlt => ?_
        rw [hkept _ hlt] at hfirst
        exact nomatch hfirst

/-- The flag whose value must be one of some words, for a rule about one. -/
def Rule.flag? : Rule → Option String
  | .priority => some "priority"
  | .status => some "status"
  | _ => none

/-- For a known verb and a kind of records, only two rules come before those about flags: that the
record is named, and for the status the rule about the priority. -/
lemma earlier_kept_iff {verb : Verb} (hverb : c.verb = some verb.name)
    (hentity : c.entity = some kind.name) (hname : rule.flag? = some name) :
    (∀ earlier : Rule, earlier.place < rule.place → earlier.check c = none) ↔
      c.targetProblem? = none ∧ (rule = .status → Rule.priority.check c = none) := by
  have hgiven : Rule.given.check c = none := by
    unfold Rule.check
    rw [hverb]
    cases verb <;> rfl
  have hknown : Rule.verb.check c = none := by
    unfold Rule.check verbProblem?
    rw [hverb]
    cases verb <;> rfl
  have hkind : Rule.entity.check c = none := by
    unfold Rule.check entityProblem?
    rw [hentity]
    cases kind <;> rfl
  cases rule with
  | priority =>
    refine ⟨fun h => ⟨h .target (by decide), nofun⟩, fun h earlier hearlier => ?_⟩
    cases earlier with
    | given => exact hgiven
    | verb => exact hknown
    | entity => exact hkind
    | target => exact h.1
    | _ => exact absurd hearlier (by decide)
  | status =>
    refine ⟨fun h => ⟨h .target (by decide), fun _ => h .priority (by decide)⟩,
      fun h earlier hearlier => ?_⟩
    cases earlier with
    | given => exact hgiven
    | verb => exact hknown
    | entity => exact hkind
    | target => exact h.1
    | priority => exact h.2 rfl
    | status => exact absurd hearlier (by decide)
  | _ => exact nomatch hname

/-! ## Two judgements of one word -/

/-- Why a word is not one of some choices, unless it is empty. -/
def objection? (label v : String) (choices : List String) : Option Choice.Rejection :=
  if v = "" then none else Choice.rejection? label v choices

/-- The words for a priority or a status that a kind of records has. -/
def choicesFor (kind : Entity) (rule : Rule) : List String :=
  if kind = .subtask ∧ rule = .status then Choice.subtaskStatuses else rule.vocabulary

/-- A status that a command may name and a subtask cannot have, where a subtask is given one. -/
def Misplaced (kind : Entity) (rule : Rule) (v : String) : Prop :=
  kind = .subtask ∧ rule = .status ∧ Text.lower v ∈ ["active", "paused", "due"]

/-- There is something against a word just if it is neither empty nor one of the choices, letter
case aside. -/
lemma objection?_isSome_iff :
    (objection? name v choices).isSome ↔ v ≠ "" ∧ Text.lower v ∉ choices := by
  unfold objection? Choice.rejection?
  by_cases hempty : v = "" <;> by_cases hmem : Text.lower v ∈ choices <;> simp [hempty, hmem]

/-- What is suggested for a word that is none of the choices is one of them. -/
lemma mem_of_objection? {rejection : Choice.Rejection}
    (h : objection? name v choices = some rejection) (hs : rejection.suggestions = [s]) :
    s ∈ choices := by
  unfold objection? Choice.rejection? at h
  dsimp only at h
  split at h
  · exact nomatch h
  · split at h
    · exact nomatch h
    · obtain rfl := Option.some.inj h
      have hclosest := Option.toList_eq_singleton_iff.1 hs
      exact (Suggestion.isFirstNearest_of_closest? (Option.filter_eq_some_iff.1 hclosest).1).mem

/-- What the rules for commands have against the value of a flag. -/
lemma choiceProblem?_eq_map (hv : c.flags.value? name = some v) :
    c.choiceProblem? name choices = (objection? name v choices).map .choice := by
  unfold choiceProblem? flagValue? objection?
  rw [hv]
  by_cases hempty : v = "" <;> simp [nonEmpty?, Option.filter, hempty]

/-- What a field has against a text. -/
lemma problem?_eq_map (hf : f.kind = .choice choices) :
    f.problem? v = (objection? f.name v choices).map .choice := by
  unfold Field.problem? objection?
  rw [hf]
  by_cases hempty : v = "" <;> simp [hempty]

/-- What a rule about a flag has against its value. -/
lemma check_eq_map (hname : rule.flag? = some name) (hv : c.flags.value? name = some v) :
    rule.check c = (objection? name v rule.vocabulary).map .choice := by
  cases rule with
  | priority | status =>
    obtain rfl := Option.some.inj hname
    exact choiceProblem?_eq_map hv
  | _ => exact nomatch hname

/-- Each kind of records has a field for the flag, without other names and with its own choices. -/
lemma exists_field (kind : Entity) (hname : rule.flag? = some name) :
    ∃ f, (Schema.ofEntity kind).field? name = some f ∧ f.name = name ∧
      f.kind = .choice (choicesFor kind rule) ∧
      ∀ g ∈ (Schema.ofEntity kind).fields, g.name = name → g.aliases = [] := by
  cases rule with
  | priority | status =>
    obtain rfl := Option.some.inj hname
    cases kind <;> exact ⟨_, rfl, rfl, rfl, by decide⟩
  | _ => exact nomatch hname

/-- A kind of records has no words that a command may not name. -/
lemma choicesFor_subset : choicesFor kind rule ⊆ rule.vocabulary := by
  unfold choicesFor
  split
  · next h =>
    rw [h.2]
    decide
  · exact List.Subset.refl _

/-- A kind of records lacks the words that commands may not name either, and the misplaced ones. -/
lemma not_mem_choicesFor_iff : Text.lower v ∉ choicesFor kind rule ↔
    Text.lower v ∉ rule.vocabulary ∨ Misplaced kind rule v := by
  unfold choicesFor Misplaced
  split
  · next h =>
    simp only [h, Rule.vocabulary, Choice.statuses, Choice.subtaskStatuses, List.mem_cons,
      List.not_mem_nil, or_false, true_and]
    grind
  · next h => exact ⟨.inl, fun hv => hv.resolve_right fun hplaced => h ⟨hplaced.1, hplaced.2.1⟩⟩

/-- Commands may name a misplaced word. -/
lemma Misplaced.mem_vocabulary (h : Misplaced kind rule v) : Text.lower v ∈ rule.vocabulary := by
  obtain ⟨-, rfl, hv⟩ := h
  exact (by decide : ["active", "paused", "due"] ⊆ Rule.status.vocabulary) hv

/-- What a rule for commands and a field of a kind of records have to do with each other, when a
command gives a value to the flag that both are about. -/
structure Judged (c : Command) (kind : Entity) (rule : Rule) (v : String) (f : Field) : Prop where
  /-- The field judges the value of the flag. -/
  reads : Schema.givenText ((Schema.ofEntity kind).collect c.flags).value? f.name =
    nonEmpty? (some v)
  /-- The rule is broken just if the field has a problem, but for misplaced words. -/
  broken_iff : (rule.check c).isSome ↔ (f.problem? v).isSome ∧ ¬ Misplaced kind rule v
  /-- The rule is what the command is refused for just if besides the rules before it are kept. -/
  refused_iff : (∃ problem, c.problem? = some problem ∧ problem.rule = rule) ↔
    (f.problem? v).isSome ∧ ¬ Misplaced kind rule v ∧ c.targetProblem? = none ∧
      (rule = .status → Rule.priority.check c = none)
  /-- Both say the same, but for the status of a subtask. -/
  same : ¬ (kind = .subtask ∧ rule = .status) →
    ∀ rejection, rule.check c = some (.choice rejection) ↔ f.problem? v = some (.choice rejection)
  /-- The field has nothing against what the rule suggests, but for misplaced words. -/
  rule_suggests : ∀ problem s, c.problem? = some problem → problem.rule = rule →
    problem.suggestions = [s] → rule.check (rule.replace c s) = none ∧
      ((f.problem? s).isSome ↔ Misplaced kind rule s)
  /-- Neither has anything against what the field suggests. -/
  field_suggests : ∀ rejection s, f.problem? v = some (.choice rejection) →
    rejection.suggestions = [s] → rule.check (rule.replace c s) = none ∧ f.problem? s = none

/-- The words for a flag are in lower case. -/
lemma lower_of_mem_vocabulary (hname : rule.flag? = some name) (hs : s ∈ rule.vocabulary) :
    Text.lower s = s := by
  have hflags : rule.vocabulary ⊆ Choice.priorities ++ Choice.statuses := by
    cases rule with
    | priority | status => decide
    | _ => exact nomatch hname
  exact (vocabulary_spec rule).2 s (hflags hs)

/-- The field has a problem with a word that commands may name just if it is misplaced. -/
lemma problem?_isSome_iff_misplaced (hf : f.kind = .choice (choicesFor kind rule))
    (hname : rule.flag? = some name) (hs : s ∈ rule.vocabulary) :
    (f.problem? s).isSome ↔ Misplaced kind rule s := by
  have hne : s ≠ "" := fun hempty => (vocabulary_spec rule).1 (hempty ▸ hs)
  rw [problem?_eq_map hf, Option.isSome_map, objection?_isSome_iff, not_mem_choicesFor_iff,
    lower_of_mem_vocabulary hname hs]
  tauto

/-- **Rules and fields agree about choices.** For every command with a known verb and kind of
records, and every value of its flag for the priority or the status, there is the field of this
name, and:

* what the field judges is the value of the flag, unless this is empty;
* the rule is broken just if the field has a problem with the value, unless a subtask is given one
  of the statuses active, paused and due, which the rule accepts and the field does not; and it is
  what the command is refused for just if besides the record is named, where it must be, and the
  priority is right, for the status;
* but for the status of a subtask, both say the same, with the same suggestion;
* with what the rule suggests in the place of the value the rule is kept, and the field has a
  problem with it just if a subtask is given one of those three statuses; with what the field
  suggests both are content.

**Proof sketch.** Rule and field look for the lower case of the value in a list of words; the lists
differ for the status of subtasks only, where the field's is a part of the rule's. A suggestion is
one of the words of its list, in lower case. -/
theorem choices_judged (c : Command) (verb : Verb) (kind : Entity) (rule : Rule) (name v : String)
    (hverb : c.verb = some verb.name) (hentity : c.entity = some kind.name)
    (hkeys : c.flags.keys.Nodup) (hname : rule.flag? = some name)
    (hv : c.flags.value? name = some v) :
    ∃ f, (Schema.ofEntity kind).field? name = some f ∧ f.name = name ∧ c.Judged kind rule v f := by
  obtain ⟨f, hfield, hown, hf, hplain⟩ := exists_field kind hname
  have hproblem : f.problem? v = (objection? name v (choicesFor kind rule)).map .choice := by
    rw [problem?_eq_map hf, hown]
  have hcheck := check_eq_map hname hv
  have hbroken : (rule.check c).isSome ↔ (f.problem? v).isSome ∧ ¬ Misplaced kind rule v := by
    rw [hcheck, hproblem, Option.isSome_map, Option.isSome_map, objection?_isSome_iff,
      objection?_isSome_iff, not_mem_choicesFor_iff]
    have hknown : Misplaced kind rule v → Text.lower v ∈ rule.vocabulary := Misplaced.mem_vocabulary
    tauto
  refine ⟨f, hfield, hown, ?reads, hbroken, ?refused, ?same, ?rule, ?field⟩
  case reads =>
    have hmem := (Schema.field?_eq_some hfield).1
    rw [Schema.givenText, (Schema.isClear_ofEntity kind).value?_collect hmem hkeys,
      Field.valueAmong_of_aliases_eq_nil (hplain f hmem hown), hown, hv]
    by_cases hempty : v = "" <;> simp [nonEmpty?, hempty]
  case refused =>
    rw [exists_problem?_iff, earlier_kept_iff hverb hentity hname, hbroken, and_assoc]
  case same =>
    intro hcommon rejection
    rw [hcheck, hproblem, choicesFor, if_neg hcommon]
    simp
  case rule =>
    rintro problem s hfirst rfl hs
    obtain ⟨_, -, hnearest⟩ := isFirstNearest_of_suggestions hfirst hs
    exact ⟨Rule.check_replace_self hnearest.mem,
      problem?_isSome_iff_misplaced hf hname hnearest.mem⟩
  case field =>
    intro rejection s hrejected hs
    rw [hproblem] at hrejected
    obtain ⟨rejection', hobjection, hsame⟩ := Option.map_eq_some_iff.1 hrejected
    obtain rfl := Field.Problem.choice.inj hsame
    have hmem := mem_of_objection? hobjection hs
    have hknown := choicesFor_subset hmem
    refine ⟨Rule.check_replace_self hknown, ?_⟩
    rw [problem?_eq_map hf, Option.map_eq_none_iff, ← Option.not_isSome_iff_eq_none,
      objection?_isSome_iff, lower_of_mem_vocabulary hname hknown]
    exact fun h => h.2 hmem

/-- A misspelt status of a task: the rule suggests a word that the field has nothing against. -/
theorem choices_judged_actve :
    let c : Command :=
      { verb := some "create", entity := some "task", target := some "Draft",
        flags := [("status", "Actve"), ("parent", "A1")] }
    c.flags.keys.Nodup ∧ Rule.flag? .status = some "status" ∧
      c.flags.value? "status" = some "Actve" ∧
      ∃ f, (Schema.ofEntity .task).field? "status" = some f ∧ (f.problem? "Actve").isSome ∧
        (∃ problem, c.problem? = some problem ∧ problem.rule = .status ∧
          problem.suggestions = ["active"]) ∧ (f.problem? "active").isSome = false := by
  intro c
  have hkeys : c.flags.keys.Nodup := by decide
  obtain ⟨f, hfield, -, hjudged⟩ :=
    choices_judged c .create .task .status "status" "Actve" rfl rfl hkeys rfl rfl
  have hproblem : c.problem? =
      some (.choice ⟨"status", "Actve", Choice.statuses, some "active"⟩) := by decide +kernel
  have hrefused := hjudged.refused_iff.1 ⟨_, hproblem, rfl⟩
  refine ⟨hkeys, rfl, rfl, f, hfield, hrefused.1, ⟨_, hproblem, rfl, rfl⟩, ?_⟩
  have hsuggested := (hjudged.rule_suggests _ "active" hproblem rfl rfl).2
  exact Bool.eq_false_iff.2 fun hsome => nomatch (hsuggested.1 hsome).1

/-- A subtask is given the status of an active record: the rules have nothing against the line, and
the field does; for a misspelt status the rules suggest this very word. -/
theorem subtask_status_judged_apart :
    let c : Command :=
      { verb := some "create", entity := some "subtask", target := some "Draft",
        flags := [("status", "active")] }
    let misspelt : Command := { c with flags := [("status", "activ")] }
    ∃ f, (Schema.ofEntity .subtask).field? "status" = some f ∧
      ¬ ((∃ problem, c.problem? = some problem ∧ problem.rule = .status) ↔
        (f.problem? "active").isSome) ∧
      ∃ problem, misspelt.problem? = some problem ∧ problem.rule = .status ∧
        problem.suggestions = ["active"] ∧ Rule.replace misspelt "active" .status = c := by
  intro c misspelt
  have hnone : c.problem? = none := by decide +kernel
  have hproblem : misspelt.problem? =
      some (.choice ⟨"status", "activ", Choice.statuses, some "active"⟩) := by decide +kernel
  refine ⟨_, rfl, fun hiff => ?_, _, hproblem, rfl, rfl, rfl⟩
  obtain ⟨problem, hsome, -⟩ := hiff.2 (by decide +kernel)
  exact nomatch hnone.symm.trans hsome

end Command

end TaskShell
