import TaskShell.Proofs.Command.Validated
import TaskShell.Proofs.Suggestion.Ranking
import TaskShell.Proofs.Text.Case

/-!
# Suggestions repair commands

The rules for commands are checked in a fixed order, and the first that is broken may come with a
suggestion: the first of the words of its vocabulary that are nearest to the offending one. With the
suggestion in the place of that word the command keeps this rule and those before it, so that what is
still wrong with it breaks a later one. Few rules have a vocabulary, so that replacing words by what is
suggested soon comes to an end.

## Main definitions

* `Command.Rule` — the rules, in the order in which they are checked.
* `Command.Rule.check` — what a rule finds wrong with a command.
* `Command.Rule.replace` — a word put in the place that a rule is about.
* `Command.repair?`, `Command.RepairedIn` — one suggestion followed, and some in turn.

## Main results

* `Command.problem?_eq_findSome?`, `Command.problem?_spec` — the first rule that is broken.
* `Command.Rule.check_replace` — a suggestion repairs its rule and none before it breaks.
* `Command.suggestions_repair` — what following suggestions comes to.
-/

set_option autoImplicit false

namespace TaskShell

/-! ## The nearest option -/

/-- Lower case is as near to other words as the word itself. -/
lemma EditDistance.ofWords_lower (a b : String) : ofWords (Text.lower a) b = ofWords a b := by
  have hlower : Chars.lower (Text.lower a).toList = Chars.lower a.toList := by
    rw [Text.lower, String.toList_ofList, Chars.lower, Chars.lower, Chars.lowerFrom_lowerFrom]
  rw [ofWords, ofWords, hlower]

namespace Command

/-! ## Rules -/

/-- The rules for commands, in the order in which they are checked. -/
inductive Rule
  | given
  | verb
  | entity
  | target
  | priority
  | status
  deriving DecidableEq, Repr

namespace Rule

/-- All rules in order. -/
def all : List Rule := [.given, .verb, .entity, .target, .priority, .status]

/-- The place of a rule in this order. -/
def place : Rule → Nat
  | .given => 0
  | .verb => 1
  | .entity => 2
  | .target => 3
  | .priority => 4
  | .status => 5

/-- No two rules have the same place. -/
lemma place_injective {a b : Rule} (h : a.place = b.place) : a = b := by
  cases a <;> cases b <;> first | rfl | exact absurd h (by decide)

/-- The words that a rule accepts, if it is about one of several. -/
def vocabulary : Rule → List String
  | .verb => validVerbs
  | .entity => validEntities
  | .priority => Choice.priorities
  | .status => Choice.statuses
  | .given | .target => []

/-- The word of a command that a rule is about. -/
def word? (c : Command) : Rule → Option String
  | .verb => nonEmpty? c.verb
  | .entity => nonEmpty? c.entity
  | .priority => c.flagValue? "priority"
  | .status => c.flagValue? "status"
  | .given | .target => none

/-- The command with another word in the place that a rule is about. -/
def replace (c : Command) (s : String) : Rule → Command
  | .verb => { c with verb := some s }
  | .entity => { c with entity := some s }
  | .priority => { c with flags := c.flags.put "priority" s }
  | .status => { c with flags := c.flags.put "status" s }
  | .given | .target => c

/-- What a rule finds wrong with a command. -/
def check (c : Command) : Rule → Option Problem
  | .given => if !Command.given c.verb && !Command.given c.entity then some .nothingGiven else none
  | .verb => c.verbProblem?
  | .entity => c.entityProblem?
  | .target => c.targetProblem?
  | .priority => c.choiceProblem? "priority" Choice.priorities
  | .status => c.choiceProblem? "status" Choice.statuses

end Rule

/-- The rule that is broken where there is a problem. -/
def Problem.rule : Problem → Rule
  | .nothingGiven => .given
  | .unknownVerb .. => .verb
  | .unknownEntity .. => .entity
  | .targetMissing .. => .target
  | .choice rejection => if rejection.label = "priority" then .priority else .status

variable {c c' : Command} {problem : Problem} {rule : Rule} {s : String}

/-- The problem of a command is what the first rule that it breaks finds wrong. -/
lemma problem?_eq_findSome? (c : Command) : c.problem? = Rule.all.findSome? (Rule.check c) := by
  have hcons : ∀ (rule : Rule) (rules : List Rule), (rule :: rules).findSome? (Rule.check c) =
      (rule.check c).or (rules.findSome? (Rule.check c)) := by
    intro rule rules
    rw [List.findSome?_cons]
    cases rule.check c <;> rfl
  unfold problem? Rule.all
  simp only [hcons, List.findSome?_nil, Rule.check, Option.or_none]
  split <;> rfl

/-- What is wrong with a verb. -/
lemma verbProblem?_eq_some (h : c.verbProblem? = some problem) : ∃ word,
    nonEmpty? c.verb = some word ∧
      problem = .unknownVerb word (Suggestion.closest? word validVerbs) := by
  unfold verbProblem? at h
  split at h
  · next word hword =>
    split at h
    · exact nomatch h
    · exact ⟨word, hword, (Option.some.inj h).symm⟩
  · exact nomatch h

/-- What is wrong with a kind of records. -/
lemma entityProblem?_eq_some (h : c.entityProblem? = some problem) : ∃ word,
    nonEmpty? c.entity = some word ∧
      problem = .unknownEntity word (Suggestion.closest? word validEntities) := by
  unfold entityProblem? at h
  split at h
  · next word hword =>
    split at h
    · exact nomatch h
    · exact ⟨word, hword, (Option.some.inj h).symm⟩
  · exact nomatch h

/-- What is wrong with a verb that acts on one record, for want of one. -/
lemma targetProblem?_eq_some (h : c.targetProblem? = some problem) : ∃ verb entity,
    problem = .targetMissing verb entity := by
  unfold targetProblem? at h
  split at h
  · next verb _ =>
    split at h
    · exact ⟨verb, nonEmpty? c.entity, (Option.some.inj h).symm⟩
    · exact nomatch h
  · exact nomatch h

/-- What is wrong with the value of a flag that must be one of some choices. -/
lemma choiceProblem?_eq_some {name : String} {choices : List String}
    (h : c.choiceProblem? name choices = some problem) :
    ∃ value, c.flagValue? name = some value ∧ problem = .choice ⟨name, value, choices,
      (Suggestion.closest? (Text.lower value) choices).filter (· != "")⟩ := by
  unfold choiceProblem? at h
  split at h
  · next value hvalue =>
    refine ⟨value, hvalue, ?_⟩
    unfold Choice.rejection? at h
    dsimp only at h
    split at h
    · exact nomatch h
    · exact (Option.some.inj h).symm
  · exact nomatch h

/-- What a rule finds wrong breaks this rule. -/
lemma rule_of_check (h : rule.check c = some problem) : problem.rule = rule := by
  cases rule with
  | given =>
    unfold Rule.check at h
    dsimp only at h
    split at h
    · rw [← Option.some.inj h]
      rfl
    · exact nomatch h
  | verb =>
    obtain ⟨word, -, rfl⟩ := verbProblem?_eq_some h
    rfl
  | entity =>
    obtain ⟨word, -, rfl⟩ := entityProblem?_eq_some h
    rfl
  | target =>
    obtain ⟨verb, entity, rfl⟩ := targetProblem?_eq_some h
    rfl
  | priority =>
    obtain ⟨value, -, rfl⟩ := choiceProblem?_eq_some h
    rfl
  | status =>
    obtain ⟨value, -, rfl⟩ := choiceProblem?_eq_some h
    rfl

/-- Of the rules that a command breaks, its problem breaks the first. -/
lemma problem?_spec (h : c.problem? = some problem) : problem.rule.check c = some problem ∧
    ∀ rule : Rule, rule.place < problem.rule.place → rule.check c = none := by
  rw [problem?_eq_findSome?] at h
  obtain ⟨front, rule, back, hall, hcheck, hfront⟩ := List.findSome?_eq_some_iff.1 h
  obtain rfl := rule_of_check hcheck
  refine ⟨hcheck, fun earlier hearlier => hfront earlier ?_⟩
  have hmem : earlier ∈ Rule.all := by cases earlier <;> decide
  have hordered : Rule.all.Pairwise fun a b => a.place < b.place := by decide
  rw [hall] at hmem hordered
  rcases List.mem_append.1 hmem with hmem | hmem
  · exact hmem
  · rcases List.mem_cons.1 hmem with rfl | hmem
    · exact absurd hearlier (Nat.lt_irrefl _)
    · have hlater := (List.pairwise_cons.1 (List.pairwise_append.1 hordered).2.1).1 earlier hmem
      omega

/-! ## Suggestions -/

/-- A suggestion is the first of the words of the vocabulary that are nearest to the offending one. -/
lemma isFirstNearest_of_suggestions (h : c.problem? = some problem)
    (hs : problem.suggestions = [s]) : ∃ word, problem.rule.word? c = some word ∧
      Suggestion.IsFirstNearest word s problem.rule.vocabulary := by
  have hcheck := (problem?_spec h).1
  have hclosest : ∀ {closest : Option String}, closest.toList = [s] → closest = some s := by
    intro closest hlist
    cases closest with
    | none => exact nomatch hlist
    | some word => rw [List.singleton_inj.1 hlist]
  have hchoice : ∀ {name : String} {choices : List String},
      c.choiceProblem? name choices = some problem → ∃ value, c.flagValue? name = some value ∧
        Suggestion.IsFirstNearest value s choices := by
    intro name choices hproblem
    obtain ⟨value, hvalue, rfl⟩ := choiceProblem?_eq_some hproblem
    have hnearest := Suggestion.isFirstNearest_of_closest?
      (Option.filter_eq_some_iff.1 (hclosest hs)).1
    unfold Suggestion.IsFirstNearest at hnearest
    simp only [EditDistance.ofWords_lower] at hnearest
    exact ⟨value, hvalue, hnearest⟩
  generalize problem.rule = rule at hcheck ⊢
  cases rule with
  | given =>
    unfold Rule.check at hcheck
    dsimp only at hcheck
    split at hcheck
    · rw [← Option.some.inj hcheck] at hs
      exact nomatch hs
    · exact nomatch hcheck
  | verb =>
    obtain ⟨word, hword, rfl⟩ := verbProblem?_eq_some hcheck
    exact ⟨word, hword, Suggestion.isFirstNearest_of_closest? (hclosest hs)⟩
  | entity =>
    obtain ⟨word, hword, rfl⟩ := entityProblem?_eq_some hcheck
    exact ⟨word, hword, Suggestion.isFirstNearest_of_closest? (hclosest hs)⟩
  | target =>
    obtain ⟨verb, entity, rfl⟩ := targetProblem?_eq_some hcheck
    exact nomatch hs
  | priority => exact hchoice hcheck
  | status => exact hchoice hcheck

/-- The words of the vocabularies are not empty, and those for flags are in lower case. -/
lemma vocabulary_spec (rule : Rule) : "" ∉ rule.vocabulary ∧
    ∀ s ∈ Choice.priorities ++ Choice.statuses, Text.lower s = s := by
  refine ⟨?_, by decide +kernel⟩
  cases rule <;> decide

/-- A choice in place of the value of a flag is accepted. -/
lemma choiceProblem?_put {name : String} {choices : List String} (hmem : s ∈ choices) (hne : s ≠ "")
    (hlower : Text.lower s = s) :
    choiceProblem? { c with flags := c.flags.put name s } name choices = none := by
  have hvalue : flagValue? { c with flags := c.flags.put name s } name = some s := by
    rw [flagValue?, Entries.value?_put, if_pos rfl]
    exact nonEmpty?_eq_some.2 ⟨rfl, hne⟩
  unfold choiceProblem? Choice.rejection?
  rw [hvalue]
  simp [hlower, hmem]

/-- Another flag keeps its value. -/
lemma flagValue?_put {name other : String} (hne : name ≠ other) :
    flagValue? { c with flags := c.flags.put name s } other = c.flagValue? other := by
  rw [flagValue?, flagValue?, Entries.value?_put, if_neg hne]

namespace Rule

/-- With a word of its vocabulary in its place, a rule is kept. -/
lemma check_replace_self (hs : s ∈ rule.vocabulary) : rule.check (rule.replace c s) = none := by
  have hne : s ≠ "" := fun hempty => (vocabulary_spec rule).1 (hempty ▸ hs)
  have hlower := (vocabulary_spec rule).2 s
  cases rule with
  | given => exact absurd hs List.not_mem_nil
  | verb =>
    unfold check replace verbProblem?
    dsimp only
    rw [nonEmpty?_eq_some.2 ⟨rfl, hne⟩]
    exact if_pos (List.contains_iff_mem.2 hs)
  | entity =>
    unfold check replace entityProblem?
    dsimp only
    rw [nonEmpty?_eq_some.2 ⟨rfl, hne⟩]
    exact if_pos (List.contains_iff_mem.2 hs)
  | target => exact absurd hs List.not_mem_nil
  | priority => exact choiceProblem?_put hs hne (hlower (List.mem_append_left _ hs))
  | status => exact choiceProblem?_put hs hne (hlower (List.mem_append_right _ hs))

/-- With a word of the vocabulary of a rule in its place, the rules before it are kept as before. -/
lemma check_replace {earlier : Rule} (hs : s ∈ rule.vocabulary) (h : earlier.place < rule.place)
    (hkept : earlier.check c = none) : earlier.check (rule.replace c s) = none := by
  have hgiven : Command.given (some s) = true := by
    have hne : s ≠ "" := fun hempty => (vocabulary_spec rule).1 (hempty ▸ hs)
    simpa [Command.given] using hne
  have htarget : ∀ name, name ≠ "id" → c.targetProblem? = none →
      targetProblem? { c with flags := c.flags.put name s } = none := by
    intro name hname hnone
    unfold targetProblem? at hnone ⊢
    rwa [flagValue?_put hname]
  cases rule with
  | given | target => exact absurd hs List.not_mem_nil
  | verb =>
    cases earlier with
    | given => simp [check, replace, hgiven]
    | _ => exact absurd h (by decide)
  | entity =>
    cases earlier with
    | given => simp [check, replace, hgiven]
    | verb => exact hkept
    | _ => exact absurd h (by decide)
  | priority =>
    cases earlier with
    | given | verb | entity => exact hkept
    | target => exact htarget "priority" (by decide) hkept
    | _ => exact absurd h (by decide)
  | status =>
    cases earlier with
    | given | verb | entity => exact hkept
    | target => exact htarget "status" (by decide) hkept
    | priority =>
      unfold check choiceProblem? at hkept ⊢
      dsimp only [replace] at hkept ⊢
      rwa [flagValue?_put (by decide)]
    | status => exact absurd h (by decide)

end Rule

/-! ## Following suggestions -/

/-- The command with the suggestion in the place of the offending word, if its problem comes with
one. -/
def repair? (c : Command) : Option Command :=
  match c.problem? with
  | none => none
  | some problem =>
    match problem.suggestions with
    | [s] => some (problem.rule.replace c s)
    | _ => none

/-- A command becomes another by following some suggestions in turn. -/
inductive RepairedIn : Nat → Command → Command → Prop
  | done (c : Command) : RepairedIn 0 c c
  | step {n : Nat} {c c' c'' : Command} (first : c.repair? = some c') (rest : RepairedIn n c' c'') :
      RepairedIn (n + 1) c c''

/-- The number of rules with a vocabulary that can still be broken once the rules before one are
kept. -/
def Rule.ahead : Rule → Nat
  | .given | .verb => 4
  | .entity => 3
  | .target | .priority => 2
  | .status => 1

/-- Fewer of them are left behind a rule with a vocabulary. -/
lemma Rule.ahead_lt {a b : Rule} (ha : a.vocabulary ≠ []) (h : a.place < b.place) :
    b.ahead < a.ahead := by
  cases a with
  | given | target => exact absurd rfl ha
  | _ => cases b <;> first | decide | exact absurd h (by decide)

/-- The number of suggestions that a command can still need. -/
def errands (c : Command) : Nat :=
  match c.problem? with
  | none => 0
  | some problem => problem.rule.ahead

/-- A problem comes with one suggestion or none. -/
lemma Problem.suggestions_cases (problem : Problem) :
    problem.suggestions = [] ∨ ∃ s, problem.suggestions = [s] := by
  have hclosest : ∀ closest : Option String, closest.toList = [] ∨ ∃ s, closest.toList = [s] := by
    intro closest
    cases closest with
    | none => exact .inl rfl
    | some s => exact .inr ⟨s, rfl⟩
  cases problem with
  | nothingGiven | targetMissing => exact .inl rfl
  | unknownVerb _ closest => exact hclosest closest
  | unknownEntity _ closest => exact hclosest closest
  | choice rejection => exact hclosest rejection.closest

/-- A command that can be repaired has a problem with a suggestion. -/
lemma repair?_eq_some (h : c.repair? = some c') : ∃ problem s, c.problem? = some problem ∧
    problem.suggestions = [s] ∧ c' = problem.rule.replace c s := by
  unfold repair? at h
  split at h
  · exact nomatch h
  · next problem hproblem =>
    split at h
    · next s hs => exact ⟨problem, s, hproblem, hs, (Option.some.inj h).symm⟩
    · exact nomatch h

/-- A command that cannot be repaired has no problem, or one without suggestion. -/
lemma repair?_eq_none (h : c.repair? = none) :
    c.problem? = none ∨ ∃ problem, c.problem? = some problem ∧ problem.suggestions = [] := by
  unfold repair? at h
  split at h
  · next hnone => exact .inl hnone
  · next problem hproblem =>
    split at h
    · exact nomatch h
    · next hmany =>
      rcases problem.suggestions_cases with hnone | ⟨s, hs⟩
      · exact .inr ⟨problem, hproblem, hnone⟩
      · exact absurd hs (hmany s)

/-- What is wrong with a command that has been repaired breaks a later rule. -/
lemma place_lt_of_repaired (h : c.problem? = some problem) (hs : problem.suggestions = [s])
    {later : Problem} (hlater : (problem.rule.replace c s).problem? = some later) :
    problem.rule.place < later.rule.place := by
  obtain ⟨word, -, hnearest⟩ := isFirstNearest_of_suggestions h hs
  have hbroken := (problem?_spec hlater).1
  by_contra hnot
  rcases Nat.lt_or_eq_of_le (Nat.le_of_not_lt hnot) with hearlier | hsame
  · rw [Rule.check_replace hnearest.mem hearlier ((problem?_spec h).2 _ hearlier)] at hbroken
    exact nomatch hbroken
  · rw [Rule.place_injective hsame, Rule.check_replace_self hnearest.mem] at hbroken
    exact nomatch hbroken

/-- A suggestion that is followed brings the end nearer. -/
lemma errands_lt (h : c.repair? = some c') : c'.errands < c.errands := by
  obtain ⟨problem, s, hproblem, hs, rfl⟩ := repair?_eq_some h
  obtain ⟨word, -, hnearest⟩ := isFirstNearest_of_suggestions hproblem hs
  have hvocabulary : problem.rule.vocabulary ≠ [] := List.ne_nil_of_mem hnearest.mem
  unfold errands
  rw [hproblem]
  split
  · have hsome : ∀ rule : Rule, 0 < rule.ahead := by
      intro rule
      cases rule <;> decide
    exact hsome _
  · next later hlater => exact Rule.ahead_lt hvocabulary (place_lt_of_repaired hproblem hs hlater)

/-- A command never needs more suggestions than there are rules with a vocabulary. -/
lemma errands_le_four (c : Command) : c.errands ≤ 4 := by
  have hahead : ∀ rule : Rule, rule.ahead ≤ 4 := by
    intro rule
    cases rule <;> decide
  unfold errands
  split
  · exact Nat.zero_le 4
  · exact hahead _

/-- Each suggestion that is followed leaves fewer to follow. -/
lemma RepairedIn.errands_le {n : Nat} (h : RepairedIn n c c') : n + c'.errands ≤ c.errands := by
  induction h with
  | done c => exact Nat.le_of_eq (Nat.zero_add _)
  | step first rest ih =>
    have hfewer := errands_lt first
    omega

/-- Following suggestions comes to an end. -/
lemma exists_repairedIn (c : Command) : ∃ n c', RepairedIn n c c' ∧ c'.repair? = none := by
  induction hm : c.errands using Nat.strongRecOn generalizing c with
  | ind m ih =>
    cases hrepair : c.repair? with
    | none => exact ⟨0, c, .done c, hrepair⟩
    | some next =>
      have hfewer := errands_lt hrepair
      obtain ⟨n, c', hrest, hend⟩ := ih next.errands (hm ▸ hfewer) next rfl
      exact ⟨n + 1, c', .step hrepair hrest, hend⟩

/-- **Suggestions repair commands.** For every command, normalized or not:

* if the rule that it breaks suggests a word, this is the first of the words of the vocabulary of the
  rule that are nearest to the offending word in edit distance;
* the command with this word in the place of the offending one keeps the rule and all before it, so
  that what is still wrong with it breaks a later one;
* from the command, suggestions can be followed at most four times in turn, and this ends in a command
  that breaks no rule, or one that breaks a rule without suggestion.

**Proof sketch.** A word of its vocabulary satisfies a rule, and it stands in a place that no earlier
rule looks at, except for the one that something be given. So the first broken rule moves on, and only
four rules have a vocabulary. -/
theorem suggestions_repair (c : Command) :
    (∀ problem s, c.problem? = some problem → problem.suggestions = [s] →
      let rule := problem.rule
      (∃ word, rule.word? c = some word ∧ Suggestion.IsFirstNearest word s rule.vocabulary) ∧
        (∀ kept : Rule, kept.place ≤ rule.place → kept.check (rule.replace c s) = none) ∧
        ∀ later, (rule.replace c s).problem? = some later → rule.place < later.rule.place) ∧
      (∀ n c', RepairedIn n c c' → n ≤ 4) ∧
      ∃ n c', RepairedIn n c c' ∧
        (c'.problem? = none ∨ ∃ problem, c'.problem? = some problem ∧ problem.suggestions = []) := by
  refine ⟨fun problem s hproblem hs => ?_, fun n c' hrepaired => ?_, ?_⟩
  · obtain ⟨word, hword, hnearest⟩ := isFirstNearest_of_suggestions hproblem hs
    refine ⟨⟨word, hword, hnearest⟩, fun kept hle => ?_,
      fun later => place_lt_of_repaired hproblem hs⟩
    rcases Nat.lt_or_eq_of_le hle with hearlier | hsame
    · exact Rule.check_replace hnearest.mem hearlier ((problem?_spec hproblem).2 kept hearlier)
    · rw [Rule.place_injective hsame]
      exact Rule.check_replace_self hnearest.mem
  · have hfewer := hrepaired.errands_le
    have hfour := errands_le_four c
    omega
  · obtain ⟨n, c', hrepaired, hend⟩ := exists_repairedIn c
    exact ⟨n, c', hrepaired, repair?_eq_none hend⟩

/-- The suggestion for a misspelt verb leaves a misspelt kind of records, the next thing to repair. -/
theorem suggestions_repair_lst :
    let c : Command := { verb := some "lst", entity := some "tsk" }
    c.problem? = some (.unknownVerb "lst" (some "list")) ∧
      (∃ word, Rule.word? c .verb = some word ∧
        Suggestion.IsFirstNearest word "list" validVerbs) ∧
      ∀ later, Command.problem? { c with verb := some "list" } = some later →
        Rule.verb.place < later.rule.place := by
  intro c
  have hproblem : c.problem? = some (.unknownVerb "lst" (some "list")) := by decide +kernel
  have hrepaired := (suggestions_repair c).1 _ "list" hproblem rfl
  exact ⟨hproblem, hrepaired.1, hrepaired.2.2⟩

end Command

end TaskShell
