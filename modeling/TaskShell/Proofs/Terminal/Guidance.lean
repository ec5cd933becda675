import TaskShell.Proofs.Shell.Guidance
import TaskShell.Proofs.Terminal.Run

/-!
# A guided creation comes to a quick one

A guided creation goes through a talk: it asks for what is not known, in order, and asks again for
what has been refused. While there is something left to ask, the terminal has changed in its
question and in what it wrote, and in nothing else. Once nothing is left, it has done what a
creation does that is given everything at once: the values known at the start and the answers that
were accepted and not blank.

## Main definitions

* `Terminal.guide`, `Terminal.quick` — a creation step by step, and one at once.
* `Terminal.Stands` — a terminal where a talk has led it.

## Main results

* `Terminal.Stands.answer` — an answer leads a terminal on as it does the talk.
* `Terminal.guided_agrees` — a guided creation agrees with a quick one.
-/

set_option autoImplicit false

namespace TaskShell

open Shell Creation

namespace Terminal

/-- A record created step by step. -/
def guide (t : Terminal) (kind : Entity) (values : Entries String) : Terminal :=
  let action : Shell (Progress Activity) := do
    return (← guidedCreate kind values).map .creation
  t.settle (action.perform t.world)

/-- A record created at once. -/
def quick (t : Terminal) (kind : Entity) (values : Entries String) : Terminal :=
  let action : Shell (Progress Activity) := do
    quickCreate kind values
    return .finished
  t.settle (action.perform t.world)

/-- A terminal after some answers. -/
def answerAll (t : Terminal) (lines : List String) : Terminal :=
  lines.foldl (fun t line => (t.answer line).1) t

/-- A terminal that has written some more lines. -/
def telling (t : Terminal) (lines : List String) : Terminal :=
  { t with world := write t.world lines }

/-- A terminal where a talk has led it from a start: it waits for the first item, or with none left
it has created a record at once from the values of the talk. -/
def Stands (start t : Terminal) (kind : Entity) (talk : Talk) : Prop :=
  match talk.items with
  | item :: _ => ∃ c, Matches start.world.session kind c talk.items talk.values ∧
      t = { start.telling talk.said with prompt := some ⟨item.question, .creation c⟩ }
  | [] => t = (start.telling talk.said).quick kind talk.values

variable {start t : Terminal} {kind : Entity} {values held : Entries String}

/-- Lines written in two parts. -/
lemma write_write (w : World) (lines lines' : List String) :
    write (write w lines) lines' = write w (lines ++ lines') := by
  simp [write]

/-- The question of a creation is that of the item for which it waits. -/
lemma question_of_matches {s : Session} {c : Creation} {item : Item} {rest : List Item}
    (h : Matches s kind c (item :: rest) values) : c.question = item.question := by
  cases h with
  | title | field => rfl
  | @parent _ offered => cases offered <;> rfl

/-- A creation that waits for an item is of the kind. -/
lemma kind_of_matches {s : Session} {c : Creation} {items : List Item}
    (h : Matches s kind c items values) : c.kind = kind := by
  cases h <;> rfl

/-- A record created at once leaves no question. -/
lemma prompt_quick (h : t.prompt = none) : (t.quick kind values).prompt = none := by
  unfold quick
  dsimp only
  rcases perform_bind_cases (quickCreate kind values)
    (fun _ => pure (Progress.finished : Progress Activity)) t.world with
    ⟨_, w', -, hbind⟩ | ⟨e, w', -, hbind⟩
  · rw [hbind]
    exact h
  · rw [hbind]
    rfl

/-- What a creation that has nothing left to ask comes to is what one comes to that is given
everything at once. -/
lemma perform_proceed_none {w : World}
    (h : held.value? = (Creation.inherit w.session kind values).value?) :
    let goesOn : Shell (Progress Activity) := do
      return (← proceed none kind held).map .creation
    let atOnce : Shell (Progress Activity) := do
      quickCreate kind values
      return .finished
    goesOn.perform w = atOnce.perform w := by
  intro goesOn atOnce
  rw [perform_map, perform_map (quickCreate kind values) fun _ => Progress.finished, proceed,
    perform_map (store kind held) fun _ => Progress.finished, perform_quickCreate, store_congr h]
  cases ((store kind (Creation.inherit w.session kind values)).perform w).1 <;> rfl

/-- A creation that goes on as a talk does leads the terminal where the talk leads it. -/
lemma stands_of_continues {next : Option Creation} {items : List Item} (said : List String)
    (h : Continues start.world.session kind next held items values) :
    let action : Shell (Progress Activity) := do
      return (← proceed next kind held).map .creation
    start.Stands ((start.telling said).settle (action.perform (write start.world said))) kind
      ⟨items, values, said ++ Talk.asked items⟩ := by
  intro action
  cases next with
  | none =>
    obtain ⟨rfl, hsame⟩ := h
    have hperform : action.perform (write start.world said) =
        (do quickCreate kind values; return .finished : Shell (Progress Activity)).perform
          (write start.world said) := perform_proceed_none hsame
    rw [hperform]
    change _ = (start.telling (said ++ [])).quick kind values
    rw [List.append_nil]
    rfl
  | some c =>
    cases items with
    | nil => exact nomatch h
    | cons item rest =>
      have hmatches : Matches start.world.session kind c (item :: rest) values := h
      refine ⟨c, hmatches, ?_⟩
      have hperform : action.perform (write start.world said) =
          (.ok (.asks c.question (.creation c)), write start.world said) := rfl
      have hwrite : start.telling (said ++ Talk.asked (item :: rest)) =
          (start.telling said).telling [item.question.line] := by
        unfold telling
        rw [write_write]
        rfl
      rw [hperform, question_of_matches hmatches, hwrite]
      rfl

/-! ## Answers -/

/-- An answer that is refused is complained about, and the question is asked again; nothing else
changes. -/
lemma answer_of_refused {s : Session} {c : Creation} {item : Item} {rest : List Item}
    {line complaint : String} (h : Matches s kind c (item :: rest) values)
    (hp : t.prompt = some ⟨item.question, .creation c⟩)
    (hrefusal : item.refusal? (Text.trim line) = some complaint) :
    t.answer line = (t.telling [complaint, item.question.line], true) := by
  rcases refusal?_cases hrefusal with ⟨hblank, rfl⟩ | ⟨f, problem, rfl, hproblem, rfl⟩
  · exact answer_of_blank hp hblank
  · obtain ⟨fs, hstage⟩ := h.stage_of_field
    have hoptional : ¬ ((Item.field f).question.required && Text.trim line == "") = true := by
      rw [Item.required_field, Bool.false_and]
      exact Bool.false_ne_true
    have hperform := perform_resume_problem (w := t.world) hstage hproblem
    rw [answer_of_accepted hp hoptional, Shell.resume, perform_map, hperform]
    -- the question that is asked again takes the place of itself
    have hsame : t.telling [problem.message, (Item.field f).question.line] =
        { t with prompt := some ⟨(Item.field f).question, .creation c⟩,
                 world := write t.world [problem.message, (Item.field f).question.line] } := by
      rw [← hp]
      rfl
    rw [hsame]
    simp only [settle, Prompt.settle, write, Except.map, Progress.map, List.append_assoc]
    rfl

/-- An answer leads a terminal on as it does the talk. -/
theorem Stands.answer {talk : Talk} (h : start.Stands t kind talk) (hidle : start.prompt = none)
    (line : String) : start.Stands (t.answer line).1 kind (talk.hear line) := by
  obtain ⟨items, values, said⟩ := talk
  cases items with
  | nil =>
    have hquick : t = (start.telling said).quick kind values := h
    have hnone : t.prompt = none := by
      rw [hquick]
      exact prompt_quick hidle
    rw [answer_of_idle hnone]
    exact h
  | cons item rest =>
    obtain ⟨c, hmatches, ht⟩ := h
    have hmatches : Matches start.world.session kind c (item :: rest) values := hmatches
    have hp : t.prompt = some ⟨item.question, .creation c⟩ := by rw [ht]
    unfold Talk.hear
    dsimp only
    cases hrefusal : item.refusal? (Text.trim line) with
    | some complaint =>
      rw [answer_of_refused hmatches hp hrefusal]
      refine ⟨c, hmatches, ?_⟩
      rw [ht]
      simp only [telling, write_write]
    | none =>
      have hstart : { t with prompt := none } = start.telling said := by
        rw [ht, telling, ← hidle]
      have hworld : t.world = write start.world said := by
        rw [ht]
        rfl
      have hstands := stands_of_continues said (hmatches.next hrefusal)
      rw [answer_of_accepted hp (not_blank_of_accepted hrefusal), hstart, Shell.resume, perform_map,
        perform_resume (hmatches.problem? hrefusal), hworld, kind_of_matches hmatches,
        ← perform_map]
      exact hstands

/-- Answers lead a terminal on as they do the talk. -/
lemma Stands.answerAll {talk : Talk} (h : start.Stands t kind talk) (hidle : start.prompt = none)
    (lines : List String) : start.Stands (t.answerAll lines) kind (talk.hearAll lines) := by
  induction lines generalizing t talk with
  | nil => exact h
  | cons line lines ih => exact ih (h.answer hidle line)

/-- A guided creation begins where the talk begins. -/
lemma stands_guide (start : Terminal) (kind : Entity) (values : Entries String) :
    start.Stands (start.guide kind values) kind (Talk.begin start.world.session kind values) := by
  have hstands := stands_of_continues (Talk.opening kind)
    (continues_begin start.world.session kind values)
  have hbegin : (guidedCreate kind values).perform start.world =
      (proceed (open? start.world.session kind values) kind values).perform
        (write start.world (Talk.opening kind)) := by
    unfold guidedCreate
    rw [perform_say_bind, perform_say_bind, perform_begin]
    simp [write, Talk.opening]
  unfold guide
  dsimp only
  rw [perform_map, hbegin, ← perform_map]
  exact hstands

/-! ## The whole dialog -/

/-- **A guided creation agrees with a quick one.** A guided creation asks for the title if it is not
known, then for the parent if one is needed and none is known, then for every guided field that has
no value. While there is an item left to ask for, the terminal waits with its question, and apart
from this it has written lines, nothing more: no record is stored. An answer that is refused is
complained about, the same question is asked again, and nothing else changes; one that is accepted
strikes its item off and leaves the others. Once nothing is left, the terminal is the one that a
quick creation comes to which is given the values known at the start and the accepted answers that
were not blank; what it writes, stores and fails with is the same.

**Proof sketch.** The guided creation begins where the talk begins (`stands_guide`), and every
answer leads the terminal on as it does the talk (`Stands.answer`), so after any lines the terminal
stands where the talk has come to. -/
theorem guided_agrees (t : Terminal) (kind : Entity) (values : Entries String) (lines : List String)
    (hidle : t.prompt = none) :
    let talk := (Talk.begin t.world.session kind values).hearAll lines
    let t' := (t.guide kind values).answerAll lines
    (∀ item rest, talk.items = item :: rest →
      (∃ c, t' = { t.telling talk.said with prompt := some ⟨item.question, .creation c⟩ }) ∧
      ∀ line,
        (∀ complaint, item.refusal? (Text.trim line) = some complaint →
          t'.answer line = (t'.telling [complaint, item.question.line], true)) ∧
        (item.refusal? (Text.trim line) = none → (talk.hear line).items = rest)) ∧
    (talk.items = [] → t' = (t.telling talk.said).quick kind talk.values) := by
  intro talk t'
  have hstands : t.Stands t' kind talk := (stands_guide t kind values).answerAll hidle lines
  refine ⟨fun item rest hitems => ?_, fun hitems => ?_⟩
  · rw [Stands, hitems] at hstands
    obtain ⟨c, hmatches, ht⟩ := hstands
    have hp : t'.prompt = some ⟨item.question, .creation c⟩ := by rw [ht]
    refine ⟨⟨c, ht⟩, fun line => ⟨fun complaint h => answer_of_refused hmatches hp h, fun h => ?_⟩⟩
    rw [Talk.hear, hitems]
    dsimp only
    rw [h]
  · rw [Stands, hitems] at hstands
    exact hstands

/-- A project is created in the program of the context; its priority is refused once. -/
theorem guided_agrees_lander :
    let session : Session := { context := { program := some "P1" } }
    let t := opened (Store.empty (.ofQueue []) {}) session [] fun _ => {}
    ∃ said, (t.guide .project [("title", "Lander")]).answerAll ["", "", "urgent", "HIGH", ""] =
      (t.telling said).quick .project [("title", "Lander"), ("priority", "HIGH")] := by
  intro session t
  have hagrees := (guided_agrees t .project [("title", "Lander")]
    ["", "", "urgent", "HIGH", ""] rfl).2 (by decide +kernel)
  have hvalues : ((Talk.begin t.world.session .project [("title", "Lander")]).hearAll
      ["", "", "urgent", "HIGH", ""]).values = [("title", "Lander"), ("priority", "HIGH")] := by
    decide +kernel
  rw [hvalues] at hagrees
  exact ⟨_, hagrees⟩

end Terminal

end TaskShell
