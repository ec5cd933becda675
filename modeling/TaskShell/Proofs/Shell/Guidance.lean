import TaskShell.Proofs.Shell.Creating

/-!
# Guided creations

A guided creation works through a list of items: the title if it is not known, the parent if one is
needed and none is known, and every guided field that has no value. An answer that is refused
changes nothing; one that is accepted strikes its item off and is kept unless it is blank. A
creation that waits stands where such a talk stands: what it has left to ask are the items, and what
it holds are the values of the talk, with the parent that the session supplies once the parent has
been settled.

## Main definitions

* `Creation.Item`, `Creation.agenda` — what a creation asks for, and all of it in order.
* `Creation.Talk`, `Creation.Talk.hear` — items, values and lines said, and what a line changes.
* `Creation.proceed` — the next question asked, or the record stored.
* `Creation.Matches`, `Creation.Continues` — a creation stands where a talk stands.

## Main results

* `Creation.perform_begin`, `Creation.perform_resume` — creations proceed to what is left open.
* `Creation.continues_begin`, `Creation.Matches.next` — they go on as the talk does.
-/

set_option autoImplicit false

namespace TaskShell

open Shell

namespace Creation

/-! ## Talks -/

/-- Something that a creation asks for. A parent may be offered. -/
inductive Item
  | title
  | parent (offered : Option String)
  | field (field : Field)
  deriving DecidableEq, Repr

namespace Item

/-- The question that asks for an item. -/
def question : Item → Question
  | .title => { text := "Title*", required := true }
  | .parent (some offered) => { text := "Parent ID* (default: " ++ offered ++ ")" }
  | .parent none => { text := "Parent ID*", required := true }
  | .field f => { text := f.question }

/-- The question for a field need not be answered. -/
lemma required_field (f : Field) : (Item.field f).question.required = false :=
  rfl

/-- The field that an item fills. -/
def name : Item → String
  | .title => "title"
  | .parent _ => "parentId"
  | .field f => f.name

/-- Why an answer is no value of the field that is asked for. -/
def problem? : Item → String → Option String
  | .title, _ | .parent _, _ => none
  | .field f, answer => (f.problem? answer).map Field.Problem.message

/-- Why an answer is refused: it is blank although the question must be answered, or it is no value
of the field. -/
def refusal? (item : Item) (answer : String) : Option String :=
  if item.question.required && answer == "" then some Prompt.retryNotice else item.problem? answer

/-- The field values after an answer that is accepted: a blank one is not kept. -/
def accept (item : Item) (values : Entries String) (answer : String) : Entries String :=
  if answer = "" then values else values.put item.name answer

end Item

/-- The guided fields among some that have no value. -/
def fieldItems (values : Entries String) (fs : List Field) : List Item :=
  (fs.filter fun f => !values.isFilled f.name).map .field

/-- The parent, if one is needed and none is known; the one that the session supplies is offered. -/
def parentItems (s : Session) (kind : Entity) (values : Entries String) : List Item :=
  if (schemaOf kind).requiresParent && !values.isFilled "parentId" then
    [.parent (Command.nonEmpty? (s.defaultParent? kind))]
  else []

/-- All that is asked for, given some field values: the title, the parent and the guided fields. -/
def agenda (s : Session) (kind : Entity) (values : Entries String) : List Item :=
  (if values.isFilled "title" then [] else [.title]) ++ parentItems s kind values ++
    fieldItems values (schemaOf kind).guidedFields

/-- A talk: what is still to be asked for, the field values so far, and the lines said. -/
structure Talk where
  items : List Item
  values : Entries String
  said : List String
  deriving DecidableEq, Repr

namespace Talk

/-- The line that asks for the first of some items. -/
def asked (items : List Item) : List String :=
  items.head?.toList.map fun item => item.question.line

/-- The lines that a guided creation begins with. -/
def opening (kind : Entity) : List String :=
  ["Creating new " ++ kind.name ++ "...", "(Press Enter to skip optional fields)"]

/-- A talk about a record of a kind of which some field values are known. -/
def begin (s : Session) (kind : Entity) (values : Entries String) : Talk :=
  ⟨agenda s kind values, values, opening kind ++ asked (agenda s kind values)⟩

/-- A talk after a line: the item is asked for again, or it is struck off. -/
def hear (talk : Talk) (line : String) : Talk :=
  match talk.items with
  | [] => talk
  | item :: rest =>
    match item.refusal? (Text.trim line) with
    | some complaint => { talk with said := talk.said ++ [complaint, item.question.line] }
    | none => ⟨rest, item.accept talk.values (Text.trim line), talk.said ++ asked rest⟩

/-- A talk after some lines. -/
def hearAll (talk : Talk) (lines : List String) : Talk :=
  lines.foldl hear talk

end Talk

/-! ## Field values under answers -/

variable {s : Session} {kind : Entity} {c : Creation} {values held : Entries String}
  {items : List Item} {fs : List Field}

/-- A value that is put in fills its field, unless it is empty, and no other. -/
lemma isFilled_put (values : Entries String) (name other value : String) :
    (values.put name value).isFilled other =
      if name = other then value != "" else values.isFilled other := by
  unfold Entries.isFilled
  rw [Entries.value?_put]
  split <;> rfl

/-- Values that fill none of some fields leave open what was open. -/
lemma fieldItems_put {name value : String} (h : ∀ f ∈ fs, f.name ≠ name) :
    fieldItems (values.put name value) fs = fieldItems values fs := by
  unfold fieldItems
  refine congrArg (List.map Item.field) (List.filter_congr fun f hf => ?_)
  rw [isFilled_put, if_neg (Ne.symm (h f hf))]

/-- Of guided fields no two have the same name, and none has that of title or parent. -/
lemma guidedFields_names (kind : Entity) :
    ((schemaOf kind).guidedFields.map Field.name).Nodup ∧
      ∀ f ∈ (schemaOf kind).guidedFields, f.name ≠ "title" ∧ f.name ≠ "parentId" := by
  cases kind <;> decide

/-- A value put in under another name than that of the parent leaves open whether one is asked
for. -/
lemma parentItems_put {name value : String} (h : name ≠ "parentId") :
    parentItems s kind (values.put name value) = parentItems s kind values := by
  unfold parentItems
  rw [isFilled_put, if_neg h]

/-- No parent is inherited where one is known, or none is needed. -/
lemma inherit_of_known
    (h : ((schemaOf kind).requiresParent && !values.isFilled "parentId") = false) :
    inherit s kind values = values := by
  unfold inherit
  rw [h]
  rfl

/-- Where one is needed and none is known, the one that the session supplies is inherited. -/
lemma inherit_of_default {parent : String}
    (h : ((schemaOf kind).requiresParent && !values.isFilled "parentId") = true)
    (hdefault : s.defaultParent? kind = some parent) :
    inherit s kind values = values.put "parentId" parent := by
  unfold inherit
  rw [if_pos h, hdefault]

/-- Values that agree before an answer for another field than the parent agree after it. -/
lemma value?_inherit_put {name value : String} (hname : name ≠ "parentId")
    (h : held.value? = (inherit s kind values).value?) :
    (held.put name value).value? = (inherit s kind (values.put name value)).value? := by
  have hput : (inherit s kind (values.put name value)).value? =
      ((inherit s kind values).put name value).value? := by
    funext key
    unfold inherit
    rw [isFilled_put, if_neg hname]
    split
    · split
      · rw [Entries.value?_put, Entries.value?_put, Entries.value?_put, Entries.value?_put]
        by_cases hkey : name = key
        · rw [if_pos hkey, if_pos hkey, if_neg (fun hparent => hname (hkey.trans hparent.symm))]
        · rw [if_neg hkey, if_neg hkey]
      · rfl
    · rfl
  rw [hput]
  funext key
  rw [Entries.value?_put, Entries.value?_put, h]

/-! ## Where a creation stands -/

/-- A creation that waits stands where a talk stands: it waits for the first item, and the others
are what it has left to ask. Until the parent has been settled it holds the values of the talk;
after that it holds the same under every key as these with the parent that the session supplies. -/
inductive Matches (s : Session) (kind : Entity) : Creation → List Item → Entries String → Prop
  | title (values : Entries String) :
      Matches s kind ⟨kind, values, .title⟩
        (.title :: (parentItems s kind values ++ fieldItems values (schemaOf kind).guidedFields))
        values
  | parent {values : Entries String} {offered : Option String}
      (needed : ((schemaOf kind).requiresParent && !values.isFilled "parentId") = true)
      (offered_eq : offered = Command.nonEmpty? (s.defaultParent? kind)) :
      Matches s kind ⟨kind, values, .parent offered⟩
        (.parent offered :: fieldItems values (schemaOf kind).guidedFields) values
  | field {held values : Entries String} {f : Field} {fs : List Field}
      (suffix : f :: fs <:+ (schemaOf kind).guidedFields)
      (same : held.value? = (inherit s kind values).value?) :
      Matches s kind ⟨kind, held, .field f fs⟩ (.field f :: fieldItems held fs) values

/-- What a creation that holds some values goes on as stands where a talk stands; if it goes on as
nothing, there is nothing left to ask, and it holds the values of the talk with the parent that the
session supplies. -/
def Continues (s : Session) (kind : Entity) (next : Option Creation) (held : Entries String)
    (items : List Item) (values : Entries String) : Prop :=
  match next with
  | some c => Matches s kind c items values
  | none => items = [] ∧ held.value? = (inherit s kind values).value?

/-- What waits for a field stands where a talk stands that has come to the fields. -/
lemma continues_field (hfs : fs <:+ (schemaOf kind).guidedFields)
    (hsame : held.value? = (inherit s kind values).value?) :
    Continues s kind (openField? kind held fs) held (fieldItems held fs) values := by
  induction fs with
  | nil => exact ⟨rfl, hsame⟩
  | cons f fs ih =>
    have hrest : fs <:+ (schemaOf kind).guidedFields := (List.suffix_cons f fs).trans hfs
    unfold openField? fieldItems at *
    rw [List.dropWhile_cons]
    cases hfilled : held.isFilled f.name with
    | true =>
      rw [List.filter_cons_of_neg (by simp [hfilled])]
      exact ih hrest
    | false =>
      rw [List.filter_cons_of_pos (by simp [hfilled])]
      exact Matches.field hfs hsame

/-- What waits for the parent or a field stands where a talk stands that has come to the parent. -/
lemma continues_parent (s : Session) (kind : Entity) (values : Entries String) :
    Continues s kind (openParent? s kind values) values
      (parentItems s kind values ++ fieldItems values (schemaOf kind).guidedFields) values := by
  unfold openParent? parentItems
  cases hneeded : (schemaOf kind).requiresParent && !values.isFilled "parentId" with
  | true => exact Matches.parent hneeded rfl
  | false => exact continues_field (List.suffix_refl _) (by rw [inherit_of_known hneeded])

/-- What waits first stands where a talk begins. -/
theorem continues_begin (s : Session) (kind : Entity) (values : Entries String) :
    Continues s kind (open? s kind values) values (agenda s kind values) values := by
  unfold open? agenda
  cases values.isFilled "title" with
  | true => exact continues_parent s kind values
  | false => exact Matches.title values

/-- An answer that is accepted is not blank where the question must be answered. -/
lemma not_blank_of_accepted {item : Item} {answer : String} (h : item.refusal? answer = none) :
    ¬ (item.question.required && answer == "") = true := by
  intro hblank
  rw [Item.refusal?, if_pos hblank] at h
  exact nomatch h

/-- A question that must be answered accepts no blank answer. -/
lemma ne_of_accepted {item : Item} {answer : String} (hrequired : item.question.required = true)
    (h : item.refusal? answer = none) : answer ≠ "" := by
  rintro rfl
  exact not_blank_of_accepted h (by rw [hrequired]; rfl)

/-- An answer that is refused is blank though the question must be answered, or is a problem for a
field. -/
lemma refusal?_cases {item : Item} {answer complaint : String}
    (h : item.refusal? answer = some complaint) :
    (item.question.required && answer == "") = true ∧ complaint = Prompt.retryNotice ∨
      ∃ f problem, item = .field f ∧ f.problem? answer = some problem ∧
        complaint = problem.message := by
  by_cases hblank : (item.question.required && answer == "") = true
  · rw [Item.refusal?, if_pos hblank] at h
    exact .inl ⟨hblank, (Option.some.inj h).symm⟩
  · rw [Item.refusal?, if_neg hblank] at h
    cases item with
    | title | parent => exact nomatch h
    | field f =>
      obtain ⟨problem, hproblem, rfl⟩ := Option.map_eq_some_iff.1 h
      exact .inr ⟨f, problem, rfl, hproblem, rfl⟩

/-- A field accepts its values. -/
lemma problem?_of_accepted {f : Field} {answer : String}
    (h : (Item.field f).refusal? answer = none) : f.problem? answer = none :=
  Option.map_eq_none_iff.1 h

/-- What a creation waits for that stands at a field. -/
lemma Matches.stage_of_field {f : Field} (h : Matches s kind c (.field f :: items) values) :
    ∃ fs, c.stage = .field f fs := by
  cases h
  exact ⟨_, rfl⟩

/-- An answer that is accepted is no problem for the field that a creation waits for. -/
lemma Matches.problem? {item : Item} {answer : String} (h : Matches s kind c (item :: items) values)
    (haccepted : item.refusal? answer = none) (f : Field) (fs : List Field)
    (hstage : c.stage = .field f fs) : f.problem? answer = none := by
  cases h with
  | title | parent => exact nomatch hstage
  | field =>
    cases hstage
    exact problem?_of_accepted haccepted

/-- After an answer that is accepted a creation goes on as the talk does.

**Proof sketch.** By the item. The title and a parent that is named are kept by both. A blank answer
takes the parent that is offered, which is the one that the session supplies; the talk keeps
nothing, and inherits it. The answer for a field is kept by both, and none of the fields that follow
has its name. -/
theorem Matches.next {item : Item} {answer : String} (h : Matches s kind c (item :: items) values)
    (haccepted : item.refusal? answer = none) :
    Continues s kind (c.next? s answer) (c.answered answer) items (item.accept values answer) := by
  obtain ⟨hnodup, hnames⟩ := guidedFields_names kind
  cases h with
  | title =>
    have hanswer : answer ≠ "" := ne_of_accepted rfl haccepted
    have hcontinues := continues_parent s kind (values.put "title" answer)
    rw [parentItems_put (by decide), fieldItems_put fun f hf => (hnames f hf).1] at hcontinues
    rw [Item.accept, if_neg hanswer]
    exact hcontinues
  | @parent _ offered hneeded hoffered =>
    let parent := if answer = "" then offered.getD "" else answer
    have hinherit : values.put "parentId" parent =
        inherit s kind ((Item.parent offered).accept values answer) := by
      by_cases hanswer : answer = ""
      · cases offered with
        | none => exact absurd hanswer (ne_of_accepted rfl haccepted)
        | some offered =>
          have hdefault : s.defaultParent? kind = some offered :=
            (Option.filter_eq_some_iff.1 hoffered.symm).1
          rw [Item.accept, if_pos hanswer, inherit_of_default hneeded hdefault]
          simp [parent, hanswer]
      · rw [Item.accept, if_neg hanswer,
          inherit_of_known (by simp [Item.name, isFilled_put, hanswer])]
        simp [parent, hanswer, Item.name]
    -- no guided field is the parent, so the same ones are left open
    rw [← fieldItems_put fun f hf => (hnames f hf).2]
    exact continues_field (List.suffix_refl _) (congrArg Entries.value? hinherit)
  | @field held _ f fs hsuffix hsame =>
    have hproblem : f.problem? answer = none := problem?_of_accepted haccepted
    have hrest : fs <:+ (schemaOf kind).guidedFields := (List.suffix_cons f fs).trans hsuffix
    have hparent : f.name ≠ "parentId" := (hnames f (hsuffix.subset List.mem_cons_self)).2
    have hothers : ∀ g ∈ fs, g.name ≠ f.name := by
      have hdistinct := hnodup.sublist (hsuffix.sublist.map Field.name)
      rw [List.map_cons, List.nodup_cons] at hdistinct
      exact fun g hg heq => hdistinct.1 (heq ▸ List.mem_map_of_mem hg)
    unfold next? answered
    dsimp only
    rw [hproblem, Item.accept]
    by_cases hanswer : answer = ""
    · simp only [hanswer, if_true, Option.isSome_none, Bool.false_or, decide_true]
      exact continues_field hrest hsame
    · simp only [hanswer, if_false, Option.isSome_none, Bool.false_or, decide_false]
      rw [← fieldItems_put hothers]
      exact continues_field hrest (value?_inherit_put hparent hsame)

/-! ## What is performed -/

/-- A creation proceeds: the next question is asked, or with none left open the record is stored. -/
def proceed (next : Option Creation) (kind : Entity) (held : Entries String) :
    Shell (Progress Creation) :=
  match next with
  | some c => pure (.asks c.question c)
  | none => do
    store kind held
    return .finished

/-- Asking for fields proceeds to the first that has no value. -/
lemma askFields_eq (kind : Entity) (held : Entries String) (fs : List Field) :
    askFields kind held fs = proceed (openField? kind held fs) kind held := by
  induction fs with
  | nil => rfl
  | cons f fs ih =>
    unfold askFields openField?
    rw [List.dropWhile_cons]
    cases held.isFilled f.name with
    | true => exact ih
    | false => rfl

variable {w : World}

/-- Asking for the parent proceeds to it, if one is asked for, or to the fields. -/
lemma perform_askParent (kind : Entity) (held : Entries String) :
    (askParent kind held).perform w =
      (proceed (openParent? w.session kind held) kind held).perform w := by
  unfold askParent openParent?
  cases (schemaOf kind).requiresParent && !held.isFilled "parentId" with
  | true =>
    simp only [if_true]
    rw [perform_bind_of_ok (perform_get w)]
    cases Command.nonEmpty? (w.session.defaultParent? kind) <;> rfl
  | false =>
    simp only [Bool.false_eq_true, if_false]
    rw [askFields_eq]

/-- A creation begins with what is left open. -/
theorem perform_begin (kind : Entity) (held : Entries String) :
    (begin kind held).perform w = (proceed (open? w.session kind held) kind held).perform w := by
  unfold begin open?
  cases held.isFilled "title" with
  | true => exact perform_askParent kind held
  | false => rfl

/-- After an answer that is no problem a creation proceeds to what is left open. -/
theorem perform_resume {answer : String}
    (h : ∀ f fs, c.stage = .field f fs → f.problem? answer = none) :
    (c.resume answer).perform w =
      (proceed (c.next? w.session answer) c.kind (c.answered answer)).perform w := by
  obtain ⟨kind, values, stage⟩ := c
  cases stage with
  | title => exact perform_askParent kind _
  | parent offered =>
    unfold resume
    dsimp only
    rw [askFields_eq]
    rfl
  | field f fs =>
    have hproblem : f.problem? answer = none := h f fs rfl
    unfold resume next? answered
    dsimp only
    rw [hproblem, askFields_eq]
    simp

/-- After an answer that is a problem for its field a creation asks for it again. -/
lemma perform_resume_problem {f : Field} {fs : List Field} {answer : String}
    {problem : Field.Problem} (hstage : c.stage = .field f fs)
    (h : f.problem? answer = some problem) :
    (c.resume answer).perform w = (.ok (.asks { text := f.question } c),
      { w with journal := w.journal ++ [.line problem.message] }) := by
  obtain ⟨kind, values, stage⟩ := c
  cases hstage
  unfold resume
  dsimp only
  rw [h]
  rfl

/-- What is stored depends on what is under each key alone. -/
lemma store_congr {held held' : Entries String} (h : held.value? = held'.value?) :
    store kind held = store kind held' := by
  unfold store
  rw [h]

end Creation

/-- A record is stored straight away with the parent that the session supplies. -/
lemma Shell.perform_quickCreate {w : World} (kind : Entity) (values : Entries String) :
    (quickCreate kind values).perform w =
      (Creation.store kind (Creation.inherit w.session kind values)).perform w := by
  unfold quickCreate
  rw [perform_bind_of_ok (perform_get w)]
  rfl

end TaskShell
