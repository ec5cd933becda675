import TaskShell.Proofs.Shell.Changing

/-!
# Creations

A creation asks for what its field values leave open, in a fixed order: the title, the parent, and
the fields of guided creations. Which question comes next is a matter of the values, and of the
session for the parent that it offers. Once nothing is left open the record is built and stored.

## Main definitions

* `Creation.question` — the question that a creation waits for.
* `Creation.open?` — the creation that waits for what some field values leave open.
* `Creation.answered`, `Creation.next?` — the field values and the next creation after an answer.
* `Creation.Proceeds` — how a step of a creation can end.
* `Creation.Fits` — what holds of a creation while it waits.

## Main results

* `Creation.does_store` — a record built and stored.
* `Creation.does_resume`, `Shell.does_create` — creations.
* `Creation.fits_of_open?`, `Creation.Fits.next` — what holds of waiting creations.
-/

set_option autoImplicit false

namespace TaskShell

namespace Creation

open Shell

variable {w : World} {s s' : Session} {c : Creation} {kind : Entity} {values : Entries String}

/-! ## Questions -/

/-- The question that a creation waits for. -/
def question (c : Creation) : Question :=
  match c.stage with
  | .title => { text := "Title*", required := true }
  | .parent (some parent) => { text := "Parent ID* (default: " ++ parent ++ ")" }
  | .parent none => { text := "Parent ID*", required := true }
  | .field f _ => { text := f.question }

/-- The creation that waits for the first of some fields that has no value. -/
def openField? (kind : Entity) (values : Entries String) (fs : List Field) : Option Creation :=
  match fs.dropWhile fun f => values.isFilled f.name with
  | [] => none
  | f :: rest => some ⟨kind, values, .field f rest⟩

/-- The creation that waits for the parent, if one is needed and none is known, or else for a
field. -/
def openParent? (s : Session) (kind : Entity) (values : Entries String) : Option Creation :=
  if (schemaOf kind).requiresParent && !values.isFilled "parentId" then
    some ⟨kind, values, .parent (Command.nonEmpty? (s.defaultParent? kind))⟩
  else openField? kind values (schemaOf kind).guidedFields

/-- The creation that waits for the first thing that some field values leave open. -/
def open? (s : Session) (kind : Entity) (values : Entries String) : Option Creation :=
  if values.isFilled "title" then openParent? s kind values else some ⟨kind, values, .title⟩

/-- The field values of a creation after an answer: a field whose answer does not fit, or is empty,
stays without a value. -/
def answered (c : Creation) (answer : String) : Entries String :=
  match c.stage with
  | .title => c.values.put "title" answer
  | .parent default => c.values.put "parentId" (if answer = "" then default.getD "" else answer)
  | .field f _ =>
    if (f.problem? answer).isSome || answer = "" then c.values else c.values.put f.name answer

/-- The creation that waits after an answer: the same one if the answer does not fit. -/
def next? (s : Session) (c : Creation) (answer : String) : Option Creation :=
  match c.stage with
  | .title => openParent? s c.kind (c.answered answer)
  | .parent _ => openField? c.kind (c.answered answer) (schemaOf c.kind).guidedFields
  | .field f fs =>
    if (f.problem? answer).isSome then some c else openField? c.kind (c.answered answer) fs

/-- What a session supplies depends on its context alone. -/
lemma defaultParent?_congr (h : s'.context = s.context) (kind : Entity) :
    s'.defaultParent? kind = s.defaultParent? kind := by
  unfold Session.defaultParent?
  rw [h]

/-- What is offered as a parent depends on the context of the session alone. -/
lemma openParent?_congr (h : s'.context = s.context) :
    openParent? s' kind values = openParent? s kind values := by
  unfold openParent?
  rw [defaultParent?_congr h]

/-- What is asked first depends on the context of the session alone. -/
lemma open?_congr (h : s'.context = s.context) :
    open? s' kind values = open? s kind values := by
  unfold open?
  rw [openParent?_congr h]

/-- The inherited parent depends on the context of the session alone. -/
lemma inherit_congr (h : s'.context = s.context) :
    inherit s' kind values = inherit s kind values := by
  unfold inherit
  rw [defaultParent?_congr h]

/-- If nothing is left open, no parent is inherited. -/
lemma inherit_of_open? (h : open? s kind values = none) : inherit s kind values = values := by
  unfold open? openParent? at h
  split at h
  · split at h
    · exact nomatch h
    · next hknown => exact if_neg hknown
  · exact nomatch h

/-! ## What holds of a waiting creation -/

/-- What holds of a creation while it waits: the parent that it offers is the one that the session
supplies, and the fields that are left are asked for in guided creations. -/
def Fits (s : Session) (c : Creation) : Prop :=
  match c.stage with
  | .title => True
  | .parent default => default = Command.nonEmpty? (s.defaultParent? c.kind)
  | .field f fs => f :: fs ⊆ (schemaOf c.kind).guidedFields

/-- What holds of a waiting creation depends on the context of the session alone. -/
lemma Fits.congr (h : c.Fits s) (hcontext : s'.context = s.context) : c.Fits s' := by
  unfold Fits at *
  rw [defaultParent?_congr hcontext]
  exact h

/-- A creation is of a kind, has some field values and fits a session. -/
structure IsAt (s : Session) (kind : Entity) (values : Entries String) (c : Creation) : Prop where
  kind_eq : c.kind = kind
  values_eq : c.values = values
  fits : c.Fits s

/-- What waits for a field. -/
lemma isAt_of_openField? {fs : List Field} (hfs : fs ⊆ (schemaOf kind).guidedFields)
    (h : openField? kind values fs = some c) : c.IsAt s kind values := by
  unfold openField? at h
  split at h
  · exact nomatch h
  · next f rest hrest =>
    cases h
    refine ⟨rfl, rfl, ?_⟩
    change f :: rest ⊆ _
    rw [← hrest]
    exact List.Subset.trans (List.dropWhile_sublist _).subset hfs

/-- What waits for the parent or a field. -/
lemma isAt_of_openParent? (h : openParent? s kind values = some c) : c.IsAt s kind values := by
  unfold openParent? at h
  split at h
  · cases h
    exact ⟨rfl, rfl, rfl⟩
  · exact isAt_of_openField? (List.Subset.refl _) h

/-- What waits first. -/
lemma isAt_of_open? (h : open? s kind values = some c) : c.IsAt s kind values := by
  unfold open? at h
  split at h
  · exact isAt_of_openParent? h
  · cases h
    exact ⟨rfl, rfl, trivial⟩

/-- What waits after an answer. -/
lemma Fits.next {next : Creation} (hfits : c.Fits s) {answer : String}
    (h : c.next? s answer = some next) : next.IsAt s c.kind (c.answered answer) := by
  obtain ⟨kind, values, stage⟩ := c
  cases stage with
  | title => exact isAt_of_openParent? h
  | parent default => exact isAt_of_openField? (List.Subset.refl _) h
  | field f fs =>
    unfold next? at h
    dsimp only at h
    split at h
    · next hproblem =>
      cases h
      exact ⟨rfl, by simp [answered, hproblem], hfits⟩
    · exact isAt_of_openField? (List.subset_of_cons_subset hfits) h

/-! ## Steps -/

/-- How a step of the creation of a record of a kind can end, given its field values and the creation
that waits next: the record is created from the values if none waits, or nothing is done. -/
def Proceeds (next : Option Creation) (kind : Entity) (values : Entries String) (deed : Deed)
    (outcome : Except Failure (Progress Creation)) : Prop :=
  (deed = .nothing ∨
      next = none ∧ ∃ fields r, deed = .created values fields r ∧ r.kind = kind) ∧
    ∀ q c, outcome = .ok (.asks q c) → deed = .nothing ∧ q = c.question ∧ next = some c

/-- A step can fail. -/
lemma proceeds_error {next : Option Creation} (e : Failure) :
    Proceeds next kind values .nothing (.error e) :=
  ⟨.inl rfl, fun _ _ h => nomatch h⟩

/-- A question asked. -/
lemma does_ask (c : Creation) :
    Does w (pure (.asks c.question c)) (Proceeds (some c) kind values) := by
  refine ⟨.nothing, Course.refl w, .inl rfl, fun q c' hasks => ?_⟩
  cases hasks
  exact ⟨rfl, rfl, rfl⟩

/-- Building and storing a record creates it, or does nothing. -/
lemma does_store (kind : Entity) (values : Entries String) :
    Does w (store kind values) fun deed _ =>
      deed = .nothing ∨ ∃ fields r, deed = .created values fields r ∧ r.kind = kind := by
  unfold store
  cases hbuild : (schemaOf kind).build values.value? with
  | error e =>
    exact (quiet_fail (P := fun _ => False) _).bind_does (fun _ _ hf _ => hf.elim) fun _ => .inl rfl
  | ok fields =>
    simp only [pure_bind]
    refine (quiet_repository kind.name).bind_does ?_ fun _ => .inl rfl
    intro kind' w₁ hkind hnear
    obtain rfl : kind' = kind := Entity.name_injective hkind
    refine does_createRecord (fun w₂ r s hs hfree hr => ?_) fun _ => .inl rfl
    obtain rfl : r.kind = kind' := hr.kind_eq
    refine completes_notify (.created values fields r) ?_ rfl ⟨hfree, hbuild, hr⟩ hs rfl rfl rfl
      rfl fun _ => .inr ⟨fields, r, rfl, rfl⟩
    rw [perform_say_bind, perform_say_bind]
    unfold Deed.parentLines
    cases Entries.value? fields "parentId" with
    | none => simp [Deed.context]
    | some parent => by_cases hgiven : parent.isGiven <;> simp [Deed.context, hgiven]

/-- The fields that have no value are asked for in turn. -/
lemma does_askFields (kind : Entity) (values : Entries String) (fs : List Field) :
    Does w (askFields kind values fs) (Proceeds (openField? kind values fs) kind values) := by
  induction fs with
  | nil =>
    refine (does_store kind values).map (fun _ => Progress.finished) fun deed outcome h => ?_
    refine ⟨h.imp_right fun hcreated => ⟨rfl, hcreated⟩, fun q c hasks => ?_⟩
    cases outcome <;> exact nomatch hasks
  | cons f fs ih =>
    unfold askFields openField?
    rw [List.dropWhile_cons]
    split
    · exact ih
    · exact does_ask ⟨kind, values, .field f fs⟩

/-- The parent is asked for before the fields. -/
lemma does_askParent (kind : Entity) (values : Entries String) :
    Does w (askParent kind values) (Proceeds (openParent? w.session kind values) kind values) := by
  unfold askParent openParent?
  split
  · refine quiet_get.bind_does ?_ proceeds_error
    rintro _ w₁ rfl -
    cases Command.nonEmpty? (w.session.defaultParent? kind) with
    | some parent => exact does_ask ⟨kind, values, .parent (some parent)⟩
    | none => exact does_ask ⟨kind, values, .parent none⟩
  · exact does_askFields kind values _

/-- The title is asked for before the rest. -/
lemma does_begin (kind : Entity) (values : Entries String) :
    Does w (begin kind values) (Proceeds (open? w.session kind values) kind values) := by
  unfold begin open?
  split
  · exact does_askParent kind values
  · exact does_ask ⟨kind, values, .title⟩

/-- A creation after the answer to its question. -/
theorem does_resume (c : Creation) (answer : String) :
    Does w (c.resume answer)
      (Proceeds (c.next? w.session answer) c.kind (c.answered answer)) := by
  obtain ⟨kind, values, stage⟩ := c
  cases stage with
  | title => exact does_askParent kind _
  | parent default => exact does_askFields kind _ _
  | field f fs =>
    unfold resume next? answered
    dsimp only
    cases hproblem : f.problem? answer with
    | some problem =>
      refine (quiet_say (plain_problem problem)).bind_does ?_ proceeds_error
      rintro - w₁ - -
      exact does_ask ⟨kind, values, .field f fs⟩
    | none =>
      have h := does_askFields (w := w) kind
        (if answer = "" then values else values.put f.name answer) fs
      simpa using h

end Creation

/-- How a command can begin a creation: the first question is the one that its field values leave
open. -/
def Creation.Begins (c : Creation) (s : Session) (command : Command) : Prop :=
  ∃ kind : Entity, command.entity = some kind.name ∧
    Creation.open? s kind (Shell.valuesOf (Schema.ofEntity kind) command) = some c

namespace Shell

variable {w : World}

/-- `create` creates a record from the field values that it gives, or asks the first question. -/
theorem does_create (c : Command) :
    Does w (create c) fun deed outcome => c.Orders .create w deed ∧
      ∀ q a, outcome = .ok (.asks q a) → deed = .nothing ∧ q = a.question ∧ a.Begins w.session c := by
  have hfailed : ∀ e : Failure, c.Orders .create w .nothing ∧ ∀ q a,
      (Except.error e : Except Failure (Progress Creation)) = .ok (.asks q a) →
        Deed.nothing = .nothing ∧ q = a.question ∧ a.Begins w.session c :=
    fun _ => ⟨trivial, fun _ _ h => nomatch h⟩
  unfold create
  refine (quiet_requireEntity c _).bind_does ?_ hfailed
  rintro (_ | entity) w₁ hentity hnear₁
  · exact ⟨.nothing, Course.refl _, trivial, fun _ _ h => nomatch h⟩
  refine (quiet_schema entity).bind_does ?_ hfailed
  rintro _ w₂ ⟨kind, rfl, rfl⟩ hnear₂
  have hgiven : c.entity = some kind.name := (Option.filter_eq_some_iff.1 hentity.symm).1
  refine (quiet_warnUnknown _ _).bind_does ?_ hfailed
  rintro - w₃ - hnear₃
  refine quiet_get.bind_does ?_ hfailed
  rintro _ w₄ rfl hnear₄
  have hcontext : w₄.session.context = w.session.context :=
    (((hnear₁.trans hnear₂).trans hnear₃).trans hnear₄).context
  have hkind : (Schema.ofEntity kind).entity = kind := by cases kind <;> rfl
  have hcreated : ∀ (fields : Fields) (r : Record), r.kind = kind → c.Orders .create w
      (.created (Creation.inherit w₄.session kind (valuesOf (Schema.ofEntity kind) c)) fields r) := by
    rintro fields r rfl
    exact ⟨rfl, hgiven, Creation.inherit_congr hcontext⟩
  rw [hkind]
  dsimp only
  split
  · refine Does.map (R := fun deed _ => c.Orders .create w deed) (fun _ => Progress.finished) ?_
      fun deed outcome h => ⟨h, fun q a hasks => ?_⟩
    · refine quiet_get.bind_does ?_ fun _ => trivial
      rintro _ w₅ rfl -
      refine (Creation.does_store kind _).imp fun deed _ h => ?_
      rcases h with rfl | ⟨fields, r, rfl, hr⟩
      · trivial
      · exact hcreated fields r hr
    · cases outcome <;> exact nomatch hasks
  · unfold guidedCreate
    rw [String.append_assoc]
    refine (quiet_say (plain_creating _)).bind_does ?_ hfailed
    rintro - w₅ - hnear₅
    refine (quiet_say (by decide)).bind_does ?_ hfailed
    rintro - w₆ - hnear₆
    have hcontext' : w₆.session.context = w₄.session.context := (hnear₅.trans hnear₆).context
    refine (Creation.does_begin kind _).imp fun deed outcome h => ⟨?_, fun q a hasks => ?_⟩
    · rcases h.1 with rfl | ⟨hclosed, fields, r, rfl, hr⟩
      · trivial
      · have hordered := hcreated fields r hr
        rw [Creation.open?_congr hcontext'] at hclosed
        rw [Creation.inherit_of_open? hclosed] at hordered
        exact hordered
    · obtain ⟨hdeed, hq, hopen⟩ := h.2 q a hasks
      rw [Creation.open?_congr (hcontext'.trans hcontext)] at hopen
      exact ⟨hdeed, hq, kind, hgiven, hopen⟩

end Shell

end TaskShell
