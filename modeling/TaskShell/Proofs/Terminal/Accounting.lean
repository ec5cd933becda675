import TaskShell.Proofs.Terminal.Run

/-!
# Every line is accounted for

A line makes at most one change of the records. The journal keeps the change, then the one line that
announces it, then one refresh notice; a line that makes no change announces none and gives no
notice. This holds whatever fails: the failures are among the neutral occurrences around the change.

## Main definitions

* `Change`, `Change.Turns` — a change of one record, and what it makes of the records.
* `Occurrence.Neutral` — what the journal may keep besides a change.
* `Accounted` — the journal of a line agrees with what the line did.

## Main results

* `Terminal.hear_accounted` — every line of every run is accounted for.
-/

set_option autoImplicit false

namespace TaskShell

/-! ## Changes -/

/-- A change of one record. -/
inductive Change
  | created (record : Record)
  | updated (former record : Record)
  | removed (record : Record)

/-- What begins as an announcement is one. -/
lemma announces_append {claim : String} (h : claim ∈ claims) (rest : String) :
    Announces (claim ++ rest) := by
  refine ⟨claim, h, ?_⟩
  rw [String.toList_append]
  exact List.prefix_append _ _

namespace Change

/-- The line that announces a change: it names the kind and the id of the record. -/
def line : Change → String
  | .created r => "✓ Created " ++ r.kind.name ++ ": " ++ r.id
  | .updated _ r => "✓ Updated " ++ r.kind.name ++ ": " ++ r.id
  | .removed r => "✓ Removed " ++ r.kind.name ++ ": " ++ r.id

/-- A change turns some records into others: one record is added, changed in its place, or taken
away, and all others stay as they are. -/
def Turns (change : Change) (before after : List Record) : Prop :=
  match change with
  | .created r => after = before ++ [r] ∧ ∀ q ∈ before, q.id ≠ r.id
  | .updated former r => r.kind = former.kind ∧ r.id = former.id ∧
      ∃ front back, before = front ++ former :: back ∧ after = front ++ r :: back
  | .removed r => ∃ front back, before = front ++ r :: back ∧ after = front ++ back

/-- The line that announces a change does so. -/
lemma announces_line (change : Change) : Announces change.line := by
  cases change with
  | created r =>
    change Announces ("✓ Created " ++ r.kind.name ++ ": " ++ r.id)
    rw [String.append_assoc, String.append_assoc]
    exact announces_append (by decide) _
  | updated former r =>
    change Announces ("✓ Updated " ++ r.kind.name ++ ": " ++ r.id)
    rw [String.append_assoc, String.append_assoc]
    exact announces_append (by decide) _
  | removed r =>
    change Announces ("✓ Removed " ++ r.kind.name ++ ": " ++ r.id)
    rw [String.append_assoc, String.append_assoc]
    exact announces_append (by decide) _

end Change

/-- The change that a deed is, if it is one. -/
def Deed.change? : Deed → Option Change
  | .created _ _ r => some (.created r)
  | .updated _ former r => some (.updated former r)
  | .removed r => some (.removed r)
  | .nothing | .pointed .. | .emptied _ => none

/-- Neither a change nor a refresh notice, nor a line that announces a change. -/
def Occurrence.Neutral : Occurrence → Prop
  | .line text => ¬ Announces text
  | .change | .refresh => False
  | .failure _ => True

/-- What the journal keeps of a line agrees with what the line did to a terminal: nothing is changed,
announced or noticed; or one change is made, then announced, then noticed, each of them once. -/
inductive Accounted (t t' : Terminal) : List Occurrence → Prop
  | untouched {kept : List Occurrence} (records : t'.world.store.records = t.world.store.records)
      (refreshes : t'.world.refreshes = t.world.refreshes) (neutral : ∀ o ∈ kept, o.Neutral) :
      Accounted t t' kept
  | changed {change : Change} {before details after : List Occurrence}
      (turns : change.Turns t.world.store.records t'.world.store.records)
      (refreshes : t'.world.refreshes = t.world.refreshes + 1)
      (announces : Announces change.line)
      (neutral : ∀ o ∈ before ++ details ++ after, o.Neutral) :
      Accounted t t' (before ++ .change :: .line change.line :: details ++ .refresh :: after)

/-- A line that announces no change has left the records alone and given no notice. -/
lemma Accounted.records_eq {t t' : Terminal} {kept : List Occurrence} (h : Accounted t t' kept)
    (hsilent : ∀ text, .line text ∈ kept → ¬ Announces text) :
    t'.world.store.records = t.world.store.records ∧ t'.world.refreshes = t.world.refreshes := by
  cases h with
  | untouched hrecords hrefreshes hneutral => exact ⟨hrecords, hrefreshes⟩
  | changed hturns hrefreshes hannounces hneutral =>
    exact absurd hannounces (hsilent _ (by simp))

/-! ## Neutral occurrences -/

/-- Plain lines are neutral. -/
lemma neutral_lines {lines : List String} (h : ∀ line ∈ lines, Plain line) :
    ∀ o ∈ lines.map Occurrence.line, o.Neutral := by
  intro o ho
  obtain ⟨line, hline, rfl⟩ := List.mem_map.1 ho
  exact (h line hline).not_announces

/-- The questions of fields are plain. -/
lemma plain_fieldQuestion (kind : Entity) :
    ∀ f ∈ (Schema.ofEntity kind).guidedFields, f.question ≠ "" ∧ Plain f.question := by
  cases kind <;> decide

/-- The question of an activity that fits is plain. -/
lemma plain_question {activity : Activity} {w : World} (h : activity.Fits w) :
    Plain activity.question.line := by
  cases activity with
  | creation c =>
    obtain ⟨kind, values, stage⟩ := c
    rcases stage with _ | (_ | parent) | ⟨f, fs⟩
    · simp [Activity.question, Creation.question, Question.line, Plain]
    · simp [Activity.question, Creation.question, Question.line, Plain]
    · simp [Activity.question, Creation.question, Question.line, Plain]
    · obtain ⟨hne, hplain⟩ := plain_fieldQuestion kind f (h List.mem_cons_self)
      exact Plain.append hne hplain
  | removal r => simp [Activity.question, Removal.question, Question.line, Plain]
  | refusal message => simp [Activity.question, Question.line, Plain]

/-- The end of a line is neutral if the question that it asks is plain. -/
lemma neutral_closing {outcome : LineOutcome}
    (h : ∀ q a, outcome = .ok (.asks q a) → Plain q.line) :
    ∀ o ∈ Terminal.closing outcome, o.Neutral := by
  rcases outcome with e | _ | ⟨q, a⟩
  · intro o ho
    rcases List.mem_cons.1 ho with rfl | ho
    · trivial
    · rw [List.mem_singleton.1 ho]
      exact (plain_error e.message).not_announces
  · exact fun o ho => nomatch ho
  · intro o ho
    rw [List.mem_singleton.1 ho]
    exact (h q a rfl).not_announces

/-- The details of a report are plain. -/
lemma plain_details {deed : Deed} {line : String} {details : List String}
    (h : deed.report? = some (line, details)) : ∀ detail ∈ details, Plain detail := by
  cases deed with
  | created values fields r =>
    cases h
    intro detail hdetail
    rcases List.mem_cons.1 hdetail with rfl | hdetail
    · exact Plain.append (by decide) (by decide)
    · unfold Deed.parentLines at hdetail
      split at hdetail
      · split at hdetail
        · rw [List.mem_singleton.1 hdetail]
          exact Plain.append (by decide) (by decide)
        · exact nomatch hdetail
      · exact nomatch hdetail
  | updated changes former r =>
    cases h
    intro detail hdetail
    obtain ⟨field, -, rfl⟩ := List.mem_map.1 hdetail
    exact plain_fieldLine field
  | removed r =>
    cases h
    exact fun detail hdetail => nomatch hdetail
  | nothing => exact nomatch h
  | pointed level r => exact nomatch h
  | emptied level => exact nomatch h

/-! ## Deeds as changes -/

/-- A deed that is no change leaves the records alone and reports nothing. -/
lemma Deed.records_of_change? {deed : Deed} (h : deed.change? = none) (records : List Record) :
    deed.records records = records ∧ deed.report? = none := by
  cases deed with
  | nothing => exact ⟨rfl, rfl⟩
  | pointed level r => exact ⟨rfl, rfl⟩
  | emptied level => exact ⟨rfl, rfl⟩
  | created values fields r => exact nomatch h
  | updated changes former r => exact nomatch h
  | removed r => exact nomatch h

/-- A deed that is a change reports it by its line. -/
lemma Deed.report?_of_change? {deed : Deed} {change : Change} (h : deed.change? = some change) :
    ∃ details, deed.report? = some (change.line, details) := by
  cases deed with
  | created values fields r => cases h; exact ⟨_, rfl⟩
  | updated changes former r => cases h; exact ⟨_, rfl⟩
  | removed r => cases h; exact ⟨_, rfl⟩
  | nothing => exact nomatch h
  | pointed level r => exact nomatch h
  | emptied level => exact nomatch h

/-- On distinct records a possible deed that is a change turns them into what it makes of them. -/
lemma Deed.turns {deed : Deed} {change : Change} {records : List Record}
    (h : deed.change? = some change) (hdistinct : Store.Distinct records)
    (hpossible : deed.Possible records) : change.Turns records (deed.records records) := by
  cases deed with
  | created values fields r =>
    cases h
    refine ⟨rfl, fun q hq hid => ?_⟩
    have hfree := hpossible.1 q hq
    rw [hid, Store.sameId_self] at hfree
    exact nomatch hfree
  | updated changes former r =>
    cases h
    obtain ⟨hmem, hmerged, -⟩ := hpossible
    obtain ⟨front, back, rfl, hothers⟩ := hdistinct.split hmem
    exact ⟨hmerged.kind_eq, hmerged.id_eq, front, back, rfl,
      Store.replaced_split hmerged.kind_eq hmerged.id_eq hothers⟩
  | removed r =>
    cases h
    obtain ⟨front, back, rfl, hothers⟩ := hdistinct.split hpossible
    exact ⟨front, back, rfl, Store.erased_split hothers⟩
  | nothing => exact nomatch h
  | pointed level r => exact nomatch h
  | emptied level => exact nomatch h

/-! ## Lines -/

namespace Terminal

variable {t t' : Terminal} {deed : Deed} {outcome : LineOutcome}

/-- A line is accounted for if the question that it asks is plain. -/
lemma Heard.accounted (h : Heard t t' deed outcome)
    (hdistinct : Store.Distinct t.world.store.records)
    (hasks : ∀ q a, outcome = .ok (.asks q a) → Plain q.line) :
    ∃ kept, t'.world.journal = t.world.journal ++ kept ∧ Accounted t t' kept := by
  obtain ⟨said, hsaid, hjournal⟩ := h.journal
  have hbefore := neutral_lines hsaid
  have hafter := neutral_closing hasks
  refine ⟨_, hjournal, ?_⟩
  cases hchange : deed.change? with
  | none =>
    obtain ⟨hrecords, hreport⟩ := Deed.records_of_change? hchange t.world.store.records
    refine .untouched (h.records.trans hrecords) ?_ fun o ho => ?_
    · rw [h.refreshes, Deed.notices, hreport]
      rfl
    · simp only [Deed.occurrences, hreport, List.append_nil] at ho
      rcases List.mem_append.1 ho with ho | ho
      · exact hbefore o ho
      · exact hafter o ho
  | some change =>
    obtain ⟨details, hreport⟩ := Deed.report?_of_change? hchange
    have hkept : said.map .line ++ deed.occurrences ++ closing outcome =
        said.map .line ++ .change :: .line change.line :: details.map .line ++
          .refresh :: closing outcome := by
      simp [Deed.occurrences, Deed.reported, hreport]
    rw [hkept]
    refine .changed ?_ ?_ change.announces_line fun o ho => ?_
    · rw [h.records]
      exact Deed.turns hchange hdistinct h.possible
    · rw [h.refreshes, Deed.notices, hreport]
      rfl
    · rcases List.mem_append.1 ho with ho | ho
      · rcases List.mem_append.1 ho with ho | ho
        · exact hbefore o ho
        · exact neutral_lines (plain_details hreport) o ho
      · exact hafter o ho

/-- What a sound terminal asks is plain. -/
lemma plain_of_asks (h : t'.Sound) (hheard : Heard t t' deed outcome) {q : Question} {a : Activity}
    (hasks : outcome = .ok (.asks q a)) : Plain q.line := by
  have hprompt : t'.prompt = some ⟨q, a⟩ := by rw [hheard.prompt, hasks]; rfl
  obtain ⟨hq, hfits⟩ := h.waits _ hprompt
  rw [show q = a.question from hq]
  exact plain_question hfits

/-- **Every line is accounted for.** From an empty store, with any faults met by any calls, after any
events, whatever a terminal hears: it makes one change of the records, announced once afterwards by
a line with the kind and the id of the record and followed by one refresh notice, or it makes none,
announces none and gives none. So a line that only reports an error leaves the records alone.

**Proof sketch.** A reachable terminal is sound, so a line does one deed at most; the journal keeps
of it what its report says. On distinct records the deed turns one record and leaves the others.
Everything else that is written begins with another character than the announcements. -/
theorem hear_accounted (ids : IdSupply) (clock : Clock) (room : Json.Room) (session : Session)
    (aliases : Entries String) (faults : Nat → Faults) (events : List Event) (u : Utterance) :
    let t := (opened (Store.empty ids clock room) session aliases faults).after events
    ∃ kept, (t.hear u).world.journal = t.world.journal ++ kept ∧ Accounted t (t.hear u) kept ∧
      ((∀ text, .line text ∈ kept → ¬ Announces text) →
        (t.hear u).world.store.records = t.world.store.records ∧
          (t.hear u).world.refreshes = t.world.refreshes) := by
  intro t
  have hsound : t.Sound := (sound_empty ids clock room session aliases faults).after events
  obtain ⟨deed, outcome, hheard, -⟩ := heard_hear hsound.waits u
  obtain ⟨kept, hjournal, haccounted⟩ := hheard.accounted hsound.distinct fun q a hasks =>
    plain_of_asks (hsound.hear u) hheard hasks
  exact ⟨kept, hjournal, haccounted, haccounted.records_eq⟩

end Terminal

end TaskShell
