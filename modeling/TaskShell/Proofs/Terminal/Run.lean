import TaskShell.Proofs.Terminal.Line

/-!
# Runs of terminals

Whatever happens to a terminal, its records keep ids of their own and its pending question stays
that of an activity that fits. A line preserves this, and so does every other event: keystrokes
come down to lines, and a record stored past the terminal takes a free id.

## Main definitions

* `Terminal.opened` — a terminal at the start.
* `Terminal.hearAll`, `Terminal.after` — a terminal after some lines, and after some events.
* `Terminal.Lasting` — a property of terminals that lasts.
* `Terminal.Sound` — what holds of a terminal all the time.
* `Terminal.tour`, `Terminal.toured` — a run to try the theorems on.

## Main results

* `Terminal.Lasting.perform`, `Terminal.Lasting.after` — what lasts does so under one event, and
  under some in turn.
* `Terminal.lasting_sound` — a sound terminal stays so.
-/

set_option autoImplicit false

namespace TaskShell

/-! ## Records under deeds -/

namespace Store

/-- A record of some distinct ones, and the others around it. -/
lemma Distinct.split {records : List Record} (h : Distinct records) {r : Record}
    (hr : r ∈ records) : ∃ front back, records = front ++ r :: back ∧
      ∀ q ∈ front ++ back, sameId q.id r.id = false := by
  obtain ⟨front, back, rfl⟩ := List.append_of_mem hr
  obtain ⟨-, hback, hcross⟩ := List.pairwise_append.1 h
  refine ⟨front, back, rfl, fun q hq => ?_⟩
  rcases List.mem_append.1 hq with hq | hq
  · exact hcross q hq r List.mem_cons_self
  · rw [sameId_comm]
    exact (List.pairwise_cons.1 hback).1 q hq

/-- A record with another id is not named by this one. -/
lemma isNamed_eq_false {kind : Entity} {id : String} {q : Record} (h : sameId q.id id = false) :
    isNamed kind id q = false := by
  simp [isNamed, h]

/-- Replacing one of several distinct records leaves the others in place. -/
lemma replaced_split {front back : List Record} {former r : Record} (hkind : r.kind = former.kind)
    (hid : r.id = former.id) (h : ∀ q ∈ front ++ back, sameId q.id former.id = false) :
    replaced (front ++ former :: back) r = front ++ r :: back := by
  have hothers : ∀ l : List Record, (∀ q ∈ l, sameId q.id former.id = false) →
      l.map (fun q => if isNamed r.kind r.id q then r else q) = l := by
    intro l hl
    refine (List.map_congr_left fun q hq => ?_).trans (List.map_id l)
    rw [hid, isNamed_eq_false (hl q hq)]
    rfl
  have hself : isNamed r.kind r.id former = true :=
    (isNamed_iff _ _ _).2 ⟨hkind.symm, by rw [hid]; exact sameId_self _⟩
  unfold replaced
  rw [List.map_append, List.map_cons, if_pos hself,
    hothers front fun q hq => h q (List.mem_append_left _ hq),
    hothers back fun q hq => h q (List.mem_append_right _ hq)]

/-- Erasing one of several distinct records leaves the others. -/
lemma erased_split {front back : List Record} {r : Record}
    (h : ∀ q ∈ front ++ back, sameId q.id r.id = false) :
    erased (front ++ r :: back) r = front ++ back := by
  have hothers : ∀ q ∈ front ++ back, (!isNamed r.kind r.id q) = true := by
    intro q hq
    rw [isNamed_eq_false (h q hq)]
    rfl
  have hself : isNamed r.kind r.id r = true := (isNamed_iff _ _ _).2 ⟨rfl, sameId_self _⟩
  unfold erased
  rw [List.filter_append, List.filter_cons_of_neg (by simp [hself]), ← List.filter_append,
    List.filter_eq_self.2 hothers]

end Store

/-- A possible deed keeps records distinct. -/
lemma Deed.distinct_records {deed : Deed} {records : List Record} (h : Store.Distinct records)
    (hpossible : deed.Possible records) : Store.Distinct (deed.records records) := by
  cases deed with
  | created values fields r => exact h.append hpossible.1
  | updated changes former r =>
    obtain ⟨hmem, hmerged, -⟩ := hpossible
    exact h.replaced hmem hmerged.id_eq
  | removed r => exact List.Pairwise.filter _ h
  | nothing => exact h
  | pointed level r => exact h
  | emptied level => exact h

namespace Terminal

/-! ## Lines -/

/-- A terminal at the start. -/
def opened (store : Store) (session : Session) (aliases : Entries String)
    (faults : Nat → Faults) : Terminal :=
  { world := { store, session, faults }, aliases }

/-- A terminal after some lines. -/
def hearAll (t : Terminal) (us : List Utterance) : Terminal :=
  us.foldl hear t

/-- A terminal after some events. -/
def after (t : Terminal) (events : List Event) : Terminal :=
  events.foldl (fun t event => (t.perform event).2) t

/-- What holds of a terminal all the time: records have ids of their own, and the pending question
is that of an activity that fits. -/
structure Sound (t : Terminal) : Prop where
  distinct : Store.Distinct t.world.store.records
  waits : t.Waits

variable {t t' : Terminal}

/-- A terminal is sound at the start. -/
lemma sound_opened {store : Store} (h : Store.Distinct store.records) (session : Session)
    (aliases : Entries String) (faults : Nat → Faults) :
    (opened store session aliases faults).Sound :=
  ⟨h, fun _ hp => nomatch hp⟩

/-- A terminal is sound at the start if its store is empty. -/
lemma sound_empty (ids : IdSupply) (clock : Clock) (room : Json.Room) (session : Session)
    (aliases : Entries String) (faults : Nat → Faults) :
    (opened (Store.empty ids clock room) session aliases faults).Sound :=
  ⟨List.Pairwise.nil, fun _ hp => nomatch hp⟩

/-! ## Keystrokes -/

/-- Completing the buffer leaves the world and the pending question alone. -/
lemma complete_eq (t : Terminal) : t.complete.world = t.world ∧ t.complete.prompt = t.prompt := by
  unfold complete
  split
  · exact ⟨rfl, rfl⟩
  · split <;> exact ⟨rfl, rfl⟩

/-- A keystroke that completes no line leaves the world and the pending question alone. -/
lemma key_of_ne_return {c : Char} (hc : c ≠ '\r') :
    (t.key c).world = t.world ∧ (t.key c).prompt = t.prompt := by
  unfold key
  rw [if_neg hc]
  split
  · split <;> exact ⟨rfl, rfl⟩
  split
  · exact ⟨rfl, rfl⟩
  split
  · exact t.complete_eq
  split <;> exact ⟨rfl, rfl⟩

/-! ## What lasts -/

/-- A property of terminals that lasts whatever happens to them. It depends on the records, the context,
the pending question and what the journal holds, and it outlives a line, a dropped question, one asked
past the terminal, and a record stored past it. All other events come down to these. -/
structure Lasting (P : Terminal → Prop) : Prop where
  congr : ∀ {t t' : Terminal}, P t → t'.world.store.records = t.world.store.records →
    t'.world.session.context = t.world.session.context → t'.world.journal ⊆ t.world.journal →
    t'.prompt = t.prompt → P t'
  hear : ∀ {t : Terminal}, P t → ∀ u, P (t.hear u)
  drop : ∀ {t : Terminal}, P t → P { t with prompt := none }
  askRefusal : ∀ {t : Terminal}, P t → ∀ message,
    P (t.settle (.ok (.asks { text := "Q" } (.refusal message)), t.world))
  put : ∀ {t : Terminal}, P t → ∀ kind data, P (t.put kind data).2

namespace Lasting

variable {P : Terminal → Prop} (hP : Lasting P)
include hP

/-- What lasts does so when a terminal hears lines. -/
lemma hearAll (h : P t) (us : List Utterance) : P (t.hearAll us) :=
  List.foldlRecOn us Terminal.hear h fun _ h u _ => hP.hear h u

/-- What lasts does so when a line is complete. -/
lemma submit (h : P t) (line : String) : P (t.submit line).1 := by
  unfold Terminal.submit
  split
  · exact hP.hear h (.answer line)
  · split
    · exact h
    · exact hP.congr (hP.hear h (.command line)) rfl rfl (List.Subset.refl _) rfl

/-- What lasts does so under a keystroke. -/
lemma key (h : P t) (c : Char) : P (t.key c) := by
  by_cases hc : c = '\r'
  · subst hc
    have hcleared : P ({ t with buffer := [] }.draw ['\r', '\n']) :=
      hP.congr h rfl rfl (List.Subset.refl _) rfl
    exact hP.submit hcleared _
  · obtain ⟨hworld, hprompt⟩ := key_of_ne_return hc
    exact hP.congr h (by rw [hworld]) (by rw [hworld])
      (by rw [hworld]; exact List.Subset.refl _) hprompt

/-- What lasts does so under keystrokes. -/
lemma feed (h : P t) (keys : List Char) : P (t.feed keys) :=
  List.foldlRecOn keys Terminal.key h fun _ h c _ => hP.key h c

/-- What lasts does so whatever happens to a terminal. -/
theorem perform (h : P t) (event : Event) : P (t.perform event).2 := by
  have hcleared : P { t with world := { t.world with journal := [] }, echo := [] } :=
    hP.congr h rfl rfl (List.nil_subset _) rfl
  cases event with
  | command line => exact hP.hear hcleared (.command line)
  | answer line => exact hP.hear hcleared (.answer line)
  | feed keys => exact hP.feed hcleared keys.toList
  | submit line => exact hP.submit hcleared line
  | reset => exact hP.drop hcleared
  | askRefusal message => exact hP.askRefusal hcleared message
  | store kind data => exact hP.put hcleared kind data
  | interrupt | processing value | refuse operation message =>
    exact hP.congr hcleared rfl rfl (List.Subset.refl _) rfl
  | dump kind => exact hcleared

/-- What lasts does so whatever happens to a terminal in turn. -/
theorem after (h : P t) (events : List Event) : P (t.after events) :=
  List.foldlRecOn events _ h fun _ h event _ => hP.perform h event

end Lasting

/-! ## Records stored past the terminal -/

/-- A record stored past the terminal comes after the others and has an id of its own; the context and
the pending question stay. -/
lemma put_ends (t : Terminal) (kind : String) (data : Fields) :
    (t.put kind data).2.prompt = t.prompt ∧
      (t.put kind data).2.world.session.context = t.world.session.context ∧
      ((t.put kind data).2.world.store.records = t.world.store.records ∨
        ∃ r, (∀ q ∈ t.world.store.records, Store.sameId q.id r.id = false) ∧
          (t.put kind data).2.world.store.records = t.world.store.records ++ [r]) := by
  unfold put
  split
  · exact ⟨rfl, rfl, .inl rfl⟩
  next kind _ =>
  have hends := t.world.store.create_ends kind data
  rcases hrun : t.world.store.create kind data with ⟨e | id, s⟩
  · rw [hrun] at hends
    exact ⟨rfl, rfl, .inl hends⟩
  · rw [hrun] at hends
    obtain ⟨r, -, hs, hfree, -⟩ := hends
    exact ⟨rfl, rfl, .inr ⟨r, hfree, hs⟩⟩

/-! ## Sound terminals -/

namespace Sound

/-- A line keeps a terminal sound. -/
theorem hear (h : t.Sound) (u : Utterance) : (t.hear u).Sound := by
  obtain ⟨deed, outcome, hheard, hallows⟩ := heard_hear h.waits u
  refine ⟨?_, hheard.waits h.waits hallows⟩
  rw [hheard.records]
  exact Deed.distinct_records h.distinct hheard.possible

/-- A terminal with the records, the context and the pending question of a sound one is sound. -/
lemma congr (h : t.Sound) (hrecords : t'.world.store.records = t.world.store.records)
    (hcontext : t'.world.session.context = t.world.session.context)
    (hprompt : t'.prompt = t.prompt) : t'.Sound := by
  refine ⟨by rw [hrecords]; exact h.distinct, fun p hp => ?_⟩
  obtain ⟨hq, hfits⟩ := h.waits p (hprompt.symm.trans hp)
  exact ⟨hq, fits_congr hfits hrecords hcontext⟩

/-- A removal that waits for its record does so when others have come after it. -/
lemma fits_append {activity : Activity} {w w' : World} {added : List Record}
    (h : activity.Fits w) (hrecords : w'.store.records = w.store.records ++ added)
    (hcontext : w'.session.context = w.session.context) : activity.Fits w' := by
  cases activity with
  | creation c => exact Creation.Fits.congr h hcontext
  | removal r =>
    obtain ⟨record, hof, hfound⟩ := h
    refine ⟨record, hof, ?_⟩
    rw [hrecords, List.find?_append, hfound]
    rfl
  | refusal message => trivial

/-- A record stored past the terminal keeps it sound. -/
lemma put (h : t.Sound) (kind : String) (data : Fields) : (t.put kind data).2.Sound := by
  obtain ⟨hprompt, hcontext, hrecords | ⟨r, hfree, hrecords⟩⟩ := t.put_ends kind data
  · exact h.congr hrecords hcontext hprompt
  · refine ⟨?_, fun p hp => ?_⟩
    · rw [hrecords]
      exact h.distinct.append hfree
    · obtain ⟨hq, hfits⟩ := h.waits p (hprompt.symm.trans hp)
      exact ⟨hq, fits_append hfits hrecords hcontext⟩

end Sound

/-- A sound terminal stays so, whatever happens. -/
theorem lasting_sound : Lasting Sound where
  congr h hrecords hcontext _ hprompt := h.congr hrecords hcontext hprompt
  hear h := h.hear
  drop h := ⟨h.distinct, fun _ hp => nomatch hp⟩
  askRefusal h message := by
    refine ⟨h.distinct, fun p hp => ?_⟩
    cases hp
    exact ⟨rfl, trivial⟩
  put h := h.put

/-- Lines keep a terminal sound. -/
theorem Sound.hearAll (h : t.Sound) (us : List Utterance) : (t.hearAll us).Sound :=
  lasting_sound.hearAll h us

/-- Events keep a terminal sound. -/
theorem Sound.after (h : t.Sound) (events : List Event) : (t.after events).Sound :=
  lasting_sound.after h events

/-! ## A run to try -/

/-- The lines that create a program, change it, and go step by step through the creation of a project
in it, up to the last question. -/
def tour : List Utterance :=
  [.command "create program Apollo tags:, progress:50",
    .command "update program id0001 status:ACTIVE", .command "use program ID0001",
    .command "new project --guided", .answer "Lander", .answer "", .answer "", .answer "HIGH",
    .answer "someday"]

/-- A terminal after these lines. -/
def toured : Terminal :=
  (opened (Store.empty (.ofQueue []) {}) {} [] fun _ => {}).hearAll tour

end Terminal

end TaskShell
