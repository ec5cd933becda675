import TaskShell.Proofs.Shell.Updating
import TaskShell.Proofs.Terminal.Deletion

/-!
# Flags that are switched off

A creation reads what its flag for guidance says: with a word that switches it off the command is
obeyed as if the flag were not there. A removal does not read what its flags say. Any value that is
not empty forces it, the words that switch a flag off among them: the record is deleted at once,
where the same line without the flag asks and leaves the store alone.

## Main definitions

* `Shell.SwitchesOff` — a value that switches a flag off.
* `Command.unguided` — a command without its flag for guidance.
* `Command.removalLine` — a line that removes a record.
* `World.CanAsk`, `World.CanDelete` — calls that are not refused.
* `Shell.removed` — a world after a removal.
* `Shell.Removes` — what a removal comes to.

## Main results

* `Shell.perform_obey_unguided` — creations with and without a flag that is switched off.
* `Shell.removes_dispatch` — removals that ask, and removals that do not.
* `Shell.switches_read` — both, on the lines that spell such commands.
* `Shell.off_word_deletes` — a flag that is switched off deletes a record.
-/

set_option autoImplicit false

namespace TaskShell

/-! ## Words that switch off -/

/-- A value that switches a flag off, letter case aside. -/
def Shell.SwitchesOff (v : String) : Prop :=
  Text.lower v ∈ offWords

instance (v : String) : Decidable (Shell.SwitchesOff v) :=
  inferInstanceAs (Decidable (_ ∈ _))

/-- A word that switches a flag off has neither blanks nor quotes. -/
lemma Shell.SwitchesOff.plain {v : String} (h : SwitchesOff v) :
    ∀ c ∈ v.toList, Token.isPlain c = true := by
  have hwords : (offWords.all fun word => word.toList.all Token.isPlain) = true := by decide
  intro c hc
  by_contra hnot
  have hlower : Chars.IsLower c := by
    cases hblank : Text.isBlank c with
    | true => exact Chars.isLower_of_isBlank hblank
    | false =>
      have hquote : c = '"' ∨ c = '\'' := by
        simpa [Token.isPlain, hblank, Token.isQuote, ← Classical.or_iff_not_imp_left] using hnot
      rcases hquote with rfl | rfl <;> decide +kernel
  refine hnot (List.all_eq_true.1 (List.all_eq_true.1 hwords _ h) c ?_)
  rw [Text.lower, String.toList_ofList]
  exact Chars.mem_lowerFrom hlower hc false

/-- A word that switches a flag off is not empty. -/
lemma Shell.SwitchesOff.ne_empty {v : String} (h : SwitchesOff v) : v ≠ "" := by
  rintro rfl
  exact absurd h (by decide +kernel)

/-- Such a word can be typed as the value of a flag. -/
lemma Command.exists_typedFlag {name v : String} (hname : Token.IsKeyword name.toList)
    (h : Shell.SwitchesOff v) (dashed : Bool) :
    ∃ f : TypedFlag, f.key = name ∧ f.value = v ∧ f.dashed = dashed :=
  ⟨⟨name, v, dashed, hname, h.plain, fun _ hnil => h.ne_empty (String.toList_eq_nil_iff.1 hnil)⟩,
    rfl, rfl, rfl⟩

/-! ## Creations without guidance -/

namespace Entries

variable {α : Type} {entries : Entries α} {key : String} {value : α}

/-- Keys are hidden entry by entry. -/
lemma without_cons (key : String) (value : α) (rest : Entries α) (hidden : List String) :
    without ((key, value) :: rest) hidden =
      if key ∈ hidden then rest.without hidden else (key, value) :: rest.without hidden := by
  unfold without
  by_cases hkey : key ∈ hidden <;> simp [hkey]

/-- Where hidden keys are left out, hiding them makes no difference. -/
lemma filter_keys_without (entries : Entries α) {hidden : List String} {p : String → Bool}
    (h : ∀ key ∈ hidden, p key = false) :
    (entries.without hidden).keys.filter p = entries.keys.filter p := by
  induction entries with
  | nil => rfl
  | cons entry rest ih =>
    obtain ⟨k, v⟩ := entry
    have hkeys : keys ((k, v) :: rest) = k :: keys rest := rfl
    rw [without_cons, hkeys]
    split
    · next hk => rw [List.filter_cons_of_neg (by simp [h k hk]), ih]
    · next hk =>
      have hkept : keys ((k, v) :: without rest hidden) = k :: keys (without rest hidden) := rfl
      rw [hkept, List.filter_cons, List.filter_cons, ih]

/-- A new key that is hidden leaves what was there. -/
lemma without_put (h : key ∉ entries.keys) : (entries.put key value).without [key] = entries := by
  rw [put_of_notMem h, without, List.filter_append]
  have hkept : entries.filter (fun entry => !([key].contains entry.1)) = entries := by
    refine List.filter_eq_self.2 fun entry hentry => ?_
    have hne : entry.1 ≠ key := fun hsame => h (hsame ▸ List.mem_map_of_mem hentry)
    simpa using hne
  rw [hkept]
  simp

end Entries

namespace Command

/-- A command without what it says about guidance. -/
def unguided (c : Command) : Command :=
  { c with flags := c.flags.without ["guided"] }

variable {c : Command} {kind : Entity}

/-- Without its flag for guidance a command has its other flags. -/
lemma value?_unguided {name : String} (h : name ≠ "guided") :
    c.unguided.flags.value? name = c.flags.value? name := by
  rw [unguided, Entries.value?_without]
  simp [h]

/-- A command breaks the same rule with and without its flag for guidance. -/
lemma problem?_unguided (c : Command) : c.unguided.problem? = c.problem? := by
  have hflag : ∀ name, name ≠ "guided" → c.unguided.flagValue? name = c.flagValue? name :=
    fun name hname => by rw [flagValue?, flagValue?, value?_unguided hname]
  have htarget : c.unguided.targetProblem? = c.targetProblem? := by
    unfold targetProblem?
    rw [hflag "id" (by decide)]
    rfl
  have hchoice : ∀ name choices, name ≠ "guided" →
      c.unguided.choiceProblem? name choices = c.choiceProblem? name choices := by
    intro name choices hname
    rw [choiceProblem?, choiceProblem?, hflag name hname]
  unfold problem?
  rw [htarget, hchoice "priority" _ (by decide), hchoice "status" _ (by decide)]
  rfl

end Command

namespace Schema

variable {c : Command}

/-- No kind of records has a field for guidance. -/
lemma field?_guided (kind : Entity) : (ofEntity kind).field? "guided" = none := by
  cases kind <;> decide

/-- The flag for guidance is never unknown. -/
lemma unknownFlags_unguided (s : Schema) (c : Command) :
    s.unknownFlags c.unguided.flags = s.unknownFlags c.flags := by
  have hknown : ∀ key ∈ ["guided"], s.isUnknown key = false := by
    intro key hkey
    obtain rfl := List.mem_singleton.1 hkey
    rfl
  rw [unknownFlags, Command.unguided, Entries.filter_keys_without _ hknown, ← unknownFlags]

/-- The flag for guidance gives no value. -/
lemma collect_unguided (kind : Entity) (c : Command) :
    (ofEntity kind).collect c.unguided.flags = (ofEntity kind).collect c.flags := by
  have hfold : ∀ (flags values : Entries String),
      (flags.without ["guided"]).foldl (ofEntity kind).collectFlag values =
        flags.foldl (ofEntity kind).collectFlag values := by
    intro flags
    induction flags with
    | nil => exact fun _ => rfl
    | cons flag flags ih =>
      obtain ⟨key, raw⟩ := flag
      intro values
      rw [Entries.without_cons, List.foldl_cons]
      split
      · next hkey =>
        have hskipped : (ofEntity kind).collectFlag values (key, raw) = values := by
          rw [collectFlag, List.mem_singleton.1 hkey, field?_guided]
        rw [hskipped, ih]
      · rw [List.foldl_cons, ih]
  exact hfold c.flags []

end Schema

namespace Shell

variable {α β : Type} {w : World} {c : Command}

/-- A command without its flag for guidance does not ask for it. -/
lemma asksGuidance_unguided (c : Command) : asksGuidance c.unguided = false := by
  unfold asksGuidance Command.unguided
  rw [Entries.value?_without]
  rfl

/-- A command that switches guidance off does not ask for it. -/
lemma asksGuidance_of_switchesOff {v : String} (hv : c.flags.value? "guided" = some v)
    (hoff : SwitchesOff v) : asksGuidance c = false := by
  unfold asksGuidance
  rw [hv]
  simpa [SwitchesOff] using hoff

/-- Sequences that go on alike after their first part come to the same. -/
lemma perform_bind_congr {action : Shell α} {rest rest' : α → Shell β}
    (h : ∀ a w', action.perform w = (.ok a, w') → (rest a).perform w' = (rest' a).perform w') :
    (action >>= rest).perform w = (action >>= rest').perform w := by
  rcases hrun : action.perform w with ⟨e | a, w'⟩
  · rw [perform_bind_of_error hrun, perform_bind_of_error hrun]
  · rw [perform_bind_of_ok hrun, perform_bind_of_ok hrun, h a w' hrun]

/-- The schema that is found by a name is that of a kind. -/
lemma exists_of_perform_schema {name : String} {s : Schema} {w' : World}
    (h : (schema name).perform w = (.ok s, w')) : ∃ kind, s = Schema.ofEntity kind := by
  unfold schema Schema.ofName at h
  cases hkind : Entity.ofName? name with
  | none =>
    rw [hkind] at h
    exact nomatch congrArg Prod.fst h
  | some kind =>
    rw [hkind] at h
    exact ⟨kind, (Except.ok.inj (congrArg Prod.fst h)).symm⟩

/-- A creation that does not ask for guidance comes to the same without the flag for it. -/
lemma perform_create_unguided (h : asksGuidance c = false) (w : World) :
    (create c.unguided).perform w = (create c).perform w := by
  unfold create
  refine perform_bind_congr fun entity w₁ _ => ?_
  cases entity with
  | none => rfl
  | some entity =>
    dsimp only
    refine perform_bind_congr fun s w₂ hs => ?_
    obtain ⟨kind, rfl⟩ := exists_of_perform_schema hs
    have hvalues : valuesOf (Schema.ofEntity kind) c.unguided =
        valuesOf (Schema.ofEntity kind) c := by
      unfold valuesOf
      rw [Schema.collect_unguided]
      rfl
    unfold warnUnknown
    rw [Schema.unknownFlags_unguided, hvalues, h, asksGuidance_unguided]

/-- Nothing but the parts of the command matters to a creation. -/
lemma dispatch_create (hverb : c.verb = some "create") (line : String) :
    dispatch c line = do return (← create c).map .creation := by
  unfold dispatch
  rw [hverb]
  rfl

/-- A command that creates and switches guidance off is obeyed as if it did not mention guidance. -/
theorem perform_obey_unguided {v : String} (hverb : c.verb = some "create")
    (hv : c.flags.value? "guided" = some v) (hoff : SwitchesOff v) (line : String) (w : World) :
    (obey c.unguided line).perform w = (obey c line).perform w := by
  unfold obey
  rw [Command.problem?_unguided]
  cases c.problem? with
  | some problem => rfl
  | none =>
    dsimp only
    rw [dispatch_create (c := c.unguided) hverb, dispatch_create hverb, perform_map, perform_map,
      perform_create_unguided (asksGuidance_of_switchesOff hv hoff)]

end Shell

/-! ## Removals -/

/-- None of the calls that it takes to ask about a record is refused. -/
structure World.CanAsk (w : World) : Prop where
  repository : (w.faults w.calls).repository = none
  get : World.Serves { w with calls := w.calls + 1 } Faults.get

/-- None of the calls of the store that it takes to delete a record is refused. -/
structure World.CanDelete (w : World) : Prop where
  repository : (w.faults w.calls).repository = none
  delete : World.Serves { w with calls := w.calls + 1 } Faults.delete
  writing : (w.faults (w.calls + 1)).writing = none

/-- A record that is there is deleted. -/
lemma Store.delete_of_find? {s : Store} {kind : Entity} {id : Option String} {r : Record}
    (h : s.find? kind id = some r) :
    s.delete kind id = (.ok (), { s with records := erased s.records r }) := by
  have hends := s.deletes kind id
  generalize s.delete kind id = result at hends ⊢
  cases hends with
  | missing hnone => exact nomatch h.symm.trans hnone
  | erased hfound =>
    obtain rfl := Option.some.inj (h.symm.trans hfound)
    rfl

namespace Shell

variable {w : World} {c : Command} {r : Record}

/-- A world after a removal has made some calls: the record is gone, the context does not point at
it, and the removal is reported. The refresh notice may have failed. -/
def removed (w : World) (r : Record) (calls : Nat) (failure : Option Failure) : World :=
  { w with
    store := { w.store with records := Store.erased w.store.records r }
    session := { w.session with context := Deed.contextWithout w.session.context r }
    calls := w.calls + calls
    refreshes := w.refreshes + 1
    journal := w.journal ++ ((Deed.removed r).occurrences ++ failure.toList.map .failure) }

/-- The deletion of a record that is there, if no call is refused. -/
lemma perform_deleteRecord (hfound : w.store.find? r.kind (some r.id) = some r)
    (hserves : w.Serves Faults.delete) (hwriting : (w.faults w.calls).writing = none) :
    (deleteRecord r.kind (some r.id)).perform w = (.ok (),
      { w with
        store := { w.store with records := Store.erased w.store.records r }
        calls := w.calls + 1
        journal := w.journal ++ [.change] }) := by
  unfold deleteRecord changeStore
  rw [perform_bind_of_ok (perform_callUnless hserves), hwriting, perform_bind_of_ok (perform_get _)]
  dsimp only
  rw [Store.delete_of_find? hfound]
  rfl

/-- A removal carried out on a record that is there, if no call of the store is refused. -/
lemma perform_carryOut (hfound : w.store.find? r.kind (some r.id) = some r) (hcalls : w.CanDelete) :
    ∃ outcome, (Removal.carryOut ⟨r.kind.name, r.fields⟩).perform w =
      (outcome, removed w r 3 (failureOf outcome)) := by
  have hdelete := perform_deleteRecord (w := { w with calls := w.calls + 1 }) hfound hcalls.delete
    hcalls.writing
  -- whichever way the context is brought up to date, the report comes next
  obtain ⟨outcome, hreport⟩ : ∃ outcome, ∀ context,
      context = Deed.contextWithout w.session.context r →
      perform (do say ("✓ Removed " ++ r.kind.name ++ ": " ++ r.id); notify)
        { w with
          store := { w.store with records := Store.erased w.store.records r }
          session := { w.session with context }
          calls := w.calls + 2
          journal := w.journal ++ [.change] } =
        (outcome, removed w r 3 (failureOf outcome)) := by
    obtain ⟨outcome, hnotify⟩ := perform_notify
      { w with
        store := { w.store with records := Store.erased w.store.records r }
        session := { w.session with context := Deed.contextWithout w.session.context r }
        calls := w.calls + 2
        journal := w.journal ++ [.change] ++ [.line ("✓ Removed " ++ r.kind.name ++ ": " ++ r.id)] }
    refine ⟨outcome, fun context hcontext => ?_⟩
    rw [perform_say_bind, hcontext, hnotify]
    simp [removed, Deed.occurrences, Deed.report?, Deed.reported]
  refine ⟨outcome, ?_⟩
  unfold Removal.carryOut
  rw [perform_bind_of_ok (perform_repository r.kind hcalls.repository)]
  dsimp only
  rw [idOf_fields, perform_bind_of_ok hdelete]
  unfold Deed.contextWithout at hreport
  split
  · next level hlevel =>
    rw [perform_bind_of_ok (perform_get _)]
    rw [hlevel] at hreport
    dsimp only at hreport ⊢
    split
    · next hcurrent =>
      unfold focus
      rw [perform_bind_of_ok (perform_modifySession _ _)]
      exact hreport _ (by rw [if_pos hcurrent])
    · next hother => exact hreport _ (by rw [if_neg hother])
  · next hlevel =>
    rw [hlevel] at hreport
    exact hreport w.session.context rfl

/-- What a command that removes a record that is there comes to: it asks if no flag forces it, and
if one does it deletes the record at once, whatever the flag says. -/
structure Removes (w : World) (c : Command) (r : Record) (action : Shell (Progress Activity)) :
    Prop where
  asks : ¬ c.IsForced → w.CanAsk → action.perform w =
    (.ok (.asks { text := r.removalText } (.removal ⟨r.kind.name, r.fields⟩)),
      { w with calls := w.calls + 2 })
  deletes : c.IsForced → w.CanAsk → World.CanDelete { w with calls := w.calls + 2 } →
    ∃ outcome, action.perform w = (outcome, removed w r 5 (failureOf outcome)) ∧
      ∀ question next, outcome ≠ .ok (.asks question next)

/-- A command is forced just if one of two flags has a value that is not empty. -/
lemma isForced_iff : c.IsForced ↔ (c.flag? ["force", "yes"]).isSome := by
  constructor
  · rintro ⟨value, hne, hvalue⟩
    rw [Command.flag?, List.findSome?_isSome_iff]
    rcases hvalue with hforce | hyes
    · refine ⟨"force", by simp, ?_⟩
      rw [Command.flagValue?, hforce, Command.nonEmpty?_eq_some.2 ⟨rfl, hne⟩]
      rfl
    · refine ⟨"yes", by simp, ?_⟩
      rw [Command.flagValue?, hyes, Command.nonEmpty?_eq_some.2 ⟨rfl, hne⟩]
      rfl
  · exact Command.isForced_of_flag?

/-- A command that removes a record that is there asks or is forced. -/
lemma perform_remove (hentity : c.entity = some r.kind.name)
    (hfound : w.store.find? r.kind c.recordId? = some r) (hcalls : w.CanAsk) :
    (remove c).perform w =
      (if (c.flag? ["force", "yes"]).isSome then do
          Removal.carryOut ⟨r.kind.name, r.fields⟩
          return .finished
        else return .asks (Removal.question ⟨r.kind.name, r.fields⟩) ⟨r.kind.name, r.fields⟩ :
          Shell (Progress Removal)).perform { w with calls := w.calls + 2 } := by
  unfold remove
  rw [perform_bind_of_ok (perform_requireEntity hentity _ w)]
  dsimp only
  rw [perform_bind_of_ok (perform_repository r.kind hcalls.repository),
    perform_bind_of_ok (perform_findRecord r.kind c.recordId? hcalls.get)]
  dsimp only
  rw [hfound]
  rfl

/-- A command that removes a record reads whether a flag forces it, and not what the flag says. -/
theorem removes_dispatch (hverb : c.verb = some "remove") (hentity : c.entity = some r.kind.name)
    (hfound : w.store.find? r.kind c.recordId? = some r) (line : String) :
    Removes w c r (dispatch c line) := by
  have hdispatch : dispatch c line = do return (← remove c).map .removal := by
    unfold dispatch
    rw [hverb]
    rfl
  rw [hdispatch]
  constructor
  · intro hcalm hcalls
    rw [perform_map, perform_remove hentity hfound hcalls, if_neg (mt isForced_iff.2 hcalm)]
    rfl
  · intro hforced hcalls hdelete
    obtain ⟨outcome, hrun⟩ :=
      perform_carryOut (w := { w with calls := w.calls + 2 }) (Store.find?_own_id hfound) hdelete
    rw [perform_map, perform_remove hentity hfound hcalls, if_pos (isForced_iff.1 hforced),
      perform_map, hrun]
    cases outcome with
    | ok => exact ⟨.ok .finished, rfl, nofun⟩
    | error e => exact ⟨.error e, rfl, nofun⟩

end Shell

/-! ## Lines with flags -/

namespace Command

open Token (Word)
open Shortcut (Unaliased)

variable {aliases : Entries String} {word id : String} {title : Title} {flags : List TypedFlag}
  {f : TypedFlag}

/-- A line that creates a record is trimmed. -/
lemma text_trim_creationLine (hword : IsBare word) (title : Title) (flags : List TypedFlag) :
    Text.trim (creationLine "create" word title flags) =
      creationLine "create" word title flags := by
  have hcreate : IsBare "create" := by decide
  exact trim_of_spellApart hcreate.complete (creationWords_complete hword title flags)
    (toList_creationLine "create" word title flags)

/-- The command that a line which creates a record stands for. -/
lemma parse_creationLine {kind : Entity} (hword : IsBare word)
    (hkind : Vocabulary.entity word = kind.name)
    (halias : Unaliased aliases (creationLine "create" word title flags)) :
    parse aliases (creationLine "create" word title flags) =
      { verb := some "create", entity := some kind.name, target := some title.text,
        flags := .ofPairs (flags.map fun f => (f.key, f.value)),
        raw := creationLine "create" word title flags } := by
  have hcreate : IsBare "create" := by decide
  have hverb : Vocabulary.verb "create" = "create" := by decide +kernel
  have hexpand := Shortcut.expand_of_heading (text_trim_creationLine hword title flags) halias
    (toList_creationLine_eq "create" word title flags) (Shortcut.not_blank_of_isBare hcreate)
    (Shortcut.not_blank_of_head hword) (by decide)
  rw [parse, hexpand, ofLine_creationLine hcreate hword]
  simp [normalize, hverb, hkind]

/-- A flag for guidance behind others that are not about it is hidden. -/
lemma ofPairs_unguided {pairs : List (String × String)} (h : ∀ pair ∈ pairs, pair.1 ≠ "guided")
    (v : String) :
    (Entries.ofPairs (pairs ++ [("guided", v)])).without ["guided"] = .ofPairs pairs := by
  have hput : Entries.ofPairs (pairs ++ [("guided", v)]) =
      (Entries.ofPairs pairs).put "guided" v := by
    simp [Entries.ofPairs, Entries.overlay]
  rw [hput, Entries.without_put]
  rw [← Entries.value?_isSome_iff, Entries.value?_ofPairs, Entries.value?_isSome_iff]
  intro hmem
  obtain ⟨pair, hpair, hkey⟩ := List.mem_map.1 hmem
  exact h pair (List.mem_reverse.1 hpair) hkey

/-- A line that removes a record: a word for its kind, its id, and flags. -/
def removalLine (word id : String) (flags : List TypedFlag) : String :=
  Text.join " " ("remove" :: word :: id :: flags.map TypedFlag.text)

/-- The words of a line that removes a record. -/
lemma toList_removalLine (word id : String) (flags : List TypedFlag) :
    (removalLine word id flags).toList = Token.spellApart [.plain "remove".toList]
      ([.plain word.toList] :: [.plain id.toList] ::
        flags.map fun f => [.plain f.text.toList]) := by
  rw [removalLine, Text.toList_join]
  simp [Token.spellApart, Word.spelling, Token.Segment.spelling, List.flatMap_map]

/-- They end before the line does. -/
lemma complete_removalLine (hword : IsBare word) (hid : IsBare id) (flags : List TypedFlag) :
    ∀ v ∈ [Token.Segment.plain word.toList] :: [.plain id.toList] ::
      flags.map fun f => [.plain f.text.toList], Word.Complete v := by
  refine List.forall_mem_cons.2 ⟨hword.complete, List.forall_mem_cons.2 ⟨hid.complete, ?_⟩⟩
  intro v hv
  obtain ⟨f, -, rfl⟩ := List.mem_map.1 hv
  exact f.complete

/-- A line that removes a record is trimmed. -/
lemma trim_removalLine (hword : IsBare word) (hid : IsBare id) (flags : List TypedFlag) :
    Text.trim (removalLine word id flags) = removalLine word id flags := by
  have hremove : IsBare "remove" := by decide
  exact trim_of_spellApart hremove.complete (complete_removalLine hword hid flags)
    (toList_removalLine word id flags)

/-- The command that a line which removes a record stands for. -/
lemma parse_removalLine {kind : Entity} (hword : IsBare word) (hid : IsBare id)
    (hkind : Vocabulary.entity word = kind.name)
    (halias : Unaliased aliases (removalLine word id flags)) :
    parse aliases (removalLine word id flags) =
      { verb := some "remove", entity := some kind.name, target := some id,
        flags := .ofPairs (flags.map fun f => (f.key, f.value)),
        raw := removalLine word id flags } := by
  have hremove : IsBare "remove" := by decide
  have hverb : Vocabulary.verb "remove" = "remove" := by decide +kernel
  have hline : (removalLine word id flags).toList = "remove".toList ++ ' ' :: (word.toList ++
      (([.plain id.toList] :: flags.map fun f => [.plain f.text.toList]).flatMap
        fun v => ' ' :: Word.spelling v)) := by
    rw [toList_removalLine]
    simp [Token.spellApart, Word.spelling, Token.Segment.spelling]
  have hexpand := Shortcut.expand_of_heading (trim_removalLine hword hid flags) halias hline
    (Shortcut.not_blank_of_isBare hremove) (Shortcut.not_blank_of_head hword) (by decide)
  have hflag (f : TypedFlag) : Role.ofToken ⟨f.text.toList, false⟩ = .setting f.key f.value := by
    rw [← Word.token_plain]
    exact (Word.plays_iff.1 f.plays).symm
  rw [parse, hexpand, ofLine_spellApart hremove.complete (complete_removalLine hword hid flags)
    (toList_removalLine word id flags), List.map_cons, List.map_cons, List.map_cons,
    Word.token_plain, Word.token_plain, Word.token_plain, hremove.positional, hword.positional,
    hid.positional]
  simp [ofRoles, normalize, hflag, hverb, hkind, Role.word?, Role.setting?, List.filterMap_cons,
    Function.comp_def]

/-- A line that removes a record breaks no rule, if all its flags force it. -/
lemma problem?_removal {c : Command} {kind : Entity} (hverb : c.verb = some "remove")
    (hentity : c.entity = some kind.name) (hid : IsBare id) (htarget : c.target = some id)
    (hflags : ∀ name, name ∉ ["force", "yes"] → c.flags.value? name = none) :
    c.problem? = none := by
  have hflag : ∀ name, name ∉ ["force", "yes"] → c.flagValue? name = none := fun name hname => by
    rw [flagValue?, hflags name hname]
    rfl
  have hne : id ≠ "" := fun hempty => hid.ne_nil (by rw [hempty]; rfl)
  refine problem?_of_known hverb (by decide) hentity ?_ ?_ ?_
  · unfold targetProblem?
    rw [hverb, htarget]
    simp [given, hne]
  · unfold choiceProblem?
    rw [hflag "priority" (by decide)]
  · unfold choiceProblem?
    rw [hflag "status" (by decide)]

end Command

namespace Shell

open Command (IsBare Title TypedFlag creationLine removalLine)
open Shortcut (Unaliased)

variable {w : World} {aliases : Entries String} {word id : String} {kind : Entity} {title : Title}
  {flags : List TypedFlag} {f : TypedFlag}

/-- A line that creates a record is obeyed once the session has remembered it. -/
lemma perform_creationLine (hword : IsBare word) (hkind : Vocabulary.entity word = kind.name)
    (halias : Unaliased aliases (creationLine "create" word title flags)) :
    (run aliases (creationLine "create" word title flags)).perform w =
      (obey (Command.parse aliases (creationLine "create" word title flags))
        (creationLine "create" word title flags)).perform
          { w with session := w.session.remember (creationLine "create" word title flags) } := by
  have hblank : ' ' ∈ (creationLine "create" word title flags).toList := by
    rw [Command.toList_creationLine_eq]
    simp
  have hparse := Command.parse_creationLine hword hkind halias
  exact perform_run_obey (Command.text_trim_creationLine hword title flags) hblank rfl
    (congrArg Command.verb hparse) (by decide)

/-- What a command that creates comes to has nothing to do with the line that spells it. -/
lemma obey_of_raw {c : Command} (hverb : c.verb = some "create") (raw line line' : String) :
    obey { c with raw } line = obey c line' := by
  have hproblem : Command.problem? { c with raw } = c.problem? := rfl
  unfold obey
  rw [hproblem, dispatch_create hverb, dispatch_create (c := { c with raw }) hverb]
  rfl

/-- A line that creates a record and switches guidance off comes to what it comes to without the
flag. -/
lemma perform_creationLine_of_switchesOff (hword : IsBare word)
    (hkind : Vocabulary.entity word = kind.name) (hflags : ∀ g ∈ flags, g.key ≠ "guided")
    (hf : f.key = "guided") (hoff : SwitchesOff f.value)
    (halias : Unaliased aliases (creationLine "create" word title (flags ++ [f])))
    (halias' : Unaliased aliases (creationLine "create" word title flags)) :
    (run aliases (creationLine "create" word title (flags ++ [f]))).perform w =
      (obey (Command.parse aliases (creationLine "create" word title flags))
        (creationLine "create" word title flags)).perform
          { w with session :=
            w.session.remember (creationLine "create" word title (flags ++ [f])) } := by
  have hpairs : ∀ pair ∈ flags.map fun g => (g.key, g.value), pair.1 ≠ "guided" := by
    intro pair hpair
    obtain ⟨g, hg, rfl⟩ := List.mem_map.1 hpair
    exact hflags g hg
  have hparse := Command.parse_creationLine hword hkind halias
  have hparse' := Command.parse_creationLine hword hkind halias'
  rw [List.map_append, List.map_singleton, hf] at hparse
  rw [perform_creationLine hword hkind halias]
  generalize creationLine "create" word title (flags ++ [f]) = line at hparse ⊢
  generalize creationLine "create" word title flags = line' at hparse' ⊢
  have hverb : (Command.parse aliases line').verb = some "create" := by rw [hparse']
  have hsame : (Command.parse aliases line).unguided =
      { Command.parse aliases line' with raw := line } := by
    rw [hparse, hparse']
    unfold Command.unguided
    rw [Command.ofPairs_unguided hpairs]
  have hv : (Command.parse aliases line).flags.value? "guided" = some f.value := by
    rw [hparse, Entries.value?_ofPairs]
    simp [Entries.value?]
  rw [← perform_obey_unguided (by rw [hparse]) hv hoff, hsame, obey_of_raw hverb line line line']

/-- A line that removes a record, with flags that force it, is run once the session has remembered
it. -/
lemma perform_removalLine (hword : IsBare word) (hkind : Vocabulary.entity word = kind.name)
    (hid : IsBare id) (hflags : ∀ f ∈ flags, f.key ∈ ["force", "yes"])
    (halias : Unaliased aliases (removalLine word id flags)) :
    (run aliases (removalLine word id flags)).perform w =
      (dispatch (Command.parse aliases (removalLine word id flags))
        (removalLine word id flags)).perform
          { w with session := w.session.remember (removalLine word id flags) } := by
  have hblank : ' ' ∈ (removalLine word id flags).toList := by
    rw [Command.toList_removalLine]
    simp [Token.spellApart]
  have hparse := Command.parse_removalLine hword hid hkind halias
  have hothers : ∀ name, name ∉ ["force", "yes"] →
      (Command.parse aliases (removalLine word id flags)).flags.value? name = none := by
    intro name hname
    rw [hparse, Entries.value?_ofPairs, Entries.value?_eq_none_iff]
    intro hmem
    obtain ⟨pair, hpair, hkey⟩ := List.mem_map.1 hmem
    obtain ⟨f, hf, rfl⟩ := List.mem_map.1 (List.mem_reverse.1 hpair)
    exact hname (hkey ▸ hflags f hf)
  refine perform_run (Command.trim_removalLine hword hid flags) hblank rfl
    (congrArg Command.verb hparse) (by decide) ?_
  exact Command.problem?_removal (congrArg Command.verb hparse) (congrArg Command.entity hparse) hid
    (congrArg Command.target hparse) hothers

/-- Of flags that are not empty a single one forces a removal, whatever it says. -/
lemma isForced_removalLine (hword : IsBare word) (hkind : Vocabulary.entity word = kind.name)
    (hid : IsBare id) (hflags : ∀ f ∈ flags, f.key ∈ ["force", "yes"])
    (hgiven : ∀ f ∈ flags, f.value ≠ "")
    (halias : Unaliased aliases (removalLine word id flags)) :
    (Command.parse aliases (removalLine word id flags)).IsForced ↔ flags ≠ [] := by
  rw [Command.parse_removalLine hword hid hkind halias]
  unfold Command.IsForced
  dsimp only
  simp only [Entries.value?_ofPairs]
  constructor
  · rintro ⟨value, -, hvalue⟩ rfl
    rcases hvalue with hnone | hnone <;> exact nomatch hnone
  · intro hne
    obtain ⟨f, hf⟩ := List.exists_mem_of_ne_nil flags hne
    have hkey : f.key ∈ Entries.keys (flags.map fun g => (g.key, g.value)).reverse :=
      List.mem_map.2 ⟨_, List.mem_reverse.2 (List.mem_map_of_mem hf), rfl⟩
    obtain ⟨value, hvalue⟩ := Option.isSome_iff_exists.1 ((Entries.value?_isSome_iff _ _).2 hkey)
    obtain ⟨g, hg, hpair⟩ :=
      List.mem_map.1 (List.mem_reverse.1 (Entries.mem_of_value? hvalue))
    obtain ⟨-, rfl⟩ := Prod.mk.inj hpair
    refine ⟨g.value, hgiven g hg, ?_⟩
    have hname := hflags f hf
    simp only [List.mem_cons, List.not_mem_nil, or_false] at hname
    rcases hname with hforce | hyes
    · exact .inl (hforce ▸ hvalue)
    · exact .inr (hyes ▸ hvalue)

/-- **Creations read what their flag for guidance says; removals do not read what their flags say.**
For a store after any operations, and any aliases:

* a command that creates and switches guidance off is obeyed as if it did not mention guidance; a
  line that creates a record of any kind with any title and other flags, and ends in a flag that
  switches guidance off, is once the session has remembered it what the line without that flag is;
* a command that removes a record which is there asks about it and leaves the store alone if neither
  of its two flags has a value that is not empty; if one has, whatever it says, the record is
  deleted at once. On a line that removes a record, with a bare id in any case of its basic letters,
  any flag that is not empty does so, the words that switch a flag off among them.

**Proof sketch.** The flag for guidance names no field and is never unknown, so that a creation
meets it in one place only, where it looks whether the value is one of the words. A removal looks
whether there is a value (`perform_remove`). Lines are read word by word. -/
theorem switches_read (ids : IdSupply) (clock : Clock) (room : Json.Room)
    (ops : List Store.Operation) {w : World}
    (hstore : w.store = (Store.empty ids clock room).after ops) (aliases : Entries String) :
    (∀ (c : Command) (v line : String), c.verb = some "create" →
        c.flags.value? "guided" = some v → SwitchesOff v →
          (obey c line).perform w = (obey c.unguided line).perform w) ∧
      (∀ (word : String) (kind : Entity) (title : Title) (flags : List TypedFlag) (f : TypedFlag),
        IsBare word → Vocabulary.entity word = kind.name → (∀ g ∈ flags, g.key ≠ "guided") →
        f.key = "guided" → SwitchesOff f.value →
        let line := creationLine "create" word title (flags ++ [f])
        let line' := creationLine "create" word title flags
        let c := Command.parse aliases line'
        Unaliased aliases line → Unaliased aliases line' →
          (run aliases line).perform w =
              (obey c line').perform { w with session := w.session.remember line } ∧
            (run aliases line').perform w =
              (obey c line').perform { w with session := w.session.remember line' }) ∧
      ∀ r ∈ w.store.records,
        (∀ (c : Command) (line : String), c.verb = some "remove" → c.IsFor r →
          Removes w c r (dispatch c line)) ∧
        ∀ (word id : String) (flags : List TypedFlag), IsBare word →
          Vocabulary.entity word = r.kind.name → IsBare id →
          Text.foldBasic r.id = Text.foldBasic id → (∀ f ∈ flags, f.key ∈ ["force", "yes"]) →
          let line := removalLine word id flags
          let c := Command.parse aliases line
          let remembered := { w with session := w.session.remember line }
          Unaliased aliases line →
            (run aliases line).perform w = (dispatch c line).perform remembered ∧
              Removes remembered c r (dispatch c line) ∧
              ((∀ f ∈ flags, f.value ≠ "") → (c.IsForced ↔ flags ≠ [])) := by
  have hdistinct : Store.Distinct w.store.records := by
    rw [hstore]
    exact ((Store.intact_empty ids clock room).after ops).distinct
  refine ⟨fun c v line hverb hv hoff => (perform_obey_unguided hverb hv hoff line w).symm,
    ?_, fun r hr => ⟨fun c line hverb hfor => ?_, ?_⟩⟩
  · intro word kind title flags f hword hkind hflags hf hoff line line' c halias halias'
    exact ⟨perform_creationLine_of_switchesOff hword hkind hflags hf hoff halias halias',
      perform_creationLine hword hkind halias'⟩
  · exact removes_dispatch hverb hfor.1
      ((hdistinct.find?_eq_some_iff_isFor hfor.1).2 ⟨hr, hfor⟩) line
  · intro word id flags hword hkind hid hsame hflags line c remembered halias
    have hparse := Command.parse_removalLine hword hid hkind halias
    have hentity : c.entity = some r.kind.name := congrArg Command.entity hparse
    have hnamed : c.recordId? = some id := by
      have hne : id ≠ "" := fun hempty => hid.ne_nil (by rw [hempty]; rfl)
      have htarget : c.target = some id := congrArg Command.target hparse
      rw [Command.recordId?, htarget, Command.nonEmpty?_eq_some.2 ⟨rfl, hne⟩]
      rfl
    have hfor : c.IsFor r := Command.isFor_of_foldBasic hentity hnamed hsame
    have hfound : remembered.store.find? r.kind c.recordId? = some r :=
      (hdistinct.find?_eq_some_iff_isFor hentity).2 ⟨hr, hfor⟩
    exact ⟨perform_removalLine hword hkind hid hflags halias,
      removes_dispatch (congrArg Command.verb hparse) hentity hfound line,
      fun hgiven => isForced_removalLine hword hkind hid hflags hgiven halias⟩

/-- A store with one program, which a line asks about, and which the same line with a flag that says
no deletes at once. -/
theorem switches_read_apollo :
    let w : World :=
      { store := (Store.empty (.ofQueue ["A1"]) {}).after
          [.create .program [("title", .text "Apollo")]]
        session := {} }
    let asked := (run [] "remove program a1").perform w
    let forced := (run [] "remove program a1 --yes=NO").perform w
    SwitchesOff "NO" ∧ w.store.records.length = 1 ∧
      asked.2.store.records = w.store.records ∧
      (∃ question next, asked.1 = .ok (.asks question next)) ∧
      forced.2.store.records = [] ∧ ∀ question next, forced.1 ≠ .ok (.asks question next) := by
  intro w asked forced
  have hoff : SwitchesOff "NO" := by decide +kernel
  have hshown : w.store.records.map (fun r => (r.kind, r.id)) = [(.program, "A1")] := by
    decide +kernel
  obtain ⟨r, rest, hrecords, hr, hnil⟩ := List.map_eq_cons_iff.1 hshown
  obtain rfl := List.map_eq_nil_iff.1 hnil
  obtain ⟨hkind, hid⟩ := Prod.mk.inj hr
  have hmem : r ∈ w.store.records := by
    rw [hrecords]
    exact List.mem_cons_self
  have hkeyword : Token.IsKeyword "yes".toList := ⟨by decide, List.all_eq_true.1 (by decide)⟩
  obtain ⟨f, hkey, hvalue, hdashed⟩ := Command.exists_typedFlag hkeyword hoff true
  have hword : IsBare "program" ∧ IsBare "a1" := by decide
  have hentity : Vocabulary.entity "program" = r.kind.name := by
    rw [hkind]
    decide +kernel
  have hsame : Text.foldBasic r.id = Text.foldBasic "a1" := by
    rw [hid]
    decide
  have hread := ((switches_read _ _ _ _ (w := w) rfl []).2.2 r hmem).2 "program" "a1"
  obtain ⟨hasked, hasks, hcalm⟩ :=
    hread [] hword.1 hentity hword.2 hsame (List.forall_mem_nil _) rfl
  obtain ⟨hrun, hremoves, hforced⟩ :=
    hread [f] hword.1 hentity hword.2 hsame (List.forall_mem_singleton.2 (by simp [hkey])) rfl
  have hplain : removalLine "program" "a1" [] = "remove program a1" := rfl
  have hline : removalLine "program" "a1" [f] = "remove program a1 --yes=NO" := by
    rw [removalLine, List.map_singleton, TypedFlag.text, hkey, hvalue, hdashed]
    rfl
  rw [hasks.asks (fun h => (hcalm (List.forall_mem_nil _)).1 h rfl) ⟨rfl, ⟨rfl, rfl⟩⟩, hplain]
    at hasked
  obtain ⟨outcome, hdeleted, hquiet⟩ := hremoves.deletes
    ((hforced (List.forall_mem_singleton.2 (by rw [hvalue]; decide))).2 (List.cons_ne_nil _ _))
    ⟨rfl, ⟨rfl, rfl⟩⟩ ⟨rfl, ⟨rfl, rfl⟩, rfl⟩
  rw [hdeleted, hline] at hrun
  have hrun' : forced = _ := hrun
  have hasked' : asked = _ := hasked
  refine ⟨hoff, by rw [hrecords]; rfl, ?_, ?_, ?_, ?_⟩
  · rw [hasked']
  · rw [hasked']
    exact ⟨_, _, rfl⟩
  · rw [hrun']
    change Store.erased w.store.records r = []
    have hnamed : Store.isNamed r.kind r.id r = true :=
      (Store.isNamed_iff _ _ _).2 ⟨rfl, Store.sameId_self _⟩
    simp [hrecords, Store.erased, hnamed]
  · rw [hrun']
    exact hquiet

/-- A flag that is switched off deletes a program at once, where the same line without the flag asks
about it and leaves it there. -/
theorem off_word_deletes :
    let t : Terminal := Terminal.opened
      ((Store.empty (.ofQueue ["A1"]) {}).after [.create .program [("title", .text "Apollo")]])
      {} [] fun _ => {}
    SwitchesOff "false" ∧
      (t.command "remove program A1").prompt.isSome = true ∧
      (t.command "remove program A1").world.store.records.length = 1 ∧
      (t.command "remove program A1 --force=false").prompt.isSome = false ∧
      (t.command "remove program A1 --force=false").world.store.records.length = 0 := by
  decide +kernel

end Shell

end TaskShell
