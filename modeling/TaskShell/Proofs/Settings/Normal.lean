import TaskShell.Proofs.Command.Placement
import TaskShell.Proofs.Command.Validated
import TaskShell.Proofs.Settings.Path
import TaskShell.Proofs.Settings.StartUp
import TaskShell.Proofs.Text.Case

/-!
# Settings that stay as they are

Whatever settings are read from, they come out normal: the path of the store is not empty and begins
with no `~`, the history has a limit of at least one line, the level of logging is known, and
aliases are texts in lower case for commands that are not empty. Normal settings that are read
again, from their own fields or from a file that says the same, come out as they went in.

## Main definitions

* `Entry.Filled` — an entry whose text is not empty if it is given.
* `Settings.Normal` — settings that are the same when they are read again.
* `Sheet.Says` — a sheet that says settings.
* `Settings.entries` — settings as the entries of a mapping.
* `Yaml.Document.holds` — whether a datum of a document is a value.
* `Settings.Format.readsBack` — whether a format reads settings, once written, as what was written.
* `Environment.Silent` — surroundings that give no setting.

## Main results

* `Settings.normal_of_ofSheet` — settings that were read are normal.
* `Settings.ofSheet_of_says` — what is said of normal settings is what is read.
* `Settings.normalized_once` — normal settings stay as they are, in memory and in files of any format
  that reads back what it writes.
-/

set_option autoImplicit false

namespace TaskShell

/-! ## Texts that are not empty -/

/-- The text of a floating-point number is not empty. -/
lemma Binary64.text_ne_empty (x : Binary64) : x.text ≠ "" := by
  have hlayout (d : Binary64.Digits) : Binary64.plain.layout d ≠ [] := by
    unfold Binary64.Style.layout Binary64.positional Binary64.scientific
    repeat' split
    all_goals simp
  cases x with
  | nan => decide
  | infinite negative => cases negative <;> decide
  | finite negative m e =>
    simp [Binary64.text, Binary64.textWith, String.append_eq_empty_iff, hlayout]

namespace Value

/-- The literal of a value is not empty. -/
lemma literal_ne_empty (v : Value) : v.literal ≠ "" := by
  cases v with
  | null => simp [literal]
  | bool value => cases value <;> simp [literal]
  | int n => cases n <;> simp [literal, toString, Int.repr, String.append_eq_empty_iff]
  | float x => exact x.text_ne_empty
  | text s => simp [literal, Text.literal]
  | list items => simp [literal, String.append_eq_empty_iff]
  | map entries => simp [literal, String.append_eq_empty_iff]

/-- The text of a value that is given is not empty. -/
lemma display_ne_empty {v : Value} (h : v.isGiven = true) : v.display ≠ "" := by
  cases v with
  | text s => simpa [isGiven, display] using h
  | _ => exact literal_ne_empty _

end Value

namespace Yaml

/-- The text of a date or a time is not empty. -/
lemma Timestamp.shown_ne_empty (t : Timestamp) : t.shown ≠ "" := by
  unfold Timestamp.shown Timestamp.dateText
  split <;> simp [String.append_eq_empty_iff]

/-- Nor is its literal. -/
lemma Timestamp.literal_ne_empty (t : Timestamp) : t.literal ≠ "" := by
  unfold Timestamp.literal
  dsimp only
  split <;> simp [String.append_eq_empty_iff]

namespace Document

variable {d : Document} {n fuel : Nat} {outer : List Nat} {text : String}

/-- The literal of a datum is not empty. -/
lemma literal?_ne_empty (h : d.literal? fuel outer n = some text) : text ≠ "" := by
  cases fuel with
  | zero => exact nomatch h
  | succ fuel =>
    rw [literal?] at h
    cases hdatum : d.datum n with
    | value v =>
      simp only [hdatum, Option.ite_none_right_eq_some, Option.some.injEq] at h
      exact h.2 ▸ Value.literal_ne_empty v
    | moment t =>
      rw [hdatum] at h
      cases h
      exact t.literal_ne_empty
    | bytes content =>
      rw [hdatum] at h
      cases h
      simp [bytesLiteral]
    | _ =>
      -- A collection has brackets around it, or a text of its own if it is hinted at.
      rw [hdatum] at h
      dsimp only at h
      split at h
      · cases h
        decide
      · obtain ⟨texts, -, h⟩ := Option.bind_eq_some_iff.1 h
        cases h
        simp [String.append_eq_empty_iff]

/-- The text of a datum that is given is not empty. -/
lemma display?_ne_empty (hgiven : d.isGiven n = true) (h : d.display? n = some text) :
    text ≠ "" := by
  unfold display? at h
  unfold isGiven at hgiven
  split at h
  · next v hdatum =>
    split at h
    · cases h
      rw [hdatum] at hgiven
      exact Value.display_ne_empty hgiven
    · exact nomatch h
  · cases h
    exact Timestamp.shown_ne_empty _
  · exact literal?_ne_empty h

end Document

end Yaml

namespace Settings

variable {home : Home} {sheet : Sheet} {s : Settings} {d : Yaml.Document}

/-! ## Entries with texts -/

/-- The text of an entry that is given is not empty. -/
def Entry.Filled (entry : Entry) : Prop :=
  entry.isGiven = true → ∀ text, entry.shown = some text → text ≠ ""

/-- The entries of values have texts that are not empty. -/
lemma Entry.filled_ofValue (v : Value) : (ofValue v).Filled := by
  rintro hgiven text htext
  cases htext
  exact Value.display_ne_empty hgiven

/-- So have those of data. -/
lemma Entry.filled_ofDatum (d : Yaml.Document) (n : Nat) : (ofDatum d n).Filled :=
  fun hgiven _ htext => Yaml.Document.display?_ne_empty hgiven htext

/-- The words and the commands of a sheet have texts that are not empty. -/
def Sheet.Filled (sheet : Sheet) : Prop :=
  ∀ pair ∈ sheet.aliases, pair.1.Filled ∧ pair.2.Filled

/-- The sheet of a mapping is filled. -/
lemma Sheet.filled_ofMapping (entries : List (Value × Value)) : (ofMapping entries).Filled := by
  unfold Sheet.Filled Sheet.ofMapping
  dsimp only
  split
  · rintro pair hpair
    obtain ⟨values, -, rfl⟩ := List.mem_map.1 hpair
    exact ⟨Entry.filled_ofValue _, Entry.filled_ofValue _⟩
  · exact List.forall_mem_nil _

/-- The sheet of a document is filled. -/
lemma Sheet.filled_ofDocument (d : Yaml.Document) : (ofDocument d).Filled := by
  rw [Sheet.Filled, ofDocument_eq]
  rintro pair hpair
  obtain ⟨numbers, -, rfl⟩ := List.mem_map.1 hpair
  exact ⟨Entry.filled_ofDatum d _, Entry.filled_ofDatum d _⟩

/-- The sheet of a file is filled. -/
lemma Sheet.filled_ofText {format : Format} {text : Option String}
    (h : Sheet.ofText format text = .ok sheet) :
    sheet.Filled := by
  have hempty : Sheet.Filled {} := List.forall_mem_nil _
  unfold Sheet.ofText at h
  repeat' split at h
  all_goals cases h
  · exact hempty
  · exact filled_ofDocument _
  · exact hempty
  · exact hempty

/-! ## Normal settings -/

/-- Settings that are the same when they are read again. -/
structure Normal (s : Settings) : Prop where
  dbPath : s.dbPath ≠ ""
  path : (Path.ofText s.dbPath).Settled ∧ (Path.ofText s.dbPath).text = s.dbPath
  historyLimit : 1 ≤ s.historyLimit
  logLevel : s.logLevel ∈ logLevels
  words : ∀ pair ∈ s.aliases, pair.1 ≠ "" ∧ Text.lower pair.1 = pair.1
  commands : ∀ pair ∈ s.aliases, pair.2 ≠ ""
  distinct : s.aliases.keys.Nodup

/-- Settings are read if each of them is. -/
lemma ofSheet_eq_ok_iff : ofSheet home sheet = .ok s ↔
    dbPathOf home sheet = .ok s.dbPath ∧ historyLimitOf sheet = .ok s.historyLimit ∧
      logLevelOf sheet = .ok s.logLevel ∧ aliasesOf sheet = .ok s.aliases := by
  obtain ⟨path, limit, level, aliases⟩ := s
  rw [ofSheet]
  cases dbPathOf home sheet <;> cases historyLimitOf sheet <;> cases logLevelOf sheet <;>
    cases aliasesOf sheet <;> simp [bind, Except.bind, pure, Except.pure]

/-- The path that was read is the text of a tidy path that does not begin with `~`. -/
lemma exists_path_of_dbPathOf (habsolute : home.Absolute) {path : String}
    (h : dbPathOf home sheet = .ok path) :
    ∃ p : Path, p.Tidy ∧ p.Settled ∧ path = p.text := by
  unfold dbPathOf at h
  split at h
  · cases h
    refine ⟨Path.ofText (Settings.dbPath {}), Path.tidy_ofText _, fun _ part hpart => ?_, by decide⟩
    have hparts : (Path.ofText (Settings.dbPath {})).parts = ["unfold.db"] := by decide
    obtain rfl : "unfold.db" = part := by simpa [hparts] using hpart
    decide
  · next entry hentry =>
    cases htext : entry.text with
    | error e => simp [htext, bind, Except.bind] at h
    | ok text =>
      simp only [htext, bind, Except.bind] at h
      split at h
      · exact nomatch h
      · next hnull =>
        split at h
        · next p hexpand =>
          cases h
          obtain ⟨htidy, hsettled⟩ :=
            Path.tidy_settled_of_expand? habsolute (Path.tidy_ofText text) hexpand
          exact ⟨p, htidy, hsettled, rfl⟩
        · exact nomatch h

/-- The limit that was read is positive. -/
lemma one_le_of_historyLimitOf {limit : Int} (h : historyLimitOf sheet = .ok limit) :
    1 ≤ limit := by
  unfold historyLimitOf at h
  split at h <;> cases h
  · split
    · next hpositive => exact hpositive
    · decide
  · decide
  · decide

/-- A level by name is a level, if what stands in for it is one. -/
lemma levelNamed_mem (text : String) {fallback : String} (h : fallback ∈ logLevels) :
    levelNamed text fallback ∈ logLevels := by
  unfold levelNamed
  dsimp only
  split
  · next hlevel => simpa using hlevel
  · exact h

/-- A level names itself. -/
lemma levelNamed_eq_self {level : String} (h : level ∈ logLevels) (fallback : String) :
    levelNamed level fallback = level := by
  have hall : ∀ level ∈ logLevels, Text.upper (Text.trim level) = level := by decide +kernel
  simp [levelNamed, hall level h, h]

/-- The level that was read is a level. -/
lemma mem_of_logLevelOf {level : String} (h : logLevelOf sheet = .ok level) :
    level ∈ logLevels := by
  unfold logLevelOf at h
  split at h
  · next entry hentry =>
    cases htext : entry.text with
    | error e => simp [htext, bind, Except.bind] at h
    | ok text =>
      simp only [htext, bind, Except.bind, pure, Except.pure, Except.ok.injEq] at h
      exact h ▸ levelNamed_mem text (by decide)
  · cases h
    decide

/-- What a list of readings gives was read from its items. -/
lemma exists_of_mem_mapM {α β ε : Type} {f : α → Except ε β} {items : List α} {results : List β}
    (h : items.mapM f = .ok results) {result : β} (hresult : result ∈ results) :
    ∃ item ∈ items, f item = .ok result := by
  have hspec := mapM_spec f items
  rw [h] at hspec
  clear h
  induction hspec with
  | nil => exact nomatch hresult
  | cons hitem _ ih =>
    rcases List.mem_cons.1 hresult with rfl | hrest
    · exact ⟨_, List.mem_cons_self, hitem⟩
    · obtain ⟨item, hmem, h⟩ := ih hrest
      exact ⟨item, List.mem_cons_of_mem _ hmem, h⟩

/-- The pairs of a sheet of which both entries are given. -/
def givenPairs (sheet : Sheet) : List (Entry × Entry) :=
  sheet.aliases.filter fun (word, command) => word.isGiven && command.isGiven

/-- The texts of a pair of entries, the first in lower case. -/
def readPair (entries : Entry × Entry) : Except Error (String × String) := do
  return (Text.lower (← entries.1.text), ← entries.2.text)

/-- A pair is read if both entries have texts. -/
lemma readPair_eq_ok_iff {entries : Entry × Entry} {pair : String × String} :
    readPair entries = .ok pair ↔ ∃ word, entries.1.shown = some word ∧
      entries.2.shown = some pair.2 ∧ Text.lower word = pair.1 := by
  obtain ⟨lowered, command⟩ := pair
  unfold readPair Entry.text
  cases entries.1.shown <;> cases entries.2.shown <;>
    simp [bind, Except.bind, pure, Except.pure, and_comm]

/-- Aliases are read if all pairs that are given are. -/
lemma aliasesOf_eq_ok_iff {aliases : Entries String} : aliasesOf sheet = .ok aliases ↔
    ∃ pairs, (givenPairs sheet).mapM readPair = .ok pairs ∧ Entries.ofPairs pairs = aliases := by
  have hread : aliasesOf sheet =
      (do return Entries.ofPairs (← (givenPairs sheet).mapM readPair)) := rfl
  rw [hread]
  cases (givenPairs sheet).mapM readPair <;> simp [bind, Except.bind, pure, Except.pure]

/-- The aliases that were read are different words in lower case, none of them empty, for commands
that are not empty either. -/
lemma normal_of_aliasesOf (hfilled : sheet.Filled) {aliases : Entries String}
    (h : aliasesOf sheet = .ok aliases) : aliases.keys.Nodup ∧
      ∀ pair ∈ aliases, pair.1 ≠ "" ∧ Text.lower pair.1 = pair.1 ∧ pair.2 ≠ "" := by
  obtain ⟨pairs, hpairs, rfl⟩ := aliasesOf_eq_ok_iff.1 h
  refine ⟨Entries.nodup_keys_ofPairs pairs, fun pair hpair => ?_⟩
  have hmem : pair ∈ pairs := (Entries.mem_of_mem_overlay hpair).resolve_left List.not_mem_nil
  obtain ⟨entries, hentries, hread⟩ := exists_of_mem_mapM hpairs hmem
  obtain ⟨word, hword, hcommand, hlower⟩ := readPair_eq_ok_iff.1 hread
  obtain ⟨hin, hgiven⟩ := List.mem_filter.1 hentries
  obtain ⟨hwordGiven, hcommandGiven⟩ := Bool.and_eq_true_iff.1 hgiven
  obtain ⟨hwordFilled, hcommandFilled⟩ := hfilled entries hin
  refine ⟨fun hempty => ?_, by rw [← hlower, Text.lower_lower],
    hcommandFilled hcommandGiven _ hcommand⟩
  exact hwordFilled hwordGiven word hword (Text.eq_empty_of_lower (hlower.trans hempty))

/-- **Settings that were read are normal.** -/
theorem normal_of_ofSheet (habsolute : home.Absolute) (hfilled : sheet.Filled)
    (h : ofSheet home sheet = .ok s) : s.Normal := by
  obtain ⟨hpath, hlimit, hlevel, haliases⟩ := ofSheet_eq_ok_iff.1 h
  obtain ⟨p, htidy, hsettled, hp⟩ := exists_path_of_dbPathOf habsolute hpath
  have hread : Path.ofText s.dbPath = p := by rw [hp, Path.ofText_text htidy]
  obtain ⟨hdistinct, hpairs⟩ := normal_of_aliasesOf hfilled haliases
  exact {
    dbPath := hp ▸ htidy.text_ne_empty
    path := ⟨hread ▸ hsettled, by rw [hread, hp]⟩
    historyLimit := one_le_of_historyLimitOf hlimit
    logLevel := mem_of_logLevelOf hlevel
    words := fun pair hpair => ⟨(hpairs pair hpair).1, (hpairs pair hpair).2.1⟩
    commands := fun pair hpair => (hpairs pair hpair).2.2
    distinct := hdistinct }

/-! ## Reading normal settings again -/

/-- An entry that is given has a text. -/
def Entry.Gives (entry : Entry) (text : String) : Prop :=
  entry.isGiven = true ∧ entry.shown = some text

/-- A sheet that says settings, each of them in full. -/
structure Sheet.Says (sheet : Sheet) (s : Settings) : Prop where
  dbPath : ∃ entry, sheet.dbPath = some entry ∧ entry.Gives s.dbPath
  historyLimit : ∃ entry, sheet.historyLimit = some entry ∧ entry.whole = .some s.historyLimit
  logLevel : ∃ entry, sheet.logLevel = some entry ∧ entry.Gives s.logLevel
  aliases : List.Forall₂ (fun entries pair => entries.1.Gives pair.1 ∧ entries.2.Gives pair.2)
    sheet.aliases s.aliases

/-- Pairs of entries that give words in lower case and commands are read as they are. -/
lemma mapM_readPair_of_gives {entries : List (Entry × Entry)} {pairs : List (String × String)}
    (h : List.Forall₂ (fun entries pair => entries.1.Gives pair.1 ∧ entries.2.Gives pair.2)
      entries pairs) (hlower : ∀ pair ∈ pairs, Text.lower pair.1 = pair.1) :
    (entries.filter fun (word, command) => word.isGiven && command.isGiven).mapM readPair =
      .ok pairs := by
  induction h with
  | nil => rfl
  | cons hpair _ ih =>
    obtain ⟨⟨hword, hwordShown⟩, hcommand, hcommandShown⟩ := hpair
    obtain ⟨hfirst, hrest⟩ := List.forall_mem_cons.1 hlower
    have hread := readPair_eq_ok_iff.2 ⟨_, hwordShown, hcommandShown, hfirst⟩
    rw [List.filter_cons_of_pos (by simp [hword, hcommand]), List.mapM_cons, hread, ih hrest]
    rfl

/-- The aliases that a sheet says are read, if they are normal. -/
lemma aliasesOf_of_says (hs : s.Normal) (h : sheet.Says s) : aliasesOf sheet = .ok s.aliases :=
  aliasesOf_eq_ok_iff.2 ⟨s.aliases,
    mapM_readPair_of_gives h.aliases fun pair hpair => (hs.words pair hpair).2,
    Entries.ofPairs_eq_self hs.distinct⟩

/-- **Normal settings are read as they are**, wherever the home directories are. -/
theorem ofSheet_of_says (home : Home) (hs : s.Normal) (h : sheet.Says s) :
    ofSheet home sheet = .ok s := by
  obtain ⟨path, hpath, hpathGiven, hpathShown⟩ := h.dbPath
  obtain ⟨limit, hlimit, hwhole⟩ := h.historyLimit
  obtain ⟨level, hlevel, hlevelGiven, hlevelShown⟩ := h.logLevel
  refine ofSheet_eq_ok_iff.2 ⟨?_, ?_, ?_, aliasesOf_of_says hs h⟩
  · simp [dbPathOf, hpath, Option.filter, hpathGiven, Entry.text, hpathShown, bind, Except.bind,
      hs.path.1.namesNull_eq, hs.path.1.expand?_eq, hs.path.2, pure, Except.pure]
  · have hpositive : 0 < s.historyLimit := hs.historyLimit
    simp [historyLimitOf, hlimit, hwhole, hpositive]
  · simp [logLevelOf, hlevel, Option.filter, hlevelGiven, Entry.text, hlevelShown, bind,
      Except.bind, levelNamed_eq_self hs.logLevel, pure, Except.pure]

/-! ## Sheets that say normal settings -/

/-- Settings as the entries of a mapping. -/
def entries (s : Settings) : List (Value × Value) :=
  s.fields.map fun (key, value) => (.text key, value)

/-- A text that is not empty gives itself. -/
lemma Entry.gives_ofValue {text : String} (h : text ≠ "") : (ofValue (.text text)).Gives text :=
  ⟨by simpa [ofValue, Value.isGiven] using h, rfl⟩

/-- A level of logging is not empty. -/
lemma Normal.logLevel_ne_empty (hs : s.Normal) : s.logLevel ≠ "" := by
  have hall : ∀ level ∈ logLevels, level ≠ "" := by decide
  exact hall _ hs.logLevel

/-- The fields of normal settings say them. -/
lemma Normal.says_ofMapping (hs : s.Normal) : (Sheet.ofMapping s.entries).Says s where
  dbPath := ⟨.ofValue (.text s.dbPath), rfl, Entry.gives_ofValue hs.dbPath⟩
  historyLimit := ⟨.ofValue (.int s.historyLimit), rfl, rfl⟩
  logLevel := ⟨.ofValue (.text s.logLevel), rfl, Entry.gives_ofValue hs.logLevel_ne_empty⟩
  aliases := by
    have haliases : (Sheet.ofMapping s.entries).aliases =
        ((s.aliases.map fun pair => (pair.1, Value.text pair.2)).map
          fun field => (Value.text field.1, field.2)).map
            fun entry => (.ofValue entry.1, .ofValue entry.2) := rfl
    rw [haliases, List.map_map, List.map_map, List.forall₂_map_left_iff]
    exact List.forall₂_same.2 fun pair hpair =>
      ⟨Entry.gives_ofValue (hs.words pair hpair).1, Entry.gives_ofValue (hs.commands pair hpair)⟩

end Settings

namespace Yaml.Document

mutual

/-- Whether a datum of a document is a value, with its parts in the same order. -/
def holds (d : Document) (v : Value) (number : Nat) : Bool :=
  match v, d.datum number with
  | .null, .value .null => true
  | .bool value, .value (.bool other) => value == other
  | .int value, .value (.int other) => value == other
  | .float value, .value (.float other) => value == other
  | .text value, .value (.text other) => value == other
  | .list items, .list numbers => holdsItems d items numbers
  | .map entries, .map numbers => holdsEntries d entries numbers
  | _, _ => false

/-- Whether data are the items of a list. -/
def holdsItems (d : Document) : List Value → List Nat → Bool
  | [], [] => true
  | item :: items, number :: numbers => holds d item number && holdsItems d items numbers
  | _, _ => false

/-- Whether pairs of data are the entries of a map. -/
def holdsEntries (d : Document) : List (Value × Value) → List (Nat × Nat) → Bool
  | [], [] => true
  | (key, value) :: entries, (k, v) :: numbers =>
    holds d key k && holds d value v && holdsEntries d entries numbers
  | _, _ => false

end

variable {d : Document} {n : Nat}

/-- The first entry whose key is a text has what stands under that text. -/
lemma under?_cons {name : String} {k : Nat} (h : d.datum k = .value (.text name)) (v : Nat)
    (rest : List (Nat × Nat)) (key : String) :
    d.under? ((k, v) :: rest) key = if name = key then some v else d.under? rest key := by
  by_cases hname : name = key <;> simp [under?, h, hname]

/-- A datum that is a text. -/
lemma holds_text {s : String} (h : d.holds (.text s) n = true) : d.datum n = .value (.text s) := by
  unfold holds at h
  split at h <;> simp_all

/-- A datum that is a whole number. -/
lemma holds_int {k : Int} (h : d.holds (.int k) n = true) : d.datum n = .value (.int k) := by
  unfold holds at h
  split at h <;> simp_all

/-- Pairs of data that are the entries of a map, one by one. -/
lemma forall₂_of_holdsEntries {entries : List (Value × Value)} {numbers : List (Nat × Nat)}
    (h : d.holdsEntries entries numbers = true) :
    List.Forall₂ (fun entry number => d.holds entry.1 number.1 = true ∧
      d.holds entry.2 number.2 = true) entries numbers := by
  induction entries generalizing numbers with
  | nil =>
    cases numbers with
    | nil => exact .nil
    | cons number numbers => simp [holdsEntries] at h
  | cons entry entries ih =>
    cases numbers with
    | nil => simp [holdsEntries] at h
    | cons number numbers =>
      simp only [holdsEntries, Bool.and_eq_true] at h
      exact .cons h.1 (ih h.2)

/-- A datum that is a map. -/
lemma holds_map {entries : List (Value × Value)} (h : d.holds (.map entries) n = true) :
    ∃ numbers, d.datum n = .map numbers ∧
      List.Forall₂ (fun entry number => d.holds entry.1 number.1 = true ∧
        d.holds entry.2 number.2 = true) entries numbers := by
  unfold holds at h
  cases hdatum : d.datum n with
  | map numbers =>
    rw [hdatum] at h
    exact ⟨numbers, rfl, forall₂_of_holdsEntries h⟩
  | value v => cases v <;> simp [hdatum] at h
  | _ => simp [hdatum] at h

end Yaml.Document

namespace Settings

variable {s : Settings} {d : Yaml.Document} {n : Nat}

/-- A datum that is a text which is not empty gives the text. -/
lemma Entry.gives_ofDatum {text : String} (h : d.datum n = .value (.text text)) (hne : text ≠ "") :
    (ofDatum d n).Gives text := by
  constructor
  · simp [ofDatum, Yaml.Document.isGiven, h, Yaml.Datum.isGiven, Value.isGiven, hne]
  · simp [ofDatum, Yaml.Document.display?, h, Yaml.Document.hasText, Value.display]

/-- The data under the keys of a document that holds settings. -/
lemma under?_of_holds (h : d.holds (.map s.entries) d.root = true) :
    ∃ path limit level aliases, d.datum path = .value (.text s.dbPath) ∧
      d.datum limit = .value (.int s.historyLimit) ∧ d.datum level = .value (.text s.logLevel) ∧
      d.holds (Value.ofFields (s.aliases.map fun (word, command) => (word, .text command)))
        aliases = true ∧
      under? d = Entries.value? [("db_path", path), ("history_limit", limit),
        ("log_level", level), ("aliases", aliases)] := by
  obtain ⟨numbers, hroot, hentries⟩ := Yaml.Document.holds_map h
  simp only [entries, fields, List.map_cons, List.map_nil, List.forall₂_cons_left_iff,
    List.forall₂_nil_left_iff] at hentries
  obtain ⟨⟨pathKey, path⟩, _, ⟨hpathKey, hpath⟩, ⟨⟨limitKey, limit⟩, _, ⟨hlimitKey, hlimit⟩,
    ⟨⟨levelKey, level⟩, _, ⟨hlevelKey, hlevel⟩, ⟨⟨aliasesKey, aliases⟩, _,
    ⟨haliasesKey, haliases⟩, rfl, rfl⟩, rfl⟩, rfl⟩, rfl⟩ := hentries
  refine ⟨path, limit, level, aliases, Yaml.Document.holds_text hpath,
    Yaml.Document.holds_int hlimit, Yaml.Document.holds_text hlevel, haliases, funext fun key => ?_⟩
  simp only [under?, Yaml.Document.entries?, hroot, Option.bind_some,
    Yaml.Document.under?_cons (Yaml.Document.holds_text hpathKey),
    Yaml.Document.under?_cons (Yaml.Document.holds_text hlimitKey),
    Yaml.Document.under?_cons (Yaml.Document.holds_text hlevelKey),
    Yaml.Document.under?_cons (Yaml.Document.holds_text haliasesKey)]
  rfl

/-- A document that holds normal settings says them. -/
lemma Normal.says_ofDocument (hs : s.Normal) (h : d.holds (.map s.entries) d.root = true) :
    (Sheet.ofDocument d).Says s := by
  obtain ⟨path, limit, level, aliases, hpath, hlimit, hlevel, haliases, hunder⟩ :=
    under?_of_holds h
  rw [ofDocument_eq, hunder]
  exact {
    dbPath := ⟨_, rfl, Entry.gives_ofDatum hpath hs.dbPath⟩
    historyLimit := ⟨_, rfl, by rw [Entry.ofDatum, hlimit]; rfl⟩
    logLevel := ⟨_, rfl, Entry.gives_ofDatum hlevel hs.logLevel_ne_empty⟩
    aliases := by
      obtain ⟨pairs, hpairs, hheld⟩ := Yaml.Document.holds_map haliases
      have hentries : (((Entries.value? [("db_path", path), ("history_limit", limit),
          ("log_level", level), ("aliases", aliases)] "aliases").bind d.entries?).getD []) =
          pairs := by
        simp [Entries.value?, Yaml.Document.entries?, hpairs]
      rw [hentries, List.forall₂_map_left_iff]
      rw [List.map_map, List.forall₂_map_left_iff] at hheld
      have hfilled : ∀ pair ∈ s.aliases, pair.1 ≠ "" ∧ pair.2 ≠ "" :=
        fun pair hpair => ⟨(hs.words pair hpair).1, hs.commands pair hpair⟩
      refine ((List.forall₂_and_left _ _).2 ⟨hfilled, hheld⟩).flip.imp ?_
      rintro numbers pair ⟨⟨hword, hcommand⟩, hwordHeld, hcommandHeld⟩
      exact ⟨Entry.gives_ofDatum (Yaml.Document.holds_text hwordHeld) hword,
        Entry.gives_ofDatum (Yaml.Document.holds_text hcommandHeld) hcommand⟩ }

/-! ## Files -/

/-- The file of settings is the text of their fields. -/
lemma fileText_fields (s : Settings) (format : Format) :
    fileText s.fields format = format.write (.map s.entries) := rfl

/-- Whether a format reads settings, once written, as what was written. -/
def Format.readsBack (format : Format) (s : Settings) : Bool :=
  match format.read (format.write (.map s.entries)) with
  | .ok (some d) => d.holds (.map s.entries) d.root
  | _ => false

/-- A file that reads as normal settings says them. -/
lemma Normal.says_ofText {format : Format} (hs : s.Normal) (h : format.readsBack s = true) :
    ∃ sheet, Sheet.ofText format (some (fileText s.fields format)) = .ok sheet ∧ sheet.Says s := by
  unfold Format.readsBack at h
  split at h
  · next d hread =>
    refine ⟨.ofDocument d, ?_, hs.says_ofDocument h⟩
    simp only [fileText_fields, Sheet.ofText, hread]
  · exact nomatch h

end Settings

/-- Surroundings that give no setting. -/
structure Environment.Silent (env : Environment) : Prop where
  path : Settings.envValue? env "UNFOLD_DB" = none
  level : Settings.envValue? env "UNFOLD_LOG_LEVEL" = none

namespace Settings

variable {env later : Environment} {home : Home} {text : Option String} {s : Settings}
  {format : Format}

/-- Silent surroundings leave settings as a file says. -/
lemma load_eq_ok_iff (h : env.Silent) : load env text format = .ok s ↔
    ∃ sheet, Sheet.ofText format text = .ok sheet ∧ ofSheet env.home sheet = .ok s := by
  have hoverride (s : Settings) : s.override env = s := by
    simp [override, h.path, h.level]
  unfold load
  cases Sheet.ofText format text with
  | error e => simp [bind, Except.bind]
  | ok sheet => cases hsheet : ofSheet env.home sheet <;>
      simp [bind, Except.bind, pure, Except.pure, hoverride, hsheet]

/-- Normal settings are loaded from the file that they were written into. -/
lemma Normal.load_fileText (hs : s.Normal) (hsilent : later.Silent)
    (h : format.readsBack s = true) : load later (some (fileText s.fields format)) format = .ok s := by
  obtain ⟨sheet, hsheet, hsays⟩ := hs.says_ofText h
  exact (load_eq_ok_iff hsilent).2 ⟨sheet, hsheet, ofSheet_of_says later.home hs hsays⟩

/-- **Settings are normalized once and for all.** Where home directories are absolute, settings that
were read from a mapping, a document or a file without overrides are normal: the path of the store
is not empty, at least one line of history is kept, the level of logging is one of the five, and
aliases are words in lower case for commands, none of them empty. Read again from their own fields
they are the same, and so they are when they are loaded from the file that they were written into,
whatever the format of files, provided that it reads back what was written. No other settings are
the same when they are read from their own fields.

**Proof sketch.** A path that was read is tidy and does not begin with `~` any more, so that its
text reads as the path and stands for itself. A level in capitals without blanks around it names
itself, and lower case stays as it is in lower case. The words of aliases are different since each
was stored under its lower case, so that they are stored as they are when they are read again.
Nothing that is given has an empty text; hence every field of normal settings is given when it is
read again. -/
theorem normalized_once (habsolute : home.Absolute) :
    (∀ s : Settings, s.Normal ↔ ofMapping home s.entries = .ok s) ∧
    (∀ entries s, ofMapping home entries = .ok s → s.Normal ∧ ofMapping home s.entries = .ok s) ∧
    (∀ d s, ofSheet home (.ofDocument d) = .ok s →
      s.Normal ∧ ofMapping home s.entries = .ok s) ∧
    ∀ (format : Format) env later text s, env.home = home → env.Silent → later.Silent →
      load env text format = .ok s →
      s.Normal ∧ ofMapping home s.entries = .ok s ∧
        (format.readsBack s = true → load later (some (fileText s.fields format)) format = .ok s) := by
  have hfixed (s : Settings) : s.Normal ↔ ofMapping home s.entries = .ok s :=
    ⟨fun hs => ofSheet_of_says home hs hs.says_ofMapping,
      normal_of_ofSheet habsolute (Sheet.filled_ofMapping s.entries)⟩
  have hsheet {sheet : Sheet} {s : Settings} (hfilled : sheet.Filled)
      (h : ofSheet home sheet = .ok s) : s.Normal ∧ ofMapping home s.entries = .ok s := by
    have hs := normal_of_ofSheet habsolute hfilled h
    exact ⟨hs, (hfixed s).1 hs⟩
  refine ⟨hfixed, fun entries s h => hsheet (Sheet.filled_ofMapping entries) h,
    fun d s h => hsheet (Sheet.filled_ofDocument d) h, ?_⟩
  rintro format env later text s rfl hsilent hlater hload
  obtain ⟨sheet, htext, hread⟩ := (load_eq_ok_iff hsilent).1 hload
  obtain ⟨hs, hagain⟩ := hsheet (Sheet.filled_ofText htext) hread
  exact ⟨hs, hagain, fun h => hs.load_fileText hlater h⟩

/-- Settings with a path in the home directory, a level in lower case and aliases that become one:
they come out in their final form, and are the same after they were saved. -/
theorem normalized_once_home :
    let home : Home := { own := "/root" }
    let env : Environment := { home }
    let text := "db_path: ~/x//y.db\nhistory_limit: '5'\nlog_level: ' debug '\n" ++
      "aliases:\n  Due: list\n  DUE: list tasks\n"
    let s : Settings :=
      { dbPath := "/root/x/y.db", historyLimit := 5, logLevel := "DEBUG",
        aliases := [("due", "list tasks")] }
    home.Absolute ∧ env.Silent ∧ load env (some text) = .ok s ∧ Format.yaml.readsBack s = true ∧
      s.Normal ∧ ofMapping home s.entries = .ok s ∧
      load env (some (fileText s.fields)) = .ok s := by
  intro home env text s
  have habsolute : home.Absolute := ⟨by decide, List.forall_mem_nil _⟩
  have hsilent : env.Silent := ⟨by decide, by decide⟩
  have hload : load env (some text) = .ok s := by decide +kernel
  have hreads : Format.yaml.readsBack s = true := by decide +kernel
  obtain ⟨hs, hagain, hsaved⟩ :=
    (normalized_once habsolute).2.2.2 .yaml env env (some text) s rfl hsilent hsilent hload
  exact ⟨habsolute, hsilent, hload, hreads, hs, hagain, hsaved hreads⟩

end Settings

end TaskShell
