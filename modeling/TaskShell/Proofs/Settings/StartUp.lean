import Mathlib.Data.List.Forall2
import Mathlib.Tactic.Lemma
import TaskShell.Session
import TaskShell.Settings.Basic

/-!
# Settings and the session that starts with them

The program reads settings from a document and makes a session whose history has the limit that
they name. What a document says about settings is used or falls back to the default, but not
always: an infinite history, one that no session can hold, a home directory that cannot be told and
a number that is too long to be written as a text stop the program. There are no other troubles.

## Main definitions

* `Settings.startUp` — settings from a document, and a session with them.
* `Settings.Trouble` — what stops the program.
* `Settings.Follows` — settings that do what a document says, or fall back to defaults.

## Main results

* `Settings.startUp_outcome` — the program starts just if there is no trouble, and then its settings
  follow the document.
-/

set_option autoImplicit false

namespace TaskShell.Settings

variable {home : Home} {d : Yaml.Document} {n : Nat}

/-! ## What a document holds -/

/-- The number of the datum under a key of a document that is a mapping. -/
def under? (d : Yaml.Document) (key : String) : Option Nat :=
  (d.entries? d.root).bind fun entries => d.under? entries key

/-- The same, if the datum counts as given. -/
def given? (d : Yaml.Document) (key : String) : Option Nat :=
  (under? d key).filter (d.isGiven ·)

/-- The aliases of a document: words and commands, all of them given. -/
def givenAliases (d : Yaml.Document) : List (Nat × Nat) :=
  (((under? d "aliases").bind d.entries?).getD []).filter
    fun (word, command) => d.isGiven word && d.isGiven command

/-- The data that are used as texts. -/
def shown (d : Yaml.Document) : List Nat :=
  (given? d "db_path").toList ++ (given? d "log_level").toList ++
    (givenAliases d).flatMap fun (word, command) => [word, command]

/-- The text of a datum under a key, if it is given and has one. -/
def text? (d : Yaml.Document) (key : String) : Option String :=
  (given? d key).bind d.display?

/-- The whole number for which the datum under `history_limit` stands. -/
def limit? (d : Yaml.Document) : Option Int :=
  (under? d "history_limit").bind fun n =>
    match Entry.wholeOfDatum (d.datum n) with
    | .some k => some k
    | _ => none

/-- What a document says about settings. -/
lemma ofDocument_eq (d : Yaml.Document) : Sheet.ofDocument d =
    { dbPath := (under? d "db_path").map (.ofDatum d)
      historyLimit := (under? d "history_limit").map (.ofDatum d)
      logLevel := (under? d "log_level").map (.ofDatum d)
      aliases := (((under? d "aliases").bind d.entries?).getD []).map
        fun (word, command) => (.ofDatum d word, .ofDatum d command) } := by
  unfold Sheet.ofDocument under?
  cases d.entries? d.root <;> rfl

/-- A given entry of a sheet is a given datum of the document. -/
lemma filter_isGiven (key : String) :
    ((under? d key).map (Entry.ofDatum d)).filter Entry.isGiven =
      (given? d key).map (Entry.ofDatum d) := by
  rw [given?]
  cases under? d key with
  | none => rfl
  | some n => cases hgiven : d.isGiven n <;> simp [Option.filter, Entry.ofDatum, hgiven]

/-! ## Starting up -/

/-- Settings from a document, and a session with the history that they allow. -/
def startUp (home : Home) (d : Yaml.Document) :
    Except (Settings.Error ⊕ Session.Error) (Settings × Session) := do
  let settings ← (ofSheet home (.ofDocument d)).mapError .inl
  let session ← (Session.create (some settings.historyLimit)).mapError .inr
  return (settings, session)

/-- What stops the program: a history without end or longer than any session can hold, a number with
too many digits where a text is used, and a path that asks for a home directory that cannot be
told. -/
inductive Trouble (home : Home) (d : Yaml.Document) : Settings.Error ⊕ Session.Error → Prop
  | infiniteLimit {n : Nat} {negative : Bool} (number : under? d "history_limit" = some n)
      (datum : d.datum n = .value (.float (.infinite negative))) :
      Trouble home d (.inl .infiniteLimit)
  | limitTooLarge {k : Int} (limit : limit? d = some k) (large : Number.wordEnd ≤ k) :
      Trouble home d (.inr .limitTooLarge)
  | tooManyDigits {n : Nat} (used : n ∈ shown d) (textless : d.display? n = none) :
      Trouble home d (.inl .tooManyDigits)
  | nullCharacter {text : String} (given : text? d "db_path" = some text)
      (null : (Path.ofText text).namesNull = true) :
      Trouble home d (.inl .nullCharacter)
  | noHome {text : String} (given : text? d "db_path" = some text)
      (homeless : (Path.ofText text).expand? home = none) :
      Trouble home d (.inl .noHome)

/-- Settings that do what a document says: an entry that cannot be used gives way to the default. -/
structure Follows (home : Home) (d : Yaml.Document) (s : Settings) : Prop where
  dbPath : (∃ text path, text? d "db_path" = some text ∧
      (Path.ofText text).expand? home = some path ∧ s.dbPath = path.text) ∨
    (given? d "db_path" = none ∧ s.dbPath = Settings.dbPath {})
  historyLimit : (limit? d = some s.historyLimit ∧ 0 < s.historyLimit) ∨
    ((∀ k, limit? d = some k → k ≤ 0) ∧ s.historyLimit = Settings.historyLimit {})
  logLevel : (∃ text, text? d "log_level" = some text ∧ s.logLevel = Text.upper (Text.trim text) ∧
      s.logLevel ∈ logLevels) ∨
    ((∀ text, text? d "log_level" = some text → Text.upper (Text.trim text) ∉ logLevels) ∧
      s.logLevel = Settings.logLevel {})
  aliases : ∃ pairs : List (String × String),
    List.Forall₂
      (fun numbers pair => ∃ word, d.display? numbers.1 = some word ∧ pair.1 = Text.lower word ∧
        d.display? numbers.2 = some pair.2)
      (givenAliases d) pairs ∧ s.aliases = Entries.ofPairs pairs

/-! ## The path of the store -/

/-- The text of a datum, or that it has none. -/
lemma text_ofDatum (d : Yaml.Document) (n : Nat) : (Entry.ofDatum d n).text =
    match d.display? n with
    | some text => .ok text
    | none => .error .tooManyDigits := rfl

/-- The path is that of the document or the default, or there is trouble. -/
lemma dbPathOf_spec (home : Home) (d : Yaml.Document) :
    match dbPathOf home (.ofDocument d) with
    | .ok path =>
      (∀ n, given? d "db_path" = some n → (d.display? n).isSome) ∧
      (∀ text, text? d "db_path" = some text → (Path.ofText text).namesNull = false ∧
        ((Path.ofText text).expand? home).isSome) ∧
      ((∃ text expanded, text? d "db_path" = some text ∧
          (Path.ofText text).expand? home = some expanded ∧ path = expanded.text) ∨
        (given? d "db_path" = none ∧ path = Settings.dbPath {}))
    | .error e => Trouble home d (.inl e) := by
  rw [dbPathOf, ofDocument_eq, text?]
  dsimp only
  rw [filter_isGiven]
  cases hgiven : given? d "db_path" with
  | none => simp
  | some n =>
    simp only [Option.map_some, Option.bind_some, text_ofDatum]
    cases hshown : d.display? n with
    | none =>
      refine .tooManyDigits (n := n) ?_ hshown
      simp [shown, hgiven]
    | some text =>
      have htext : text? d "db_path" = some text := by rw [text?, hgiven, Option.bind_some, hshown]
      simp only [bind, Except.bind]
      cases hnull : (Path.ofText text).namesNull with
      | true => exact .nullCharacter htext hnull
      | false =>
        cases hexpand : (Path.ofText text).expand? home with
        | none => exact .noHome htext hexpand
        | some path =>
          refine ⟨?_, ?_, .inl ⟨text, path, rfl, hexpand, rfl⟩⟩
          · simp [hshown]
          · simp [hnull, hexpand]

/-! ## The limit of the history -/

/-- Only an infinite number stands for no limit. -/
lemma wholeOfDatum_eq_infinite_iff {x : Yaml.Datum} : Entry.wholeOfDatum x = .infinite ↔
    ∃ negative, x = .value (.float (.infinite negative)) := by
  have hoption (o : Option Int) : Whole.ofOption o ≠ .infinite := by cases o <;> simp [Whole.ofOption]
  cases x with
  | value v =>
    cases v with
    | float y => cases y <;> simp [Entry.wholeOfDatum, Entry.wholeOf, hoption]
    | _ => simp [Entry.wholeOfDatum, Entry.wholeOf, hoption]
  | bytes content =>
    simp only [Entry.wholeOfDatum]
    split <;> simp [hoption]
  | _ => simp [Entry.wholeOfDatum]

/-- The limit is a positive whole number of the document or the default, or there is trouble. -/
lemma historyLimitOf_spec (home : Home) (d : Yaml.Document) :
    match historyLimitOf (.ofDocument d) with
    | .ok limit =>
      (∀ n negative, under? d "history_limit" = some n →
        d.datum n ≠ .value (.float (.infinite negative))) ∧
      ((limit? d = some limit ∧ 0 < limit) ∨
        ((∀ k, limit? d = some k → k ≤ 0) ∧ limit = Settings.historyLimit {}))
    | .error e => Trouble home d (.inl e) := by
  rw [historyLimitOf, ofDocument_eq, limit?]
  cases hunder : under? d "history_limit" with
  | none => simp
  | some n =>
    have hfinite (h : Entry.wholeOfDatum (d.datum n) ≠ .infinite) (m : Nat) (negative : Bool)
        (hm : some n = some m) : d.datum m ≠ .value (.float (.infinite negative)) := by
      obtain rfl := Option.some.inj hm
      exact fun hdatum => h (wholeOfDatum_eq_infinite_iff.2 ⟨negative, hdatum⟩)
    simp only [Option.map_some, Option.bind_some, Entry.ofDatum]
    cases hwhole : Entry.wholeOfDatum (d.datum n) with
    | infinite =>
      obtain ⟨negative, hdatum⟩ := wholeOfDatum_eq_infinite_iff.1 hwhole
      exact .infiniteLimit hunder hdatum
    | none => exact ⟨hfinite (by simp [hwhole]), .inr ⟨by simp, rfl⟩⟩
    | some k =>
      refine ⟨hfinite (by simp [hwhole]), ?_⟩
      by_cases hk : 0 < k
      · exact .inl (by simp [hk])
      · exact .inr (by simp [hk]; omega)

/-! ## The level of logging -/

/-- The level is that of the document or the default, or there is trouble. -/
lemma logLevelOf_spec (home : Home) (d : Yaml.Document) :
    match logLevelOf (.ofDocument d) with
    | .ok level =>
      (∀ n, given? d "log_level" = some n → (d.display? n).isSome) ∧
      ((∃ text, text? d "log_level" = some text ∧ level = Text.upper (Text.trim text) ∧
          level ∈ logLevels) ∨
        ((∀ text, text? d "log_level" = some text → Text.upper (Text.trim text) ∉ logLevels) ∧
          level = Settings.logLevel {}))
    | .error e => Trouble home d (.inl e) := by
  rw [logLevelOf, ofDocument_eq]
  dsimp only
  rw [filter_isGiven, text?]
  cases hgiven : given? d "log_level" with
  | none => simp
  | some n =>
    simp only [Option.map_some, Option.bind_some, text_ofDatum]
    cases hshown : d.display? n with
    | none =>
      refine .tooManyDigits (n := n) ?_ hshown
      simp [shown, hgiven]
    | some text =>
      refine ⟨by simp [hshown], ?_⟩
      by_cases hlevel : Text.upper (Text.trim text) ∈ logLevels
      · refine .inl ⟨text, rfl, ?_⟩
        simp [levelNamed, hlevel]
      · exact .inr (by simp [levelNamed, hlevel])

/-! ## Aliases -/

/-- What a list of readings gives, and how it fails. -/
lemma mapM_spec {α β ε : Type} (f : α → Except ε β) (items : List α) :
    match items.mapM f with
    | .ok results => List.Forall₂ (fun item result => f item = .ok result) items results
    | .error e => ∃ item ∈ items, f item = .error e := by
  induction items with
  | nil => exact .nil
  | cons item items ih =>
    rw [List.mapM_cons]
    cases hitem : f item with
    | error e => exact ⟨item, List.mem_cons_self, hitem⟩
    | ok result =>
      cases hitems : items.mapM f with
      | error e =>
        rw [hitems] at ih
        obtain ⟨other, hother, h⟩ := ih
        exact ⟨other, List.mem_cons_of_mem item hother, h⟩
      | ok results =>
        rw [hitems] at ih
        exact .cons hitem ih

/-- The texts of an alias, the word in lower case. -/
def readAlias (d : Yaml.Document) (numbers : Nat × Nat) : Except Error (String × String) := do
  return (Text.lower (← (Entry.ofDatum d numbers.1).text), ← (Entry.ofDatum d numbers.2).text)

/-- An alias is read, or one of its texts is too long. -/
lemma readAlias_spec (d : Yaml.Document) (numbers : Nat × Nat) :
    match readAlias d numbers with
    | .ok pair => ∃ word, d.display? numbers.1 = some word ∧ pair.1 = Text.lower word ∧
        d.display? numbers.2 = some pair.2
    | .error e => e = .tooManyDigits ∧
        (d.display? numbers.1 = none ∨ d.display? numbers.2 = none) := by
  rw [readAlias, text_ofDatum, text_ofDatum]
  cases hword : d.display? numbers.1 with
  | none => exact ⟨rfl, .inl rfl⟩
  | some word =>
    cases hcommand : d.display? numbers.2 with
    | none => exact ⟨rfl, .inr rfl⟩
    | some command => exact ⟨word, rfl, rfl, rfl⟩

/-- The aliases of a document are the readings of those that are given. -/
lemma aliasesOf_eq (d : Yaml.Document) :
    aliasesOf (.ofDocument d) = return Entries.ofPairs (← (givenAliases d).mapM (readAlias d)) := by
  rw [aliasesOf, ofDocument_eq, givenAliases]
  dsimp only
  rw [List.filter_map, List.mapM_map]
  rfl

/-- The aliases are those of the document, or there is trouble. -/
lemma aliasesOf_spec (home : Home) (d : Yaml.Document) :
    match aliasesOf (.ofDocument d) with
    | .ok aliases =>
      (∀ numbers ∈ givenAliases d,
        (d.display? numbers.1).isSome ∧ (d.display? numbers.2).isSome) ∧
      ∃ pairs : List (String × String),
        List.Forall₂
          (fun numbers pair => ∃ word, d.display? numbers.1 = some word ∧
            pair.1 = Text.lower word ∧ d.display? numbers.2 = some pair.2)
          (givenAliases d) pairs ∧ aliases = Entries.ofPairs pairs
    | .error e => Trouble home d (.inl e) := by
  rw [aliasesOf_eq]
  have hspec := mapM_spec (readAlias d) (givenAliases d)
  cases hread : (givenAliases d).mapM (readAlias d) with
  | ok pairs =>
    rw [hread] at hspec
    have hpairs := hspec.imp fun numbers pair hpair => by
      have halias := readAlias_spec d numbers
      rw [hpair] at halias
      exact halias
    refine ⟨((List.forall₂_and_left _ _).1
      (hpairs.imp fun numbers pair halias => ⟨?_, halias⟩)).1, pairs, hpairs, rfl⟩
    obtain ⟨word, hword, -, hcommand⟩ := halias
    simp [hword, hcommand]
  | error e =>
    rw [hread] at hspec
    obtain ⟨numbers, hnumbers, herror⟩ := hspec
    have halias := readAlias_spec d numbers
    rw [herror] at halias
    obtain ⟨rfl, htextless⟩ := halias
    have hused (n : Nat) (hn : n ∈ [numbers.1, numbers.2]) : n ∈ shown d :=
      List.mem_append_right _ (List.mem_flatMap.2 ⟨numbers, hnumbers, hn⟩)
    rcases htextless with hword | hcommand
    · exact .tooManyDigits (hused numbers.1 (by simp)) hword
    · exact .tooManyDigits (hused numbers.2 (by simp)) hcommand

/-! ## Settings and session -/

/-- The settings follow the document and nothing stood in their way, or there is trouble. -/
lemma ofSheet_spec (home : Home) (d : Yaml.Document) :
    match ofSheet home (.ofDocument d) with
    | .ok settings => Follows home d settings ∧ ∀ e, ¬ Trouble home d (.inl e)
    | .error e => Trouble home d (.inl e) := by
  have hpath := dbPathOf_spec home d
  have hlimit := historyLimitOf_spec home d
  have hlevel := logLevelOf_spec home d
  have haliases := aliasesOf_spec home d
  rw [ofSheet]
  -- The settings are read one after the other, and the first that fails is the failure of all.
  cases hdbPath : dbPathOf home (.ofDocument d) with
  | error e =>
    rw [hdbPath] at hpath
    exact hpath
  | ok path =>
    cases hhistory : historyLimitOf (.ofDocument d) with
    | error e =>
      rw [hhistory] at hlimit
      exact hlimit
    | ok limit =>
      cases hlog : logLevelOf (.ofDocument d) with
      | error e =>
        rw [hlog] at hlevel
        exact hlevel
      | ok level =>
        cases hwords : aliasesOf (.ofDocument d) with
        | error e =>
          rw [hwords] at haliases
          exact haliases
        | ok aliases =>
          rw [hdbPath] at hpath
          rw [hhistory] at hlimit
          rw [hlog] at hlevel
          rw [hwords] at haliases
          obtain ⟨hpathShown, hpathExpands, hpathFollows⟩ := hpath
          obtain ⟨hfinite, hlimitFollows⟩ := hlimit
          obtain ⟨hlevelShown, hlevelFollows⟩ := hlevel
          obtain ⟨haliasesShown, haliasesFollow⟩ := haliases
          refine ⟨⟨hpathFollows, hlimitFollows, hlevelFollows, haliasesFollow⟩, fun e htrouble => ?_⟩
          cases htrouble with
          | infiniteLimit number datum => exact hfinite _ _ number datum
          | nullCharacter given null => simp [(hpathExpands _ given).1] at null
          | noHome given homeless => simpa [homeless] using (hpathExpands _ given).2
          | tooManyDigits used textless =>
            rw [shown, List.mem_append, List.mem_append, Option.mem_toList, Option.mem_toList,
              List.mem_flatMap] at used
            rcases used with (hn | hn) | ⟨numbers, hnumbers, hn⟩
            · simpa [textless] using hpathShown _ hn
            · simpa [textless] using hlevelShown _ hn
            · obtain ⟨hword, hcommand⟩ := haliasesShown numbers hnumbers
              simp only [List.mem_cons, List.not_mem_nil, or_false] at hn
              rcases hn with rfl | rfl
              · simp [textless] at hword
              · simp [textless] at hcommand

/-- A limit that follows a document is positive. -/
lemma Follows.historyLimit_pos {s : Settings} (h : Follows home d s) : 0 < s.historyLimit := by
  rcases h.historyLimit with ⟨-, hpos⟩ | ⟨-, hdefault⟩
  · exact hpos
  · rw [hdefault]
    decide

/-- A session with a positive limit is made unless the limit is too large. -/
lemma create_spec {limit : Int} (hlimit : 0 < limit) : Session.create (some limit) =
    if limit < Number.wordEnd then .ok { limit := some limit.toNat }
    else .error .limitTooLarge := by
  have hlow : ¬ limit < -Number.wordEnd := by simp only [Number.wordEnd]; omega
  have hnegative : ¬ limit < 0 := by omega
  rw [Session.create, Session.checkLimit]
  by_cases hlarge : limit < Number.wordEnd
  · rw [if_neg (by omega), if_neg hnegative, if_pos hlarge]
    simp [Session.bounded, bind, Except.bind, pure, Except.pure]
  · rw [if_pos (by omega), if_neg hlarge]
    rfl

/-- What starting up gives, and how it fails. -/
lemma startUp_spec (home : Home) (d : Yaml.Document) :
    match startUp home d with
    | .ok (settings, session) => Follows home d settings ∧ settings.historyLimit < Number.wordEnd ∧
        session = { limit := some settings.historyLimit.toNat } ∧ ∀ e, ¬ Trouble home d e
    | .error e => Trouble home d e := by
  have hspec := ofSheet_spec home d
  rw [startUp]
  cases hsettings : ofSheet home (.ofDocument d) with
  | error e =>
    rw [hsettings] at hspec
    exact hspec
  | ok settings =>
    rw [hsettings] at hspec
    obtain ⟨hfollows, huntroubled⟩ := hspec
    simp only [Except.mapError, bind, Except.bind, create_spec hfollows.historyLimit_pos]
    by_cases hlarge : settings.historyLimit < Number.wordEnd
    · simp only [if_pos hlarge]
      refine ⟨hfollows, hlarge, rfl, fun e htrouble => ?_⟩
      -- Only the session can find the limit too large; the other troubles would have come before.
      cases htrouble with
      | limitTooLarge limit large =>
        rcases hfollows.historyLimit with ⟨hlimit, -⟩ | ⟨hnone, -⟩
        · obtain rfl := Option.some.inj (limit.symm.trans hlimit)
          omega
        · have := hnone _ limit
          simp only [Number.wordEnd] at large
          omega
      | infiniteLimit number datum => exact huntroubled _ (.infiniteLimit number datum)
      | tooManyDigits used textless => exact huntroubled _ (.tooManyDigits used textless)
      | nullCharacter given null => exact huntroubled _ (.nullCharacter given null)
      | noHome given homeless => exact huntroubled _ (.noHome given homeless)
    · simp only [if_neg hlarge]
      rcases hfollows.historyLimit with ⟨hlimit, -⟩ | ⟨-, hdefault⟩
      · exact .limitTooLarge hlimit (Int.not_lt.1 hlarge)
      · rw [hdefault] at hlarge
        exact absurd (by decide) hlarge

/-! ## Texts of files -/

/-- What becomes of the text of a file that holds a document: the settings and the limit of the
session. -/
def startUpText? (home : Home) (text : String) :
    Option (Except (Settings.Error ⊕ Session.Error) (Settings × Option Nat)) :=
  match Yaml.read text with
  | .ok (some d) => some ((startUp home d).map fun (settings, session) => (settings, session.limit))
  | _ => none

/-- The document of a text with which the program starts. -/
lemma exists_of_startUpText?_ok {text : String} {started : Settings × Option Nat}
    (h : startUpText? home text = some (.ok started)) :
    ∃ d, Yaml.read text = .ok (some d) ∧ ∃ started, startUp home d = .ok started := by
  unfold startUpText? at h
  split at h
  · next d hread =>
    cases hstart : startUp home d with
    | ok started => exact ⟨d, hread, started, hstart⟩
    | error e =>
      rw [hstart] at h
      exact nomatch h
  · exact nomatch h

/-- The document of a text with which the program fails. -/
lemma exists_of_startUpText?_error {text : String} {e : Settings.Error ⊕ Session.Error}
    (h : startUpText? home text = some (.error e)) :
    ∃ d, Yaml.read text = .ok (some d) ∧ startUp home d = .error e := by
  unfold startUpText? at h
  split at h
  · next d hread =>
    cases hstart : startUp home d with
    | ok started =>
      rw [hstart] at h
      exact nomatch h
    | error e' =>
      rw [hstart] at h
      cases h
      exact ⟨d, hread, hstart⟩
  · exact nomatch h

/-! ## What becomes of documents -/

/-- **What becomes of a document.** Whatever a document holds, the program starts with it just if
there is no trouble, and any failure is one of the troubles. When it starts, each setting is that of
the document or the default, and the session keeps as many lines as the settings say. -/
theorem startUp_outcome (home : Home) (d : Yaml.Document) :
    ((∃ started, startUp home d = .ok started) ↔ ∀ e, ¬ Trouble home d e) ∧
    (∀ e, startUp home d = .error e → Trouble home d e) ∧
    (∀ settings session, startUp home d = .ok (settings, session) →
      Follows home d settings ∧ session = { limit := some settings.historyLimit.toNat }) := by
  have hspec := startUp_spec home d
  cases hstart : startUp home d with
  | ok started =>
    rw [hstart] at hspec
    obtain ⟨hfollows, -, hsession, huntroubled⟩ := hspec
    refine ⟨⟨fun _ => huntroubled, fun _ => ⟨started, rfl⟩⟩, fun e h => (nomatch h), ?_⟩
    rintro settings session h
    cases h
    exact ⟨hfollows, hsession⟩
  | error e =>
    rw [hstart] at hspec
    refine ⟨⟨fun ⟨_, h⟩ => (nomatch h), fun h => absurd hspec (h e)⟩, fun e' h => ?_,
      fun _ _ h => (nomatch h)⟩
    cases h
    exact hspec

/-- A file without trouble: what cannot be used in it falls back to the default. -/
theorem startUp_outcome_loud :
    startUpText? { own := "/root" }
        "history_limit: ' 20 '\nlog_level: loud\naliases:\n  Due: list\n" =
      some (.ok ({ historyLimit := 20, aliases := [("due", "list")] }, some 20)) ∧
    ∃ d, Yaml.read "history_limit: ' 20 '\nlog_level: loud\naliases:\n  Due: list\n" =
        .ok (some d) ∧
      ∀ e, ¬ Trouble { own := "/root" } d e := by
  have hstarted : startUpText? { own := "/root" }
      "history_limit: ' 20 '\nlog_level: loud\naliases:\n  Due: list\n" =
      some (.ok ({ historyLimit := 20, aliases := [("due", "list")] }, some 20)) := by
    decide +kernel
  obtain ⟨d, hread, hstarts⟩ := exists_of_startUpText?_ok hstarted
  exact ⟨hstarted, d, hread, (startUp_outcome { own := "/root" } d).1.1 hstarts⟩

/-- Files that stop the program: a history without end, one that no session can hold, and the home
directory of a stranger. -/
theorem startUp_fails :
    (∃ d, Yaml.read "history_limit: .inf\n" = .ok (some d) ∧
      startUp { own := "/root" } d = .error (.inl .infiniteLimit)) ∧
    (∃ d, Yaml.read "history_limit: 9223372036854775808\n" = .ok (some d) ∧
      startUp { own := "/root" } d = .error (.inr .limitTooLarge)) ∧
    (∃ d, Yaml.read "db_path: ~stranger/store.db\n" = .ok (some d) ∧
      startUp { own := "/root" } d = .error (.inl .noHome)) := by
  refine ⟨exists_of_startUpText?_error ?_, exists_of_startUpText?_error ?_,
    exists_of_startUpText?_error ?_⟩ <;> decide +kernel

end TaskShell.Settings
