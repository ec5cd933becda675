import TaskShell.Proofs.Shell.Calls
import TaskShell.Proofs.Store.Chronology
import TaskShell.Proofs.Text.Case
import TaskShell.Shell.Dispatch

/-!
# What listings and searches report

A `list` or `search` command reports records of its kind: those that meet its conditions on parent,
status and priority and, for `search`, hold its query, in the order of their creation, and of these
as many as its limit allows. The limit is applied last, so that a search reports some of the records
that the listing with the same conditions and no limit reports, in the same order. A command that
cannot be carried out reports none and leaves store and session alone.

## Main definitions

* `Record.Says`, `Record.Mentions` — a field has a wanted value, title or description hold a text.
* `Command.Wants` — a record meets the conditions of a command.
* `Command.HasLimit`, `Command.Asks` — the limit of a command, and what it asks for.
* `Store.Lists` — a list of the records of a store that meet a condition, in order of creation.
* `Command.Remembers` — what a session remembers of a command.
* `Shell.Reports`, `Shell.Declines` — an action that reports records, and one that reports none.

## Main results

* `Filter.admits_iff`, `Filter.contains_iff` — what filters and queries let through.
* `Store.lists_filter` — the records of a listing that meet a condition.
* `Shell.reports_exactly` — what `list` and `search` report.
-/

set_option autoImplicit false

namespace TaskShell

/-! ## Conditions on records -/

/-- A field of a record has a wanted value, letter case aside. -/
def Record.Says (r : Record) (name wanted : String) : Prop :=
  ∃ value, r.fields.value? name = some value ∧ value ≠ .null ∧
    Text.lower value.display = Text.lower wanted

/-- The title or the description of a record, if it is given, holds a text, both in lower case. -/
def Record.Mentions (r : Record) (query : String) : Prop :=
  ∃ name ∈ ["title", "description"], ∃ value, r.fields.value? name = some value ∧
    value.isGiven = true ∧ Chars.lower query.toList <:+: Chars.lower value.display.toList

namespace Command

/-- A record meets the conditions of a command. A flag that is empty sets no condition, and the
parent is the first of its two flags that is not empty. -/
structure Wants (c : Command) (r : Record) : Prop where
  parent : ∀ wanted, c.flag? ["parentId", "parent"] = some wanted → r.Says "parentId" wanted
  status : ∀ wanted, c.flagValue? "status" = some wanted → r.Says "status" wanted
  priority : ∀ wanted, c.flagValue? "priority" = some wanted → r.Says "priority" wanted

/-- The limit of a command: none if it has no such flag, else the whole number that the flag reads as,
if that is at least one. -/
def HasLimit (c : Command) (limit : Option Nat) : Prop :=
  match c.flags.value? "limit" with
  | none => limit = none
  | some raw => ∃ n : Int, Number.readInt? raw = some n ∧ 1 ≤ n ∧ limit = some n.toNat

/-- What a command asks for: all records of a kind, or those that hold a text. -/
inductive Asks (c : Command) : Option String → Prop
  | list (verb : c.normalize.verb = some "list") : Asks c none
  | search (verb : c.normalize.verb = some "search") : Asks c (some (Shell.queryOf c))

/-- The listing with the same conditions and no limit. -/
def unlimited (c : Command) : Command :=
  { c with verb := some "list", flags := c.flags.without ["limit"] }

/-- What a session remembers of a command: under each key what it asked for. -/
structure Remembers (c : Command) (limit : Option Nat) (query : Option String) (filter : Fields) :
    Prop where
  keys : filter.keys.Sublist ["parentId", "status", "priority", "limit", "query"]
  parent : filter.value? "parentId" = (c.flag? ["parentId", "parent"]).map .text
  status : filter.value? "status" = (c.flagValue? "status").map fun s => .text (Text.lower s)
  priority : filter.value? "priority" = (c.flagValue? "priority").map fun s => .text (Text.lower s)
  limit : filter.value? "limit" = limit.map fun n => .int n
  query : filter.value? "query" = query.map .text

end Command

/-! ## Filters -/

namespace Text

/-- A text stands in another just if it is a part of it. -/
lemma occursIn_iff {needle haystack : List Char} :
    occursIn needle haystack = true ↔ needle <:+: haystack := by
  induction haystack with
  | nil => simp [occursIn]
  | cons c rest ih =>
    rw [occursIn, Bool.or_eq_true, ih, List.infix_cons_iff, List.isPrefixOf_iff_prefix]

end Text

namespace Filter

variable {c : Command} {limit : Option Nat} {r : Record}

/-- The filter of a command with a limit. -/
def ofLimit (c : Command) (limit : Option Nat) : Filter :=
  { parent := c.flag? ["parentId", "parent"],
    status := (c.flagValue? "status").map Text.lower,
    priority := (c.flagValue? "priority").map Text.lower,
    limit }

/-- A limit is read just if the command has it. -/
lemma limitOf_eq_ok_iff : limitOf c.flags = .ok limit ↔ c.HasLimit limit := by
  unfold limitOf readLimit? Command.HasLimit
  cases c.flags.value? "limit" with
  | none => simp [eq_comm]
  | some raw =>
    cases hread : Number.readInt? raw with
    | none => simp [hread]
    | some n =>
      by_cases hn : 1 ≤ n
      · simp [hread, hn, eq_comm]
      · simp [hread, hn]

/-- A command with a limit has its filter. -/
lemma ofCommand_of_hasLimit (h : c.HasLimit limit) : ofCommand c = .ok (ofLimit c limit) := by
  unfold ofCommand
  rw [limitOf_eq_ok_iff.2 h]
  rfl

/-- A command without a limit that can be read has no filter. -/
lemma exists_ofCommand_eq_error (h : ¬ ∃ limit, c.HasLimit limit) :
    ∃ raw, ofCommand c = .error raw := by
  cases hlimit : limitOf c.flags with
  | ok limit => exact absurd ⟨limit, limitOf_eq_ok_iff.1 hlimit⟩ h
  | error raw =>
    refine ⟨raw, ?_⟩
    unfold ofCommand
    rw [hlimit]
    rfl

/-- A field agrees with what is expected, if anything is, just if it says so. -/
lemma agrees_iff {name : String} {expected : Option String} :
    agrees r.fields name expected = true ↔ ∀ wanted, expected = some wanted → r.Says name wanted := by
  cases expected with
  | none => simp [agrees]
  | some wanted =>
    have hsaid : agrees r.fields name (some wanted) = true ↔ r.Says name wanted := by
      unfold agrees Record.Says
      dsimp only
      split
      · next h => simp [h]
      · next h => simp [h]
      · next value hnull h =>
        have hne : value ≠ .null := hnull
        simp [h, hne]
    rw [hsaid]
    simp

/-- A wanted value in lower case is the same condition. -/
lemma says_lower {name wanted : String} : r.Says name (Text.lower wanted) ↔ r.Says name wanted := by
  unfold Record.Says
  rw [Text.lower_lower]

/-- A filter lets through what its command wants. -/
lemma admits_iff : (ofLimit c limit).admits r.fields = true ↔ c.Wants r := by
  have hlowered : ∀ (name : String) (flag : Option String),
      agrees r.fields name (flag.map Text.lower) = true ↔
        ∀ wanted, flag = some wanted → r.Says name wanted := by
    intro name flag
    rw [agrees_iff]
    cases flag with
    | none => simp
    | some wanted => simp [says_lower]
  unfold admits ofLimit
  rw [Bool.and_eq_true, Bool.and_eq_true, agrees_iff, hlowered, hlowered]
  exact ⟨fun ⟨⟨hparent, hstatus⟩, hpriority⟩ => ⟨hparent, hstatus, hpriority⟩,
    fun h => ⟨⟨h.parent, h.status⟩, h.priority⟩⟩

/-- A query that is not empty is found just where it is mentioned. -/
lemma contains_iff {query : String} (h : query ≠ "") :
    contains r.fields query = true ↔ r.Mentions query := by
  have hne : Chars.lower query.toList ≠ [] := by
    intro hlower
    apply h
    apply Text.eq_empty_of_lower
    rw [Text.lower, hlower]
  have hfield : ∀ name, Text.occursIn (Chars.lower query.toList) (searchText r.fields name) = true ↔
      ∃ value, r.fields.value? name = some value ∧ value.isGiven = true ∧
        Chars.lower query.toList <:+: Chars.lower value.display.toList := by
    intro name
    rw [Text.occursIn_iff, searchText]
    cases r.fields.value? name with
    | none => simpa using hne
    | some value => cases hgiven : value.isGiven <;> simp [hgiven, hne]
  unfold contains Record.Mentions
  rw [List.any_eq_true]
  simp only [hfield]

/-- The value of a field that is there or not. -/
lemma value?_optional {α : Type} (name : String) (f : α → Value) (a : Option α) (key : String) :
    Entries.value? (a.toList.map fun a => (name, f a)) key =
      if name = key then a.map f else none := by
  cases a <;> simp [Entries.value?]

/-- The key of a field that is there or not. -/
lemma keys_optional {α : Type} (name : String) (f : α → Value) (a : Option α) :
    ((a.toList.map fun a => (name, f a)).map Prod.fst).Sublist [name] := by
  cases a <;> simp

/-- The remembered fields of a filter. -/
lemma remembers (c : Command) (limit : Option Nat) (query : Option String) :
    c.Remembers limit query
      ((ofLimit c limit).fields ++ query.toList.map fun q => ("query", .text q)) := by
  unfold fields ofLimit
  constructor
  case keys =>
    unfold Entries.keys
    simp only [List.map_append]
    exact ((((keys_optional _ _ _).append (keys_optional _ _ _)).append
      (keys_optional _ _ _)).append (keys_optional _ _ _)).append (keys_optional _ _ _)
  all_goals simp [Entries.value?_append, value?_optional, Function.comp_def]

end Filter

/-! ## Listings -/

namespace Store

variable {s : Store} {ops : List Operation} {kind : Entity}

/-- Of two records, the first was created at an earlier instant, or at the same one and inserted
before the other. -/
def CreatedBefore (s : Store) (ops : List Operation) (a b : Record) : Prop :=
  a.createdAt.micros < b.createdAt.micros ∨
    a.createdAt = b.createdAt ∧ s.InsertedBefore ops a b

/-- Records that meet a condition: all of a store, once each, in the order of their creation by some
operations. -/
structure Lists (s : Store) (ops : List Operation) (P : Record → Prop) (records : List Record) :
    Prop where
  complete : ∀ r, r ∈ records ↔ r ∈ (s.after ops).records ∧ P r
  nodup : records.Nodup
  ordered : records.Pairwise (s.CreatedBefore ops)

/-- No record of distinct ones is there twice. -/
lemma Distinct.nodup {records : List Record} (h : Distinct records) : records.Nodup := by
  refine List.Pairwise.imp (fun {a b} hab => ?_) h
  rintro rfl
  rw [sameId_self] at hab
  exact nomatch hab

/-- A listing has the records of its kind in the order of their creation.

**Proof sketch.** The records are kept in the order of their insertion, and sorting keeps the order of
what is tied; what is sorted by the texts of instants is sorted by the instants. -/
theorem lists_list (h : s.Intact) (hempty : s.records = []) (ops : List Operation) (kind : Entity) :
    s.Lists ops (fun r => r.kind = kind) ((s.after ops).list kind) := by
  obtain ⟨horigin, hinserted⟩ := pairwise_insertedBefore h hempty ops
  rw [list_all]
  have hperm := List.mergeSort_perm ((s.after ops).records.filter fun r => r.kind == kind)
    isListedBefore
  have hmem : ∀ r ∈ ((s.after ops).records.filter fun r => r.kind == kind).mergeSort isListedBefore,
      r ∈ (s.after ops).records := by
    intro r hr
    exact (List.mem_filter.1 (hperm.subset hr)).1
  refine ⟨fun r => ?_, ?_, ?_⟩
  · rw [hperm.mem_iff, List.mem_filter, beq_iff_eq]
  · exact hperm.nodup_iff.2 ((h.after ops).distinct.nodup.filter _)
  · have hsorted := pairwise_mergeSort_of_pairwise isListedBefore_trans isListedBefore_total
      (hinserted.filter fun r => r.kind == kind)
    refine List.Pairwise.imp_of_mem (fun {a b} ha hb hab => ?_) hsorted
    obtain ⟨m, hm⟩ := horigin a (hmem a ha)
    obtain ⟨n, hn⟩ := horigin b (hmem b hb)
    rcases isListedBefore_cases hab.1 with hlt | ⟨heq, hba⟩
    · exact .inl ((Instant.text_lt_text_iff hm.lt_dated hn.lt_dated).1 hlt)
    · exact .inr ⟨Instant.eq_of_text_eq hm.lt_dated hn.lt_dated heq, hab.2 hba⟩

/-- Of listed records, those that meet a further condition. -/
lemma Lists.filter {P : Record → Prop} {records : List Record} (h : s.Lists ops P records)
    {p : Record → Bool} {Q : Record → Prop} (hp : ∀ r, p r = true ↔ Q r) :
    s.Lists ops (fun r => P r ∧ Q r) (records.filter p) := by
  refine ⟨fun r => ?_, h.nodup.filter p, h.ordered.filter p⟩
  rw [List.mem_filter, h.complete, hp, and_assoc]

end Store

/-! ## Reports -/

/-- The calls by which a world lists records are not refused. -/
def World.CanList (w : World) : Prop :=
  (w.faults w.calls).repository = none ∧ World.Serves { w with calls := w.calls + 1 } Faults.list

namespace Shell

variable {w : World} {c : Command} {kind : Entity} {limit : Option Nat} {query : Option String}

/-- The heading of a report, with the number of records. -/
def reportHeading (kind : Entity) (query : Option String) (number : Nat) : String :=
  match query with
  | none => headingName kind.name ++ " (" ++ toString number ++ "):"
  | some query => headingName kind.name ++ " matching \"" ++ query ++ "\" (" ++ toString number ++ "):"

/-- The lines of a report: the heading, and a line for each record. -/
def reportLines (kind : Entity) (query : Option String) (printed : List Record) : List String :=
  reportHeading kind query printed.length ::
    if printed.isEmpty then ["  No " ++ Vocabulary.plural kind.name ++ " found."]
    else printed.map fun r => r.fields.line

/-- A world after a report: the lines are written, and the session remembers the filter, unless that is
empty. The store stays as it is. -/
def reported (w : World) (kind : Entity) (query : Option String) (filter : Fields)
    (printed : List Record) : World :=
  { w with
    calls := w.calls + 2,
    session := { w.session with lastFilter := if filter.isEmpty then none else some filter },
    journal := w.journal ++ (reportLines kind query printed).map .line }

/-- A world after a command that reports nothing: store and session stay as they are. A search without
query is told how to search, anything else fails. -/
def Declines (w : World) (action : Shell (Progress Activity)) (query : Option String) : Prop :=
  ∃ outcome calls noted,
    action.perform w = (outcome, { w with calls, journal := w.journal ++ noted }) ∧
      if query = some "" then
        noted = [.line "Error: No search query given", .line ("Usage: " ++ searchUsage)]
      else ∃ cause, outcome = .error cause ∧ noted = [.failure cause]

/-! ### Filters and selections -/

/-- The filter of a command is read from its limit. -/
lemma perform_filterOf (h : c.HasLimit limit) :
    (filterOf c).perform w = (.ok (Filter.ofLimit c limit), w) := by
  unfold filterOf
  rw [Filter.ofCommand_of_hasLimit h]
  rfl

/-- A limit that cannot be read stops. -/
lemma stops_filterOf (h : ¬ ∃ limit, c.HasLimit limit) : Stops w (filterOf c) := by
  obtain ⟨raw, hraw⟩ := Filter.exists_ofCommand_eq_error h
  unfold filterOf
  rw [hraw]
  exact stops_fail _

/-- A record is kept if it holds the query, if there is one. -/
def keeps (query : Option String) (record : Fields) : Bool :=
  match query with
  | none => true
  | some query => Filter.contains record query

/-- The records of a kind that a filter lets through and a query keeps, in order. -/
def matching (w : World) (c : Command) (kind : Entity) (query : Option String) : List Record :=
  ((w.store.list kind).filter fun r => keeps query r.fields).filter fun r =>
    (Filter.ofLimit c none).admits r.fields

/-- As many records as a limit allows. -/
def limited (limit : Option Nat) (records : List Record) : List Record :=
  limit.elim records records.take

/-- A selection of records. -/
lemma perform_select (hcalls : w.CanList) (c : Command) (limit : Option Nat) (kind : Entity)
    (query : Option String) :
    (select kind.name (Filter.ofLimit c limit) (keeps query)).perform w =
      (.ok ((limited limit (matching w c kind query)).map Record.fields),
        { w with calls := w.calls + 2 }) := by
  unfold select
  rw [perform_bind_of_ok (perform_repository kind hcalls.1),
    perform_bind_of_ok (perform_listRecords kind hcalls.2)]
  unfold Filter.apply matching limited
  cases limit with
  | none =>
    simp only [Filter.ofLimit, List.filter_map, Function.comp_def, Option.elim]
    rfl
  | some n =>
    simp only [Filter.ofLimit, List.filter_map, Function.comp_def, Option.elim, List.map_take]
    rfl

/-- A call that is refused stops a selection. -/
lemma stops_select (hcalls : ¬ w.CanList) (kind : Entity) (filter : Filter)
    (keep : Fields → Bool) : Stops w (select kind.name filter keep) := by
  unfold select
  by_cases hrepository : (w.faults w.calls).repository = none
  · refine Stops.after ?_ (perform_repository kind hrepository)
    have hlist : ¬ World.Serves { w with calls := w.calls + 1 } Faults.list :=
      fun hserves => hcalls ⟨hrepository, hserves⟩
    exact ((stops_callUnless hlist).bind _).bind _
  · exact (stops_repository kind.name hrepository).bind _

/-- Records written under a heading. -/
lemma perform_render (kind : Entity) (query : Option String) (printed : List Record) (w : World) :
    (render kind.name (reportHeading kind query printed.length)
        (printed.map Record.fields)).perform w =
      (.ok (), { w with journal := w.journal ++ (reportLines kind query printed).map .line }) := by
  unfold render say sayAll reportLines
  rw [perform_bind_of_ok (perform_note _ _)]
  cases printed <;> simp [List.append_assoc]

/-- A selection that is remembered and written under its heading. -/
lemma perform_selection (hcalls : w.CanList) (c : Command) (limit : Option Nat) (kind : Entity)
    (query : Option String) (filter : Fields) :
    perform (do
        let records ← select kind.name (Filter.ofLimit c limit) (keeps query)
        modifySession fun s => s.setFilter (some filter)
        render kind.name (reportHeading kind query records.length) records) w =
      (.ok (), reported w kind query filter (limited limit (matching w c kind query))) := by
  rw [perform_bind_of_ok (perform_select hcalls c limit kind query),
    perform_bind_of_ok (perform_modifySession _ _), List.length_map, perform_render]
  have hfilter : w.session.setFilter (some filter) =
      { w.session with lastFilter := if filter.isEmpty then none else some filter } := by
    unfold Session.setFilter
    cases filter <;> rfl
  rw [hfilter]
  rfl

/-! ### The two commands -/

/-- The filter that a session remembers of a command. -/
def filterFields (c : Command) (limit : Option Nat) (query : Option String) : Fields :=
  (Filter.ofLimit c limit).fields ++ query.toList.map fun q => ("query", .text q)

/-- A `list` command that can be carried out. -/
lemma perform_list (hentity : c.entity = some kind.name) (hlimit : c.HasLimit limit)
    (hcalls : w.CanList) : (list c).perform w =
      (.ok (), reported w kind none (filterFields c limit none)
        (limited limit (matching w c kind none))) := by
  unfold list
  rw [perform_bind_of_ok (perform_requireEntity hentity _ w),
    perform_bind_of_ok (perform_filterOf hlimit), filterFields, Option.toList_none, List.map_nil,
    List.append_nil]
  exact perform_selection hcalls c limit kind none _

/-- A `search` command that can be carried out. -/
lemma perform_search (hentity : c.entity = some kind.name) (hquery : queryOf c ≠ "")
    (hlimit : c.HasLimit limit) (hcalls : w.CanList) : (search c).perform w =
      (.ok (), reported w kind (some (queryOf c)) (filterFields c limit (some (queryOf c)))
        (limited limit (matching w c kind (some (queryOf c))))) := by
  unfold search
  rw [perform_bind_of_ok (perform_requireEntity hentity _ w)]
  dsimp only
  rw [if_neg hquery, perform_bind_of_ok (perform_filterOf hlimit)]
  exact perform_selection hcalls c limit kind (some (queryOf c)) _

/-- A limit that cannot be read, or a call that is refused, stops what begins with a selection. -/
lemma stops_selection (h : (¬ ∃ limit, c.HasLimit limit) ∨ ¬ w.CanList) (kind : Entity)
    (keep : Fields → Bool) (rest : Filter → List Fields → Shell Unit) :
    Stops w (do
      let filter ← filterOf c
      let records ← select kind.name filter keep
      rest filter records) := by
  by_cases hlimit : ∃ limit, c.HasLimit limit
  · obtain ⟨limit, hlimit⟩ := hlimit
    have hcalls : ¬ w.CanList := h.resolve_left (not_not_intro ⟨limit, hlimit⟩)
    rw [Stops, perform_bind_of_ok (perform_filterOf hlimit)]
    exact (stops_select hcalls kind _ _).bind _
  · exact (stops_filterOf hlimit).bind _

/-- A `list` command that cannot be carried out stops. -/
lemma stops_list (hentity : c.entity = some kind.name)
    (h : (¬ ∃ limit, c.HasLimit limit) ∨ ¬ w.CanList) : Stops w (list c) := by
  unfold list
  rw [Stops, perform_bind_of_ok (perform_requireEntity hentity _ w)]
  exact stops_selection h kind _ _

/-- A `search` command with a query that cannot be carried out stops. -/
lemma stops_search (hentity : c.entity = some kind.name) (hquery : queryOf c ≠ "")
    (h : (¬ ∃ limit, c.HasLimit limit) ∨ ¬ w.CanList) : Stops w (search c) := by
  unfold search
  rw [Stops, perform_bind_of_ok (perform_requireEntity hentity _ w)]
  dsimp only
  rw [if_neg hquery]
  exact stops_selection h kind _ _

/-! ### What is reported -/

/-- A `list` command is run as one. -/
lemma perform_dispatch_list (hverb : c.verb = some "list") (line : String) :
    (dispatch c line).perform w = perform (do list c; return .finished) w := by
  unfold dispatch
  rw [hverb]
  rfl

/-- A `search` command is run as one. -/
lemma perform_dispatch_search (hverb : c.verb = some "search") (line : String) :
    (dispatch c line).perform w = perform (do search c; return .finished) w := by
  unfold dispatch
  rw [hverb]
  rfl

/-- The records that a selection offers are those of the kind which meet the conditions and hold the
query, in the order of their creation. -/
lemma lists_matching {ids : IdSupply} {clock : Clock} {room : Json.Room} {ops : List Store.Operation}
    (hstore : w.store = (Store.empty ids clock room).after ops) (c : Command) (kind : Entity)
    (hquery : query ≠ some "") :
    (Store.empty ids clock room).Lists ops
      (fun r => (r.kind = kind ∧ ∀ q ∈ query, r.Mentions q) ∧ c.Wants r)
      (matching w c kind query) := by
  have hlisted := Store.lists_list (Store.intact_empty ids clock room) rfl ops kind
  rw [← hstore] at hlisted
  refine (hlisted.filter fun r => ?_).filter fun r => Filter.admits_iff
  cases query with
  | none => simp [keeps]
  | some q =>
    have hne : q ≠ "" := fun hempty => hquery (congrArg some hempty)
    simp [keeps, Filter.contains_iff hne]

/-- The conditions without a limit are the same. -/
lemma ofLimit_unlimited (c : Command) : Filter.ofLimit c.unlimited none = Filter.ofLimit c none := by
  have hflag : ∀ name, name ≠ "limit" → c.unlimited.flagValue? name = c.flagValue? name := by
    intro name hname
    unfold Command.flagValue? Command.unlimited
    rw [Entries.value?_without, if_neg (by simpa using hname)]
  unfold Filter.ofLimit Command.flag?
  simp only [List.findSome?_cons, hflag "parentId" (by decide), hflag "parent" (by decide),
    hflag "status" (by decide), hflag "priority" (by decide), List.findSome?_nil]

/-- What a limit leaves of a search is among what the listing without limit offers. -/
lemma sublist_matching (w : World) (c : Command) (kind : Entity) (query : Option String)
    (limit : Option Nat) :
    (limited limit (matching w c kind query)).Sublist (matching w c.unlimited kind none) := by
  have hlimited : ∀ records, (limited limit records).Sublist records := by
    intro records
    cases limit with
    | none => exact List.Sublist.refl _
    | some n => exact List.take_sublist n records
  have hkept : (matching w c kind query).Sublist (matching w c.unlimited kind none) := by
    unfold matching
    rw [ofLimit_unlimited]
    simp only [keeps, List.filter_true]
    exact List.filter_sublist.filter _
  exact (hlimited _).trans hkept

/-- A command that can be carried out reports what it selects. -/
lemma perform_dispatch_of_asks (hasks : c.Asks query) (hquery : query ≠ some "")
    (hentity : c.normalize.entity = some kind.name) (hlimit : c.HasLimit limit)
    (hcalls : w.CanList) (line : String) : (dispatch c.normalize line).perform w =
      (.ok .finished, reported w kind query (filterFields c limit query)
        (limited limit (matching w c kind query))) := by
  cases hasks with
  | list hverb =>
    rw [perform_dispatch_list hverb, perform_bind_of_ok (perform_list hentity hlimit hcalls)]
    rfl
  | search hverb =>
    have hne : queryOf c.normalize ≠ "" := fun hempty => hquery (congrArg some hempty)
    rw [perform_dispatch_search hverb,
      perform_bind_of_ok (perform_search hentity hne hlimit hcalls)]
    rfl

/-- A command that stops reports nothing. -/
lemma declines_of_stops {action : Shell Unit} (h : Stops w action) (hquery : query ≠ some "") :
    Declines w (do action; return .finished) query := by
  obtain ⟨cause, calls, hfails⟩ := h
  refine ⟨.error cause, calls, [.failure cause], perform_bind_of_error hfails, ?_⟩
  rw [if_neg hquery]
  exact ⟨cause, rfl, rfl⟩

/-- A search without query reports nothing. -/
lemma declines_of_missing (hentity : c.entity = some kind.name) (hquery : queryOf c = "") :
    Declines w (do search c; return .finished) (some "") := by
  have hsearch : (search c).perform w = (.ok (), { w with journal := w.journal ++
      [.line "Error: No search query given", .line ("Usage: " ++ searchUsage)] }) := by
    unfold search say
    rw [perform_bind_of_ok (perform_requireEntity hentity _ w)]
    dsimp only
    rw [if_pos hquery, perform_bind_of_ok (perform_note _ _), perform_note, List.append_assoc]
    rfl
  refine ⟨.ok .finished, w.calls, _, perform_bind_of_ok hsearch, ?_⟩
  rw [if_pos rfl]

/-- A command that cannot be carried out reports nothing. -/
lemma declines_of_asks (hasks : c.Asks query) (hentity : c.normalize.entity = some kind.name)
    (h : (¬ ∃ limit, c.HasLimit limit) ∨ query = some "" ∨ ¬ w.CanList) (line : String) :
    Declines w (dispatch c.normalize line) query := by
  unfold Declines
  cases hasks with
  | list hverb =>
    have hunable := h.imp_right fun h => h.resolve_left nofun
    rw [perform_dispatch_list hverb]
    exact declines_of_stops (stops_list hentity hunable) nofun
  | search hverb =>
    rw [perform_dispatch_search hverb]
    by_cases hquery : queryOf c = ""
    · rw [hquery]
      exact declines_of_missing hentity hquery
    · have hne : some (queryOf c) ≠ some "" := fun hempty => hquery (Option.some.inj hempty)
      have hunable := h.imp_right fun h => h.resolve_left hne
      exact declines_of_stops (stops_search hentity hquery hunable) hne

/-- **`list` and `search` report exactly the records that match.** For a store after any operations,
and a command for a kind of records that validation accepts:

* if its limit is absent or a whole number of at least one, it has a query if it needs one, and no call
  is refused, then it writes a heading with the number of records and a line for each record. These
  are as many as the limit allows of the records of the kind which meet the conditions and hold the
  query, in the order of their creation. The session remembers what was asked for, or nothing if
  nothing was. The listing with the same conditions and no limit reports all of these records, and
  others, in the same order;
* otherwise it reports no record, and store and session stay as they are.

**Proof sketch.** A listing has the records of its kind in the order of their creation
(`Store.lists_list`), filters let through what the command wants (`Filter.admits_iff`,
`Filter.contains_iff`), and the limit takes the first of what is left. Each step before the report
either works or stops the command. -/
theorem reports_exactly (ids : IdSupply) (clock : Clock) (room : Json.Room)
    (ops : List Store.Operation) {w : World}
    (hstore : w.store = (Store.empty ids clock room).after ops) {c : Command} {word : String}
    {query : Option String} (hasks : c.Asks query) (hentity : c.entity = some word)
    (hvalid : Vocabulary.entity word ∈ Command.validEntities) (line : String) :
    let ran := (dispatch c.normalize line).perform w
    ∃ kind : Entity, kind.name = Vocabulary.entity word ∧
      (∀ limit, c.HasLimit limit → query ≠ some "" → w.CanList →
        ∃ matching filter all allFilter,
          let printed := limited limit matching
          (Store.empty ids clock room).Lists ops
            (fun r => (r.kind = kind ∧ ∀ q ∈ query, r.Mentions q) ∧ c.Wants r) matching ∧
          c.Remembers limit query filter ∧
          ran = (.ok .finished, reported w kind query filter printed) ∧
          (dispatch c.unlimited.normalize line).perform w =
            (.ok .finished, reported w kind none allFilter all) ∧
          printed.Sublist all) ∧
      ((¬ ∃ limit, c.HasLimit limit) ∨ query = some "" ∨ ¬ w.CanList →
        Declines w (dispatch c.normalize line) query) ∧
      ran.2.store = w.store := by
  intro ran
  obtain ⟨kind, hkind⟩ := Vocabulary.entity_eq_name hvalid
  have hnamed : c.normalize.entity = some kind.name := by
    rw [← hkind, Command.normalize, hentity]
    rfl
  have hdeclines := fun h => declines_of_asks hasks hnamed (w := w) h line
  refine ⟨kind, hkind.symm, fun limit hlimit hquery hcalls => ?_, hdeclines, ?_⟩
  · have hunlimited : c.unlimited.HasLimit none := by
      unfold Command.HasLimit Command.unlimited
      rw [Entries.value?_without]
      rfl
    have hword : Vocabulary.verb "list" = "list" := by decide +kernel
    have hlisted : c.unlimited.Asks none := .list (congrArg some hword)
    exact ⟨matching w c kind query, filterFields c limit query, matching w c.unlimited kind none,
      filterFields c.unlimited none none, lists_matching hstore c kind hquery,
      Filter.remembers c limit query, perform_dispatch_of_asks hasks hquery hnamed hlimit hcalls line,
      perform_dispatch_of_asks hlisted (Option.some_ne_none "").symm hnamed hunlimited hcalls line,
      sublist_matching w c kind query limit⟩
  · by_cases hunable : (¬ ∃ limit, c.HasLimit limit) ∨ query = some "" ∨ ¬ w.CanList
    · obtain ⟨outcome, calls, noted, hrun, -⟩ := hdeclines hunable
      have hran : ran = _ := hrun
      rw [hran]
    · rw [not_or, not_or, not_not, not_not] at hunable
      obtain ⟨⟨limit, hlimit⟩, hquery, hcalls⟩ := hunable
      have hran : ran = _ := perform_dispatch_of_asks hasks hquery hnamed hlimit hcalls line
      rw [hran]
      rfl

/-- A search with a status and a limit among three tasks, two of which mention what is searched for. -/
theorem reports_exactly_milk :
    let task (title status : String) : Store.Operation :=
      .create .task [("title", .text title), ("status", .text status)]
    let ops := [task "Fly home" "active", task "Buy MILK" "paused", task "Milk run" "Active"]
    let w : World :=
      { store := (Store.empty (.ofQueue ["A1", "B2", "C3"]) {}).after ops, session := {} }
    let c : Command :=
      { verb := some "FIND", entity := some "Tasks", target := some " milk ",
        flags := [("status", "ACTIVE"), ("priority", ""), ("limit", " +5 ")] }
    let ran := (dispatch c.normalize "").perform w
    ∃ filter printed, ran = (.ok .finished, reported w .task (some "milk") filter printed) ∧
      filter.value? "status" = some (.text "active") ∧ filter.value? "priority" = none ∧
      filter.value? "limit" = some (.int 5) ∧ printed.map Record.title = ["Milk run"] := by
  intro task ops w c ran
  have hquery : queryOf c = "milk" := by decide +kernel
  have hasks : c.Asks (some "milk") := by
    rw [← hquery]
    exact .search (by decide +kernel)
  have hvalid : Vocabulary.entity "Tasks" ∈ Command.validEntities := by decide +kernel
  have hlimit : c.HasLimit (some 5) := ⟨5, by decide +kernel, by decide, rfl⟩
  have hstore : w.store = (Store.empty (.ofQueue ["A1", "B2", "C3"]) {}).after ops := rfl
  obtain ⟨kind, hkind, hreports, -⟩ := reports_exactly _ _ _ _ hstore hasks rfl hvalid ""
  obtain ⟨matching, filter, all, allFilter, hlists, hremembers, hran, -, -⟩ :=
    hreports (some 5) hlimit (by decide) ⟨rfl, rfl, rfl⟩
  obtain rfl : kind = .task := Entity.name_injective (hkind.trans (by decide +kernel))
  let matches? (r : Record) : Bool :=
    r.kind == .task && Filter.contains r.fields "milk" && (Filter.ofLimit c none).admits r.fields
  have hmatching : matching.Perm (w.store.records.filter matches?) := by
    have hintact := (Store.intact_empty (.ofQueue ["A1", "B2", "C3"]) {} .standard).after ops
    have hnodup := hintact.distinct.nodup
    refine (List.perm_ext_iff_of_nodup hlists.nodup (hnodup.filter _)).2 fun r => ?_
    rw [hlists.complete, List.mem_filter, Bool.and_eq_true, Bool.and_eq_true, beq_iff_eq,
      Filter.contains_iff (by decide), Filter.admits_iff]
    simp
  have htitles : (w.store.records.filter matches?).map Record.title = ["Milk run"] := by
    decide +kernel
  refine ⟨filter, _, hran, ?_, hremembers.priority, hremembers.limit, ?_⟩
  · have hlower : Text.lower "ACTIVE" = "active" := by decide +kernel
    rw [hremembers.status, ← hlower]
    rfl
  · have hlisted := hmatching.map Record.title
    rw [htitles, List.perm_singleton] at hlisted
    rw [limited, Option.elim, List.map_take, hlisted]
    rfl

end Shell

end TaskShell
