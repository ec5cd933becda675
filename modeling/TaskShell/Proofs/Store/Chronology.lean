import Mathlib.Data.List.Induction
import TaskShell.Proofs.Instant.Order
import TaskShell.Proofs.Store.Frames
import TaskShell.Proofs.Store.Run

/-!
# Listings are chronological

Whatever a store has gone through, with its clock going forward, standing still or going back: a
listing has the records of its kind in the order of the instants at which they were created, and
those of the same instant in the order in which they were inserted. The texts by which records are
dated are ordered as the instants, sorting is stable, and records are kept in the order of their
insertion: an update keeps a record in its place, and a deletion leaves the others in theirs. The
numbers of the rows ascend in the same order, although the numbers of deleted rows are used again.

## Main definitions

* `Store.Origin` — the operation that created a record that is still there.
* `Store.InsertedBefore` — one record was inserted before another.
* `Store.rowsAfter` — the rows of the records, each with its number.

## Main results

* `Store.exists_origin`, `Store.pairwise_insertedBefore` — records are kept in the order of their
  insertion.
* `Store.list_chronological` — listings are ordered by the instants of creation.
-/

set_option autoImplicit false

namespace TaskShell

/-- A record goes on as another: its kind, its id and the instant of its creation are kept. -/
structure Record.Continues (former r : Record) : Prop where
  kind_eq : r.kind = former.kind
  id_eq : r.id = former.id
  createdAt_eq : r.createdAt = former.createdAt

/-- A record goes on as itself. -/
lemma Record.Continues.refl (r : Record) : r.Continues r := ⟨rfl, rfl, rfl⟩

namespace Store

/-! ## What an operation does to the records -/

/-- The creation of a record with an id that is free, at the time of the clock. -/
structure Inserts (s : Store) (op : Operation) (r : Record) : Prop where
  create : ∃ data, op = .create r.kind data ∧ (s.create r.kind data).1 = .ok r.id
  clock : s.clock.read? = some r.createdAt
  free : ∀ q ∈ s.records, sameId q.id r.id = false

variable {s : Store} {ops : List Operation} {op : Operation} {r : Record}

/-- A record that is created has an id of its own. -/
lemma Inserts.id_ne (h : s.Inserts op r) {q : Record} (hq : q ∈ s.records) : q.id ≠ r.id := by
  intro hid
  have hfree := h.free q hq
  rw [hid, sameId_self] at hfree
  exact nomatch hfree

/-- Where a record is replaced by one that it is merged into, each record goes on. -/
lemma Intact.continues_merged (h : s.Intact) {former q : Record} {changes : Fields}
    (hformer : former ∈ s.records) (hmerged : r.IsMerged former changes) (hq : q ∈ s.records) :
    q.Continues (if isNamed r.kind r.id q then r else q) := by
  split
  · next hnamed =>
    have hid := ((isNamed_iff _ _ _).1 hnamed).2
    rw [hmerged.id_eq] at hid
    rw [h.distinct.eq_of_sameId hq hformer hid]
    exact ⟨hmerged.kind_eq, hmerged.id_eq, hmerged.createdAt_eq⟩
  · exact .refl q

/-- After an operation the records go on in their order, unless they are left out, or they are all
there and a new one comes behind them. -/
lemma Intact.records_run (h : s.Intact) (op : Operation) :
    (∃ next : Record → Record, (∀ r ∈ s.records, r.Continues (next r)) ∧
        (s.run op).records.Sublist (s.records.map next)) ∨
      ∃ r, s.Inserts op r ∧ (s.run op).records = s.records ++ [r] := by
  have hsame : ∀ s' : Store, s'.records.Sublist s.records → ∃ next : Record → Record,
      (∀ r ∈ s.records, r.Continues (next r)) ∧ s'.records.Sublist (s.records.map next) := by
    intro s' hsub
    exact ⟨id, fun r _ => .refl r, by rwa [List.map_id]⟩
  cases op with
  | create kind data =>
    have hends := s.creates kind data
    simp only [Store.run]
    rcases hrun : s.create kind data with ⟨outcome, s'⟩
    rw [hrun] at hends
    cases hends with
    | untitled | endless | undated | unwritable | unfit => exact .inl (hsame _ (List.Sublist.refl _))
    | @stored n now r hfirst hclock _ _ hnew hid hcreated _ =>
      refine .inr ⟨r, ⟨⟨data, by rw [hnew.kind_eq], by rw [hnew.kind_eq, hrun]⟩, ?_, ?_⟩, rfl⟩
      · rw [hclock, hcreated]
      · simpa [isTaken, ← hid] using hfirst.free
  | update kind id changes =>
    have hends := s.update_ends kind id changes
    simp only [Store.run]
    rcases hrun : s.update kind id changes with ⟨e | _, s'⟩
    · rw [hrun] at hends
      have hrecords : s'.records = s.records := hends
      exact .inl (hsame _ (by rw [hrecords]))
    · rw [hrun] at hends
      obtain ⟨former, r, hfound, hrecords, hmerged, -⟩ := hends
      have hformer := (find?_eq_some hfound).1
      refine .inl ⟨_, fun q hq => h.continues_merged hformer hmerged hq, ?_⟩
      rw [hrecords]
      exact List.Sublist.refl _
  | delete kind id =>
    have hends := s.delete_ends kind id
    simp only [Store.run]
    rcases hrun : s.delete kind id with ⟨e | _, s'⟩
    · rw [hrun] at hends
      have hrecords : s'.records = s.records := hends
      exact .inl (hsame _ (by rw [hrecords]))
    · rw [hrun] at hends
      obtain ⟨r, -, hrecords⟩ := hends
      exact .inl (hsame _ (by rw [hrecords]; exact List.filter_sublist))
  | setClock clock => exact .inl (hsame _ (List.Sublist.refl _))

/-! ## The order of insertion -/

/-- Operations, and one after them. -/
lemma after_concat (s : Store) (ops : List Operation) (op : Operation) :
    s.after (ops ++ [op]) = (s.after ops).run op := by
  simp [after]

/-- The operation with a number created a record, at the time that the clock then had, and the
record has been there ever since. -/
structure Origin (s : Store) (ops : List Operation) (n : Nat) (r : Record) : Prop where
  inserted : ∃ op r₀, ops[n]? = some op ∧ (s.after (ops.take n)).Inserts op r₀ ∧ r₀.Continues r
  kept : ∀ m, n < m → m ≤ ops.length → ∃ q ∈ (s.after (ops.take m)).records, q.id = r.id

/-- One record was inserted before another. -/
def InsertedBefore (s : Store) (ops : List Operation) (a b : Record) : Prop :=
  ∃ m n, m < n ∧ s.Origin ops m a ∧ s.Origin ops n b

namespace Origin

variable {m n : Nat} {former : Record}

/-- The number of an operation is less than the number of all. -/
lemma lt_length (h : s.Origin ops n r) : n < ops.length := by
  obtain ⟨op, r₀, hop, -, -⟩ := h.inserted
  exact (List.getElem?_eq_some_iff.1 hop).1

/-- A record that goes on after an operation keeps its origin. -/
lemma onward (h : s.Origin ops n former) (hnext : former.Continues r)
    (hmem : r ∈ (s.after (ops ++ [op])).records) : s.Origin (ops ++ [op]) n r := by
  have hn := h.lt_length
  obtain ⟨op₀, r₀, hop, hinserts, hcontinues⟩ := h.inserted
  refine ⟨⟨op₀, r₀, ?_, ?_, ?_⟩, fun m hm hlength => ?_⟩
  · rw [List.getElem?_append_left hn, hop]
  · rwa [List.take_append_of_le_length hn.le]
  · exact ⟨hnext.kind_eq.trans hcontinues.kind_eq, hnext.id_eq.trans hcontinues.id_eq,
      hnext.createdAt_eq.trans hcontinues.createdAt_eq⟩
  · rcases Nat.lt_or_ge ops.length m with hlast | hearlier
    · rw [List.take_of_length_le (by simp only [List.length_append, List.length_singleton]; omega)]
      exact ⟨r, hmem, rfl⟩
    · rw [List.take_append_of_le_length hearlier, hnext.id_eq]
      exact h.kept m hm hearlier

/-- A record that an operation creates has its origin there. -/
lemma last (h : (s.after ops).Inserts op r) (hmem : r ∈ (s.after (ops ++ [op])).records) :
    s.Origin (ops ++ [op]) ops.length r := by
  refine ⟨⟨op, r, by simp, ?_, .refl r⟩, fun m hm hlength => ?_⟩
  · rwa [List.take_left]
  · rw [List.take_of_length_le (by simp only [List.length_append, List.length_singleton]; omega)]
    exact ⟨r, hmem, rfl⟩

/-- A record has one origin: while it is there, none is created with its id. -/
lemma unique (h : s.Origin ops m r) (h' : s.Origin ops n r) : m = n := by
  have hlater : ∀ {m n : Nat}, s.Origin ops m r → s.Origin ops n r → ¬ m < n := by
    intro m n h h' hlt
    obtain ⟨op, r₀, -, hinserts, hcontinues⟩ := h'.inserted
    obtain ⟨q, hq, hid⟩ := h.kept n hlt h'.lt_length.le
    exact hinserts.id_ne hq (hid.trans hcontinues.id_eq)
  have hm := hlater h h'
  have hn := hlater h' h
  omega

end Origin

/-- Records that go on after an operation were inserted in the order of the records that they were. -/
lemma InsertedBefore.onward {a b a' b' : Record} (h : s.InsertedBefore ops a b)
    (ha : a.Continues a') (hb : b.Continues b') (hmem : a' ∈ (s.after (ops ++ [op])).records)
    (hmem' : b' ∈ (s.after (ops ++ [op])).records) : s.InsertedBefore (ops ++ [op]) a' b' := by
  obtain ⟨m, n, hmn, hm, hn⟩ := h
  exact ⟨m, n, hmn, hm.onward ha hmem, hn.onward hb hmem'⟩

section Onward

variable {next : Record → Record} (hnext : ∀ r ∈ (s.after ops).records, r.Continues (next r))
  (hsub : (s.after (ops ++ [op])).records.Sublist ((s.after ops).records.map next))

include hnext hsub

/-- Records that go on after an operation keep their origins. -/
lemma exists_origin_onward (h : ∀ r ∈ (s.after ops).records, ∃ n, s.Origin ops n r) :
    ∀ r ∈ (s.after (ops ++ [op])).records, ∃ n, s.Origin (ops ++ [op]) n r := by
  intro r hr
  obtain ⟨former, hmem, rfl⟩ := List.mem_map.1 (hsub.subset hr)
  obtain ⟨n, hn⟩ := h former hmem
  exact ⟨n, hn.onward (hnext former hmem) hr⟩

/-- Records that go on after an operation keep the order of their insertion. -/
lemma pairwise_onward (h : (s.after ops).records.Pairwise (s.InsertedBefore ops)) :
    (s.after (ops ++ [op])).records.Pairwise (s.InsertedBefore (ops ++ [op])) := by
  have hbefore : ((s.after ops).records.map next).Pairwise fun a b =>
      a ∈ (s.after (ops ++ [op])).records → b ∈ (s.after (ops ++ [op])).records →
        s.InsertedBefore (ops ++ [op]) a b := by
    refine List.pairwise_map.2 (List.Pairwise.imp_of_mem ?_ h)
    intro a b ha hb hab hmem hmem'
    exact hab.onward (hnext a ha) (hnext b hb) hmem hmem'
  exact List.Pairwise.imp_of_mem (fun ha hb hab => hab ha hb) (hbefore.sublist hsub)

end Onward

/-- A record that an operation creates comes last, and was inserted after all others. -/
lemma pairwise_last (horigin : ∀ r ∈ (s.after ops).records, ∃ n, s.Origin ops n r)
    (hpairwise : (s.after ops).records.Pairwise (s.InsertedBefore ops))
    (hinserts : (s.after ops).Inserts op r)
    (hrecords : (s.after (ops ++ [op])).records = (s.after ops).records ++ [r]) :
    (∀ r ∈ (s.after (ops ++ [op])).records, ∃ n, s.Origin (ops ++ [op]) n r) ∧
      (s.after (ops ++ [op])).records.Pairwise (s.InsertedBefore (ops ++ [op])) := by
  have hmem : ∀ q ∈ (s.after ops).records, q ∈ (s.after (ops ++ [op])).records := by
    intro q hq
    rw [hrecords]
    exact List.mem_append_left _ hq
  have hlast : s.Origin (ops ++ [op]) ops.length r := .last hinserts (by rw [hrecords]; simp)
  rw [hrecords]
  refine ⟨fun q hq => ?_, List.pairwise_append.2 ⟨?_, List.pairwise_singleton _ _, ?_⟩⟩
  · rcases List.mem_append.1 hq with hq | hq
    · obtain ⟨n, hn⟩ := horigin q hq
      exact ⟨n, hn.onward (.refl q) (hmem q hq)⟩
    · rw [List.mem_singleton.1 hq]
      exact ⟨_, hlast⟩
  · refine List.Pairwise.imp_of_mem ?_ hpairwise
    intro a b ha hb hab
    exact hab.onward (.refl a) (.refl b) (hmem a ha) (hmem b hb)
  · intro q hq b hb
    rw [List.mem_singleton.1 hb]
    obtain ⟨n, hn⟩ := horigin q hq
    exact ⟨n, ops.length, hn.lt_length, hn.onward (.refl q) (hmem q hq), hlast⟩

/-- **Records are kept in the order of their insertion.** After any operations on an intact store
without records, each record has its origin among the operations, and of two records the first was
inserted before the second.

**Proof sketch.** Induction on the operations, the last one coming last: the records go on in their
order, or a new one comes behind them. -/
theorem pairwise_insertedBefore (h : s.Intact) (hempty : s.records = []) (ops : List Operation) :
    (∀ r ∈ (s.after ops).records, ∃ n, s.Origin ops n r) ∧
      (s.after ops).records.Pairwise (s.InsertedBefore ops) := by
  induction ops using List.reverseRecOn with
  | nil =>
    have hnone : (s.after []).records = [] := hempty
    simp [hnone]
  | append_singleton ops op ih =>
    obtain ⟨horigin, hpairwise⟩ := ih
    rcases (h.after ops).records_run op with ⟨next, hnext, hsub⟩ | ⟨r, hinserts, hrecords⟩
    · rw [← after_concat] at hsub
      exact ⟨exists_origin_onward hnext hsub horigin, pairwise_onward hnext hsub hpairwise⟩
    · rw [← after_concat] at hrecords
      exact pairwise_last horigin hpairwise hinserts hrecords

/-! ## The numbers of rows -/

/-- The number of the next row: one more than the greatest in use. -/
def nextRow (rows : Entries Nat) : Nat :=
  (rows.map Prod.snd).foldr max 0 + 1

/-- The number of the row of an id, or of the row that it would get. -/
def rowOf (rows : Entries Nat) (id : String) : Nat :=
  (rows.value? id).getD (nextRow rows)

/-- The rows of records that come after others: a record that was there keeps the number of its row,
and a new one gets the next. -/
def renumber (rows : Entries Nat) (records : List Record) : Entries Nat :=
  records.map fun r => (r.id, rowOf rows r.id)

/-- The rows of the records after some operations. -/
def rowsAfter (s : Store) (rows : Entries Nat) : List Operation → Entries Nat
  | [] => rows
  | op :: ops => (s.run op).rowsAfter (renumber rows (s.run op).records) ops

/-- Rows number records in their order. -/
structure Numbers (rows : Entries Nat) (records : List Record) : Prop where
  keys_eq : rows.keys = records.map Record.id
  ascending : records.Pairwise fun a b => rowOf rows a.id < rowOf rows b.id

variable {rows : Entries Nat} {records : List Record}

/-- A number in use is less than the next. -/
lemma rowOf_lt_nextRow {id : String} (h : id ∈ rows.keys) : rowOf rows id < nextRow rows := by
  have hmax : ∀ numbers : List Nat, ∀ n ∈ numbers, n ≤ numbers.foldr max 0 := by
    intro numbers
    induction numbers with
    | nil => simp
    | cons m numbers ih =>
      intro n hn
      rcases List.mem_cons.1 hn with rfl | hn
      · exact le_max_left _ _
      · exact (ih n hn).trans (le_max_right _ _)
  obtain ⟨n, hn⟩ := Option.isSome_iff_exists.1 ((Entries.value?_isSome_iff rows id).2 h)
  rw [rowOf, hn]
  exact Nat.lt_succ_of_le (hmax _ n (List.mem_map_of_mem (Entries.mem_of_value? hn)))

/-- Records get the numbers that they had, or the next. -/
lemma rowOf_renumber (h : r ∈ records) : rowOf (renumber rows records) r.id = rowOf rows r.id := by
  have hvalue : (renumber rows records).value? r.id = some (rowOf rows r.id) := by
    induction records with
    | nil => exact absurd h List.not_mem_nil
    | cons q records ih =>
      by_cases hq : q.id = r.id
      · simp [renumber, Entries.value?, hq]
      · have hr : r ∈ records := by
          rcases List.mem_cons.1 h with rfl | hr
          · exact absurd rfl hq
          · exact hr
        simpa [renumber, Entries.value?, hq] using ih hr
  rw [rowOf, hvalue]
  rfl

/-- An operation leaves rows that number the records in their order. -/
lemma Numbers.run (h : Numbers rows s.records) (hintact : s.Intact) (op : Operation) :
    Numbers (renumber rows (s.run op).records) (s.run op).records := by
  have hascending : (s.run op).records.Pairwise fun a b => rowOf rows a.id < rowOf rows b.id := by
    rcases hintact.records_run op with ⟨next, hnext, hsub⟩ | ⟨r, hinserts, hrecords⟩
    · refine List.Pairwise.sublist hsub (List.pairwise_map.2 ?_)
      refine List.Pairwise.imp_of_mem (fun {a b} ha hb hab => ?_) h.ascending
      rw [(hnext a ha).id_eq, (hnext b hb).id_eq]
      exact hab
    · rw [hrecords]
      refine List.pairwise_append.2 ⟨h.ascending, List.pairwise_singleton _ _, fun a ha b hb => ?_⟩
      rw [List.mem_singleton.1 hb]
      have hnew : rows.value? r.id = none := by
        rw [Entries.value?_eq_none_iff, h.keys_eq, List.mem_map]
        rintro ⟨q, hq, hid⟩
        exact hinserts.id_ne hq hid
      have hnext : rowOf rows r.id = nextRow rows := by rw [rowOf, hnew, Option.getD_none]
      rw [hnext]
      exact rowOf_lt_nextRow (by rw [h.keys_eq]; exact List.mem_map_of_mem ha)
  refine ⟨by simp [renumber, Entries.keys], List.Pairwise.imp_of_mem ?_ hascending⟩
  intro a b ha hb hab
  rwa [rowOf_renumber ha, rowOf_renumber hb]

/-- **The rows are numbered in the order of the records.** Numbers of deleted rows may be used
again, but a new row always gets a greater number than those in use. -/
theorem Numbers.after (h : Numbers rows s.records) (hintact : s.Intact) (ops : List Operation) :
    Numbers (s.rowsAfter rows ops) (s.after ops).records := by
  induction ops generalizing s rows with
  | nil => exact h
  | cons op ops ih => exact ih (h.run hintact op) (hintact.run op)

/-! ## Listings -/

/-- A reading of a clock has a date. -/
lemma lt_dated_of_read? {clock : Clock} {now : Instant} (h : clock.read? = some now) :
    now.micros < Instant.dated := by
  unfold Clock.read? at h
  split at h
  · next hdated =>
    cases h
    dsimp only
    omega
  · exact nomatch h

/-- A record with an origin was created at an instant that has a date. -/
lemma Origin.lt_dated {n : Nat} (h : s.Origin ops n r) : r.createdAt.micros < Instant.dated := by
  obtain ⟨op, r₀, -, hinserts, hcontinues⟩ := h.inserted
  rw [hcontinues.createdAt_eq]
  exact lt_dated_of_read? hinserts.clock

/-- What is listed before another record has an earlier text, or the two are tied. -/
lemma isListedBefore_cases {a b : Record} (h : isListedBefore a b = true) :
    a.createdAt.text < b.createdAt.text ∨
      a.createdAt.text = b.createdAt.text ∧ isListedBefore b a = true := by
  simp only [isListedBefore, Bool.not_eq_true', decide_eq_false_iff_not, not_lt] at h ⊢
  rcases h.lt_or_eq with hlt | heq
  · exact .inl hlt
  · exact .inr ⟨heq, heq.ge⟩

/-- **Listings are chronological.** Whatever operations an empty store goes through, its clock being
set at any time to any instant, so that it goes forward, stands still or goes back:

* the texts by which two instants of the years 1 to 9999 are dated are ordered as the instants;
* a listing has the records of its kind, each of which has one origin: the operation that created
  it, at the instant by which it is dated;
* each record in a listing was created at an earlier instant than those after it, or at the same
  instant and inserted before them;
* this is the order by text, and then by the numbers of rows.

**Proof sketch.** Records are kept in the order of their insertion, and their rows are numbered in
this order (`pairwise_insertedBefore`, `Numbers.after`). A sorted list keeps the order of what is
tied (`pairwise_mergeSort_of_pairwise`); and what is sorted by the texts is sorted by the instants,
which have dates as the clock could be read (`Instant.text_lt_text_iff`). -/
theorem list_chronological (ids : IdSupply) (clock : Clock) (room : Json.Room) (ops : List Operation)
    (kind : Entity) :
    let start := empty ids clock room
    let s := start.after ops
    let row := rowOf (start.rowsAfter [] ops)
    (∀ a b : Instant, a.micros < Instant.dated → b.micros < Instant.dated →
        (a.text < b.text ↔ a.micros < b.micros)) ∧
      (s.list kind).Perm (s.records.filter fun r => r.kind == kind) ∧
      (∀ r ∈ s.list kind, ∃! n, start.Origin ops n r) ∧
      ((s.list kind).Pairwise fun a b => a.createdAt.micros < b.createdAt.micros ∨
        a.createdAt = b.createdAt ∧ start.InsertedBefore ops a b) ∧
      (s.list kind).Pairwise fun a b => a.createdAt.text < b.createdAt.text ∨
        a.createdAt.text = b.createdAt.text ∧ row a.id < row b.id := by
  intro start s row
  have hintact : start.Intact := intact_empty ids clock room
  obtain ⟨horigin, hinserted⟩ := pairwise_insertedBefore hintact rfl ops
  have hnone : Numbers [] start.records := ⟨rfl, List.Pairwise.nil⟩
  have hrows := hnone.after hintact ops
  have hperm : (s.list kind).Perm (s.records.filter fun r => r.kind == kind) := by
    rw [list_all]
    exact List.mergeSort_perm _ _
  have hmem : ∀ r ∈ s.list kind, r ∈ s.records := by
    intro r hr
    exact (List.mem_filter.1 (hperm.subset hr)).1
  have hsorted := pairwise_mergeSort_of_pairwise isListedBefore_trans isListedBefore_total
    ((hinserted.and hrows.ascending).filter fun r => r.kind == kind)
  rw [← list_all] at hsorted
  refine ⟨fun a b => Instant.text_lt_text_iff, hperm, fun r hr => ?_, ?_, ?_⟩
  · obtain ⟨n, hn⟩ := horigin r (hmem r hr)
    exact ⟨n, hn, fun m hm => hm.unique hn⟩
  · refine List.Pairwise.imp_of_mem (fun {a b} ha hb hab => ?_) hsorted
    obtain ⟨m, hm⟩ := horigin a (hmem a ha)
    obtain ⟨n, hn⟩ := horigin b (hmem b hb)
    rcases isListedBefore_cases hab.1 with hlt | ⟨heq, hba⟩
    · exact .inl ((Instant.text_lt_text_iff hm.lt_dated hn.lt_dated).1 hlt)
    · exact .inr ⟨Instant.eq_of_text_eq hm.lt_dated hn.lt_dated heq, (hab.2 hba).1⟩
  · refine hsorted.imp fun {a b} hab => ?_
    exact (isListedBefore_cases hab.1).imp_right fun h => ⟨h.1, (hab.2 h.2).2⟩

/-- The clock is set back for the third task; the first one is deleted, and the fourth gets its id. -/
theorem list_chronological_back :
    let clock (micros : Nat) : Clock := { next := Instant.start2024.micros + micros, tick := 0 }
    let ops : List Operation :=
      [.setClock (clock 500000), .create .task [("title", .text "Land")],
        .create .task [("title", .text "Plant a flag")], .setClock (clock 0),
        .create .task [("title", .text "Launch")], .delete .task (some "a1"),
        .setClock (clock 500000), .create .task [("title", .text "Return")]]
    let s := (empty (.ofQueue ["A1", "B2", "C3", "A1"]) {}).after ops
    (s.list .task).map (fun r => r.createdAt.micros) =
      [0, 500000, 500000].map (Instant.start2024.micros + ·) := by
  intro clock ops s
  obtain ⟨-, hperm, -, hordered, -⟩ :=
    list_chronological (.ofQueue ["A1", "B2", "C3", "A1"]) {} .standard ops .task
  have hrecords : ((s.records.filter fun r => r.kind == .task).map fun r => r.createdAt.micros) =
      [500000, 0, 500000].map (Instant.start2024.micros + ·) := by decide +kernel
  have hsorted : ((s.list .task).map fun r => r.createdAt.micros).Pairwise (· ≤ ·) := by
    refine List.pairwise_map.2 (hordered.imp ?_)
    rintro a b (hlt | ⟨heq, -⟩)
    · exact hlt.le
    · exact (congrArg Instant.micros heq).le
  have hmicros := hperm.map fun r => r.createdAt.micros
  rw [hrecords] at hmicros
  have hswap : ([500000, 0, 500000].map (Instant.start2024.micros + ·)).Perm
      ([0, 500000, 500000].map (Instant.start2024.micros + ·)) := by decide
  exact (hmicros.trans hswap).eq_of_pairwise (fun _ _ _ _ => le_antisymm) hsorted (by decide)

end Store

end TaskShell
