import Mathlib.Data.List.TakeWhile
import Mathlib.Tactic.Lemma
import TaskShell.Proofs.Store.Documents
import TaskShell.Store.Basic

/-!
# What the operations of the store come to

Each operation that changes the store either fails and leaves the records as they were, or makes
one change: a creation adds a record at the end, an update replaces the record of a kind and an id,
a deletion takes it away. Ids that are equal up to the case of basic letters name the same records.

## Main definitions

* `Record.IsNew`, `Record.IsMerged` — the record that fields make, and that changes make of one.
* `Record.IsWritable` — a record whose further fields can be written again.
* `Store.Distinct` — no two records have the same id.
* `Store.Creates`, `Store.Updates`, `Store.Deletes` — the ways in which each operation can end.
* `Store.Ends` — an operation fails and leaves the records alone, or it succeeds.

## Main results

* `Store.creates`, `Store.updates`, `Store.deletes` — each operation ends in one of its ways.
* `Store.create_ends`, `Store.update_ends`, `Store.delete_ends` — what this means for the records.
* `Store.Distinct.eq_of_sameId` — among distinct records an id names one.
-/

set_option autoImplicit false

namespace TaskShell

/-! ## Ids -/

namespace Text

/-- A text has the bytes of its first character and those of the rest. -/
lemma utf8ByteSize_ofList_cons (c : Char) (cs : List Char) :
    (String.ofList (c :: cs)).utf8ByteSize = c.utf8Size + (String.ofList cs).utf8ByteSize := by
  have hcons : String.ofList (c :: cs) = String.singleton c ++ String.ofList cs := by
    apply String.toList_injective
    simp
  rw [hcons, String.utf8ByteSize_append, String.utf8ByteSize_singleton]

/-- A basic letter in lower case has as many bytes, and is no null character. -/
lemma utf8Size_foldBasic {c : Char} (h : 'A' ≤ c ∧ c ≤ 'Z') :
    (Char.ofNat (c.toNat + 32)).utf8Size = c.utf8Size ∧ Char.ofNat (c.toNat + 32) ≠ '\x00' := by
  have hcode : ∀ n ≤ 90, 65 ≤ n → (Char.ofNat (n + 32)).utf8Size = (Char.ofNat n).utf8Size ∧
      Char.ofNat (n + 32) ≠ '\x00' := by
    decide
  have hc := hcode c.toNat h.2 h.1
  rwa [Char.ofNat_toNat] at hc

/-- Folding the case of basic letters keeps the number of bytes. -/
lemma utf8ByteSize_foldBasic (s : String) :
    (String.ofList (foldBasic s)).utf8ByteSize = s.utf8ByteSize := by
  have hlist : ∀ cs : List Char, (String.ofList (cs.map fun c =>
      if 'A' ≤ c ∧ c ≤ 'Z' then Char.ofNat (c.toNat + 32) else c)).utf8ByteSize =
        (String.ofList cs).utf8ByteSize := by
    intro cs
    induction cs with
    | nil => rfl
    | cons c cs ih =>
      rw [List.map_cons, utf8ByteSize_ofList_cons, utf8ByteSize_ofList_cons, ih]
      split
      · next h => rw [(utf8Size_foldBasic h).1]
      · rfl
  rw [foldBasic, hlist, String.ofList_toList]

/-- Folding the case of basic letters makes no null character. -/
lemma null_notMem_foldBasic {s : String} (h : '\x00' ∉ s.toList) : '\x00' ∉ foldBasic s := by
  intro hnull
  obtain ⟨c, hc, hfold⟩ := List.mem_map.1 hnull
  split at hfold
  · next hletter => exact (utf8Size_foldBasic hletter).2 hfold
  · rw [hfold] at hc
    exact h hc

end Text

namespace Store

/-- Two ids are the same just if what is told apart of them is. -/
lemma sameId_iff (a b : String) :
    sameId a b = true ↔
      significantPart a = significantPart b ∧ a.utf8ByteSize = b.utf8ByteSize := by
  simp [sameId]

/-- An id is the same as itself. -/
@[simp] lemma sameId_self (a : String) : sameId a a = true :=
  (sameId_iff a a).2 ⟨rfl, rfl⟩

/-- Sameness of ids is symmetric. -/
lemma sameId_comm (a b : String) : sameId a b = sameId b a := by
  rw [Bool.eq_iff_iff, sameId_iff, sameId_iff]
  constructor <;> exact fun h => ⟨h.1.symm, h.2.symm⟩

/-- Ids that are the same are the same as the same ids. -/
lemma sameId_congr_right {a b : String} (h : sameId a b = true) (c : String) :
    sameId c a = sameId c b := by
  rw [sameId_iff] at h
  rw [Bool.eq_iff_iff, sameId_iff, sameId_iff, h.1, h.2]

/-- An id that is the same as one without null characters is equal to it, the case of basic letters
aside. -/
lemma foldBasic_eq_of_sameId {a b : String} (h : sameId a b = true) (hnull : '\x00' ∉ a.toList) :
    Text.foldBasic b = Text.foldBasic a := by
  obtain ⟨hpart, hbytes⟩ := (sameId_iff a b).1 h
  have ha : significantPart a = Text.foldBasic a := by
    refine List.takeWhile_eq_self_iff.2 fun c hc => ?_
    rw [bne_iff_ne]
    rintro rfl
    exact Text.null_notMem_foldBasic hnull hc
  have hb : Text.foldBasic b = Text.foldBasic a ++ (Text.foldBasic b).dropWhile (· != '\x00') := by
    rw [← ha, hpart, significantPart, List.takeWhile_append_dropWhile]
  -- the bytes of `b` are used up, so nothing follows
  have hrest := congrArg (fun cs => (String.ofList cs).utf8ByteSize) hb
  simp only [String.ofList_append, String.utf8ByteSize_append, Text.utf8ByteSize_foldBasic,
    hbytes] at hrest
  have hnil : (Text.foldBasic b).dropWhile (· != '\x00') = [] := by
    cases htail : (Text.foldBasic b).dropWhile (· != '\x00') with
    | nil => rfl
    | cons c cs =>
      have hc := c.utf8Size_pos
      rw [htail, Text.utf8ByteSize_ofList_cons] at hrest
      omega
  rw [hb, hnil, List.append_nil]

/-- Ids that are equal, the case of basic letters aside, are the same. -/
lemma sameId_of_foldBasic {a b : String} (h : Text.foldBasic a = Text.foldBasic b) :
    sameId a b = true := by
  have hbytes : a.utf8ByteSize = b.utf8ByteSize := by
    rw [← Text.utf8ByteSize_foldBasic a, h, Text.utf8ByteSize_foldBasic]
  exact (sameId_iff a b).2 ⟨by rw [significantPart, h, significantPart], hbytes⟩

/-- Without null characters in one of them, two ids are the same just if they are equal, the case of
basic letters aside. -/
lemma sameId_iff_foldBasic {a b : String} (hnull : '\x00' ∉ a.toList) :
    sameId a b = true ↔ Text.foldBasic a = Text.foldBasic b := by
  constructor
  · intro h
    exact (foldBasic_eq_of_sameId h hnull).symm
  · exact sameId_of_foldBasic

/-- A record is named by a kind and an id just if it has them. -/
lemma isNamed_iff (kind : Entity) (id : String) (r : Record) :
    isNamed kind id r = true ↔ r.kind = kind ∧ sameId r.id id = true := by
  simp [isNamed]

/-- What an id names is what the same ids name. -/
lemma isNamed_congr {a b : String} (h : sameId a b = true) (kind : Entity) :
    isNamed kind a = isNamed kind b := by
  funext r
  simp only [isNamed, sameId_congr_right h]

/-- The record that is found has the kind and the id, and it is there. -/
lemma find?_eq_some {s : Store} {kind : Entity} {id : Option String} {r : Record}
    (h : s.find? kind id = some r) :
    r ∈ s.records ∧ r.kind = kind ∧ ∃ given, id = some given ∧ sameId r.id given = true := by
  cases id with
  | none => simp [find?] at h
  | some given =>
    have hfind : s.records.find? (isNamed kind given) = some r := h
    have hnamed := (isNamed_iff kind given r).1 (List.find?_some hfind)
    exact ⟨List.mem_of_find?_eq_some hfind, hnamed.1, given, rfl, hnamed.2⟩

/-- A record that is found is found again under its own id. -/
lemma find?_own_id {s : Store} {kind : Entity} {id : Option String} {r : Record}
    (h : s.find? kind id = some r) : s.find? kind (some r.id) = some r := by
  obtain ⟨-, -, given, rfl, hsame⟩ := find?_eq_some h
  change s.records.find? (isNamed kind r.id) = some r
  rw [isNamed_congr hsame]
  exact h

/-! ## Distinct records -/

/-- No two of the records have the same id. -/
def Distinct (records : List Record) : Prop :=
  records.Pairwise fun a b => sameId a.id b.id = false

/-- Among distinct records an id names one. -/
lemma Distinct.eq_of_sameId {records : List Record} (h : Distinct records) {a b : Record}
    (ha : a ∈ records) (hb : b ∈ records) (hab : sameId a.id b.id = true) : a = b := by
  induction h with
  | nil => exact absurd ha List.not_mem_nil
  | @cons r rest hr _ ih =>
    rcases List.mem_cons.1 ha with rfl | ha' <;> rcases List.mem_cons.1 hb with rfl | hb'
    · rfl
    · rw [hr b hb'] at hab
      exact absurd hab (by decide)
    · rw [sameId_comm, hr a ha'] at hab
      exact absurd hab (by decide)
    · exact ih ha' hb'

/-- A record with an id of its own keeps records distinct. -/
lemma Distinct.append {records : List Record} (h : Distinct records) {r : Record}
    (hr : ∀ q ∈ records, sameId q.id r.id = false) : Distinct (records ++ [r]) := by
  refine List.pairwise_append.2 ⟨h, List.pairwise_singleton _ _, fun q hq b hb => ?_⟩
  rw [List.mem_singleton] at hb
  rw [hb]
  exact hr q hq

/-- Records changed without a change of their ids stay distinct. -/
lemma Distinct.map {records : List Record} (h : Distinct records) {f : Record → Record}
    (hf : ∀ q ∈ records, (f q).id = q.id) : Distinct (records.map f) := by
  refine List.pairwise_map.2 (List.Pairwise.imp_of_mem (fun {a b} ha hb hab => ?_) h)
  rw [hf a ha, hf b hb]
  exact hab

end Store

/-! ## The three operations -/

/-- The record that fields make: its columns are read off the fields, and the further fields are
written and read again. -/
structure Record.IsNew (r : Record) (kind : Entity) (data : Fields) : Prop where
  kind_eq : r.kind = kind
  columns : Store.newColumns data = .ok (r.title, r.parentId)
  extra_eq : r.extra = (Record.further data).reread

/-- The record that changes make of a former one. -/
structure Record.IsMerged (r former : Record) (changes : Fields) : Prop where
  kind_eq : r.kind = former.kind
  id_eq : r.id = former.id
  createdAt_eq : r.createdAt = former.createdAt
  columns : Store.mergedColumns former changes = .ok (r.title, r.parentId)
  extra_eq : r.extra =
    Fields.reread (Entries.overlay former.extra (Record.further changes))

/-- The further fields of a record can be written again. -/
def Record.IsWritable (r : Record) (room : Json.Room) : Prop :=
  Json.fault? room.levels (.ofFields r.extra) = none

namespace Store

/-- The records with one in the place of those with its kind and id. -/
def replaced (records : List Record) (r : Record) : List Record :=
  records.map fun q => if isNamed r.kind r.id q then r else q

/-- The records without those of a kind and an id. -/
def erased (records : List Record) (r : Record) : List Record :=
  records.filter fun q => !isNamed r.kind r.id q

/-- Replacing a record by one with its id keeps records distinct. -/
lemma Distinct.replaced {records : List Record} (h : Distinct records) {former r : Record}
    (hformer : former ∈ records) (hid : r.id = former.id) : Distinct (replaced records r) := by
  refine h.map fun q hq => ?_
  split
  · next hnamed =>
    have hsame := ((isNamed_iff _ _ _).1 hnamed).2
    rw [hid] at hsame ⊢
    rw [h.eq_of_sameId hq hformer hsame]
  · rfl

/-- How a creation ends. Without a title it is refused at once. Otherwise the first free candidate
is drawn, then the clock is read, then the further fields are written, and only then are the columns
found to be unfit. -/
inductive Creates (s : Store) (kind : Entity) (data : Fields) : Except Error String × Store → Prop
  | untitled (title : (fieldOrNull data "title").isGiven = false) :
      Creates s kind data (.error .titleRequired, s)
  | endless (taken : ∀ n, s.isTaken (s.ids.candidate n) = true) :
      Creates s kind data (.error .idsExhausted, s)
  | undated {n : Nat} (first : s.ids.FirstFree s.isTaken n) (clock : s.clock.read? = none) :
      Creates s kind data (.error .dateRange, { s with ids := s.ids.drop (n + 1) })
  | unwritable {n : Nat} {now : Instant} {fault : Json.Fault} (first : s.ids.FirstFree s.isTaken n)
      (clock : s.clock.read? = some now) (title : (fieldOrNull data "title").isGiven = true)
      (written : Json.fault? s.room.levels (.ofFields (Record.further data)) = some fault) :
      Creates s kind data
        (.error (.unwritable fault), { s with ids := s.ids.drop (n + 1), clock := s.clock.advance })
  | unfit {n : Nat} {now : Instant} {e : Error} (first : s.ids.FirstFree s.isTaken n)
      (clock : s.clock.read? = some now) (columns : newColumns data = .error e) :
      Creates s kind data
        (.error e, { s with ids := s.ids.drop (n + 1), clock := s.clock.advance })
  | stored {n : Nat} {now : Instant} {r : Record} (first : s.ids.FirstFree s.isTaken n)
      (clock : s.clock.read? = some now) (title : (fieldOrNull data "title").isGiven = true)
      (written : Json.fault? s.room.levels (.ofFields (Record.further data)) = none)
      (new : r.IsNew kind data) (id : r.id = s.ids.candidate n) (createdAt : r.createdAt = now)
      (updatedAt : r.updatedAt = now) :
      Creates s kind data
        (.ok r.id, { s with records := s.records ++ [r], ids := s.ids.drop (n + 1),
                            clock := s.clock.advance })

/-- How an update ends. The record is looked up, then all further fields are written, then the clock
is read, and only then are the columns found to be unfit. -/
inductive Updates (s : Store) (kind : Entity) (id : Option String) (changes : Fields) :
    Except Error Unit × Store → Prop
  | missing (found : s.find? kind id = none) :
      Updates s kind id changes (.error (.notFound kind id), s)
  | unwritable {former : Record} {fault : Json.Fault} (found : s.find? kind id = some former)
      (written : Json.fault? s.room.levels
        (.ofFields (Entries.overlay former.extra (Record.further changes))) = some fault) :
      Updates s kind id changes (.error (.unwritable fault), s)
  | undated {former : Record} (found : s.find? kind id = some former)
      (clock : s.clock.read? = none) : Updates s kind id changes (.error .dateRange, s)
  | unfit {former : Record} {now : Instant} {e : Error} (found : s.find? kind id = some former)
      (written : Json.fault? s.room.levels
        (.ofFields (Entries.overlay former.extra (Record.further changes))) = none)
      (clock : s.clock.read? = some now) (columns : mergedColumns former changes = .error e) :
      Updates s kind id changes (.error e, { s with clock := s.clock.advance })
  | merged {former r : Record} {now : Instant} (found : s.find? kind id = some former)
      (written : Json.fault? s.room.levels
        (.ofFields (Entries.overlay former.extra (Record.further changes))) = none)
      (clock : s.clock.read? = some now) (merged : r.IsMerged former changes)
      (updatedAt : r.updatedAt = now) :
      Updates s kind id changes
        (.ok (), { s with records := replaced s.records r, clock := s.clock.advance })

/-- How a deletion ends. -/
inductive Deletes (s : Store) (kind : Entity) (id : Option String) :
    Except Error Unit × Store → Prop
  | missing (found : s.find? kind id = none) : Deletes s kind id (.error (.notFound kind id), s)
  | erased {r : Record} (found : s.find? kind id = some r) :
      Deletes s kind id (.ok (), { s with records := erased s.records r })

/-- The document of some fields is read as they are read again, unless something keeps them from
being written. -/
lemma documentOf_cases (s : Store) (fields : Fields) :
    (∃ fault, s.documentOf fields = .error (.unwritable fault) ∧
        Json.fault? s.room.levels (.ofFields fields) = some fault) ∨
      ∃ d : Document, s.documentOf fields = .ok d ∧
        Json.fault? s.room.levels (.ofFields fields) = none ∧ d.fields = fields.reread := by
  unfold documentOf
  cases hd : Document.ofFields s.room fields with
  | error fault => exact .inl ⟨fault, rfl, Document.ofFields_eq_error_iff.1 hd⟩
  | ok d => exact .inr ⟨d, rfl, (Document.text_of_ofFields hd).1, Document.fields_of_ofFields hd⟩

/-- A creation ends in one of these ways. The key of the table never refuses the record, as its id
has been found free. -/
theorem creates (s : Store) (kind : Entity) (data : Fields) :
    s.Creates kind data (s.create kind data) := by
  unfold create
  cases htitle : (fieldOrNull data "title").isGiven with
  | false => exact .untitled htitle
  | true =>
    simp only [Bool.not_true, Bool.false_eq_true, if_false]
    cases hdraw : s.ids.draw? s.isTaken (s.records.length + 1) with
    | none =>
      refine .endless fun n => ?_
      by_contra hfree
      have hsome := (IdSupply.draw?_isSome_iff (s.records.length + 1)).2 ⟨n, by simpa using hfree⟩
      rw [hdraw] at hsome
      exact nomatch hsome
    | some drawn =>
      obtain ⟨n, hfirst, hid, hids⟩ := IdSupply.draw?_eq_some_iff.1 hdraw
      obtain ⟨id, ids⟩ := drawn
      dsimp only at hid hids
      subst hid hids
      simp only [readClock]
      cases hclock : s.clock.read? with
      | none => exact .undated hfirst hclock
      | some now =>
        dsimp only
        obtain ⟨fault, hdocument, hfault⟩ | ⟨d, hdocument, hwritten, hd⟩ := documentOf_cases
          { s with ids := s.ids.drop (n + 1), clock := s.clock.advance } (Record.further data)
        · rw [hdocument]
          exact .unwritable hfirst hclock htitle hfault
        · rw [hdocument]
          dsimp only
          cases hcolumns : newColumns data with
          | error e => exact .unfit hfirst hclock hcolumns
          | ok columns =>
            have hkey : isTaken { s with ids := s.ids.drop (n + 1), clock := s.clock.advance }
                (s.ids.candidate n) = false := hfirst.free
            simp only [insert, hkey, Bool.false_eq_true, if_false]
            let r : Record :=
              { kind, id := s.ids.candidate n, title := columns.1, parentId := columns.2,
                document := d, createdAt := now, updatedAt := now }
            have hnew : r.IsNew kind data := ⟨rfl, hcolumns, hd⟩
            exact .stored hfirst hclock htitle hwritten hnew rfl rfl rfl

/-- An update ends in one of these ways. -/
theorem updates (s : Store) (kind : Entity) (id : Option String) (changes : Fields) :
    s.Updates kind id changes (s.update kind id changes) := by
  unfold update
  cases hfound : s.find? kind id with
  | none => exact .missing hfound
  | some former =>
    dsimp only
    obtain ⟨fault, hdocument, hfault⟩ | ⟨d, hdocument, hwritten, hd⟩ :=
      s.documentOf_cases (Entries.overlay former.extra (Record.further changes))
    · rw [hdocument]
      exact .unwritable hfound hfault
    · rw [hdocument]
      simp only [readClock]
      cases hclock : s.clock.read? with
      | none => exact .undated hfound hclock
      | some now =>
        dsimp only
        cases hcolumns : mergedColumns former changes with
        | error e => exact .unfit hfound hwritten hclock hcolumns
        | ok columns =>
          let r : Record :=
            { former with
              title := columns.1, parentId := columns.2, document := d, updatedAt := now }
          have hmerged : r.IsMerged former changes := ⟨rfl, rfl, rfl, hcolumns, hd⟩
          exact .merged hfound hwritten hclock hmerged rfl

/-- A deletion ends in one of these ways. -/
theorem deletes (s : Store) (kind : Entity) (id : Option String) :
    s.Deletes kind id (s.delete kind id) := by
  unfold delete
  cases hfound : s.find? kind id with
  | none => exact .missing hfound
  | some r =>
    have herase : s.erase kind r.id = { s with records := erased s.records r } := by
      rw [erase, erased, (find?_eq_some hfound).2.1]
    dsimp only
    rw [herase]
    exact .erased hfound

/-- An operation fails and leaves the records alone, or it succeeds, and something is known of its
result and of the store after it. -/
def Ends {α : Type} (s : Store) (P : α → Store → Prop) : Except Error α × Store → Prop
  | (.error _, s') => s'.records = s.records
  | (.ok a, s') => P a s'

/-- Further fields that have been written can be written again. -/
lemma isWritable_of_reread {r : Record} {room : Json.Room} {fields : Fields}
    (hwritten : Json.fault? room.levels (.ofFields fields) = none)
    (hextra : r.extra = fields.reread) : r.IsWritable room := by
  rw [Record.IsWritable, hextra, ← Value.reread_ofFields]
  exact (Value.reread_spec _ hwritten).2

/-- A creation adds a record with a free id, if it succeeds. -/
lemma create_ends (s : Store) (kind : Entity) (data : Fields) :
    s.Ends (fun id s' => ∃ r : Record, r.id = id ∧ s'.records = s.records ++ [r] ∧
      (∀ q ∈ s.records, sameId q.id r.id = false) ∧ r.IsNew kind data ∧ r.IsWritable s.room)
      (s.create kind data) := by
  have hends := s.creates kind data
  generalize s.create kind data = result at hends ⊢
  cases hends with
  | untitled | endless | undated | unwritable | unfit => rfl
  | @stored n now r hfirst _ _ hwritten hnew hid =>
    have hfree : ∀ q ∈ s.records, sameId q.id r.id = false := by
      simpa [isTaken, ← hid] using hfirst.free
    exact ⟨r, rfl, rfl, hfree, hnew, isWritable_of_reread hwritten hnew.extra_eq⟩

/-- An update replaces the record that is found, if it succeeds. -/
lemma update_ends (s : Store) (kind : Entity) (id : Option String) (changes : Fields) :
    s.Ends (fun _ s' => ∃ former r : Record, s.find? kind id = some former ∧
        s'.records = replaced s.records r ∧ r.IsMerged former changes ∧ r.IsWritable s.room)
      (s.update kind id changes) := by
  have hends := s.updates kind id changes
  generalize s.update kind id changes = result at hends ⊢
  cases hends with
  | missing | unwritable | undated | unfit => rfl
  | merged hfound hwritten _ hmerged =>
    exact ⟨_, _, hfound, rfl, hmerged, isWritable_of_reread hwritten hmerged.extra_eq⟩

/-- A deletion takes away the record that is found, if it succeeds. -/
lemma delete_ends (s : Store) (kind : Entity) (id : Option String) :
    s.Ends (fun _ s' => ∃ r, s.find? kind id = some r ∧ s'.records = erased s.records r)
      (s.delete kind id) := by
  have hends := s.deletes kind id
  generalize s.delete kind id = result at hends ⊢
  cases hends with
  | missing => rfl
  | erased hfound => exact ⟨_, hfound, rfl⟩

end Store

end TaskShell
