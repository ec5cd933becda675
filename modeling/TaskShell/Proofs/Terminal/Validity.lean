import Mathlib.Data.List.Basic
import TaskShell.Proofs.Store.Validity
import TaskShell.Proofs.Terminal.Run

/-!
# Records meet their schemas

Whatever lines a terminal hears, and whatever fails on the way, every record of its store is valid:
a record comes into the store built as a whole, and it is changed by parts that were built.

## Main definitions

* `Record.Heritable` — properties of records that are handed on.

## Main results

* `Record.Heritable.records` — what is handed on holds of the records after deeds.
* `Terminal.records_meet_schema` — every record of every run meets the schema of its kind.
-/

set_option autoImplicit false

namespace TaskShell

namespace Record

/-- A property of records that is handed on: a record has it if it is made from fields that were built,
and if it is made from a record that has it and a part that was built. -/
structure Heritable (P : Record → Prop) : Prop where
  made : ∀ {r : Record} {fields : Fields} {values : Entries String},
    (Schema.ofEntity r.kind).build values.value? = .ok fields → r.IsNew r.kind fields → P r
  changed : ∀ {r former : Record} {changes : Fields} {values : Entries String}, P former →
    (Schema.ofEntity r.kind).build values.value? true = .ok changes → r.IsMerged former changes → P r

/-- Validity is handed on. -/
lemma heritable_valid : Heritable Valid where
  made hbuild hnew := hnew.valid hbuild
  changed hformer hbuild hmerged := hmerged.valid hformer hbuild

namespace Heritable

variable {P : Record → Prop} (hP : Heritable P)
include hP

/-- What is handed on holds of the records after a possible deed. -/
theorem records {deed : Deed} {records : List Record} (h : ∀ r ∈ records, P r)
    (hpossible : deed.Possible records) : ∀ r ∈ deed.records records, P r := by
  intro q hq
  cases deed with
  | created values fields r =>
    obtain ⟨-, hbuild, hnew⟩ := hpossible
    rcases List.mem_append.1 hq with hq | hq
    · exact h q hq
    · rw [List.mem_singleton.1 hq]
      exact hP.made hbuild hnew
  | updated changes former r =>
    obtain ⟨hformer, hmerged, values, hbuild⟩ := hpossible
    obtain ⟨p, hp, rfl⟩ := List.mem_map.1 hq
    split
    · exact hP.changed (h former hformer) hbuild hmerged
    · exact h p hp
  | removed r => exact h q (List.mem_filter.1 hq).1
  | nothing => exact h q hq
  | pointed level r => exact h q hq
  | emptied level => exact h q hq

/-- What is handed on holds of the records of a sound terminal after a line. -/
lemma hear {t : Terminal} (hsound : t.Sound) (h : ∀ r ∈ t.world.store.records, P r)
    (u : Utterance) : ∀ r ∈ (t.hear u).world.store.records, P r := by
  obtain ⟨deed, outcome, hheard, -⟩ := Terminal.heard_hear hsound.waits u
  rw [hheard.records]
  exact hP.records h hheard.possible

/-- What is handed on holds of the records of a sound terminal after lines. -/
lemma hearAll {t : Terminal} (hsound : t.Sound) (h : ∀ r ∈ t.world.store.records, P r)
    (us : List Utterance) : ∀ r ∈ (t.hearAll us).world.store.records, P r := by
  induction us generalizing t with
  | nil => exact h
  | cons u us ih => exact ih (hsound.hear u) (hP.hear hsound h u)

end Heritable

end Record

namespace Terminal

variable {t : Terminal}

/-- Lines keep the records of a sound terminal valid. -/
lemma valid_hearAll (hsound : t.Sound) (h : ∀ r ∈ t.world.store.records, r.Valid)
    (us : List Utterance) : ∀ r ∈ (t.hearAll us).world.store.records, r.Valid :=
  Record.heritable_valid.hearAll hsound h us

/-- **Records meet their schemas.** From an empty store, with any ids, any clock, any session, any
aliases and any faults met by any calls, after any commands and answers, every record of the store
meets the schema of its kind.

**Proof sketch.** Induction on the lines, with validity as the invariant. A line does one deed at
most. A created record is made from fields that were built as a whole, so they conform and are
complete, and the store keeps them as they are. An updated one is a valid record overlaid by a part
that was built, and conforming fields overlaid by conforming ones conform. -/
theorem records_meet_schema (ids : IdSupply) (clock : Clock) (room : Json.Room) (session : Session)
    (aliases : Entries String) (faults : Nat → Faults) (us : List Utterance) :
    ∀ r ∈ ((opened (Store.empty ids clock room) session aliases faults).hearAll us).world.store.records,
      r.MeetsSchema := by
  intro r hr
  have hsound := sound_empty ids clock room session aliases faults
  have hempty : ∀ r ∈ (opened (Store.empty ids clock room) session aliases faults).world.store.records,
      r.Valid := fun _ h => nomatch h
  exact (valid_hearAll hsound hempty us r hr).meetsSchema

/-- After the tour and its last answer there are two records, and they meet their schemas. -/
theorem tour_meets_schema :
    ∃ program project, (toured.hear (.answer "due")).world.store.records = [program, project] ∧
      program.MeetsSchema ∧ project.MeetsSchema := by
  have hlength : (toured.hear (.answer "due")).world.store.records.length = 2 := by decide +kernel
  obtain ⟨program, project, hrecords⟩ := List.length_eq_two.1 hlength
  have hmeets := records_meet_schema (.ofQueue []) {} .standard {} [] (fun _ => {})
    (tour ++ [.answer "due"])
  have hrun : (opened (Store.empty (.ofQueue []) {}) {} [] fun _ => {}).hearAll
      (tour ++ [.answer "due"]) = toured.hear (.answer "due") := List.foldl_append
  rw [hrun, hrecords] at hmeets
  exact ⟨program, project, hrecords, hmeets program List.mem_cons_self,
    hmeets project (List.mem_cons_of_mem _ List.mem_cons_self)⟩

end Terminal

end TaskShell
