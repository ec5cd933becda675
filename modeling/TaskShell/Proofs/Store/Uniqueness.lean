import Mathlib.Data.Set.Finite.List
import TaskShell.Proofs.Store.Run

/-!
# Ids are unique

No two records of a store have the same id, of whatever kinds they are, and whatever the store has
gone through. A creation passes over the candidates that are taken, and the first that is free
becomes the id of the new record, so the key of the table never refuses it. Among infinitely many
candidates one is free: an id that is taken has as many bytes as the id of a record, and only
finitely many texts do.

## Main results

* `Store.finite_isTaken` — only finitely many ids are taken.
* `Store.exists_free_candidate` — among infinitely many candidates one is free.
* `Store.ids_unique` — ids are unique, and creations draw the first candidates that are free.
-/

set_option autoImplicit false

namespace TaskShell

/-! ## Finitely many ids are taken -/

namespace Text

/-- A text has at least as many bytes as characters. -/
lemma length_toList_le (s : String) : s.toList.length ≤ s.utf8ByteSize := by
  have hlist : ∀ cs : List Char, cs.length ≤ (String.ofList cs).utf8ByteSize := by
    intro cs
    induction cs with
    | nil => exact Nat.zero_le _
    | cons c cs ih =>
      have hc := c.utf8Size_pos
      rw [utf8ByteSize_ofList_cons, List.length_cons]
      omega
  have hs := hlist s.toList
  rwa [String.ofList_toList] at hs

/-- There are finitely many characters. -/
lemma finite_char : Finite Char := by
  let code (c : Char) : Fin (2 ^ 32) := ⟨c.val.toNat, c.val.toNat_lt⟩
  refine Finite.of_injective code fun c d h => ?_
  exact Char.ext (UInt32.toNat_inj.1 (Fin.mk.inj h))

/-- Finitely many texts have a number of bytes. -/
lemma finite_utf8ByteSize_eq (n : Nat) : {s : String | s.utf8ByteSize = n}.Finite := by
  have := finite_char
  have hshort : {cs : List Char | cs.length ≤ n}.Finite := List.finite_length_le Char n
  refine Set.Finite.of_injOn (f := String.toList) (fun s hs => ?_) ?_ hshort
  · have hbytes : s.utf8ByteSize = n := hs
    change s.toList.length ≤ n
    rw [← hbytes]
    exact length_toList_le s
  · exact fun _ _ _ _ h => String.toList_injective h

end Text

namespace Store

variable {s : Store} {kind : Entity} {data : Fields}

/-- An id is taken just if a record has it. -/
lemma isTaken_iff (s : Store) (id : String) :
    s.isTaken id = true ↔ ∃ r ∈ s.records, sameId r.id id = true := by
  simp [isTaken]

/-- Only finitely many ids are taken: each has as many bytes as the id of a record. -/
theorem finite_isTaken (s : Store) : {id | s.isTaken id = true}.Finite := by
  have hsizes : (⋃ r ∈ s.records, {id : String | id.utf8ByteSize = r.id.utf8ByteSize}).Finite :=
    Set.Finite.biUnion s.records.finite_toSet fun r _ => Text.finite_utf8ByteSize_eq _
  refine hsizes.subset fun id hid => ?_
  obtain ⟨r, hr, hsame⟩ := (s.isTaken_iff id).1 hid
  have hbytes : id.utf8ByteSize = r.id.utf8ByteSize := ((sameId_iff _ _).1 hsame).2.symm
  exact Set.mem_biUnion hr hbytes

/-- Among infinitely many candidates one is free. -/
theorem exists_free_candidate (s : Store) (h : (Set.range s.ids.candidate).Infinite) :
    ∃ n, s.isTaken (s.ids.candidate n) = false := by
  obtain ⟨id, hid, hfree⟩ := h.exists_notMem_finite s.finite_isTaken
  obtain ⟨n, rfl⟩ := hid
  exact ⟨n, by simpa using hfree⟩

/-- If infinitely many candidates come from a supply, so they do after the first ones. -/
lemma infinite_drop {ids : IdSupply} (h : (Set.range ids.candidate).Infinite) (n : Nat) :
    (Set.range (ids.drop n).candidate).Infinite := by
  intro hfinite
  apply h
  -- the candidates are the first ones and those after them
  have hfirst : (ids.candidate '' {m | m < n}).Finite := (Set.finite_lt_nat n).image _
  refine (hfirst.union hfinite).subset ?_
  rintro _ ⟨m, rfl⟩
  rcases Nat.lt_or_ge m n with hm | hm
  · exact .inl ⟨m, hm, rfl⟩
  · refine .inr ⟨m - n, ?_⟩
    rw [IdSupply.candidate_drop, Nat.add_sub_cancel' hm]

/-! ## Creations -/

/-- What a column refuses a value for: it is null, or it cannot be stored. -/
def Error.IsUnfit : Error → Prop
  | .titleNull | .integerRange | .unsupported .. => True
  | _ => False

/-- A column refuses a value for what it is. -/
lemma columnText_error {place : Nat} {value : Value} {e : Error}
    (h : columnText place value = .error e) : e.IsUnfit := by
  unfold columnText at h
  split at h
  case h_4 n =>
    split at h
    · exact nomatch h
    · cases h
      trivial
  all_goals
    cases h
    try trivial

/-- The columns of a new record are refused for what they are. -/
lemma newColumns_error {e : Error} (h : newColumns data = .error e) : e.IsUnfit := by
  unfold newColumns at h
  cases hparent : columnText 3 (fieldOrNull data "parentId") with
  | error e' =>
    rw [hparent] at h
    cases h
    exact columnText_error hparent
  | ok parent =>
    rw [hparent] at h
    cases htitle : columnText 4 (fieldOrNull data "title") with
    | error e' =>
      rw [htitle] at h
      cases h
      exact columnText_error htitle
    | ok title =>
      rw [htitle] at h
      cases title with
      | none =>
        cases h
        trivial
      | some title => exact nomatch h

/-- The key of the table never refuses a new record. -/
lemma create_ne_idTaken (s : Store) (kind : Entity) (data : Fields) :
    (s.create kind data).1 ≠ .error .idTaken := by
  intro htaken
  have hends := s.creates kind data
  generalize s.create kind data = result at hends htaken
  cases hends with
  | untitled | endless | undated | unwritable | stored => exact nomatch htaken
  | unfit _ _ hcolumns =>
    cases htaken
    exact newColumns_error hcolumns

/-- The search for a free id ends if one is free. -/
lemma create_ne_idsExhausted {n : Nat} (h : s.isTaken (s.ids.candidate n) = false) (kind : Entity)
    (data : Fields) : (s.create kind data).1 ≠ .error .idsExhausted := by
  intro hendless
  have hends := s.creates kind data
  generalize s.create kind data = result at hends hendless
  cases hends with
  | untitled | undated | unwritable | stored => exact nomatch hendless
  | endless htaken =>
    rw [htaken n] at h
    exact nomatch h
  | unfit _ _ hcolumns =>
    cases hendless
    exact newColumns_error hcolumns

/-- A new record gets the first candidate that is free, and those up to it are used up. -/
lemma firstFree_of_create {id : String} (h : (s.create kind data).1 = .ok id) :
    ∃ n, s.ids.FirstFree s.isTaken n ∧ id = s.ids.candidate n ∧
      (s.create kind data).2.ids = s.ids.drop (n + 1) := by
  have hends := s.creates kind data
  generalize s.create kind data = result at hends h ⊢
  cases hends with
  | untitled | endless | undated | unwritable | unfit => exact nomatch h
  | stored hfirst _ _ _ _ hid =>
    cases h
    exact ⟨_, hfirst, hid, rfl⟩

/-! ## Uniqueness -/

/-- **Ids are unique.** Whatever operations an empty store goes through, of whatever kinds its
records are: no two of them have the same id, and so no two ids are equal, the case of basic letters
aside. The candidates come from the supply in order. A creation passes over exactly those that are
taken and gives the record the first that is free, which the key of the table never refuses; a draft
whose further fields can be written gets that candidate if the clock can be read; and if the
candidates of the supply are infinitely many, its search for a free one ends.

An id is taken if a record has the same one, as the key compares them. For an id without null
characters this is to say that it is equal to that of a record, the case of basic letters aside.

**Proof sketch.** The records stay distinct by induction on the operations. A creation ends in one
of its ways, and in each of them the candidate is the first that is free; none of the ways ends at
the key. As for the search, only finitely many ids are taken, since each has as many bytes as that
of a record. -/
theorem ids_unique (ids : IdSupply) (clock : Clock) (room : Json.Room) (ops : List Operation) :
    let s := (empty ids clock room).after ops
    (s.records.Pairwise fun a b => sameId a.id b.id = false) ∧
      (s.records.Pairwise fun a b => Text.foldBasic a.id ≠ Text.foldBasic b.id) ∧
      (∀ id, '\x00' ∉ id.toList →
        (s.isTaken id = true ↔ ∃ r ∈ s.records, Text.foldBasic r.id = Text.foldBasic id)) ∧
      (∃ used, s.ids = ids.drop used) ∧
      ∀ kind data, (s.create kind data).1 ≠ .error .idTaken ∧
        (∀ id, (s.create kind data).1 = .ok id →
          ∃ n, s.ids.FirstFree s.isTaken n ∧ id = s.ids.candidate n ∧
            (s.create kind data).2.ids = s.ids.drop (n + 1)) ∧
        (∀ n, data.IsDraft → Json.fault? room.levels (.ofFields (Record.further data)) = none →
          s.clock.read?.isSome → s.ids.FirstFree s.isTaken n →
          (s.create kind data).1 = .ok (s.ids.candidate n)) ∧
        ((Set.range ids.candidate).Infinite →
          (s.create kind data).1 ≠ .error .idsExhausted) := by
  intro s
  have hdistinct : Distinct s.records := ((intact_empty ids clock room).after ops).distinct
  obtain ⟨used, hused⟩ : ∃ used, s.ids = ids.drop used := (empty ids clock room).exists_ids_after ops
  refine ⟨hdistinct, hdistinct.imp fun hab hfold => ?_, fun id hnull => ?_, ⟨used, hused⟩,
    fun kind data => ⟨s.create_ne_idTaken kind data, fun id hid => firstFree_of_create hid,
      fun n hdraft hwritten hclock hfirst => ?_, fun hinfinite => ?_⟩⟩
  · rw [sameId_of_foldBasic hfold] at hab
    exact nomatch hab
  · rw [isTaken_iff]
    refine exists_congr fun r => and_congr_right fun _ => ?_
    rw [sameId_comm, sameId_iff_foldBasic hnull, eq_comm]
  · obtain ⟨now, hnow⟩ := Option.isSome_iff_exists.1 hclock
    have hroom : s.room = room := (empty ids clock room).room_after ops
    exact create_eq_ok hdraft (by rw [hroom]; exact hwritten) hnow hfirst kind
  · obtain ⟨n, hfree⟩ := s.exists_free_candidate (by rw [hused]; exact infinite_drop hinfinite used)
    exact create_ne_idsExhausted hfree kind data

/-- A task gets the third candidate: the second is the id of a program, the case of its letters
aside. -/
theorem ids_unique_crowded :
    let s := (empty (.ofQueue ["A1", "a1", "B2"]) {}).after
      [.create .program [("title", .text "Apollo")]]
    (s.create .task [("title", .text "Land")]).1 = .ok "B2" := by
  intro s
  have hdraft : Fields.IsDraft [("title", .text "Land")] :=
    ⟨⟨"Land", by decide, rfl⟩, fun _ hvalue => nomatch hvalue⟩
  have hfirst : s.ids.FirstFree s.isTaken 1 := by
    refine ⟨fun m hm => ?_, by decide +kernel⟩
    rw [Nat.lt_one_iff.1 hm]
    decide +kernel
  obtain ⟨-, -, -, -, hcreate⟩ := ids_unique (.ofQueue ["A1", "a1", "B2"]) {}
    .standard [.create .program [("title", .text "Apollo")]]
  exact (hcreate .task _).2.2.1 1 hdraft (by decide) (by decide +kernel) hfirst

end Store

end TaskShell
