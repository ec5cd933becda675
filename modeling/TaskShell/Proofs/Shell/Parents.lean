import TaskShell.Proofs.Shell.Selecting
import TaskShell.Proofs.Text.Characters

/-!
# The records of a parent

There are two ways to list the records of a parent. The store is asked for them and compares parents
as it compares ids, or all records of a kind are listed and a filter compares their parents in lower
case. The first knows the letters from `A` to `Z` only and takes a parent that is empty for one; the
second knows all letters and does not see such a parent. Where the parents are printable and of the
basic characters, and so is the one that is asked for, both come to the same list.

## Main definitions

* `Record.ChildOf` — a record has a parent, the case of basic letters aside.

## Main results

* `Store.list_parent` — the store lists the records of a parent as it lists all of a kind.
* `Store.hasParent_iff_childOf`, `Filter.admits_iff_childOf` — what the two ways let through.
* `Store.parent_filters_agree` — they come to the same list.
-/

set_option autoImplicit false

namespace TaskShell

/-- A record has a parent that is equal to one that is asked for, the case of basic letters aside. -/
def Record.ChildOf (r : Record) (parent : String) : Prop :=
  ∃ q, r.parentId = some q ∧ Text.foldBasic q = Text.foldBasic parent

instance (r : Record) (parent : String) : Decidable (r.ChildOf parent) :=
  decidable_of_iff ((r.parentId.any fun q => Text.foldBasic q == Text.foldBasic parent) = true)
    (by simp [Record.ChildOf, Option.any_eq_true])

namespace Text

/-- A text of characters from the space to the tilde, which may be empty. -/
def IsBasicText (s : String) : Prop :=
  ∀ c ∈ s.toList, IsBasic c

instance (s : String) : Decidable (IsBasicText s) :=
  inferInstanceAs (Decidable (∀ c ∈ s.toList, IsBasic c))

/-- A text of basic characters has no null character. -/
lemma IsBasicText.null_notMem {s : String} (h : IsBasicText s) : '\x00' ∉ s.toList :=
  fun hnull => absurd (h _ hnull) (by decide)

end Text

open Text (IsBasicText)

variable {r : Record} {parent : String}

namespace Store

/-- The store lists the records of a parent as it lists all of a kind, with the others left out. -/
theorem list_parent (s : Store) (kind : Entity) (parent : Option String) :
    s.list kind parent = (s.list kind).filter (hasParent parent) := by
  rw [list_all, filter_mergeSort isListedBefore_trans isListedBefore_total, List.filter_filter]
  change List.mergeSort _ isListedBefore = _
  simp only [Bool.and_comm]

/-- The store finds a parent of basic characters just where a record has it. -/
lemma hasParent_iff_childOf (hne : parent ≠ "") (hbasic : ∀ q, r.parentId = some q → IsBasicText q) :
    hasParent (some parent) r = true ↔ r.ChildOf parent := by
  have hgiven : (some parent).filter (· != "") = some parent := by simp [hne]
  unfold hasParent Record.ChildOf
  rw [hgiven]
  cases hparent : r.parentId with
  | none => simp
  | some q => simp [sameId_iff_foldBasic (hbasic q hparent).null_notMem]

end Store

/-- The filter lets a record through just where it has the parent. An empty parent is not seen, but
it is not the one that is asked for either. -/
lemma Filter.admits_iff_childOf (happart : r.IsApart) (hne : parent ≠ "")
    (hparent : IsBasicText parent) (hbasic : ∀ q, r.parentId = some q → IsBasicText q) :
    Filter.admits { parent := some parent } r.fields = true ↔ r.ChildOf parent := by
  have hadmits : Filter.admits { parent := some parent } r.fields = true ↔
      r.Says "parentId" parent := by
    unfold Filter.admits
    simp [agrees_iff]
  have hvalue : r.fields.value? "parentId" = (r.parentId.filter (· != "")).map .text := by
    simp [Record.value?_fields happart, Record.parent?]
  rw [hadmits]
  unfold Record.Says Record.ChildOf
  rw [hvalue]
  cases hq : r.parentId with
  | none => simp
  | some q =>
    have hlower : Text.lower q = Text.lower parent ↔ Text.foldBasic q = Text.foldBasic parent :=
      Text.lower_eq_lower_iff (hbasic q hq) hparent
    by_cases hempty : q = ""
    · have hfold : Text.foldBasic "" ≠ Text.foldBasic parent := by
        intro hfold
        have hnil : parent.toList.map Text.basicLower = [] := hfold.symm
        exact hne (String.toList_eq_nil_iff.1 (List.map_eq_nil_iff.1 hnil))
      simp [hempty, hfold]
    · simp [hempty, hlower, Value.display]

namespace Store

/-- **The two ways to list the records of a parent agree.** In a store after any operations whose
parents are of basic characters, and for a parent of such characters that is not empty, the store lists
the same records of a kind as the filter keeps of all of them, in the same order: those that have the
parent, the case of basic letters aside.

**Proof sketch.** Sorting is stable, so that the parent may be asked for before or after it. Both ways
let a record through just where it has the parent, as on basic characters both lower cases tell the
same apart. -/
theorem parent_filters_agree (ids : IdSupply) (clock : Clock) (room : Json.Room)
    (ops : List Operation) (kind : Entity) (parent : String) (hne : parent ≠ "")
    (hparent : IsBasicText parent)
    (hbasic : ∀ r ∈ ((empty ids clock room).after ops).records, ∀ q, r.parentId = some q →
      IsBasicText q) :
    let s := (empty ids clock room).after ops
    (s.list kind (some parent)).map Record.fields =
        Filter.apply { parent := some parent } ((s.list kind).map Record.fields) ∧
      ∀ r, r ∈ s.list kind (some parent) ↔ r ∈ s.records ∧ r.kind = kind ∧ r.ChildOf parent := by
  intro s
  have hapart : ∀ r ∈ s.records, r.IsApart := ((intact_empty ids clock room).after ops).apart
  have hmem : ∀ r, r ∈ s.list kind ↔ r ∈ s.records ∧ r.kind = kind := by
    intro r
    rw [list_all, (List.mergeSort_perm _ _).mem_iff, List.mem_filter, beq_iff_eq]
  have hsame : ∀ r ∈ s.list kind,
      hasParent (some parent) r = Filter.admits { parent := some parent } r.fields := by
    intro r hr
    have hr := ((hmem r).1 hr).1
    rw [Bool.eq_iff_iff, hasParent_iff_childOf hne (hbasic r hr),
      Filter.admits_iff_childOf (hapart r hr) hne hparent (hbasic r hr)]
  constructor
  · change _ = ((s.list kind).map Record.fields).filter (Filter.admits { parent := some parent })
    rw [list_parent, List.filter_map, List.filter_congr hsame]
    rfl
  · intro r
    rw [list_parent, List.mem_filter, hmem, and_assoc]
    refine and_congr_right fun hr => and_congr_right fun _ => ?_
    exact hasParent_iff_childOf hne (hbasic r hr)

/-- Of two projects one belongs to the program, whose id is spelled otherwise; the other has an empty
parent. -/
theorem parent_filters_agree_apollo :
    let s := (empty (.ofQueue ["A1", "B1", "B2"]) {}).after
      [.create .program [("title", .text "Apollo")],
        .create .project [("title", .text "Lander"), ("parentId", .text "a1")],
        .create .project [("title", .text "Rover"), ("parentId", .text "")]]
    (∀ r ∈ s.records, ∀ q, r.parentId = some q → IsBasicText q) ∧
      (s.list .project (some "A1")).map Record.fields =
        Filter.apply { parent := some "A1" } ((s.list .project).map Record.fields) ∧
      ∀ r ∈ s.records, r ∈ s.list .project (some "A1") ↔ r.title = "Lander" := by
  intro s
  have hall : (s.records.all fun r => r.parentId.all fun q => decide (IsBasicText q)) = true := by
    decide +kernel
  have hbasic : ∀ r ∈ s.records, ∀ q, r.parentId = some q → IsBasicText q := by
    intro r hr q hq
    have hparent := List.all_eq_true.1 hall r hr
    rw [hq] at hparent
    exact of_decide_eq_true hparent
  obtain ⟨hsame, hlisted⟩ := parent_filters_agree (.ofQueue ["A1", "B1", "B2"]) {} .standard _
    .project "A1" (by decide) (by decide) hbasic
  refine ⟨hbasic, hsame, fun r hr => ?_⟩
  have htitles : ∀ r ∈ s.records,
      ((r.kind = .project ∧ r.ChildOf "A1") ↔ r.title = "Lander") := by
    decide +kernel
  rw [hlisted, and_iff_right hr, htitles r hr]

/-- Beyond the basic characters the two lower cases part: the sign of kelvin has that of a letter. -/
example : Text.lower "\u212a" = Text.lower "K" ∧ Text.foldBasic "\u212a" ≠ Text.foldBasic "K" := by
  decide +kernel

end Store

end TaskShell
