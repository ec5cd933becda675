import Mathlib.Data.String.Basic
import TaskShell.Proofs.Sorting
import TaskShell.Proofs.Store.Operations

/-!
# Finding, listing and counting

What a store finds and lists is determined by its records, in their order: where two stores agree on
the records that a kind and an id do not name, they find the same under every other kind and id, and
they list the same in the same order. Listings are sorted stably, so leaving records out before
sorting or after it comes to the same.

## Main definitions

* `Store.Spares` — nothing is lost or changed but what a kind and an id name.

## Main results

* `Store.Distinct.find?_eq_some_iff` — among distinct records those are found that are named.
* `Store.spares_of_filter` — stores spare what they agree on.
* `Store.count_name`, `Store.count_all` — a count is the length of a list, or the sum of the four.
-/

set_option autoImplicit false

namespace TaskShell

namespace Store

variable {s s' : Store} {records : List Record} {kind : Entity} {id : String} {r : Record}

/-! ## Finding -/

/-- Among distinct records those are found that a kind and an id name. -/
lemma Distinct.find?_eq_some_iff (h : Distinct records) :
    records.find? (isNamed kind id) = some r ↔ r ∈ records ∧ isNamed kind id r = true := by
  constructor
  · intro hfind
    exact ⟨List.mem_of_find?_eq_some hfind, List.find?_some hfind⟩
  · rintro ⟨hr, hnamed⟩
    cases hfind : records.find? (isNamed kind id) with
    | none => exact absurd hnamed (List.find?_eq_none.1 hfind r hr)
    | some q =>
      have hq : q ∈ records := List.mem_of_find?_eq_some hfind
      have hsame : sameId q.id r.id = true := by
        rw [sameId_congr_right ((isNamed_iff _ _ _).1 hnamed).2]
        exact ((isNamed_iff _ _ _).1 (List.find?_some hfind)).2
      rw [h.eq_of_sameId hq hr hsame]

/-- What is found among those that are kept is found among all, if only these can be found. -/
lemma find?_filter_of_imp {α : Type} {p q : α → Bool} (h : ∀ a, p a = true → q a = true)
    (l : List α) : (l.filter q).find? p = l.find? p := by
  rw [List.find?_filter]
  refine congrArg (fun p => l.find? p) (funext fun a => ?_)
  cases hp : p a with
  | false => simp
  | true => simp [h a hp]

/-! ## Listing -/

/-- One record comes before another in a listing, or they are of the same age. -/
def isListedBefore (a b : Record) : Bool :=
  !(b.createdAt.text < a.createdAt.text)

/-- The order of listings is transitive. -/
lemma isListedBefore_trans (a b c : Record) (hab : isListedBefore a b = true)
    (hbc : isListedBefore b c = true) : isListedBefore a c = true := by
  simp only [isListedBefore, Bool.not_eq_true', decide_eq_false_iff_not, not_lt] at hab hbc ⊢
  exact hab.trans hbc

/-- The order of listings is total. -/
lemma isListedBefore_total (a b : Record) : (isListedBefore a b || isListedBefore b a) = true := by
  simp only [isListedBefore, Bool.or_eq_true, Bool.not_eq_true', decide_eq_false_iff_not, not_lt]
  exact le_total _ _

/-- A listing of all records of a kind has them in the order of listings. -/
lemma list_all (s : Store) (kind : Entity) :
    s.list kind = (s.records.filter fun r => r.kind == kind).mergeSort isListedBefore := by
  have hkind : ∀ r : Record, (r.kind == kind && hasParent none r) = (r.kind == kind) := by
    simp [hasParent]
  simp only [list, hkind]
  rfl

/-- Leaving records out of a listing comes to the same as listing the others. -/
lemma filter_list (s : Store) (kind : Entity) (parent : Option String) (p : Record → Bool) :
    (s.list kind parent).filter p =
      ((s.records.filter p).filter fun r => r.kind == kind && hasParent parent r).mergeSort
        isListedBefore := by
  change (List.mergeSort _ isListedBefore).filter p = _
  rw [filter_mergeSort isListedBefore_trans isListedBefore_total, List.filter_filter,
    List.filter_filter]
  simp only [Bool.and_comm]

/-! ## What is spared -/

/-- From one store to another nothing is lost or changed but what a kind and an id name: every other
record is found as before, and the others are listed as before and in the same order. -/
structure Spares (s s' : Store) (kind : Entity) (id : String) : Prop where
  found : ∀ kind' id', ¬ (kind' = kind ∧ sameId id' id = true) →
    s'.find? kind' (some id') = s.find? kind' (some id')
  listed : ∀ kind' parent, (s'.list kind' parent).filter (fun r => !isNamed kind id r) =
    (s.list kind' parent).filter fun r => !isNamed kind id r

/-- Stores spare what they agree on. -/
theorem spares_of_filter
    (h : s'.records.filter (fun r => !isNamed kind id r) =
      s.records.filter fun r => !isNamed kind id r) : s.Spares s' kind id := by
  refine ⟨fun kind' id' hother => ?_, fun kind' parent => ?_⟩
  · -- what is named otherwise is not named by the kind and the id
    have hkept : ∀ r, isNamed kind' id' r = true → (!isNamed kind id r) = true := by
      intro r hr
      obtain ⟨rfl, hsame'⟩ := (isNamed_iff _ _ _).1 hr
      rw [Bool.not_eq_true', ← Bool.not_eq_true]
      intro hnamed
      obtain ⟨hkind, hsame⟩ := (isNamed_iff _ _ _).1 hnamed
      refine hother ⟨hkind, ?_⟩
      rw [sameId_comm, ← sameId_congr_right hsame', sameId_comm]
      exact hsame
    change s'.records.find? (isNamed kind' id') = s.records.find? (isNamed kind' id')
    rw [← find?_filter_of_imp hkept s'.records, h, find?_filter_of_imp hkept]
  · rw [filter_list, filter_list, h]

/-- Replacing what a kind and an id name by a record that they name leaves the others. -/
lemma filter_replaced (hnamed : isNamed kind id r = true) (records : List Record) :
    (replaced records r).filter (fun q => !isNamed kind id q) =
      records.filter fun q => !isNamed kind id q := by
  obtain ⟨rfl, hsame⟩ := (isNamed_iff _ _ _).1 hnamed
  unfold replaced
  rw [isNamed_congr hsame]
  induction records with
  | nil => rfl
  | cons q records ih =>
    cases hq : isNamed r.kind id q <;> simp [hq, hnamed, ih]

/-- Erasing what a record names leaves the others. -/
lemma filter_erased (hnamed : isNamed kind id r = true) (records : List Record) :
    (erased records r).filter (fun q => !isNamed kind id q) =
      records.filter fun q => !isNamed kind id q := by
  obtain ⟨rfl, hsame⟩ := (isNamed_iff _ _ _).1 hnamed
  unfold erased
  rw [isNamed_congr hsame, List.filter_filter]
  simp

/-! ## Counting -/

/-- The list of a kind has all records of the kind. -/
lemma length_list (s : Store) (kind : Entity) :
    (s.list kind).length = (s.records.filter fun r => r.kind == kind).length := by
  rw [list_all, List.length_mergeSort]

/-- A count by the name of a kind is the length of its list. -/
theorem count_name (s : Store) (kind : Entity) :
    s.count (some kind.name) = (s.list kind).length := by
  have hname : (some kind.name).filter (· != "") = some kind.name := by
    cases kind <;> rfl
  have hkind : ∀ r : Record, (r.kind.name == kind.name) = (r.kind == kind) := by
    intro r
    rw [Bool.eq_iff_iff, beq_iff_eq, beq_iff_eq]
    exact ⟨Entity.name_injective, congrArg Entity.name⟩
  rw [count, hname, length_list]
  simp only [hkind]

/-- The count of all records is the sum of the lengths of the lists of all kinds. -/
theorem count_all (s : Store) :
    s.count = (s.list .program).length + (s.list .project).length + (s.list .task).length +
      (s.list .subtask).length := by
  change s.records.length = _
  simp only [length_list]
  induction s.records with
  | nil => rfl
  | cons r records ih =>
    -- the record adds one to the list of its own kind
    cases hkind : r.kind <;> simp [hkind] <;> omega

end Store

end TaskShell
