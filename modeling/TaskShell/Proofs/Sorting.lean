import Mathlib.Tactic.Lemma

/-!
# Stable sorting

Sorting is stable: what is tied stays in order, so that leaving things out may come before sorting or
after it. What is sorted by numbers is determined by its parts of one number each.

## Main results

* `filter_mergeSort` — leaving things out before sorting or after it comes to the same.
* `pairwise_mergeSort_of_pairwise` — a sorted list keeps the order of what is tied.
* `pairwise_mergeSort_numbers` — a list that is sorted by numbers is in their order.
* `filter_mergeSort_tied` — the part of one number stays as it is when a list is sorted.
* `eq_of_sorted_of_tied` — sorted lists with the same parts of one number are equal.
-/

set_option autoImplicit false

namespace TaskShell

variable {α : Type} {le : α → α → Bool}

/-- Two lists put together of what has a property and what has not are equal in both parts if they
are equal. -/
lemma append_parts {p : α → Bool} {front back front' back' : List α}
    (h : front ++ back = front' ++ back') (hfront : ∀ a ∈ front, p a = true)
    (hback : ∀ a ∈ back, p a = false) (hfront' : ∀ a ∈ front', p a = true)
    (hback' : ∀ a ∈ back', p a = false) : front = front' ∧ back = back' := by
  have hpart : ∀ front back : List α, (∀ a ∈ front, p a = true) → (∀ a ∈ back, p a = false) →
      (front ++ back).filter p = front := by
    intro front back hfront hback
    rw [List.filter_append, List.filter_eq_self.2 hfront,
      List.filter_eq_nil_iff.2 fun a ha => by simp [hback a ha], List.append_nil]
  have heq : front = front' := by
    rw [← hpart front back hfront hback, h, hpart front' back' hfront' hback']
  rw [heq] at h
  exact ⟨heq, List.append_cancel_left h⟩

/-- Leaving things out before sorting or after it comes to the same.

**Proof sketch.** Induction on the list. The first element is put behind those that come strictly
before it, in the sorted rest; among those that are kept of the rest, these are the ones that are
kept of them. -/
theorem filter_mergeSort (htrans : ∀ a b c, le a b = true → le b c = true → le a c = true)
    (htotal : ∀ a b, (le a b || le b a) = true) (p : α → Bool) (l : List α) :
    (l.mergeSort le).filter p = (l.filter p).mergeSort le := by
  -- what follows an element in a sorted list does not come strictly before it
  have hafter : ∀ {a : α} {front back : List α} (l : List α),
      l.mergeSort le = front ++ a :: back → ∀ b ∈ back, (!le a b) = false := by
    intro a front back l hsorted b hb
    have hpairwise := List.pairwise_mergeSort htrans htotal l
    rw [hsorted] at hpairwise
    have hle := (List.pairwise_cons.1 (List.pairwise_append.1 hpairwise).2.1).1 b hb
    rw [hle, Bool.not_true]
  induction l with
  | nil => simp
  | cons a l ih =>
    obtain ⟨front, back, hsorted, hrest, hbefore⟩ := List.mergeSort_cons htrans htotal a l
    rw [hsorted, List.filter_append]
    cases ha : p a with
    | false =>
      rw [List.filter_cons_of_neg (by simp [ha]), List.filter_cons_of_neg (by simp [ha]),
        ← List.filter_append, ← hrest, ih]
    | true =>
      rw [List.filter_cons_of_pos ha, List.filter_cons_of_pos ha]
      obtain ⟨front', back', hsorted', hrest', hbefore'⟩ :=
        List.mergeSort_cons htrans htotal a (l.filter p)
      have hsame : front' ++ back' = front.filter p ++ back.filter p := by
        rw [← hrest', ← ih, hrest, List.filter_append]
      obtain ⟨rfl, rfl⟩ := append_parts (p := fun b => !le a b) hsame hbefore'
        (hafter _ hsorted') (fun b hb => hbefore b (List.mem_filter.1 hb).1)
        (fun b hb => hafter _ hsorted b (List.mem_filter.1 hb).1)
      exact hsorted'.symm

/-- A sorted list is in order, and what is tied in it stays in the order of the list that was
sorted.

**Proof sketch.** Induction on the list. The first element is put behind those that come strictly
before it and in front of the others, and it was in front of all of them. -/
theorem pairwise_mergeSort_of_pairwise {R : α → α → Prop}
    (htrans : ∀ a b c, le a b = true → le b c = true → le a c = true)
    (htotal : ∀ a b, (le a b || le b a) = true) {l : List α} (h : l.Pairwise R) :
    (l.mergeSort le).Pairwise fun a b => le a b = true ∧ (le b a = true → R a b) := by
  induction h with
  | nil => simp
  | @cons a l ha _ ih =>
    have hsorted := List.pairwise_mergeSort htrans htotal (a :: l)
    obtain ⟨front, back, hfirst, hrest, hbefore⟩ := List.mergeSort_cons htrans htotal a l
    rw [hfirst] at hsorted ⊢
    rw [hrest] at ih
    obtain ⟨hfront, hback, hcross⟩ := List.pairwise_append.1 ih
    have hle := (List.pairwise_cons.1 (List.pairwise_append.1 hsorted).2.1).1
    have hmem : ∀ b ∈ back, b ∈ l := by
      intro b hb
      have hsort : b ∈ l.mergeSort le := by
        rw [hrest]
        exact List.mem_append_right _ hb
      exact List.mem_mergeSort.1 hsort
    refine List.pairwise_append.2 ⟨hfront, List.pairwise_cons.2 ⟨fun b hb => ?_, hback⟩, ?_⟩
    · exact ⟨hle b hb, fun _ => ha b (hmem b hb)⟩
    · intro b hb c hc
      rcases List.mem_cons.1 hc with rfl | hc
      · have hnot : le c b = false := by simpa using hbefore b hb
        refine ⟨by simpa [hnot] using htotal c b, fun hcb => ?_⟩
        rw [hnot] at hcb
        exact nomatch hcb
      · exact hcross b hb c hc

/-! ## Sorting by numbers -/

section Numbers

variable {f : α → Nat} {l l' : List α}

/-- Numbers in order are in order with those between them left out. -/
lemma le_trans_numbers (f : α → Nat) (a b c : α) (hab : decide (f a ≤ f b) = true)
    (hbc : decide (f b ≤ f c) = true) : decide (f a ≤ f c) = true := by
  simp only [decide_eq_true_eq] at hab hbc ⊢
  exact Nat.le_trans hab hbc

/-- Any two numbers are in order, in one way or the other. -/
lemma le_total_numbers (f : α → Nat) (a b : α) :
    (decide (f a ≤ f b) || decide (f b ≤ f a)) = true := by
  simpa using Nat.le_total (f a) (f b)

/-- A list that is sorted by numbers is in their order. -/
theorem pairwise_mergeSort_numbers (f : α → Nat) (l : List α) :
    (l.mergeSort fun a b => f a ≤ f b).Pairwise fun a b => f a ≤ f b := by
  have hsorted := List.pairwise_mergeSort (le_trans_numbers f) (le_total_numbers f) l
  simpa using hsorted

/-- The part of a list that has one number stays as it is when the list is sorted by numbers. -/
theorem filter_mergeSort_tied (f : α → Nat) (l : List α) (n : Nat) :
    (l.mergeSort fun a b => f a ≤ f b).filter (fun a => f a = n) = l.filter fun a => f a = n := by
  rw [filter_mergeSort (le_trans_numbers f) (le_total_numbers f)]
  refine List.mergeSort_of_pairwise (List.pairwise_of_forall_mem_list fun a ha b hb => ?_)
  have ha : f a = n := by simpa using (List.mem_filter.1 ha).2
  have hb : f b = n := by simpa using (List.mem_filter.1 hb).2
  simp [ha, hb]

/-- Of two lists with the same parts of one number, the second has the elements of the first. -/
lemma mem_of_tied (h : ∀ n, l.filter (fun a => f a = n) = l'.filter fun a => f a = n) {a : α}
    (ha : a ∈ l) : a ∈ l' := by
  have hpart : a ∈ l.filter fun b => f b = f a := List.mem_filter.2 ⟨ha, by simp⟩
  rw [h] at hpart
  exact (List.mem_filter.1 hpart).1

/-- Lists that are sorted by numbers are equal if their parts of one number are.

**Proof sketch.** Induction on the first list. The first elements have the same number, as each is
among the elements of the other list; so both are the first of the same part. -/
theorem eq_of_sorted_of_tied (hl : l.Pairwise fun a b => f a ≤ f b)
    (hl' : l'.Pairwise fun a b => f a ≤ f b)
    (h : ∀ n, l.filter (fun a => f a = n) = l'.filter fun a => f a = n) : l = l' := by
  induction l generalizing l' with
  | nil =>
    refine (List.eq_nil_iff_forall_not_mem.2 fun a ha => ?_).symm
    exact absurd (mem_of_tied (fun n => (h n).symm) ha) List.not_mem_nil
  | cons a l ih =>
    obtain ⟨hfirst, hrest⟩ := List.pairwise_cons.1 hl
    cases l' with
    | nil => exact absurd (mem_of_tied h List.mem_cons_self) List.not_mem_nil
    | cons b l' =>
      obtain ⟨hfirst', hrest'⟩ := List.pairwise_cons.1 hl'
      have hle : f a ≤ f b := by
        rcases List.mem_cons.1 (mem_of_tied (fun n => (h n).symm) List.mem_cons_self) with hb | hb
        · exact Nat.le_of_eq (congrArg f hb.symm)
        · exact hfirst b hb
      have hge : f b ≤ f a := by
        rcases List.mem_cons.1 (mem_of_tied h List.mem_cons_self) with ha | ha
        · exact Nat.le_of_eq (congrArg f ha.symm)
        · exact hfirst' a ha
      have hsame : f b = f a := Nat.le_antisymm hge hle
      have hhead := h (f a)
      rw [List.filter_cons_of_pos (by simp), List.filter_cons_of_pos (by simp [hsame])] at hhead
      obtain rfl : a = b := (List.cons.inj hhead).1
      have htails : ∀ n, l.filter (fun c => f c = n) = l'.filter fun c => f c = n := by
        intro n
        have hn := h n
        by_cases ha : f a = n
        · rw [List.filter_cons_of_pos (by simp [ha]), List.filter_cons_of_pos (by simp [ha])] at hn
          exact (List.cons.inj hn).2
        · rwa [List.filter_cons_of_neg (by simp [ha]), List.filter_cons_of_neg (by simp [ha])] at hn
      rw [ih hrest hrest' htails]

end Numbers

end TaskShell
