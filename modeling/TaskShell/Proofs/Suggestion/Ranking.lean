import TaskShell.Proofs.Sorting
import TaskShell.Suggestion

/-!
# One ranking for all suggestions

Options are ranked by their distance to a word, and equally near ones by their place among the options.
The search for the nearest option finds the first of this ranking, if it is near enough; the list of
near options is its beginning. So the two never disagree, whichever options are tied or occur twice.

## Main definitions

* `Suggestion.IsFirstNearest` — the first of the options that are nearest to a word.
* `Suggestion.IsRanking` — the options within a distance of a word, ranked.

## Main results

* `Suggestion.closest?_eq_some_iff`, `Suggestion.closest?_eq_none_iff` — what the search finds.
* `Suggestion.IsRanking.unique`, `Suggestion.isRanking_ranking` — there is one ranking.
* `Suggestion.matchers_agree` — search, list and test agree with it.
-/

set_option autoImplicit false

namespace TaskShell.Suggestion

open EditDistance (ofWords)

variable {word s : String} {options ranked : List String} {within : Nat} {threshold : Int}

/-! ## The nearest option -/

/-- A word is one of some options, none of which is nearer to another word and none of those before it
equally near. -/
def IsFirstNearest (word s : String) (options : List String) : Prop :=
  ∃ front back, options = front ++ s :: back ∧
    (∀ option ∈ front, ofWords word s < ofWords word option) ∧
    ∀ option ∈ back, ofWords word s ≤ ofWords word option

/-- The search for the nearest option ends with what it has, if no option is nearer than the bound, or
else with the first of the nearest. -/
lemma closestFrom_cases {best : Option String} {bound : Int}
    (h : closestFrom word best bound options = some s) :
    (best = some s ∧ ∀ option ∈ options, bound ≤ ofWords word option) ∨
      (ofWords word s : Int) < bound ∧ IsFirstNearest word s options := by
  induction options generalizing best bound with
  | nil => exact .inl ⟨h, List.forall_mem_nil _⟩
  | cons option options ih =>
    unfold closestFrom at h
    dsimp only at h
    split at h
    · next hnear =>
      right
      rcases ih h with ⟨hbest, hothers⟩ | ⟨hnearer, front, back, rfl, hfront, hback⟩
      · obtain rfl := Option.some.inj hbest
        refine ⟨hnear, [], options, rfl, List.forall_mem_nil _, fun other hother => ?_⟩
        exact Int.ofNat_le.1 (hothers other hother)
      · refine ⟨by omega, option :: front, back, rfl, ?_, hback⟩
        exact List.forall_mem_cons.2 ⟨by omega, hfront⟩
    · next hfar =>
      rcases ih h with ⟨hbest, hothers⟩ | ⟨hnearer, front, back, rfl, hfront, hback⟩
      · exact .inl ⟨hbest, List.forall_mem_cons.2 ⟨by omega, hothers⟩⟩
      · refine .inr ⟨hnearer, option :: front, back, rfl, ?_, hback⟩
        exact List.forall_mem_cons.2 ⟨by omega, hfront⟩

/-- What is found is the first of the nearest. -/
lemma isFirstNearest_of_closest? (h : closest? word options threshold = some s) :
    IsFirstNearest word s options := by
  rcases closestFrom_cases h with ⟨hnone, -⟩ | ⟨-, hnearest⟩
  · exact nomatch hnone
  · exact hnearest

/-- The first of the nearest options is one of them. -/
lemma IsFirstNearest.mem (h : IsFirstNearest word s options) : s ∈ options := by
  obtain ⟨front, back, rfl, -, -⟩ := h
  exact List.mem_append_right _ List.mem_cons_self

/-- There is one first of the nearest options. -/
lemma IsFirstNearest.unique {s' : String} (h : IsFirstNearest word s options)
    (h' : IsFirstNearest word s' options) : s = s' := by
  -- of two that stand in different places, the one behind is nearer, and it is not
  have hplace : ∀ {front back front' back' : List String} {s s' : String},
      (∀ option ∈ back, ofWords word s ≤ ofWords word option) →
      (∀ option ∈ front', ofWords word s' < ofWords word option) →
      ∀ between, front' = front ++ between → s :: back = between ++ s' :: back' → s = s' := by
    intro front back front' back' s s' hback hfront' between hfront hsplit
    cases between with
    | nil => exact (List.cons.inj hsplit).1
    | cons a between =>
      obtain ⟨rfl, rfl⟩ := List.cons.inj hsplit
      have hle := hback s' (by simp)
      have hlt := hfront' s (by simp [hfront])
      omega
  obtain ⟨front, back, hoptions, hfront, hback⟩ := h
  obtain ⟨front', back', hoptions', hfront', hback'⟩ := h'
  rcases List.append_eq_append_iff.1 (hoptions.symm.trans hoptions') with
    ⟨between, hlonger, hsplit⟩ | ⟨between, hlonger, hsplit⟩
  · exact hplace hback hfront' between hlonger hsplit
  · exact (hplace hback' hfront between hlonger hsplit).symm

/-- The search ends with nothing just if it had nothing and no option is nearer than the bound. -/
lemma closestFrom_eq_none_iff {best : Option String} {bound : Int} :
    closestFrom word best bound options = none ↔
      best = none ∧ ∀ option ∈ options, bound ≤ ofWords word option := by
  induction options generalizing best bound with
  | nil => simp [closestFrom]
  | cons option options ih =>
    unfold closestFrom
    dsimp only
    split
    · next hnear =>
      rw [ih, List.forall_mem_cons]
      constructor
      · rintro ⟨hnone, -⟩
        exact nomatch hnone
      · rintro ⟨-, hfar, -⟩
        omega
    · next hfar => rw [ih, List.forall_mem_cons, and_iff_right (Int.not_lt.1 hfar)]

/-- Nothing is found just if all options are beyond the threshold. -/
theorem closest?_eq_none_iff : closest? word options threshold = none ↔
    ∀ option ∈ options, threshold < ofWords word option := by
  rw [closest?, closestFrom_eq_none_iff, and_iff_right rfl]
  exact forall₂_congr fun option _ => Int.add_one_le_iff

/-- What is found is the first of the nearest options, and it is within the threshold. -/
theorem closest?_eq_some_iff : closest? word options threshold = some s ↔
    (ofWords word s : Int) ≤ threshold ∧ IsFirstNearest word s options := by
  constructor
  · intro h
    rcases closestFrom_cases h with ⟨hnone, -⟩ | ⟨hnear, hfirst⟩
    · exact nomatch hnone
    · exact ⟨Int.lt_add_one_iff.1 hnear, hfirst⟩
  · rintro ⟨hnear, hfirst⟩
    cases hfound : closest? word options threshold with
    | none => exact absurd (closest?_eq_none_iff.1 hfound s hfirst.mem) (Int.not_lt.2 hnear)
    | some s' => rw [(isFirstNearest_of_closest? hfound).unique hfirst]

/-! ## The ranking -/

/-- A list holds the options within a distance of a word, each as often as it occurs: nearer ones
first, and equally near ones in the order of the options. -/
structure IsRanking (word : String) (within : Nat) (options ranked : List String) : Prop where
  perm : ranked.Perm (options.filter fun option => ofWords word option ≤ within)
  sorted : ranked.Pairwise fun a b => ofWords word a ≤ ofWords word b
  tied : ∀ distance, ranked.filter (fun option => ofWords word option = distance) =
    (options.filter fun option => ofWords word option ≤ within).filter
      fun option => ofWords word option = distance

/-- There is at most one ranking. -/
lemma IsRanking.unique {other : List String} (h : IsRanking word within options ranked)
    (h' : IsRanking word within options other) : ranked = other :=
  eq_of_sorted_of_tied h.sorted h'.sorted fun distance => by rw [h.tied, h'.tied]

/-- The options within a distance of a word, sorted by their distance. -/
def ranking (word : String) (within : Nat) (options : List String) : List String :=
  (options.filter fun option => ofWords word option ≤ within).mergeSort
    fun a b => ofWords word a ≤ ofWords word b

/-- Sorting is stable, so it ranks. -/
lemma isRanking_ranking (word : String) (within : Nat) (options : List String) :
    IsRanking word within options (ranking word within options) where
  perm := List.mergeSort_perm _ _
  sorted := pairwise_mergeSort_numbers (ofWords word) _
  tied := filter_mergeSort_tied (ofWords word) _

/-- The near options are the first three of the ranking. -/
lemma nearest_eq_take (word : String) (options : List String) :
    nearest word options = (ranking word 2 options).take 3 := by
  have hsort : ∀ close : List String,
      (close.map fun option => (ofWords word option, option)).mergeSort (fun a b => a.1 ≤ b.1) =
        (close.mergeSort fun a b => ofWords word a ≤ ofWords word b).map
          fun option => (ofWords word option, option) :=
    fun close => (List.map_mergeSort (f := fun option => (ofWords word option, option))
      fun _ _ _ _ => rfl).symm
  unfold nearest ranking
  dsimp only
  rw [List.filter_map, hsort, ← List.map_take, List.map_map]
  exact List.map_id _

/-- The first of a ranking is the first of the nearest options. -/
lemma IsRanking.isFirstNearest (h : IsRanking word within options (s :: ranked)) :
    ofWords word s ≤ within ∧ IsFirstNearest word s options := by
  have hle : ofWords word s ≤ within := by
    have hmem := h.perm.mem_iff.1 List.mem_cons_self
    simpa using (List.mem_filter.1 hmem).2
  have hleast : ∀ option ∈ options, ofWords word s ≤ ofWords word option := by
    intro option hoption
    by_cases hnear : ofWords word option ≤ within
    · have hranked : option ∈ s :: ranked :=
        h.perm.mem_iff.2 (List.mem_filter.2 ⟨hoption, by simpa using hnear⟩)
      rcases List.mem_cons.1 hranked with rfl | hranked
      · exact Nat.le_refl _
      · exact (List.pairwise_cons.1 h.sorted).1 option hranked
    · omega
  -- it is the first of those that are as near, so that all before it are farther
  have htied := h.tied (ofWords word s)
  rw [List.filter_cons_of_pos (by simp), List.filter_filter, eq_comm,
    List.filter_eq_cons_iff] at htied
  obtain ⟨front, back, hoptions, hbefore, -⟩ := htied
  refine ⟨hle, front, back, hoptions, fun option hoption => ?_, fun option hoption => ?_⟩
  · have hge := hleast option (by rw [hoptions]; exact List.mem_append_left _ hoption)
    have hne : ofWords word option ≠ ofWords word s := by
      intro hsame
      exact hbefore option hoption (by simp [hsame, hle])
    omega
  · refine hleast option ?_
    rw [hoptions]
    exact List.mem_append_right _ (List.mem_cons_of_mem _ hoption)

/-- The first of a ranking is what the search finds within the same distance. -/
lemma IsRanking.head? (h : IsRanking word within options ranked) :
    ranked.head? = closest? word options within := by
  cases ranked with
  | nil =>
    refine (closest?_eq_none_iff.2 fun option hoption => ?_).symm
    have hfar := List.filter_eq_nil_iff.1 (List.nil_perm.1 h.perm) option hoption
    have hlt : within < ofWords word option := by simpa using hfar
    omega
  | cons s ranked =>
    obtain ⟨hle, hfirst⟩ := h.isFirstNearest
    exact (closest?_eq_some_iff.2 ⟨Int.ofNat_le.2 hle, hfirst⟩).symm

/-- **Search, list and test agree on one ranking.** For every word, all options, tied and repeated ones
among them, and every threshold, also a negative one: the search finds the first of the options at the
least distance, if this is within the threshold, and nothing if no option is; the list of near options
is the first three of those within distance two, ranked by their distance and, where this is equal, by
their place among the options. So the first of the list is what the search finds within distance two,
and the list is empty just if the test fails.

**Proof sketch.** The search keeps the first of the nearest options so far, as an option that is only
equally near does not take its place. Sorting is stable, and a list that is sorted by distances is
determined by its parts of one distance each, which the options determine; so there is one ranking, and
its first option is nearer than all those before it among the options. -/
theorem matchers_agree (word : String) (options : List String) (threshold : Int) :
    (∀ s, closest? word options threshold = some s ↔
      (ofWords word s : Int) ≤ threshold ∧ IsFirstNearest word s options) ∧
    (closest? word options threshold = none ↔
      ∀ option ∈ options, threshold < ofWords word option) ∧
    (∃ ranked, (∀ other, IsRanking word 2 options other ↔ other = ranked) ∧
      nearest word options = ranked.take 3) ∧
    (nearest word options).head? = closest? word options 2 ∧
    (nearest word options = [] ↔ isNear word options = false) := by
  have hranking := isRanking_ranking word 2 options
  have hhead : (nearest word options).head? = closest? word options 2 := by
    rw [nearest_eq_take, List.head?_take, if_neg (by decide), hranking.head?]
    rfl
  refine ⟨fun s => closest?_eq_some_iff, closest?_eq_none_iff,
    ⟨ranking word 2 options, fun other => ⟨fun hother => hother.unique hranking, ?_⟩,
      nearest_eq_take word options⟩, hhead, ?_⟩
  · rintro rfl
    exact hranking
  · rw [← List.head?_eq_none_iff, hhead, isNear, Option.isSome_eq_false_iff, Option.isNone_iff_eq_none]

/-- Of tied options the first is suggested first, also when it comes behind a farther one and occurs
twice. -/
example : nearest "cart" ["carton", "card", "care", "card", "art"] = ["card", "care", "card"] := by
  cbv

end TaskShell.Suggestion
