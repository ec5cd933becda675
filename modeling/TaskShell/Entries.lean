/-!
# Ordered entries

Keyed values in the order in which their keys first came. Flags, aliases and the fields of records
are kept this way.

## Main definitions

* `Entries` — a list of keyed values.
* `Entries.value?` — the value under a key.
* `Entries.put` — a value stored under a key, in place if the key is there.
* `Entries.ofPairs`, `Entries.overlay` — many values stored in turn.

## Main results

* `Entries.value?_put` — storing a value changes what is under its key, and nothing else.
* `Entries.keys_put` — the key of a new entry comes last; a known key keeps its place.
* `Entries.nodup_keys_put` — storing a value leaves different keys different.
* `Entries.nodup_keys_overlay` — so does storing values in turn.
* `Entries.ofPairs_eq_self` — pairs with different keys are stored as they are.
* `Entries.value?_without` — hiding keys hides their values, and no others.
* `Entries.value?_eq_some_iff` — under a key is the value of its entry, where keys are different.
* `Entries.value?_append` — of entries in sequence the first ones come first.
* `Entries.value?_overlay` — what is stored in turn comes before what was there.
* `Entries.value?_overlay_eq_none` — a key that is neither stored in turn nor there stays away.
-/

set_option autoImplicit false

namespace TaskShell

/-- Keyed values in order. -/
abbrev Entries (α : Type) := List (String × α)

namespace Entries

variable {α : Type}

/-- The value under the first entry with a key. -/
def value? : Entries α → String → Option α
  | [], _ => none
  | (k, v) :: rest, key => if k = key then some v else value? rest key

/-- The value stored under a key: in place if the key is there, else at the end. -/
def put : Entries α → String → α → Entries α
  | [], key, value => [(key, value)]
  | (k, v) :: rest, key, value =>
    if k = key then (key, value) :: rest else (k, v) :: put rest key value

/-- The entries of `others` stored in turn. -/
def overlay (entries others : Entries α) : Entries α :=
  others.foldl (fun es (key, value) => es.put key value) entries

/-- Pairs stored in turn: a repeated key keeps its first place and its last value. -/
def ofPairs (pairs : List (String × α)) : Entries α :=
  overlay [] pairs

/-- The keys in order. -/
def keys (entries : Entries α) : List String :=
  entries.map Prod.fst

/-- The entries whose keys are not among `hidden`. -/
def without (entries : Entries α) (hidden : List String) : Entries α :=
  entries.filter fun (key, _) => !hidden.contains key

/-! ## Looking up what was stored -/

/-- Storing a value changes what is under its key, and nothing else. -/
theorem value?_put (entries : Entries α) (key other : String) (value : α) :
    (entries.put key value).value? other =
      if key = other then some value else entries.value? other := by
  induction entries with
  | nil => simp [put, value?]
  | cons entry rest ih =>
    obtain ⟨k, v⟩ := entry
    by_cases hk : k = key
    · subst hk
      by_cases ho : k = other <;> simp [put, value?, ho]
    · by_cases ho : k = other
      · have : key ≠ other := fun h => hk (ho.trans h.symm)
        have hk' : other ≠ key := fun h => this h.symm
        simp [put, value?, ho, this, hk']
      · simp [put, value?, hk, ho, ih]

/-- A key has a value just if it is among the keys. -/
theorem value?_isSome_iff (entries : Entries α) (key : String) :
    (entries.value? key).isSome ↔ key ∈ entries.keys := by
  induction entries with
  | nil => simp [value?, keys]
  | cons entry rest ih =>
    obtain ⟨k, v⟩ := entry
    by_cases hk : k = key
    · simp [value?, keys, hk]
    · have hk' : key ≠ k := fun h => hk h.symm
      simpa [value?, keys, hk, hk'] using ih

/-- A key has no value just if it is not among the keys. -/
theorem value?_eq_none_iff {entries : Entries α} {key : String} :
    entries.value? key = none ↔ key ∉ entries.keys := by
  rw [← value?_isSome_iff, Option.not_isSome_iff_eq_none]

/-- The key of a new entry comes last; a known key keeps its place. -/
theorem keys_put (entries : Entries α) (key : String) (value : α) :
    (entries.put key value).keys =
      if key ∈ entries.keys then entries.keys else entries.keys ++ [key] := by
  induction entries with
  | nil => simp [put, keys]
  | cons entry rest ih =>
    obtain ⟨k, v⟩ := entry
    by_cases hk : k = key
    · simp [put, keys, hk]
    · have hk' : key ≠ k := fun h => hk h.symm
      simp only [keys] at ih
      by_cases hm : key ∈ rest.map Prod.fst <;> simp_all [put, keys]

/-- Storing a value leaves different keys different. -/
theorem nodup_keys_put {entries : Entries α} (h : entries.keys.Nodup) (key : String) (value : α) :
    (entries.put key value).keys.Nodup := by
  rw [keys_put]
  split
  · exact h
  · next hkey =>
    refine List.nodup_append.2 ⟨h, by simp, fun k hk k' hk' => ?_⟩
    rintro rfl
    exact hkey (List.mem_singleton.1 hk' ▸ hk)

/-- A new entry comes last. -/
theorem put_of_notMem {entries : Entries α} {key : String} (h : key ∉ entries.keys) (value : α) :
    entries.put key value = entries ++ [(key, value)] := by
  induction entries with
  | nil => rfl
  | cons entry rest ih =>
    obtain ⟨k, v⟩ := entry
    have hk : key ≠ k := fun hsame => h (hsame ▸ List.mem_cons_self)
    have hrest : key ∉ keys rest := fun hmem => h (List.mem_cons_of_mem _ hmem)
    rw [put, if_neg hk.symm, ih hrest, List.cons_append]

/-- Every entry is the new one or was there. -/
theorem mem_of_mem_put {entries : Entries α} {key : String} {value : α} {entry : String × α}
    (h : entry ∈ entries.put key value) : entry = (key, value) ∨ entry ∈ entries := by
  induction entries with
  | nil => exact .inl (List.mem_singleton.1 h)
  | cons first rest ih =>
    obtain ⟨k, v⟩ := first
    rw [put] at h
    split at h
    · rcases List.mem_cons.1 h with hnew | hrest
      · exact .inl hnew
      · exact .inr (List.mem_cons_of_mem _ hrest)
    · rcases List.mem_cons.1 h with hfirst | hrest
      · exact .inr (hfirst ▸ List.mem_cons_self)
      · exact (ih hrest).imp id (List.mem_cons_of_mem _)

/-- Entries with keys that are new come last. -/
theorem overlay_of_nodup {entries others : Entries α}
    (h : (keys (entries ++ others)).Nodup) : entries.overlay others = entries ++ others := by
  induction others generalizing entries with
  | nil => simp [overlay]
  | cons entry rest ih =>
    obtain ⟨k, v⟩ := entry
    have hk : k ∉ entries.keys := by
      intro hmem
      rw [keys, List.map_append] at h
      exact (List.nodup_append.1 h).2.2 k hmem k (by simp) rfl
    have hrest : (keys ((entries ++ [(k, v)]) ++ rest)).Nodup := by simpa using h
    have hput : entries.overlay ((k, v) :: rest) = (entries.put k v).overlay rest := rfl
    rw [hput, put_of_notMem hk, ih hrest]
    simp

/-- Pairs with different keys are stored as they are. -/
theorem ofPairs_eq_self {pairs : List (String × α)} (h : (keys pairs).Nodup) :
    ofPairs pairs = pairs :=
  overlay_of_nodup (by simpa using h)

/-- Every entry is what was there or what was stored. -/
theorem mem_of_mem_overlay {entries others : Entries α} {entry : String × α}
    (h : entry ∈ entries.overlay others) : entry ∈ entries ∨ entry ∈ others := by
  induction others generalizing entries with
  | nil => exact .inl h
  | cons pair rest ih =>
    rcases ih h with hput | hrest
    · rcases mem_of_mem_put hput with rfl | hentry
      · exact .inr List.mem_cons_self
      · exact .inl hentry
    · exact .inr (List.mem_cons_of_mem _ hrest)

/-- Storing values in turn leaves different keys different. -/
theorem nodup_keys_overlay {entries : Entries α} (h : entries.keys.Nodup) (others : Entries α) :
    (entries.overlay others).keys.Nodup := by
  induction others generalizing entries with
  | nil => exact h
  | cons entry rest ih =>
    obtain ⟨k, v⟩ := entry
    exact ih (nodup_keys_put h k v)

/-- Values stored in turn make one entry for each key. -/
theorem nodup_keys_ofPairs (pairs : List (String × α)) : (ofPairs pairs).keys.Nodup := by
  have hnil : (keys ([] : Entries α)).Nodup := List.nodup_nil
  exact nodup_keys_overlay hnil pairs

/-- Hiding keys hides their values, and no others. -/
theorem value?_without (entries : Entries α) (hidden : List String) (key : String) :
    (entries.without hidden).value? key =
      if hidden.contains key then none else entries.value? key := by
  induction entries with
  | nil => simp [without, value?]
  | cons entry rest ih =>
    obtain ⟨k, v⟩ := entry
    simp only [without] at ih
    by_cases hk : k = key
    · by_cases hh : hidden.contains key = true <;> simp_all [without, value?]
    · by_cases hh : hidden.contains k = true <;> simp_all [without, value?]

/-- Of entries in sequence the first ones come first. -/
theorem value?_append (entries others : Entries α) (key : String) :
    value? (entries ++ others) key = (entries.value? key).or (others.value? key) := by
  induction entries with
  | nil => rfl
  | cons entry rest ih =>
    obtain ⟨k, v⟩ := entry
    by_cases hk : k = key <;> simp [value?, hk, ih]

/-- A value that is found stands in an entry. -/
theorem mem_of_value? {entries : Entries α} {key : String} {value : α}
    (h : entries.value? key = some value) : (key, value) ∈ entries := by
  induction entries with
  | nil => exact nomatch h
  | cons entry rest ih =>
    obtain ⟨k, v⟩ := entry
    unfold value? at h
    split at h
    · next hk =>
      cases h
      rw [hk]
      exact List.mem_cons_self
    · exact List.mem_cons_of_mem _ (ih h)

/-- Under a key is the value of its entry, where keys are different. -/
theorem value?_eq_some_iff {entries : Entries α} (h : entries.keys.Nodup) {key : String} {value : α} :
    entries.value? key = some value ↔ (key, value) ∈ entries := by
  refine ⟨mem_of_value?, fun hmem => ?_⟩
  induction entries with
  | nil => exact nomatch hmem
  | cons entry rest ih =>
    obtain ⟨k, v⟩ := entry
    obtain ⟨hk, hrest⟩ := List.nodup_cons.1 h
    rcases List.mem_cons.1 hmem with hfirst | hlater
    · obtain ⟨rfl, rfl⟩ := Prod.mk.inj hfirst
      simp [value?]
    · have hne : k ≠ key := by
        rintro rfl
        exact hk (List.mem_map.2 ⟨_, hlater, rfl⟩)
      rw [value?, if_neg hne]
      exact ih hrest hlater

/-- What is stored in turn comes before what was there. -/
theorem value?_overlay (entries others : Entries α) (h : others.keys.Nodup) (key : String) :
    (entries.overlay others).value? key = (others.value? key).or (entries.value? key) := by
  induction others generalizing entries with
  | nil => rfl
  | cons entry rest ih =>
    obtain ⟨k, v⟩ := entry
    obtain ⟨hk, hrest⟩ := List.nodup_cons.1 h
    have habsent : value? rest k = none := value?_eq_none_iff.2 hk
    rw [overlay, List.foldl_cons, ← overlay, ih _ hrest, value?_put]
    by_cases hkey : k = key
    · rw [← hkey]
      simp [habsent, value?]
    · simp [value?, hkey]

/-- A key that is neither stored in turn nor there stays away. -/
theorem value?_overlay_eq_none {entries others : Entries α} {key : String}
    (h : entries.value? key = none) (hothers : others.value? key = none) :
    (entries.overlay others).value? key = none := by
  induction others generalizing entries with
  | nil => exact h
  | cons entry rest ih =>
    obtain ⟨k, v⟩ := entry
    by_cases hk : k = key
    · simp [value?, hk] at hothers
    · refine ih ?_ (by simpa [value?, hk] using hothers)
      rw [value?_put, if_neg hk]
      exact h

end Entries

end TaskShell
