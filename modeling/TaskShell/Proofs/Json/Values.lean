import TaskShell.Proofs.Json.RoundTrip

/-!
# JSON values

JSON has the values whose maps have different texts for keys. These are read as they were written.
They cannot be written if they nest too deep or have whole numbers that are too long, and for no other
reason. Whatever can be written is read as such a value, and this can be written again.

## Main definitions

* `Value.IsJson` — a value that JSON has.
* `Value.depth`, `Value.integers`, `Value.Fits` — how deep a value nests, its whole numbers, and that
  neither is too much.
* `Fields.reread` — what is read of fields that have been written.

## Main results

* `Value.IsJson.reread_eq` — a value that JSON has is read as it was written.
* `Value.IsJson.fault?_eq_none_iff`, `Value.IsJson.fault?_ne_badKey` — what keeps it from being
  written.
* `Value.reread_spec` — what is read is a value that JSON has, and can be written again.
-/

set_option autoImplicit false

namespace TaskShell

/-! ## What keeps a value from being written -/

namespace Json

variable {levels : Nat}

/-- Nothing keeps items from being written if nothing keeps any of them. -/
lemma itemsFault?_eq_none_iff {items : List Value} :
    itemsFault? levels items = none ↔ ∀ item ∈ items, fault? levels item = none := by
  induction items with
  | nil => simp [itemsFault?]
  | cons item items ih => simp [itemsFault?, ih]

/-- Nothing keeps pairs from being written if nothing keeps a key or a value. -/
lemma pairsFault?_eq_none_iff {pairs : List (Value × Value)} : pairsFault? levels pairs = none ↔
    ∀ pair ∈ pairs, keyFault? pair.1 = none ∧ fault? levels pair.2 = none := by
  induction pairs with
  | nil => simp [pairsFault?]
  | cons pair pairs ih =>
    obtain ⟨key, value⟩ := pair
    simp [pairsFault?, ih, and_assoc]

/-- What keeps items from being written keeps one of them. -/
lemma exists_of_itemsFault? {items : List Value} {f : Fault} (h : itemsFault? levels items = some f) :
    ∃ item ∈ items, fault? levels item = some f := by
  induction items with
  | nil => exact nomatch h
  | cons item items ih =>
    rcases Option.or_eq_some_iff.1 h with hitem | ⟨-, hitems⟩
    · exact ⟨item, List.mem_cons_self, hitem⟩
    · obtain ⟨other, hother, hfault⟩ := ih hitems
      exact ⟨other, List.mem_cons_of_mem _ hother, hfault⟩

/-- What keeps pairs from being written keeps a key or a value. -/
lemma exists_of_pairsFault? {pairs : List (Value × Value)} {f : Fault}
    (h : pairsFault? levels pairs = some f) :
    ∃ pair ∈ pairs, keyFault? pair.1 = some f ∨ fault? levels pair.2 = some f := by
  induction pairs with
  | nil => exact nomatch h
  | cons pair pairs ih =>
    obtain ⟨key, value⟩ := pair
    rcases Option.or_eq_some_iff.1 h with hkey | ⟨-, hrest⟩
    · exact ⟨_, List.mem_cons_self, .inl hkey⟩
    · rcases Option.or_eq_some_iff.1 hrest with hvalue | ⟨-, hpairs⟩
      · exact ⟨_, List.mem_cons_self, .inr hvalue⟩
      · obtain ⟨other, hother, hfault⟩ := ih hpairs
        exact ⟨other, List.mem_cons_of_mem _ hother, hfault⟩

/-- Nothing keeps fields from being written if there is a level for them and nothing keeps any of
their values. -/
lemma fault?_ofFields {fields : Fields} : fault? (levels + 1) (.ofFields fields) = none ↔
    ∀ entry ∈ fields, fault? levels entry.2 = none := by
  rw [Value.ofFields, fault?, pairsFault?_eq_none_iff, List.forall_mem_map]
  exact forall₂_congr fun entry _ => and_iff_right rfl

end Json

namespace Value

mutual

/-- How many levels deep a value nests: none if it is neither a list nor a map. -/
def depth : Value → Nat
  | .list items => itemsDepth items + 1
  | .map entries => pairsDepth entries + 1
  | _ => 0

/-- How many levels deep items nest. -/
def itemsDepth : List Value → Nat
  | [] => 0
  | item :: items => max (depth item) (itemsDepth items)

/-- How many levels deep the values of pairs nest. -/
def pairsDepth : List (Value × Value) → Nat
  | [] => 0
  | (_, value) :: pairs => max (depth value) (pairsDepth pairs)

end

mutual

/-- The whole numbers in a value. -/
def integers : Value → List Int
  | .int n => [n]
  | .list items => itemsIntegers items
  | .map entries => pairsIntegers entries
  | _ => []

/-- The whole numbers in items. -/
def itemsIntegers : List Value → List Int
  | [] => []
  | item :: items => integers item ++ itemsIntegers items

/-- The whole numbers in the values of pairs. -/
def pairsIntegers : List (Value × Value) → List Int
  | [] => []
  | (_, value) :: pairs => integers value ++ pairsIntegers pairs

end

/-- A value that JSON has: the keys of its maps are different texts. -/
inductive IsJson : Value → Prop
  | null : IsJson .null
  | bool (value : Bool) : IsJson (.bool value)
  | int (n : Int) : IsJson (.int n)
  | float (x : Binary64) : IsJson (.float x)
  | text (s : String) : IsJson (.text s)
  | list {items : List Value} (all : ∀ item ∈ items, IsJson item) : IsJson (.list items)
  | map {fields : Fields} (nodup : fields.keys.Nodup) (all : ∀ entry ∈ fields, IsJson entry.2) :
      IsJson (.ofFields fields)

/-- A value nests no deeper than some levels, and its whole numbers are not too long. -/
structure Fits (levels : Nat) (v : Value) : Prop where
  depth_le : v.depth ≤ levels
  short : ∀ n ∈ v.integers, n.natAbs < Number.tenTo Number.digitLimit

end Value

/-- Fields that have been written and read again: a repeated key keeps its first place and takes its
last value. -/
def Fields.reread (fields : Fields) : Fields :=
  Entries.ofPairs (fields.map fun (key, value) => (key, value.reread))

namespace Value

variable {v : Value} {fields : Fields} {levels : Nat}

/-- A map with text keys that is read again. -/
lemma reread_ofFields (fields : Fields) : (ofFields fields).reread = ofFields fields.reread := by
  have hpairs : rereadPairs (fields.map fun (key, value) => (.text key, value)) =
      fields.map fun (key, value) => (key, value.reread) := by
    induction fields with
    | nil => rfl
    | cons entry fields ih =>
      obtain ⟨key, value⟩ := entry
      rw [List.map_cons, rereadPairs, ih]
      rfl
  rw [ofFields, reread, hpairs]
  rfl

/-- Items that are read again are each read again. -/
lemma rereadItems_eq_map (items : List Value) : rereadItems items = items.map reread := by
  induction items with
  | nil => rfl
  | cons item items ih => rw [rereadItems, ih, List.map_cons]

/-- A value that JSON has is read again as it is. -/
theorem IsJson.reread_eq (h : v.IsJson) : v.reread = v := by
  induction h with
  | null | bool | int | float | text => rfl
  | @list items _ ih =>
    rw [reread, rereadItems_eq_map]
    conv_rhs => rw [← List.map_id items]
    exact congrArg Value.list (List.map_congr_left ih)
  | @map fields nodup _ ih =>
    have hfields : fields.map (fun (key, value) => (key, value.reread)) = fields := by
      conv_rhs => rw [← List.map_id fields]
      exact List.map_congr_left fun entry hentry => Prod.ext rfl (ih entry hentry)
    rw [reread_ofFields, Fields.reread, hfields, Entries.ofPairs_eq_self nodup]

/-- What fits some levels fits more. -/
lemma Fits.mono {more : Nat} (h : v.Fits levels) (hmore : levels ≤ more) : v.Fits more :=
  ⟨h.depth_le.trans hmore, h.short⟩

/-- A list fits some levels if each item fits one less. -/
lemma fits_list_iff {items : List Value} :
    (list items).Fits (levels + 1) ↔ ∀ item ∈ items, item.Fits levels := by
  have hintegers : itemsIntegers items = items.flatMap integers := by
    induction items with
    | nil => rfl
    | cons item items ih => rw [itemsIntegers, ih, List.flatMap_cons]
  have hdepth : itemsDepth items ≤ levels ↔ ∀ item ∈ items, item.depth ≤ levels := by
    clear hintegers
    induction items with
    | nil => simp [itemsDepth]
    | cons item items ih => simp [itemsDepth, ih]
  constructor
  · intro h item hitem
    refine ⟨hdepth.1 (Nat.le_of_succ_le_succ h.depth_le) item hitem, fun n hn => h.short n ?_⟩
    rw [integers, hintegers]
    exact List.mem_flatMap.2 ⟨item, hitem, hn⟩
  · intro h
    refine ⟨Nat.succ_le_succ (hdepth.2 fun item hitem => (h item hitem).depth_le), fun n hn => ?_⟩
    rw [integers, hintegers] at hn
    obtain ⟨item, hitem, hn⟩ := List.mem_flatMap.1 hn
    exact (h item hitem).short n hn

/-- Fields fit some levels if the value of each fits one less. -/
lemma fits_ofFields_iff :
    (ofFields fields).Fits (levels + 1) ↔ ∀ entry ∈ fields, entry.2.Fits levels := by
  have hvalues : (ofFields fields).depth = (list (fields.map Prod.snd)).depth ∧
      (ofFields fields).integers = (list (fields.map Prod.snd)).integers := by
    rw [ofFields, depth, depth, integers, integers, Nat.succ_inj]
    induction fields with
    | nil => exact ⟨rfl, rfl⟩
    | cons entry fields ih =>
      exact ⟨congrArg (max entry.2.depth) ih.1, congrArg (entry.2.integers ++ ·) ih.2⟩
  obtain ⟨hdepth, hintegers⟩ := hvalues
  have hlist : (ofFields fields).Fits (levels + 1) ↔
      (list (fields.map Prod.snd)).Fits (levels + 1) := by
    constructor
    · exact fun h => ⟨hdepth ▸ h.depth_le, hintegers ▸ h.short⟩
    · exact fun h => ⟨hdepth ▸ h.depth_le, hintegers ▸ h.short⟩
  rw [hlist, fits_list_iff, List.forall_mem_map]

/-- **What keeps a value that JSON has from being written** is how deep it nests or how long its
whole numbers are, and nothing else. -/
theorem IsJson.fault?_eq_none_iff (h : v.IsJson) (levels : Nat) :
    Json.fault? levels v = none ↔ v.Fits levels := by
  induction h generalizing levels with
  | null | bool | float | text => exact iff_of_true rfl ⟨Nat.zero_le _, List.forall_mem_nil _⟩
  | int n =>
    rw [Json.fault?, Json.intFault?_eq_none_iff]
    exact ⟨fun hn => ⟨Nat.zero_le _, List.forall_mem_singleton.2 hn⟩,
      fun hfits => hfits.short n (List.mem_singleton_self n)⟩
  | list all ih =>
    cases levels with
    | zero =>
      rw [Json.fault?]
      refine iff_of_false (Option.some_ne_none _) fun hfits => ?_
      exact Nat.not_succ_le_zero _ hfits.depth_le
    | succ levels =>
      rw [Json.fault?, Json.itemsFault?_eq_none_iff, fits_list_iff]
      exact forall₂_congr fun item hitem => ih item hitem levels
  | map nodup all ih =>
    cases levels with
    | zero =>
      rw [ofFields, Json.fault?]
      refine iff_of_false (Option.some_ne_none _) fun hfits => ?_
      exact Nat.not_succ_le_zero _ hfits.depth_le
    | succ levels =>
      rw [Json.fault?_ofFields, fits_ofFields_iff]
      exact forall₂_congr fun entry hentry => ih entry hentry levels

/-- No key of a value that JSON has keeps it from being written. -/
theorem IsJson.fault?_ne_badKey (h : v.IsJson) (levels : Nat) (typeName : String) :
    Json.fault? levels v ≠ some (.badKey typeName) := by
  intro hfault
  induction h generalizing levels with
  | null | bool | float | text => exact nomatch hfault
  | int n =>
    rw [Json.fault?, Json.intFault?] at hfault
    split at hfault <;> exact nomatch hfault
  | list all ih =>
    cases levels with
    | zero => exact nomatch hfault
    | succ levels =>
      obtain ⟨item, hitem, hfault⟩ := Json.exists_of_itemsFault? hfault
      exact ih item hitem levels hfault
  | map nodup all ih =>
    cases levels with
    | zero => exact nomatch hfault
    | succ levels =>
      obtain ⟨pair, hpair, hfault⟩ := Json.exists_of_pairsFault? hfault
      obtain ⟨entry, hentry, rfl⟩ := List.mem_map.1 hpair
      exact ih entry hentry levels (hfault.resolve_left nofun)

/-- Fields are what their map is made of. -/
lemma ofFields_injective : Function.Injective ofFields := by
  refine fun fields others h => List.map_injective_iff.2 (fun entry other h => ?_) (Value.map.inj h)
  obtain ⟨hkey, hvalue⟩ := Prod.mk.inj h
  exact Prod.ext (Value.text.inj hkey) hvalue

/-- Fields are a value that JSON has if their keys are different and their values are such. -/
lemma isJson_ofFields_iff :
    (ofFields fields).IsJson ↔ fields.keys.Nodup ∧ ∀ entry ∈ fields, entry.2.IsJson := by
  constructor
  · generalize hv : ofFields fields = v
    intro h
    cases h with
    | @map others nodup all =>
      obtain rfl := ofFields_injective hv
      exact ⟨nodup, all⟩
    | _ => exact nomatch hv
  · exact fun h => .map h.1 h.2

/-- Fields that JSON has are read again as they are. -/
lemma reread_fields_eq (h : (ofFields fields).IsJson) : fields.reread = fields :=
  ofFields_injective ((reread_ofFields fields).symm.trans h.reread_eq)

/-! ## What is read again -/

mutual

/-- What can be written is read again as a value that JSON has, and it can be written again. -/
theorem reread_spec (v : Value) {levels : Nat} (h : Json.fault? levels v = none) :
    v.reread.IsJson ∧ Json.fault? levels v.reread = none := by
  cases v with
  | null => exact ⟨.null, h⟩
  | bool value => exact ⟨.bool value, h⟩
  | int n => exact ⟨.int n, h⟩
  | float x => exact ⟨.float x, h⟩
  | text s => exact ⟨.text s, h⟩
  | list items =>
    cases levels with
    | zero => exact nomatch h
    | succ levels =>
      have hitems := rereadItems_spec items h
      exact ⟨.list fun item hitem => (hitems item hitem).1,
        Json.itemsFault?_eq_none_iff.2 fun item hitem => (hitems item hitem).2⟩
  | map entries =>
    cases levels with
    | zero => exact nomatch h
    | succ levels =>
      have hpairs := rereadPairs_spec entries h
      have hmem : ∀ entry ∈ Entries.ofPairs (rereadPairs entries), entry ∈ rereadPairs entries :=
        fun entry hentry => (Entries.mem_of_mem_overlay hentry).resolve_left List.not_mem_nil
      have hentries := fun entry hentry => hpairs entry (hmem entry hentry)
      exact ⟨.map (Entries.nodup_keys_ofPairs _) fun entry hentry => (hentries entry hentry).1,
        Json.fault?_ofFields.2 fun entry hentry => (hentries entry hentry).2⟩

theorem rereadItems_spec (items : List Value) {levels : Nat}
    (h : Json.itemsFault? levels items = none) :
    ∀ item ∈ rereadItems items, item.IsJson ∧ Json.fault? levels item = none := by
  cases items with
  | nil => exact List.forall_mem_nil _
  | cons item items =>
    obtain ⟨hitem, hitems⟩ := Option.or_eq_none_iff.1 h
    exact List.forall_mem_cons.2 ⟨reread_spec item hitem, rereadItems_spec items hitems⟩

theorem rereadPairs_spec (pairs : List (Value × Value)) {levels : Nat}
    (h : Json.pairsFault? levels pairs = none) :
    ∀ entry ∈ rereadPairs pairs, entry.2.IsJson ∧ Json.fault? levels entry.2 = none := by
  cases pairs with
  | nil => exact List.forall_mem_nil _
  | cons pair pairs =>
    obtain ⟨key, value⟩ := pair
    obtain ⟨hvalue, hpairs⟩ := Option.or_eq_none_iff.1 (Option.or_eq_none_iff.1 h).2
    exact List.forall_mem_cons.2 ⟨reread_spec value hvalue, rereadPairs_spec pairs hpairs⟩

end

end Value

end TaskShell
