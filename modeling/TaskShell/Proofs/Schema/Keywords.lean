import Mathlib.Tactic.Lemma
import TaskShell.Proofs.Number.Rational
import TaskShell.Proofs.Schema.Conformance
import TaskShell.Schema.Document

/-!
# The check obeys the JSON Schema

What the keywords of a JSON Schema demand of a value is stated here on its own, for any document
that uses the keywords of the schemas of records. The check finds nothing wrong with fields just if
the document of their schema accepts them.

## Main definitions

* `Value.member?` — the value under a text key.
* `Schema.Accepts` — a document accepts a value, keyword by keyword.

## Main results

* `Schema.fieldViolations_eq_nil_iff` — the rules for one field.
* `Schema.fieldsViolations_eq_nil_iff_accepts` — the rules for a record, or a part of one.
-/

set_option autoImplicit false

namespace TaskShell

namespace Value

/-- The value under a text key of a map. -/
def member? : Value → String → Option Value
  | .map entries, name =>
    entries.findSome? fun
      | (.text key, value) => if key = name then some value else none
      | _ => none
  | _, _ => none

/-- The members of a map with text keys are its fields. -/
@[simp] lemma member?_ofFields (fields : Fields) (name : String) :
    (ofFields fields).member? name = fields.value? name := by
  induction fields with
  | nil => rfl
  | cons entry fields ih =>
    obtain ⟨key, value⟩ := entry
    simp only [ofFields, List.map_cons, member?, List.findSome?_cons, Entries.value?] at ih ⊢
    by_cases hkey : key = name <;> simp [hkey, ih]

/-- The types that documents name. -/
def HasType (value : Value) (name : String) : Prop :=
  (name = "string" ∧ ∃ s, value = .text s) ∨
    (name = "array" ∧ ∃ items, value = .list items) ∨
    (name = "number" ∧ ((∃ n, value = .int n) ∨ ∃ x, value = .float x)) ∨
    (name = "object" ∧ ∃ entries, value = .map entries)

/-- A number below a bound. -/
def IsBelow (value : Value) (bound : Int) : Prop :=
  (∃ n, value = .int n ∧ n < bound) ∨ value = .float (.infinite true) ∨
    ∃ x q, value = .float x ∧ x.rational? = some q ∧ q < bound

/-- A number above a bound. -/
def IsAbove (value : Value) (bound : Int) : Prop :=
  (∃ n, value = .int n ∧ bound < n) ∨ value = .float (.infinite false) ∨
    ∃ x q, value = .float x ∧ x.rational? = some q ∧ bound < q

end Value

namespace Schema

open Value (member? HasType IsBelow IsAbove)

/-- A document accepts a value: the value obeys every keyword that the document has. -/
inductive Accepts : (document value : Value) → Prop
  | intro {document value : Value}
    (type : ∀ name, document.member? "type" = some (.text name) → value.HasType name)
    (enum : ∀ words, document.member? "enum" = some (.list words) → value ∈ words)
    (minLength : ∀ n s, document.member? "minLength" = some (.int n) → value = .text s →
      n ≤ s.length)
    (minimum : ∀ bound, document.member? "minimum" = some (.int bound) → ¬ value.IsBelow bound)
    (maximum : ∀ bound, document.member? "maximum" = some (.int bound) → ¬ value.IsAbove bound)
    (items : ∀ rule items, document.member? "items" = some rule → value = .list items →
      ∀ item ∈ items, Accepts rule item)
    (properties : ∀ rules, document.member? "properties" = some rules →
      ∀ name rule v, rules.member? name = some rule → value.member? name = some v →
        Accepts rule v)
    (additional : document.member? "additionalProperties" = some (.bool false) →
      ∀ name, (value.member? name).isSome →
        ∃ rules, document.member? "properties" = some rules ∧ (rules.member? name).isSome)
    (required : ∀ names, document.member? "required" = some (.list names) →
      ∀ name, .text name ∈ names → (value.member? name).isSome) :
    Accepts document value

/-- What a document of plain keywords demands. -/
lemma accepts_iff {document : Fields} {value : Value} : Accepts (.ofFields document) value ↔
    (∀ name, document.value? "type" = some (.text name) → value.HasType name) ∧
    (∀ words, document.value? "enum" = some (.list words) → value ∈ words) ∧
    (∀ n s, document.value? "minLength" = some (.int n) → value = .text s → n ≤ s.length) ∧
    (∀ bound, document.value? "minimum" = some (.int bound) → ¬ value.IsBelow bound) ∧
    (∀ bound, document.value? "maximum" = some (.int bound) → ¬ value.IsAbove bound) ∧
    (∀ rule items, document.value? "items" = some rule → value = .list items →
      ∀ item ∈ items, Accepts rule item) ∧
    (∀ rules, document.value? "properties" = some rules →
      ∀ name rule v, rules.member? name = some rule → value.member? name = some v →
        Accepts rule v) ∧
    (document.value? "additionalProperties" = some (.bool false) →
      ∀ name, (value.member? name).isSome →
        ∃ rules, document.value? "properties" = some rules ∧ (rules.member? name).isSome) ∧
    (∀ names, document.value? "required" = some (.list names) →
      ∀ name, .text name ∈ names → (value.member? name).isSome) := by
  simp only [← Value.member?_ofFields]
  constructor
  · rintro ⟨type, enum, minLength, minimum, maximum, items, properties, additional, required⟩
    exact ⟨type, enum, minLength, minimum, maximum, items, properties, additional, required⟩
  · rintro ⟨type, enum, minLength, minimum, maximum, items, properties, additional, required⟩
    exact ⟨type, enum, minLength, minimum, maximum, items, properties, additional, required⟩

/-! ## One field -/

/-- The document for texts accepts texts. -/
lemma accepts_string_iff {value : Value} :
    Accepts (.ofFields [("type", .text "string")]) value ↔ ∃ s, value = .text s := by
  simp [accepts_iff, Entries.value?, HasType]

/-- The items of a list have no violation just if they are texts. -/
lemma itemViolations_eq_nil_iff {name : String} {items : List Value} :
    itemViolations name items = [] ↔ ∀ item ∈ items, ∃ s, item = .text s := by
  unfold itemViolations
  rw [List.map_eq_nil_iff, List.filter_eq_nil_iff]
  constructor
  · intro h item hitem
    obtain ⟨place, hplace, rfl⟩ := List.getElem_of_mem hitem
    have hnot := h (items[place], place) (by simp [List.mem_zipIdx_iff_getElem?])
    cases hvalue : items[place] with
    | text s => exact ⟨s, rfl⟩
    | _ => simp [hvalue] at hnot
  · rintro h ⟨item, place⟩ hitem
    obtain ⟨s, rfl⟩ := h item (List.fst_mem_of_mem_zipIdx hitem)
    simp

/-- **A value of a field has no violation just if the document of the field accepts it.** -/
theorem fieldViolations_eq_nil_iff {f : Field} {value : Value} :
    fieldViolations f value = [] ↔ Accepts (fieldDocument f) value := by
  obtain ⟨name, label, kind, aliases, guided⟩ := f
  cases kind with
  | text =>
    have hlength (s : String) : s ≠ "" ↔ (1 : Int) ≤ s.length := by
      rw [ne_eq, ← String.length_eq_zero_iff]
      omega
    dsimp only [fieldDocument, object]
    rw [accepts_iff]
    cases value <;> simp [fieldViolations, Entries.value?, HasType, ← hlength]
  | choice words =>
    dsimp only [fieldDocument, object]
    rw [accepts_iff]
    cases value <;> simp [fieldViolations, Entries.value?, HasType]
  | list =>
    dsimp only [fieldDocument, object]
    rw [accepts_iff]
    cases value <;>
      simp [fieldViolations, Entries.value?, HasType, itemViolations_eq_nil_iff,
        accepts_string_iff]
  | number =>
    dsimp only [fieldDocument, object]
    rw [accepts_iff]
    by_cases hname : name = "progress" <;> cases value <;>
      simp [fieldViolations, rangeFaults, Entries.value?, HasType, IsBelow, IsAbove, hname,
        Binary64.lessThan_iff, Binary64.greaterThan_iff]

/-! ## Records -/

variable {s : Schema} {fields : Fields} {isPartial : Bool}

/-- Among the documents of fields with different names, each stands under the name of its field. -/
lemma value?_documents {fs : List Field} (hnames : (fs.map Field.name).Nodup) {name : String}
    {rule : Value} :
    Entries.value? (fs.map fun f => (f.name, fieldDocument f)) name = some rule ↔
      ∃ f ∈ fs, f.name = name ∧ fieldDocument f = rule := by
  induction fs with
  | nil => simp [Entries.value?]
  | cons f fs ih =>
    obtain ⟨hf, hfs⟩ := List.nodup_cons.1 hnames
    rw [List.map_cons, Entries.value?]
    split
    · next hname =>
      have hother : ∀ g ∈ fs, g.name ≠ name :=
        fun g hg heq => hf (hname ▸ heq ▸ List.mem_map_of_mem hg)
      constructor
      · intro heq
        exact ⟨f, List.mem_cons_self, hname, Option.some.inj heq⟩
      · rintro ⟨g, hg, hgname, rfl⟩
        rcases List.mem_cons.1 hg with rfl | hg
        · rfl
        · exact absurd hgname (hother g hg)
    · next hname => simp [ih hfs, hname]

/-- What the documents of fields have under their names. -/
lemma value?_documents_isSome {fs : List Field} {name : String} :
    (Entries.value? (fs.map fun f => (f.name, fieldDocument f)) name).isSome ↔
      ∃ f ∈ fs, f.name = name := by
  rw [Entries.value?_isSome_iff, Entries.keys, List.map_map, List.mem_map]
  rfl

/-- **The check finds nothing wrong with fields just if the document of their schema accepts
them.** -/
theorem fieldsViolations_eq_nil_iff_accepts {kind : Entity} :
    (ofEntity kind).fieldsViolations isPartial fields = [] ↔
      Accepts ((ofEntity kind).document isPartial) (.ofFields fields) := by
  have hmap : ∃ entries, Value.ofFields fields = .map entries := ⟨_, rfl⟩
  have hfieldwise :
      (∀ f ∈ (ofEntity kind).fields, ∀ value, fields.value? f.name = some value →
        fieldViolations f value = []) ↔
      ∀ name rule value,
        Entries.value? ((ofEntity kind).fields.map fun f => (f.name, fieldDocument f)) name =
          some rule → fields.value? name = some value → Accepts rule value := by
    simp only [value?_documents (nodup_names kind), fieldViolations_eq_nil_iff]
    constructor
    · rintro h _ _ value ⟨f, hf, rfl, rfl⟩ hvalue
      exact h f hf value hvalue
    · intro h f hf value hvalue
      exact h f.name (fieldDocument f) value ⟨f, hf, rfl, rfl⟩ hvalue
  rw [fieldsViolations_eq_nil_iff, hfieldwise, document, object, accepts_iff]
  cases isPartial <;>
    simp [Entries.value?, HasType, hmap, object, value?_documents_isSome, Complete]

end Schema

end TaskShell
