import Mathlib.Data.List.Nodup
import Mathlib.Data.String.Basic
import Mathlib.Tactic.Lemma
import TaskShell.Command.Basic
import TaskShell.Schema.Basic

/-!
# Fields are read from flags in any order

The values of the fields are gathered from the flags in one pass, in which a canonical name wins over
an alias, whichever comes first, and empty values are passed over. No key names two fields or both
names a field and steers a command, and no field has two aliases. So what is gathered does not
depend on the order of the flags, and each flag goes one way only: it steers the command, gives a
value to a field, or is reported as unknown.

## Main definitions

* `Field.valueAmong` — the value that flags give to a field.
* `Schema.IsClear` — no key means two things.
* `Schema.FlagRole` — what a flag may be for.
* `Schema.Gathers` — what is made of flags.

## Main results

* `Entries.perm_of_value?` — entries with the same values differ in their order at most.
* `Schema.isClear_ofEntity` — in the schema of each kind no key means two things.
* `Schema.IsClear.value?_collectFlag`, `Schema.IsClear.value?_collect` — what one flag does to the
  value of a field, and what all of them come to.
* `Schema.gathers_ofEntity` — the order of the flags does not matter, and no flag is lost.
-/

set_option autoImplicit false

namespace TaskShell

/-! ## Entries in another order -/

namespace Entries

variable {α : Type} {entries others : Entries α} {key : String} {value : α}

/-- Entries in another order have the same values. -/
lemma value?_perm (hperm : others.Perm entries) (h : entries.keys.Nodup) (key : String) :
    others.value? key = entries.value? key := by
  have hothers : others.keys.Nodup := (hperm.map Prod.fst).nodup_iff.2 h
  refine Option.ext fun value => ?_
  rw [value?_eq_some_iff h, value?_eq_some_iff hothers, hperm.mem_iff]

/-- Entries with the same values differ in their order at most. -/
lemma perm_of_value? (hothers : others.keys.Nodup) (h : entries.keys.Nodup)
    (hsame : ∀ key, others.value? key = entries.value? key) : others.Perm entries := by
  refine (List.perm_ext_iff_of_nodup hothers.of_map h.of_map).2 fun ⟨key, value⟩ => ?_
  rw [← value?_eq_some_iff h, ← value?_eq_some_iff hothers, hsame]

end Entries

/-! ## What names a field -/

namespace Field

variable {f : Field} {key : String} {flags : Entries String}

/-- The keys that name a field: its own name, and its aliases. -/
def keys (f : Field) : List String :=
  f.name :: f.aliases

/-- The value that flags give to a field: what is under its name or else under an alias, where empty
values count for nothing. -/
def valueAmong (f : Field) (flags : Entries String) : Option String :=
  f.keys.findSome? fun key => Command.nonEmpty? (flags.value? key)

/-- A field answers to the keys that name it. -/
lemma answers_iff : f.answers key = true ↔ key ∈ f.keys := by
  simp [answers, keys]

/-- Flags give to a field without an alias what is under its name. -/
lemma valueAmong_of_aliases_eq_nil (h : f.aliases = []) (flags : Entries String) :
    f.valueAmong flags = Command.nonEmpty? (flags.value? f.name) := by
  simp [valueAmong, keys, h]

end Field

namespace Schema

variable {s : Schema} {f g : Field} {key : String} {values flags flags' : Entries String}

/-- No key means two things, and no field has two aliases. -/
structure IsClear (s : Schema) : Prop where
  one : ∀ f ∈ s.fields, ∀ g ∈ s.fields, ∀ key ∈ f.keys, key ∈ g.keys → f = g
  aliases : ∀ f ∈ s.fields, f.aliases.length ≤ 1 ∧ f.name ∉ f.aliases
  control : ∀ f ∈ s.fields, ∀ key ∈ f.keys, key ∉ controlFlags

/-- In the schema of each kind no key means two things. -/
lemma isClear_ofEntity (kind : Entity) : (ofEntity kind).IsClear := by
  constructor <;> cases kind <;> decide

/-- The field that a key names is one of the schema, and answers to the key. -/
lemma field?_eq_some (h : s.field? key = some f) : f ∈ s.fields ∧ f.answers key = true := by
  unfold field? at h
  have hanswers := List.find?_some h
  exact ⟨List.mem_of_find?_eq_some h, hanswers⟩

/-- A field has no alias, or one that is not its name. -/
lemma IsClear.aliases_cases (h : s.IsClear) (hf : f ∈ s.fields) :
    f.aliases = [] ∨ ∃ other, f.aliases = [other] ∧ other ≠ f.name := by
  obtain ⟨hlength, hname⟩ := h.aliases f hf
  match haliases : f.aliases, hlength with
  | [], _ => exact .inl rfl
  | [other], _ =>
    refine .inr ⟨other, rfl, ?_⟩
    rintro rfl
    exact hname (haliases ▸ List.mem_singleton_self _)

/-- A key names no field just if no field answers to it. -/
lemma field?_eq_none_iff : s.field? key = none ↔ ∀ f ∈ s.fields, key ∉ f.keys := by
  simp only [field?, List.find?_eq_none, Field.answers_iff]

/-- A key names the field that answers to it. -/
lemma IsClear.field?_eq_some_iff (h : s.IsClear) :
    s.field? key = some f ↔ f ∈ s.fields ∧ key ∈ f.keys := by
  constructor
  · intro hfield
    exact (field?_eq_some hfield).imp_right Field.answers_iff.1
  · rintro ⟨hf, hkey⟩
    cases hg : s.field? key with
    | none => exact absurd hkey (field?_eq_none_iff.1 hg f hf)
    | some g =>
      obtain ⟨hmem, hanswers⟩ := field?_eq_some hg
      rw [h.one f hf g hmem key hkey (Field.answers_iff.1 hanswers)]

/-! ## One flag -/

/-- A flag that a field does not answer to leaves its value as it is. -/
lemma IsClear.value?_collectFlag_of_notMem (h : s.IsClear) (hf : f ∈ s.fields)
    (hkey : key ∉ f.keys) (raw : String) :
    (s.collectFlag values (key, raw)).value? f.name = values.value? f.name := by
  unfold collectFlag
  dsimp only
  split
  · rfl
  · next g hfield =>
    obtain ⟨hg, hkeyg⟩ := h.field?_eq_some_iff.1 hfield
    have hother : g.name ≠ f.name := by
      intro hsame
      obtain rfl := h.one f hf g hg f.name List.mem_cons_self (hsame ▸ List.mem_cons_self)
      exact hkey hkeyg
    split_ifs
    · rfl
    · rfl
    · rw [Entries.value?_put, if_neg hother]

/-- **One flag.** Under its name a flag gives a field its value, unless it is empty; under an alias it
does so only where there is none yet. -/
theorem IsClear.value?_collectFlag (h : s.IsClear) (hf : f ∈ s.fields) (key raw : String) :
    (s.collectFlag values (key, raw)).value? f.name =
      if key = f.name then (Command.nonEmpty? (some raw)).or (values.value? f.name)
      else if key ∈ f.aliases then (values.value? f.name).or (Command.nonEmpty? (some raw))
      else values.value? f.name := by
  by_cases hkey : key ∈ f.keys
  · unfold collectFlag
    dsimp only
    rw [h.field?_eq_some_iff.2 ⟨hf, hkey⟩]
    dsimp only
    by_cases hraw : raw = ""
    · simp [hraw, Command.nonEmpty?, Option.filter]
    · have hvalue : Command.nonEmpty? (some raw) = some raw := by
        simp [Command.nonEmpty?, Option.filter, hraw]
      rw [if_neg hraw, hvalue]
      by_cases hown : key = f.name
      · simp [hown, Entries.value?_put]
      · have halias : key ∈ f.aliases := (List.mem_cons.1 hkey).resolve_left hown
        rw [if_neg hown, if_pos halias]
        cases hbefore : values.value? f.name with
        | none => simp [Entries.value?_put]
        | some value => simp [hown, hbefore]
  · rw [h.value?_collectFlag_of_notMem hf hkey]
    rw [Field.keys, List.mem_cons, not_or] at hkey
    rw [if_neg hkey.1, if_neg hkey.2]

/-- A flag adds the name of a field to the keys, if any, and leaves different keys different. -/
lemma keys_collectFlag (flag : String × String) (hnodup : values.keys.Nodup)
    (hnames : values.keys ⊆ s.fields.map Field.name) :
    (s.collectFlag values flag).keys.Nodup ∧
      (s.collectFlag values flag).keys ⊆ s.fields.map Field.name := by
  unfold collectFlag
  split
  · exact ⟨hnodup, hnames⟩
  · next f hfield =>
    split_ifs
    · exact ⟨hnodup, hnames⟩
    · exact ⟨hnodup, hnames⟩
    · refine ⟨Entries.nodup_keys_put hnodup _ _, fun key hkey => ?_⟩
      rw [Entries.keys_put] at hkey
      have hname : f.name ∈ s.fields.map Field.name :=
        List.mem_map_of_mem (field?_eq_some hfield).1
      split_ifs at hkey with hknown
      · exact hnames hkey
      · rcases List.mem_append.1 hkey with hold | hnew
        · exact hnames hold
        · exact List.mem_singleton.1 hnew ▸ hname

/-! ## All flags -/

/-- What all flags leave a field with: what is under its name, or else the value it had, or else what
is under its alias. -/
lemma IsClear.value?_foldl (h : s.IsClear) (hf : f ∈ s.fields) (hflags : flags.keys.Nodup)
    (values : Entries String) :
    (flags.foldl s.collectFlag values).value? f.name =
      (Command.nonEmpty? (flags.value? f.name)).or ((values.value? f.name).or
        (f.aliases.findSome? fun key => Command.nonEmpty? (flags.value? key))) := by
  induction flags generalizing values with
  | nil =>
    have hnone : f.aliases.findSome? (fun key => Command.nonEmpty? (Entries.value? [] key)) =
        none := List.findSome?_eq_none_iff.2 fun _ _ => rfl
    rw [hnone, Option.or_none]
    rfl
  | cons flag flags ih =>
    obtain ⟨key, raw⟩ := flag
    obtain ⟨hkey, hrest⟩ := List.nodup_cons.1 hflags
    have habsent : Entries.value? flags key = none := Entries.value?_eq_none_iff.2 hkey
    rw [List.foldl_cons, ih hrest, h.value?_collectFlag hf]
    rcases h.aliases_cases hf with haliases | ⟨other, haliases, hother⟩
    · rw [haliases]
      by_cases hown : key = f.name
      · subst hown
        simp [Entries.value?, habsent, Command.nonEmpty?]
      · simp [Entries.value?, hown]
    · rw [haliases]
      by_cases hown : key = f.name
      · subst hown
        simp [Entries.value?, habsent, Command.nonEmpty?, hother.symm, Option.or_assoc]
      · by_cases hkeyed : key = other
        · subst hkeyed
          simp [Entries.value?, habsent, Command.nonEmpty?, hother]
        · simp [Entries.value?, hown, hkeyed]

/-- **All flags.** The value that a field is left with is what the flags give to it.

**Proof sketch.** By induction on the flags: those that follow a flag do not have its key, so a value
under the name, once taken, stays, and one under the alias gives way to no other but it. -/
theorem IsClear.value?_collect (h : s.IsClear) (hf : f ∈ s.fields) (hflags : flags.keys.Nodup) :
    (s.collect flags).value? f.name = f.valueAmong flags := by
  rw [collect, h.value?_foldl hf hflags, Field.valueAmong, Field.keys, List.findSome?_cons]
  cases Command.nonEmpty? (flags.value? f.name) <;> rfl

/-- What flags come to is one entry at most for each field, and no other. -/
lemma keys_collect (s : Schema) (flags : Entries String) :
    (s.collect flags).keys.Nodup ∧ (s.collect flags).keys ⊆ s.fields.map Field.name := by
  have hfold : ∀ values : Entries String, values.keys.Nodup →
      values.keys ⊆ s.fields.map Field.name →
      (flags.foldl s.collectFlag values).keys.Nodup ∧
        (flags.foldl s.collectFlag values).keys ⊆ s.fields.map Field.name := by
    induction flags with
    | nil => exact fun _ hnodup hnames => ⟨hnodup, hnames⟩
    | cons flag flags ih =>
      intro values hnodup hnames
      obtain ⟨hnodup', hnames'⟩ := keys_collectFlag flag hnodup hnames
      exact ih _ hnodup' hnames'
  exact hfold [] List.nodup_nil (List.nil_subset _)

/-- Flags in another order give a field the same value. -/
lemma valueAmong_perm (hperm : flags'.Perm flags) (hflags : flags.keys.Nodup) (f : Field) :
    f.valueAmong flags' = f.valueAmong flags := by
  simp only [Field.valueAmong, Entries.value?_perm hperm hflags]

/-- Flags in another order come to the same. -/
lemma IsClear.collect_perm (h : s.IsClear) (hperm : flags'.Perm flags)
    (hflags : flags.keys.Nodup) (key : String) :
    (s.collect flags').value? key = (s.collect flags).value? key := by
  by_cases hkey : key ∈ s.fields.map Field.name
  · obtain ⟨f, hf, rfl⟩ := List.mem_map.1 hkey
    rw [h.value?_collect hf hflags,
      h.value?_collect hf ((hperm.map Prod.fst).nodup_iff.2 hflags), valueAmong_perm hperm hflags]
  · have hnone : ∀ flags, (s.collect flags).value? key = none := fun flags =>
      Entries.value?_eq_none_iff.2 fun hmem => hkey ((keys_collect s flags).2 hmem)
    rw [hnone, hnone]

/-! ## Flags that are unknown -/

/-- Of one order of texts or the other, at least one does not go down. -/
lemma unknownFlags_order (a b : String) : (!decide (b < a)) = true ↔ a ≤ b := by
  rw [Bool.not_eq_true', decide_eq_false_iff_not, not_lt]

/-- The unknown flags are those that neither steer a command nor name a field. -/
lemma mem_unknownFlags : key ∈ s.unknownFlags flags ↔
    key ∈ flags.keys ∧ key ∉ controlFlags ∧ ∀ f ∈ s.fields, key ∉ f.keys := by
  rw [unknownFlags, List.mem_mergeSort, List.mem_filter, isUnknown, Bool.and_eq_true,
    Bool.not_eq_true', List.contains_eq_mem, decide_eq_false_iff_not, Option.isNone_iff_eq_none,
    field?_eq_none_iff]

/-- Unknown flags are listed in strictly ascending order. -/
lemma pairwise_unknownFlags (hflags : flags.keys.Nodup) :
    (s.unknownFlags flags).Pairwise (· < ·) := by
  have hsorted : (s.unknownFlags flags).Pairwise (· ≤ ·) := by
    refine (List.pairwise_mergeSort ?_ ?_ _).imp fun {a b} hab => (unknownFlags_order a b).1 hab
    · intro a b c hab hbc
      rw [unknownFlags_order] at hab hbc ⊢
      exact hab.trans hbc
    · intro a b
      rw [Bool.or_eq_true, unknownFlags_order, unknownFlags_order]
      exact le_total a b
  have hnodup : (s.unknownFlags flags).Nodup :=
    (List.mergeSort_perm _ _).nodup_iff.2 (hflags.filter _)
  exact (hsorted.and hnodup).imp fun hab => lt_of_le_of_ne hab.1 hab.2

/-- What a flag may be for: it steers the command, gives a value to a field, or is unknown. -/
inductive FlagRole
  | control
  | field (f : Field)
  | unknown

/-- Whether a flag is for something, by the control flags, the fields and the unknown flags. -/
def FlagRole.Fits (s : Schema) (flags : Entries String) (key : String) : FlagRole → Prop
  | .control => key ∈ controlFlags
  | .field f => f ∈ s.fields ∧ f.answers key = true
  | .unknown => key ∈ s.unknownFlags flags

/-- A flag is for one thing only. -/
lemma IsClear.existsUnique_role (h : s.IsClear) (hkey : key ∈ flags.keys) :
    ∃! role : FlagRole, role.Fits s flags key := by
  by_cases hcontrol : key ∈ controlFlags
  · refine ⟨.control, hcontrol, ?_⟩
    rintro (_ | f | _) hfits
    · rfl
    · exact absurd hcontrol (h.control f hfits.1 key (Field.answers_iff.1 hfits.2))
    · exact absurd hcontrol (mem_unknownFlags.1 hfits).2.1
  by_cases hfield : ∃ f ∈ s.fields, key ∈ f.keys
  · obtain ⟨f, hf, hkeyf⟩ := hfield
    refine ⟨.field f, ⟨hf, Field.answers_iff.2 hkeyf⟩, ?_⟩
    rintro (_ | g | _) hfits
    · exact absurd hfits hcontrol
    · rw [h.one f hf g hfits.1 key hkeyf (Field.answers_iff.1 hfits.2)]
    · exact absurd hkeyf ((mem_unknownFlags.1 hfits).2.2 f hf)
  · have hnone : ∀ f ∈ s.fields, key ∉ f.keys := fun f hf hkeyf => hfield ⟨f, hf, hkeyf⟩
    refine ⟨.unknown, mem_unknownFlags.2 ⟨hkey, hcontrol, hnone⟩, ?_⟩
    rintro (_ | g | _) hfits
    · exact absurd hfits hcontrol
    · exact absurd (Field.answers_iff.1 hfits.2) (hnone g hfits.1)
    · rfl

/-- The unknown ones of flags in another order are listed alike. -/
lemma unknownFlags_perm (hperm : flags'.Perm flags) (hflags : flags.keys.Nodup) :
    s.unknownFlags flags' = s.unknownFlags flags := by
  have hkeys : flags'.keys.Perm flags.keys := hperm.map Prod.fst
  have hunknown : (s.unknownFlags flags').Perm (s.unknownFlags flags) :=
    (List.mergeSort_perm _ _).trans ((hkeys.filter _).trans (List.mergeSort_perm _ _).symm)
  exact hunknown.eq_of_pairwise (fun a b _ _ hab hba => absurd hba (lt_asymm hab))
    (pairwise_unknownFlags (hkeys.nodup_iff.2 hflags)) (pairwise_unknownFlags hflags)

/-- What is made of flags, whatever their order. -/
structure Gathers (s : Schema) (flags : Entries String) : Prop where
  /-- A field has the value that the flags give to it. -/
  value : ∀ f ∈ s.fields, (s.collect flags).value? f.name = f.valueAmong flags
  /-- There is nothing but values of fields, and one at most for each. -/
  keys : (s.collect flags).keys.Nodup ∧ (s.collect flags).keys ⊆ s.fields.map Field.name
  /-- Flags in another order come to the same, and the same of them are unknown. -/
  order : ∀ flags' : Entries String, flags'.Perm flags →
    (∀ key, (s.collect flags').value? key = (s.collect flags).value? key) ∧
      (s.collect flags').Perm (s.collect flags) ∧ s.unknownFlags flags' = s.unknownFlags flags
  /-- Each flag is for one thing only. -/
  role : ∀ key ∈ flags.keys, ∃! role : FlagRole, role.Fits s flags key
  /-- Unknown flags are flags, each listed once and in ascending order. -/
  unknown : s.unknownFlags flags ⊆ flags.keys ∧ (s.unknownFlags flags).Nodup ∧
    (s.unknownFlags flags).Pairwise (· < ·)

/-- **Flags are gathered in any order, and none is lost.** Of flags with different keys, in whatever
order, the schema of each kind makes the following. A field has the value under its name, or if there
is none but the empty one the value under its alias, or if there is none but the empty one no entry;
and there are no other entries. Flags in another order come to the same. Each flag either steers the
command, or names a field and only this one, or is among the unknown flags, which are listed in
ascending order and once each.

**Proof sketch.** What one flag does to the value of a field follows from its being the name, the alias
or neither; the rest is by induction on the flags, whose keys are different. Both the values of the
fields and the set of unknown flags are given by what is under which key. -/
theorem gathers_ofEntity (kind : Entity) (flags : Entries String) (hflags : flags.keys.Nodup) :
    (ofEntity kind).Gathers flags where
  value f hf := (isClear_ofEntity kind).value?_collect hf hflags
  keys := keys_collect _ _
  order flags' hperm := by
    have hsame := (isClear_ofEntity kind).collect_perm hperm hflags
    exact ⟨hsame, Entries.perm_of_value? (keys_collect _ _).1 (keys_collect _ _).1 hsame,
      unknownFlags_perm hperm hflags⟩
  role key hkey := (isClear_ofEntity kind).existsUnique_role hkey
  unknown := by
    refine ⟨fun key hkey => (mem_unknownFlags.1 hkey).1, ?_, pairwise_unknownFlags hflags⟩
    exact (pairwise_unknownFlags hflags).imp fun hab => hab.ne

/-- An alias before the name it stands for, and after it: either way the name wins. -/
theorem gathers_parent_either_order :
    let flags : Entries String :=
      [("parent", "A1"), ("zeal", "high"), ("parentId", "B2"), ("desc", "Draft"),
        ("description", ""), ("force", "true")]
    flags.keys.Nodup ∧
      ((ofEntity .project).collect flags).value? "parentId" = some "B2" ∧
      ((ofEntity .project).collect flags.reverse).value? "parentId" = some "B2" ∧
      ((ofEntity .project).collect flags).value? "description" = some "Draft" ∧
      (ofEntity .project).unknownFlags flags = ["zeal"] := by
  intro flags
  have hflags : flags.keys.Nodup := by decide
  have hgathers := gathers_ofEntity .project flags hflags
  have hparent := hgathers.value parentId (by decide)
  refine ⟨hflags, hparent, ?_, ?_, ?_⟩
  · exact ((hgathers.order flags.reverse (List.reverse_perm flags)).1 "parentId").trans hparent
  · decide
  · decide +kernel

end Schema

end TaskShell
