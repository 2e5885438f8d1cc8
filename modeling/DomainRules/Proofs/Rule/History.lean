import Mathlib.Data.Finset.Card
import Mathlib.Data.List.Induction
import DomainRules.Proofs.Rule.Item

/-!
# Histories of a rule

A rule that has been edited any number of times maps each key to the values that it was
last set to, unless these were none and the empty fields have been dropped since.  Its
keys stand in the order in which they came to it.  The main statement says this of every
history of edits; it rests on the keys being distinct, without which the first field of a
key would not be the only one.
-/

namespace DomainRules.Rule

namespace Field

variable {key : String} {values : List String} {fields : List Field}

theorem not_isEmpty_iff (field : Field) : (!field.isEmpty) = true ↔ field.values ≠ [] := by
  rw [Bool.not_eq_true', ← Bool.not_eq_true]
  exact List.isEmpty_iff.not

/-! ## Looking for a key -/

theorem isSome_find?_iff : (find? key fields).isSome = true ↔ key ∈ fields.map Field.key := by
  induction fields with
  | nil => simp [find?]
  | cons field rest ih =>
      by_cases same : field.key = key
      · simp [find?, same]
      · have different : key ≠ field.key := fun equal => same equal.symm
        rw [find?, if_neg same, ih, List.map_cons, List.mem_cons]
        exact (or_iff_right different).symm

/-- Among distinct keys the first field of a key is its only one. -/
theorem find?_eq_some_iff (distinct : (fields.map Field.key).Nodup) :
    find? key fields = some values ↔ ⟨key, values⟩ ∈ fields := by
  induction fields with
  | nil => simp [find?]
  | cons field rest ih =>
      obtain ⟨fresh, distinctRest⟩ := List.nodup_cons.mp distinct
      rw [find?, List.mem_cons]
      by_cases same : field.key = key
      · rw [if_pos same]
        constructor
        · intro held
          cases held
          left
          rw [← same]
        · rintro (first | later)
          · rw [← first]
          · exact absurd (List.mem_map.mpr ⟨_, later, same.symm⟩) fresh
      · rw [if_neg same, ih distinctRest]
        constructor
        · exact .inr
        · rintro (first | later)
          · exact absurd (congrArg Field.key first).symm same
          · exact later

theorem fst_put (key : String) (values : List String) (fields : List Field) :
    (put key values fields).1 = find? key fields := by
  induction fields with
  | nil => rfl
  | cons field rest ih =>
      by_cases same : field.key = key
      · simp [put, find?, same]
      · simp [put, find?, same, ih]

theorem find?_put (key other : String) (values : List String) (fields : List Field) :
    find? other (put key values fields).2 =
      if key = other then some values else find? other fields := by
  induction fields with
  | nil => rfl
  | cons field rest ih =>
      by_cases same : field.key = key
      · rw [put, if_pos same, find?, find?, same]
        split <;> rfl
      · rw [put, if_neg same, find?, find?, ih]
        by_cases isOther : field.key = other
        · have different : key ≠ other := fun equal => same (isOther.trans equal.symm)
          rw [if_pos isOther, if_pos isOther, if_neg different]
        · rw [if_neg isOther, if_neg isOther]

theorem find?_filter (distinct : (fields.map Field.key).Nodup) :
    find? key (fields.filter (!·.isEmpty)) = some values ↔
      find? key fields = some values ∧ values ≠ [] := by
  have distinctRest := distinct.sublist ((List.filter_sublist (p := (!·.isEmpty))).map Field.key)
  rw [find?_eq_some_iff distinctRest, find?_eq_some_iff distinct, List.mem_filter,
    not_isEmpty_iff]

end Field

namespace Item

/-- What is done to a rule. -/
inductive Edit where
  | insert (key : String) (values : List String)
  | withField (key : String) (values : List String)
  | minify

namespace Edit

/-- The values that an edit sets a key to. -/
def sets? (key : String) : Edit → Option (List String)
  | .insert other values => if other = key then some values else none
  | .withField other values => if other = key then some values else none
  | .minify => none

end Edit

/-- The rule after an edit. -/
def edit (item : Item) : Edit → Item
  | .insert key values => (item.insert key values).2
  | .withField key values => item.withField key values
  | .minify => item.minify

/-- A rule of a kind after edits that are made one after the other. -/
def edited (kind : Kind) (history : List Edit) : Item :=
  history.foldl edit (ofKind kind)

/-- The values that a history leaves a key with: those of the last edit that sets it.
None at all are kept only as long as the rule is not minified. -/
def Leaves (history : List Edit) (key : String) (values : List String) : Prop :=
  ∃ earlier edit later, history = earlier ++ edit :: later ∧ edit.sets? key = some values ∧
    (∀ other ∈ later, other.sets? key = none) ∧ (values = [] → Edit.minify ∉ later)

/-- What there is to say about a rule after a history of edits, and about the edit that
comes next. -/
structure FollowsHistory (kind : Kind) (history : List Edit) : Prop where
  kind_eq : (edited kind history).kind = kind
  distinct : (edited kind history).keys.Nodup
  values : ∀ key values,
    (edited kind history).get? key = some values ↔ Leaves history key values
  /-- The size counts the keys that have values, even if these are none. -/
  size : ∃ present : Finset String,
    (∀ key, key ∈ present ↔ ((edited kind history).get? key).isSome = true) ∧
      (edited kind history).size = present.card
  /-- Setting a key answers with the values that it had. -/
  answers : ∀ key values,
    ((edited kind history).insert key values).1 = (edited kind history).get? key
  /-- A key that is there keeps its place, and so do all others. -/
  replaces : ∀ edit key values, edit.sets? key = some values → key ∈ (edited kind history).keys →
    (edited kind (history ++ [edit])).keys = (edited kind history).keys
  /-- Any other key comes last. -/
  appends : ∀ edit key values, edit.sets? key = some values → key ∉ (edited kind history).keys →
    (edited kind (history ++ [edit])).keys = (edited kind history).keys ++ [key]
  /-- What is left by dropping the empty fields is in the same order. -/
  sublist : (edited kind (history ++ [.minify])).fields.Sublist (edited kind history).fields
  /-- All fields with values are left, and no others. -/
  drops : ∀ field, field ∈ (edited kind (history ++ [.minify])).fields ↔
    field ∈ (edited kind history).fields ∧ field.values ≠ []
  idempotent : edited kind (history ++ [.minify, .minify]) = edited kind (history ++ [.minify])
  unchanged : edited kind (history ++ [.minify]) = edited kind history ↔
    ∀ field ∈ (edited kind history).fields, field.values ≠ []

variable {kind : Kind} {history : List Edit} {key : String} {values : List String}

/-! ## One edit -/

theorem get?_withField (item : Item) (key other : String) (values : List String) :
    (item.withField key values).get? other =
      if key = other then some values else item.get? other :=
  Field.find?_put key other values item.fields

theorem get?_minify (item : Item) :
    item.minify.get? key = some values ↔ item.get? key = some values ∧ values ≠ [] :=
  Field.find?_filter item.distinct

/-- A key has the values that an edit sets it to, and what it had if the edit does not
set it; but none at all are dropped by minifying. -/
theorem get?_edit (item : Item) (edit : Edit) :
    (item.edit edit).get? key = some values ↔
      edit.sets? key = some values ∨
        edit.sets? key = none ∧ item.get? key = some values ∧ (values = [] → edit ≠ .minify) := by
  cases edit with
  | insert other set | withField other set =>
      refine (Eq.congr_left (get?_withField item other key set)).trans ?_
      by_cases same : other = key
      · simp [Edit.sets?, same]
      · simp [Edit.sets?, same]
  | minify =>
      refine (get?_minify item).trans ?_
      simp [Edit.sets?]

theorem kind_edit (item : Item) (edit : Edit) : (item.edit edit).kind = item.kind := by
  cases edit with
  | insert | withField | minify => rfl

theorem keys_edit (item : Item) {edit : Edit} (sets : edit.sets? key = some values) :
    (item.edit edit).keys = if key ∈ item.keys then item.keys else item.keys ++ [key] := by
  cases edit with
  | insert other set | withField other set =>
      rw [Edit.sets?] at sets
      split at sets
      · next same =>
          rw [← same]
          exact Field.keys_put other set item.fields
      · cases sets
  | minify => cases sets

theorem minify_minify (item : Item) : item.minify.minify = item.minify :=
  Item.ext rfl (List.filter_filter.trans (by simp only [Bool.and_self]; rfl))

theorem minify_eq_self_iff (item : Item) :
    item.minify = item ↔ ∀ field ∈ item.fields, field.values ≠ [] := by
  have fieldsOnly : item.minify = item ↔ item.fields.filter (!·.isEmpty) = item.fields :=
    ⟨congrArg Item.fields, fun same => Item.ext rfl same⟩
  rw [fieldsOnly, List.filter_eq_self]
  exact forall₂_congr fun field _ => field.not_isEmpty_iff

/-! ## Histories -/

theorem edited_concat (kind : Kind) (history : List Edit) (edit : Edit) :
    edited kind (history ++ [edit]) = (edited kind history).edit edit :=
  List.foldl_append

theorem kind_edited (kind : Kind) (history : List Edit) : (edited kind history).kind = kind := by
  induction history using List.reverseRecOn with
  | nil => rfl
  | append_singleton history edit ih => rw [edited_concat, kind_edit, ih]

theorem not_leaves_nil : ¬Leaves [] key values := by
  rintro ⟨earlier, edit, later, empty, _⟩
  exact absurd empty.symm (List.append_ne_nil_of_right_ne_nil _ (List.cons_ne_nil _ _))

/-- What a longer history leaves is what its last edit sets, or else what it left before. -/
theorem leaves_concat_iff (edit : Edit) :
    Leaves (history ++ [edit]) key values ↔
      edit.sets? key = some values ∨
        edit.sets? key = none ∧ Leaves history key values ∧ (values = [] → edit ≠ .minify) := by
  constructor
  · rintro ⟨earlier, set, later, split, sets, unset, kept⟩
    rcases List.eq_nil_or_concat later with rfl | ⟨front, last, rfl⟩
    · left
      obtain ⟨_, same⟩ := List.append_inj' split rfl
      cases same
      exact sets
    · right
      rw [List.concat_eq_append, ← List.cons_append, ← List.append_assoc] at split
      obtain ⟨rfl, same⟩ := List.append_inj' split rfl
      cases same
      refine ⟨unset edit (by simp), ⟨earlier, set, front, rfl, sets, ?_, ?_⟩, ?_⟩
      · intro other member
        exact unset other (by simp [member])
      · intro empty member
        exact kept empty (by simp [member])
      · rintro empty rfl
        exact kept empty (by simp)
  · rintro (sets | ⟨unsetLast, ⟨earlier, set, later, rfl, sets, unset, kept⟩, keptLast⟩)
    · exact ⟨history, edit, [], rfl, sets, by simp, by simp⟩
    · refine ⟨earlier, set, later ++ [edit], by simp, sets, ?_, ?_⟩
      · intro other member
        rcases List.mem_append.mp member with before | last
        · exact unset other before
        · rw [List.mem_singleton.mp last]
          exact unsetLast
      · intro empty member
        rcases List.mem_append.mp member with before | last
        · exact kept empty before
        · exact keptLast empty (List.mem_singleton.mp last).symm

/-- A rule holds what its history leaves. -/
theorem get?_edited : (edited kind history).get? key = some values ↔
    Leaves history key values := by
  induction history using List.reverseRecOn generalizing values with
  | nil => exact iff_of_false (Option.some_ne_none values).symm not_leaves_nil
  | append_singleton history edit ih => rw [edited_concat, get?_edit, leaves_concat_iff, ih]

theorem mem_keys_iff (item : Item) : key ∈ item.keys ↔ (item.get? key).isSome = true :=
  Field.isSome_find?_iff.symm

/-- Whatever is done to a rule, it is an ordered map of the keys to what they were last
set to. -/
theorem edited_follows_history (kind : Kind) (history : List Edit) :
    FollowsHistory kind history where
  kind_eq := kind_edited kind history
  distinct := (edited kind history).distinct
  values _ _ := get?_edited
  size := by
    refine ⟨(edited kind history).keys.toFinset, fun key => ?_, ?_⟩
    · rw [List.mem_toFinset, mem_keys_iff]
    · exact (List.length_map Field.key).symm.trans
        (List.toFinset_card_of_nodup (edited kind history).distinct).symm
  answers key values := Field.fst_put key values (edited kind history).fields
  replaces edit key values sets present := by
    rw [edited_concat, keys_edit _ sets, if_pos present]
  appends edit key values sets absent := by
    rw [edited_concat, keys_edit _ sets, if_neg absent]
  sublist := by
    rw [edited_concat]
    exact List.filter_sublist
  drops field := by
    rw [edited_concat, ← field.not_isEmpty_iff]
    exact List.mem_filter
  idempotent := by
    rw [List.append_cons, edited_concat, edited_concat]
    exact minify_minify _
  unchanged := by
    rw [edited_concat]
    exact minify_eq_self_iff _

end Item

end DomainRules.Rule
