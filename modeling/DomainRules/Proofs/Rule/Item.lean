import DomainRules.Rule.Item

/-!
# Rules built field by field

Setting a key that a rule does not have appends a field, so a rule that is built
from fields with distinct keys holds exactly these fields, in their order.
-/

namespace DomainRules.Rule

namespace Field

theorem put_of_absent {key : String} {fields : List Field} (values : List String)
    (absent : key ∉ fields.map Field.key) :
    (put key values fields).2 = fields ++ [⟨key, values⟩] := by
  induction fields with
  | nil => rfl
  | cons field rest ih =>
      have different : field.key ≠ key := by
        intro same
        apply absent
        simp [same]
      have absentTail : key ∉ rest.map Field.key := by
        intro member
        exact absent (List.mem_cons_of_mem _ member)
      simp only [put, different, if_false, ih absentTail, List.cons_append]

end Field

namespace Item

attribute [ext] Item

@[simp] theorem kind_withField (item : Item) (key : String) (values : List String) :
    (item.withField key values).kind = item.kind :=
  rfl

theorem fields_withField_of_absent {item : Item} {key : String} (values : List String)
    (absent : key ∉ item.keys) :
    (item.withField key values).fields = item.fields ++ [⟨key, values⟩] :=
  Field.put_of_absent values absent

/-- Fields set one after the other in a rule. -/
theorem kind_foldl_withField (pairs : List (String × List String)) (item : Item) :
    (pairs.foldl (fun item (key, values) => item.withField key values) item).kind =
      item.kind := by
  induction pairs generalizing item with
  | nil => rfl
  | cons pair pairs ih =>
      rw [List.foldl_cons, ih, kind_withField]

theorem fields_foldl_withField {pairs : List (String × List String)} {item : Item}
    (distinct : (item.keys ++ pairs.map Prod.fst).Nodup) :
    (pairs.foldl (fun item (key, values) => item.withField key values) item).fields =
      item.fields ++ pairs.map fun (key, values) => ⟨key, values⟩ := by
  induction pairs generalizing item with
  | nil => simp
  | cons pair pairs ih =>
      rcases pair with ⟨key, values⟩
      have absent : key ∉ item.keys := by
        intro present
        exact (List.nodup_append.mp distinct).2.2 key present key (by simp) rfl
      have appended := fields_withField_of_absent values absent
      have keys : (item.withField key values).keys = item.keys ++ [key] := by
        rw [Item.keys, appended, List.map_append]
        rfl
      have distinctTail : ((item.withField key values).keys ++ pairs.map Prod.fst).Nodup := by
        rw [keys, List.append_assoc]
        exact distinct
      rw [List.foldl_cons, ih distinctTail, appended, List.append_assoc]
      rfl

@[simp] theorem kind_ofFields (kind : Kind) (pairs : List (String × List String)) :
    (ofFields kind pairs).kind = kind :=
  kind_foldl_withField pairs (ofKind kind)

theorem fields_ofFields (kind : Kind) {pairs : List (String × List String)}
    (distinct : (pairs.map Prod.fst).Nodup) :
    (ofFields kind pairs).fields = pairs.map fun (key, values) => ⟨key, values⟩ :=
  fields_foldl_withField distinct

/-- Every rule is built from its fields. -/
theorem ofFields_fields (item : Item) :
    ofFields item.kind (item.fields.map fun field => (field.key, field.values)) = item := by
  have keys : (item.fields.map fun field => (field.key, field.values)).map Prod.fst =
      item.fields.map Field.key := List.map_map
  have distinct := keys ▸ item.distinct
  apply Item.ext
  · exact kind_ofFields item.kind _
  · rw [fields_ofFields item.kind distinct, List.map_map]
    exact List.map_id item.fields

end Item

end DomainRules.Rule
