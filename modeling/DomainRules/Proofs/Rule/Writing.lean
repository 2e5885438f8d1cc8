import DomainRules.Proofs.Rule.Decoding

/-!
# Rule sets written as documents

A rule set is written as an array of objects, with an entry for each field and one for
the tag.  Where the tag stands, and whether a single value stands bare or in an array, is
left open.  The main statement is that reading such a document gives the rule set back
without a gap, however it was written, as long as no field has the key of the tag.
-/

namespace DomainRules

open Json (Value)

/-- Texts as an array of strings, or as a string where there is one text only and it is
to stand bare. -/
def Json.Value.ofStrings (bare : Bool) : List String → Value
  | [text] => if bare then .string text else .array [.string text]
  | texts => .array (texts.map .string)

theorem Json.Value.holds_ofStrings (bare : Bool) (texts : List String) :
    (ofStrings bare texts).Holds texts := by
  match texts with
  | [] => exact .inl rfl
  | [text] =>
      cases bare with
      | false => exact .inl rfl
      | true => exact .inr ⟨text, rfl, rfl⟩
  | _ :: _ :: _ => exact .inl rfl

namespace Rule

/-- What is open in writing a rule as an object. -/
structure Layout where
  /-- How many fields stand before the tag, if there are as many. -/
  tagPlace : Nat := 0
  /-- The keys whose value stands bare where it is the only one. -/
  bare : String → Bool := fun _ => false

/-- A field as an entry of an object. -/
def Field.entry (layout : Layout) (field : Field) : String × Value :=
  (field.key, .ofStrings (layout.bare field.key) field.values)

/-- The entry for the tag of a kind, if it has a tag. -/
def Kind.entries (kind : Kind) : Json.Fields :=
  match kind.tag? with
  | none => []
  | some tag => [("type", .string tag)]

namespace Item

/-- The fields of a rule as entries, with the tag among them. -/
def entries (layout : Layout) (item : Item) : Json.Fields :=
  let fields := item.fields.map (Field.entry layout)
  fields.take layout.tagPlace ++ item.kind.entries ++ fields.drop layout.tagPlace

/-- A rule as an object. -/
def toValue (layout : Layout) (item : Item) : Value :=
  .object (item.entries layout)

end Item

/-- A rule set as an array of objects, each with a layout of its own. -/
def RuleSet.toValue (layouts : Nat → Layout) (rules : RuleSet) : Value :=
  .array (rules.items.mapIdx fun index item => item.toValue (layouts index))

/-! ## One rule -/

namespace Item

open Document (keptField? droppedKey? kind? load? loadGaps)

variable {item : Item} {layout : Layout}

theorem key_ne_type (untyped : "type" ∉ item.keys) {field : Field}
    (isField : field ∈ item.fields) : field.key ≠ "type" := by
  intro same
  exact untyped (List.mem_map.mpr ⟨field, isField, same⟩)

/-- What passes over the tag sees the fields in their order. -/
theorem filterMap_entries {α : Type} {image : String × Value → Option α}
    (passesOver : ∀ value, image ("type", value) = none) :
    (item.entries layout).filterMap image =
      item.fields.filterMap fun field => image (field.entry layout) := by
  have tag : item.kind.entries.filterMap image = [] := by
    rw [Kind.entries]
    cases item.kind.tag? with
    | none => rfl
    | some tag => simp [passesOver]
  rw [entries, List.filterMap_append, List.filterMap_append, tag, List.append_nil,
    ← List.filterMap_append, List.take_append_drop, List.filterMap_map]
  rfl

/-- The tag is the only entry under its key. -/
theorem lookup_type_entries (untyped : "type" ∉ item.keys) :
    (item.entries layout).lookup "type" = item.kind.tag?.map .string := by
  have absent : ∀ fields : List Field, (∀ field ∈ fields, field ∈ item.fields) →
      (fields.map (Field.entry layout)).lookup "type" = none := by
    intro fields ofItem
    apply List.lookup_eq_none_iff.mpr
    intro entry member
    rcases List.mem_map.mp member with ⟨field, isField, rfl⟩
    apply bne_iff_ne.mpr
    exact (key_ne_type untyped (ofItem field isField)).symm
  have before := absent (item.fields.take layout.tagPlace) fun _ => List.mem_of_mem_take
  have behind := absent (item.fields.drop layout.tagPlace) fun _ => List.mem_of_mem_drop
  rw [entries, ← List.map_take, ← List.map_drop, List.lookup_append, List.lookup_append, before,
    behind, Option.none_or, Option.or_none, Kind.entries]
  cases item.kind.tag? with
  | none => rfl
  | some tag => rfl

theorem keptField?_entry {field : Field} (isField : field.key ≠ "type") :
    keptField? (field.entry layout) = some (field.key, field.values) := by
  have notType : field.key ≠ Document.typeKey := isField
  have read := Value.strings?_eq_some_iff.mpr
    (Value.holds_ofStrings (layout.bare field.key) field.values)
  rw [Field.entry, keptField?, if_neg notType, read, Option.map_some]

theorem droppedKey?_entry {field : Field} (isField : field.key ≠ "type") :
    droppedKey? (field.entry layout) = none :=
  (MetaDomain.droppedKey?_eq_none_iff isField).mpr ⟨_, Value.holds_ofStrings _ field.values⟩

theorem kind?_entries (untyped : "type" ∉ item.keys) :
    kind? (item.entries layout) = some item.kind := by
  have lookup : Json.Fields.get? Document.typeKey (item.entries layout) =
      item.kind.tag?.map .string := lookup_type_entries untyped
  have tagged : kind? (item.entries layout) = some (.ofTag item.kind.tag?) := by
    rw [kind?, lookup]
    cases item.kind.tag? <;> rfl
  rw [tagged, Kind.ofTag_tag?]

theorem load?_toValue (untyped : "type" ∉ item.keys) :
    load? (item.toValue layout) = some item := by
  have kept : (item.entries layout).filterMap keptField? =
      item.fields.map fun field => (field.key, field.values) := by
    rw [filterMap_entries fun _ => rfl, List.filterMap_congr fun field isField =>
      keptField?_entry (key_ne_type untyped isField)]
    exact congrFun List.filterMap_eq_map' item.fields
  rw [toValue, load?, kind?_entries untyped, kept, Option.map_some, ofFields_fields]

theorem loadGaps_toValue (untyped : "type" ∉ item.keys) (number : Nat) :
    loadGaps number (item.toValue layout) = [] := by
  have dropped : (item.entries layout).filterMap droppedKey? = [] := by
    rw [filterMap_entries fun _ => rfl, List.filterMap_eq_nil_iff]
    intro field isField
    exact droppedKey?_entry (key_ne_type untyped isField)
  rw [toValue, loadGaps, kind?_entries untyped, Option.map_some, Option.getD_some,
    Document.loadGapsOf, dropped, List.map_nil, ite_self]

/-- The place of the tag changes the order of the entries only. -/
theorem perm_entries : (item.entries layout).Perm
    (item.kind.entries ++ item.fields.map (Field.entry layout)) := by
  let fields := item.fields.map (Field.entry layout)
  have moved : (item.entries layout).Perm
      (item.kind.entries ++ fields.take layout.tagPlace ++ fields.drop layout.tagPlace) :=
    List.perm_append_comm.append_right _
  rw [List.append_assoc, List.take_append_drop] at moved
  exact moved

theorem keys_entries_nodup (untyped : "type" ∉ item.keys) :
    ((item.entries layout).map Prod.fst).Nodup := by
  have keys : (item.fields.map (Field.entry layout)).map Prod.fst = item.keys := List.map_map
  apply (perm_entries.map Prod.fst).nodup_iff.mpr
  rw [List.map_append, keys, Kind.entries]
  cases item.kind.tag? with
  | none => exact item.distinct
  | some tag => exact List.nodup_cons.mpr ⟨untyped, item.distinct⟩

/-- A rule that has been written is a value as it can be read from a text. -/
theorem wellFormed_toValue (untyped : "type" ∉ item.keys) :
    (item.toValue layout).WellFormed := by
  apply Value.WellFormed.object (keys_entries_nodup untyped)
  intro entry member
  rcases List.mem_append.mp (perm_entries.mem_iff.mp member) with isTag | isField
  · rw [Kind.entries] at isTag
    split at isTag
    · cases isTag
    · rw [List.mem_singleton.mp isTag]
      exact .string _
  · rcases List.mem_map.mp isField with ⟨field, _, rfl⟩
    exact Value.wellFormed_of_holds (Value.holds_ofStrings _ field.values)

end Item

/-! ## All rules -/

namespace RuleSet

open Document (Reads)

theorem items_toValue {items : List Item} (untyped : ∀ item ∈ items, "type" ∉ item.keys)
    (layouts : Nat → Layout) (number : Nat) :
    Document.items .lenient number
        (items.mapIdx fun index item => item.toValue (layouts index)) = ⟨[], .ok items⟩ := by
  induction items generalizing layouts number with
  | nil => rfl
  | cons item items ih =>
      have isRule := untyped item List.mem_cons_self
      have others := ih (fun other member => untyped other (List.mem_cons_of_mem _ member))
        (fun index => layouts (index + 1)) (number + 1)
      rw [List.mapIdx_cons, Document.items, Document.item_lenient, Item.load?_toValue isRule,
        Item.loadGaps_toValue isRule, others]
      rfl

/-- A rule set that has been written as a document is read back without a gap. -/
theorem ofValue_toValue {rules : RuleSet} (untyped : ∀ item ∈ rules.items, "type" ∉ item.keys)
    (layouts : Nat → Layout) :
    (rules.toValue layouts).WellFormed ∧
      ∀ document, document = rules.toValue layouts ∨
          (∃ fields, document = .object fields ∧
            fields.lookup "rules" = some (rules.toValue layouts)) →
        ∀ policy, ofValue policy document = ⟨[], .ok rules⟩ := by
  constructor
  · apply Value.WellFormed.array
    intro value member
    rcases List.mem_mapIdx.mp member with ⟨index, bound, rfl⟩
    exact Item.wellFormed_toValue (untyped _ (List.getElem_mem bound))
  · intro document has policy
    have run : Document.items .lenient 1
        (rules.items.mapIdx fun index item => item.toValue (layouts index)) =
          ⟨([] : List String).map .warning, .ok rules.items⟩ := items_toValue untyped layouts 1
    have reads : Reads document [] (.ok rules) := Document.reads_of_items has run
    cases policy with
    | lenient => exact reads.lenient
    | strict => exact reads.strict

/-- A tagged rule with a single value and no value, and a logical one. -/
def taggedRules : RuleSet :=
  ⟨[⟨.unknown "x" (by decide), [⟨"domain", ["a.example"]⟩, ⟨"geoip", []⟩], by decide⟩,
    ⟨.logical, [⟨"mode", ["and"]⟩, ⟨"domain_suffix", ["b.example", "c.example"]⟩], by decide⟩]⟩

/-- These rules as one of the fields of a document, each with its tag in second place. -/
def taggedDocument : Value :=
  .object [("version", .bool true),
    ("rules", .array [
      .object [("domain", .string "a.example"), ("type", .string "x"), ("geoip", .array [])],
      .object [("mode", .array [.string "and"]), ("type", .string "logical"),
        ("domain_suffix", .array [.string "b.example", .string "c.example"])]])]

theorem taggedDocument_read :
    (∀ item ∈ taggedRules.items, "type" ∉ item.keys) ∧
      ofValue .strict taggedDocument = ⟨[], .ok taggedRules⟩ := by
  have untyped : ∀ item ∈ taggedRules.items, "type" ∉ item.keys := by decide
  have read := (ofValue_toValue untyped fun _ => ⟨1, (· == "domain")⟩).2
  exact ⟨untyped, read taggedDocument (.inr ⟨_, rfl, rfl⟩) .strict⟩

end RuleSet

end Rule

end DomainRules
