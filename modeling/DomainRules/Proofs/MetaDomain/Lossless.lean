import Mathlib.Data.List.Basic
import DomainRules.Proofs.MetaDomain.Conversion

/-!
# Lossless documents

A strict conversion accepts exactly the documents that lose nothing on their way:
every part of them has a place in the target syntax, and every value can be read
back from its line.
-/

namespace DomainRules

open Json (Value)

namespace Json.Value

/-- A value is a string, or an array of strings, with the given texts. -/
def Holds (value : Value) (texts : List String) : Prop :=
  value = .array (texts.map .string) ∨ ∃ text, value = .string text ∧ texts = [text]

theorem mapM_string?_eq_some_iff {items : List Value} {texts : List String} :
    items.mapM string? = some texts ↔ items = texts.map .string := by
  induction items generalizing texts with
  | nil =>
      cases texts with
      | nil => simp
      | cons text texts => simp
  | cons item items ih =>
      rw [List.mapM_cons]
      cases item with
      | string text =>
          constructor
          · intro read
            rcases Option.bind_eq_some_iff.mp read with ⟨first, isText, read⟩
            rcases Option.bind_eq_some_iff.mp read with ⟨others, readOthers, read⟩
            cases isText
            cases read
            rw [ih.mp readOthers]
            rfl
          · intro same
            cases texts with
            | nil => cases same
            | cons first texts =>
                rcases List.cons.inj same with ⟨sameText, sameTexts⟩
                cases sameText
                rw [ih.mpr sameTexts]
                rfl
      | null | bool | number | array | object =>
          constructor
          · intro read
            cases read
          · intro same
            cases texts with
            | nil => cases same
            | cons first texts => cases (List.cons.inj same).1

theorem strings?_eq_some_iff {value : Value} {texts : List String} :
    value.strings? = some texts ↔ value.Holds texts := by
  cases value with
  | string text =>
      simp [strings?, Holds, eq_comm]
  | array items =>
      simp [strings?, Holds, mapM_string?_eq_some_iff]
  | null | bool | number | object => simp [strings?, Holds]

theorem wellFormed_of_holds {value : Value} {texts : List String} (holds : value.Holds texts) :
    value.WellFormed := by
  rcases holds with rfl | ⟨text, rfl, _⟩
  · simp
  · simp

end Json.Value

namespace MetaDomain

open Rule (Field Item RuleSet)
open Rule.Document (Untagged PlainRule keptField? droppedKey? droppedKeys typeKey load? gapsFrom)

/-- A field that the target syntax can express whole. -/
def LosslessField (key : String) (value : Value) : Prop :=
  ∃ texts, value.Holds texts ∧ (value ≠ .array [] → key = "domain" ∨ key = "domain_suffix") ∧
    ∀ text ∈ texts, '\n' ∉ text.toList ∧ '\r' ∉ text.toList

/-- A plain rule all of whose fields the target syntax can express whole. -/
def LosslessRule (rule : Value) : Prop :=
  ∃ fields, rule = .object fields ∧
    (fields.lookup "type" = none ∨ fields.lookup "type" = some .null) ∧
    ∀ key value, (key, value) ∈ fields → key ≠ "type" → LosslessField key value

/-- A document that loses nothing when it is converted. -/
def Lossless (document : Value) : Prop :=
  ∃ rules, (document = .array rules ∨
      ∃ fields, document = .object fields ∧ fields.lookup "rules" = some (.array rules)) ∧
    ∀ rule ∈ rules, LosslessRule rule

/-- The strings of a field of a rule, each with the key of the field. -/
def stringsOfField : String × Value → List (String × String)
  | (key, value) =>
      if key = "type" then []
      else
        match value with
        | .string text => [(key, text)]
        | .array items => (items.filterMap Value.string?).map (key, ·)
        | _ => []

/-- The strings of a rule, in its order. -/
def stringsOfRule : Value → List (String × String)
  | .object fields => fields.flatMap stringsOfField
  | _ => []

/-- The strings of a document, in its order. -/
def stringsOf (document : Value) : List (String × String) :=
  match Rule.Document.rules document with
  | .ok rules => rules.flatMap stringsOfRule
  | .error _ => []

/-- The value that a line of a field was made of. -/
def valueOf (key line : String) : String :=
  if key = "domain_suffix" ∧ ¬Anchored line then String.ofList (line.toList.drop 2) else line

theorem valueOf_lineOf (key value : String) : valueOf key (lineOf key value) = value := by
  by_cases marked : key = "domain_suffix" ∧ ¬Anchored value
  · have notAnchored : ¬Anchored ("+." ++ value) := by
      rw [Anchored, String.toList_append]
      change ¬some '+' = some '.'
      decide
    rw [lineOf, if_pos marked, valueOf, if_pos ⟨marked.1, notAnchored⟩, String.toList_append]
    exact String.ofList_toList
  · rw [lineOf, if_neg marked, valueOf, if_neg marked]

/-! ## Fields that lose nothing -/

theorem ofEntry_of_holds {α : Type} (image : Field → List α) {key : String} {value : Value}
    {texts : List String} (isField : key ≠ typeKey) (holds : value.Holds texts) :
    ofEntry image (key, value) = image ⟨key, texts⟩ := by
  simp only [ofEntry, keptField?, isField, if_false, Value.strings?_eq_some_iff.mpr holds,
    Option.map_some]

theorem droppedKey?_eq_none_iff {key : String} {value : Value} (isField : key ≠ typeKey) :
    droppedKey? (key, value) = none ↔ ∃ texts, value.Holds texts := by
  simp only [droppedKey?, isField, false_or]
  cases read : value.strings? with
  | some texts => simp [← Value.strings?_eq_some_iff, read]
  | none => simp [← Value.strings?_eq_some_iff, read]

theorem holds_nil_iff {value : Value} : value.Holds [] ↔ value = .array [] := by
  simp [Value.Holds]

theorem holds_empty_iff {texts : List String} : (Value.array []).Holds texts ↔ texts = [] := by
  simp [Value.Holds]

theorem losslessField_iff {key : String} {value : Value} (isField : key ≠ typeKey) :
    LosslessField key value ↔
      droppedKey? (key, value) = none ∧ ofEntry gapsOf (key, value) = [] := by
  rw [droppedKey?_eq_none_iff isField]
  constructor
  · rintro ⟨texts, holds, expressible, single⟩
    refine ⟨⟨texts, holds⟩, ?_⟩
    rw [ofEntry_of_holds gapsOf isField holds, gapsOf_eq_nil_iff]
    constructor
    · intro present
      apply expressible
      intro empty
      rw [empty, holds_empty_iff] at holds
      exact present holds
    · intro text member
      exact (not_broken_iff text).mpr (single text member)
  · rintro ⟨⟨texts, holds⟩, gaps⟩
    rw [ofEntry_of_holds gapsOf isField holds, gapsOf_eq_nil_iff] at gaps
    rcases gaps with ⟨expressible, single⟩
    refine ⟨texts, holds, ?_, ?_⟩
    · intro present
      apply expressible
      intro empty
      rw [empty, holds_nil_iff] at holds
      exact present holds
    · intro text member
      exact (not_broken_iff text).mp (single text member)

theorem stringsOfField_of_holds {key : String} {value : Value} {texts : List String}
    (isField : key ≠ typeKey) (holds : value.Holds texts) :
    stringsOfField (key, value) = texts.map (key, ·) := by
  have notType : key ≠ "type" := isField
  rcases holds with rfl | ⟨text, rfl, rfl⟩
  · have texts_eq : (texts.map Value.string).filterMap Value.string? = texts := by
      rw [List.filterMap_map]
      exact List.filterMap_some
    simp only [stringsOfField, notType, if_false, texts_eq]
  · simp only [stringsOfField, notType, if_false, List.map_cons, List.map_nil]

/-- A field that loses nothing has a line for each of its strings. -/
theorem ofEntry_linesOf_of_lossless {key : String} {value : Value} (isField : key ≠ typeKey)
    (lossless : LosslessField key value) :
    ofEntry linesOf (key, value) =
      (stringsOfField (key, value)).map fun (key, text) => lineOf key text := by
  rcases (losslessField_iff isField).mp lossless with ⟨kept, gapless⟩
  rcases (droppedKey?_eq_none_iff isField).mp kept with ⟨texts, holds⟩
  rw [ofEntry_of_holds gapsOf isField holds] at gapless
  rw [ofEntry_of_holds linesOf isField holds, stringsOfField_of_holds isField holds,
    linesOf_of_gapless gapless, List.map_map]
  rfl

/-! ## Rules that lose nothing -/

theorem ofEntry_typeKey {α : Type} (image : Field → List α) (value : Value) :
    ofEntry image (typeKey, value) = [] := by
  simp only [ofEntry, keptField?, if_true]

theorem losslessRule_iff {rule : Value} :
    LosslessRule rule ↔ PlainRule rule ∧ droppedKeys rule = [] ∧ ofRule gapsOf rule = [] := by
  constructor
  · rintro ⟨fields, rfl, untagged, lossless⟩
    refine ⟨⟨fields, rfl, untagged⟩, ?_, ?_⟩
    · apply List.filterMap_eq_nil_iff.mpr
      rintro ⟨key, value⟩ member
      by_cases isType : key = typeKey
      · simp only [droppedKey?, isType, true_or, if_true]
      · exact ((losslessField_iff isType).mp (lossless key value member isType)).1
    · apply List.flatMap_eq_nil_iff.mpr
      rintro ⟨key, value⟩ member
      by_cases isType : key = typeKey
      · rw [isType]
        exact ofEntry_typeKey gapsOf value
      · exact ((losslessField_iff isType).mp (lossless key value member isType)).2
  · rintro ⟨⟨fields, rfl, untagged⟩, dropped, gaps⟩
    refine ⟨fields, rfl, untagged, ?_⟩
    intro key value member isField
    apply (losslessField_iff isField).mpr
    exact ⟨List.filterMap_eq_nil_iff.mp dropped _ member,
      List.flatMap_eq_nil_iff.mp gaps _ member⟩

theorem ofRule_linesOf_of_lossless {rule : Value} (lossless : LosslessRule rule) :
    ofRule linesOf rule = (stringsOfRule rule).map fun (key, text) => lineOf key text := by
  rcases lossless with ⟨fields, rfl, _, lossless⟩
  rw [ofRule, stringsOfRule, List.map_flatMap]
  apply List.flatMap_congr
  rintro ⟨key, value⟩ member
  by_cases isType : key = typeKey
  · rw [isType, ofEntry_typeKey]
    rfl
  · exact ofEntry_linesOf_of_lossless isType (lossless key value member isType)

/-! ## Documents that lose nothing -/

theorem rules_eq_ok_iff {document : Value} {rules : List Value} :
    Rule.Document.rules document = .ok rules ↔
      document = .array rules ∨
        ∃ fields, document = .object fields ∧ fields.lookup "rules" = some (.array rules) := by
  cases document with
  | array items => simp [Rule.Document.rules]
  | object fields =>
      have lookup : Json.Fields.get? Rule.Document.rulesKey fields = fields.lookup "rules" := rfl
      rw [Rule.Document.rules, lookup]
      cases held : fields.lookup "rules" with
      | none => simp [held]
      | some value => cases value <;> simp [held]
  | null | bool | number | string => simp [Rule.Document.rules]

/-- A lenient conversion of rules that lose nothing is silent. -/
theorem linesOfDocument_of_lossless {document : Value} {rules : List Value}
    (read : Rule.Document.rules document = .ok rules)
    (wellFormed : ∀ rule ∈ rules, rule.WellFormed)
    (lossless : ∀ rule ∈ rules, LosslessRule rule) :
    linesOfDocument .lenient document = ⟨[], .ok (rules.flatMap (ofRule linesOf))⟩ := by
  have plain : Plain document rules :=
    ⟨read, fun rule member => (losslessRule_iff.mp (lossless rule member)).1, wellFormed⟩
  have noneDropped : gapsFrom 1 rules = [] := by
    apply List.eq_nil_of_length_eq_zero
    rw [Rule.Document.length_gapsFrom plain.plain, List.length_eq_zero_iff,
      List.flatMap_eq_nil_iff]
    intro rule member
    exact (losslessRule_iff.mp (lossless rule member)).2.1
  have noneLost : rules.flatMap (ofRule gapsOf) = [] := by
    apply List.flatMap_eq_nil_iff.mpr
    intro rule member
    exact (losslessRule_iff.mp (lossless rule member)).2.2
  rw [linesOfDocument_lenient plain, noneDropped, noneLost]
  rfl

/-- A document that loses nothing has a line for each of its strings. -/
theorem linesOfDocument_eq_map_stringsOf {document : Json.Document}
    (lossless : Lossless document.value) :
    linesOfDocument .lenient document.value =
      ⟨[], .ok ((stringsOf document.value).map fun (key, text) => lineOf key text)⟩ := by
  rcases lossless with ⟨rules, shape, lossless⟩
  have read := rules_eq_ok_iff.mpr shape
  rw [linesOfDocument_of_lossless read (wellFormed_rules read) lossless, stringsOf, read,
    List.map_flatMap,
    List.flatMap_congr fun rule member => ofRule_linesOf_of_lossless (lossless rule member)]

theorem lossless_of_silent {document : Json.Document} {lines : List String}
    (silent : linesOfDocument .lenient document.value = ⟨[], .ok lines⟩) :
    Lossless document.value := by
  obtain ⟨rules, plain⟩ := exists_plain_of_lenient_success (congrArg Logged.result silent)
  rw [linesOfDocument_lenient plain] at silent
  have noGaps := List.map_eq_nil_iff.mp (congrArg Logged.diagnostics silent)
  rcases List.append_eq_nil_iff.mp noGaps with ⟨noneDropped, noneLost⟩
  have dropped : rules.flatMap droppedKeys = [] := by
    apply List.eq_nil_of_length_eq_zero
    rw [← Rule.Document.length_gapsFrom plain.plain, noneDropped]
    rfl
  refine ⟨rules, rules_eq_ok_iff.mp plain.read, ?_⟩
  intro rule member
  exact losslessRule_iff.mpr ⟨plain.plain rule member,
    List.flatMap_eq_nil_iff.mp dropped rule member,
    List.flatMap_eq_nil_iff.mp noneLost rule member⟩

/-- A strict conversion accepts the documents that lose nothing and no others.  It is
silent, and every string of the document can be read back from its line. -/
theorem strict_succeeds_iff_lossless (document : Json.Document) (format : Format) :
    ((∃ text, (renderValue .strict format document.value).result = .ok text) ↔
        Lossless document.value) ∧
      ∀ text, (renderValue .strict format document.value).result = .ok text →
        (renderValue .strict format document.value).diagnostics = [] ∧
          ∃ lines, (linesOfDocument .strict document.value).result = .ok lines ∧
            text = format.render lines ∧ lines.length = (stringsOf document.value).length ∧
            ∀ (i : Nat) (key value : String),
              (stringsOf document.value)[i]? = some (key, value) →
                lines[i]?.map (valueOf key) = some value := by
  -- A strict conversion succeeds where a lenient one is silent, and that is so for the
  -- documents that lose nothing.
  have accepted : ∀ text, (renderValue .strict format document.value).result = .ok text →
      ∃ lines, linesOfDocument .lenient document.value = ⟨[], .ok lines⟩ ∧
        text = format.render lines := by
    intro text success
    rcases result_renderValue_eq_ok_iff.mp success with ⟨lines, success, rendered⟩
    exact ⟨lines, result_linesOfDocument_strict_eq_ok_iff.mp success, rendered⟩
  constructor
  · constructor
    · rintro ⟨text, success⟩
      rcases accepted text success with ⟨lines, silent, _⟩
      exact lossless_of_silent silent
    · intro lossless
      have silent := linesOfDocument_eq_map_stringsOf lossless
      exact ⟨_, result_renderValue_eq_ok_iff.mpr
        ⟨_, result_linesOfDocument_strict_eq_ok_iff.mpr silent, rfl⟩⟩
  · intro text success
    rcases accepted text success with ⟨lines, silent, rendered⟩
    have same := linesOfDocument_eq_map_stringsOf (lossless_of_silent silent)
    rw [silent] at same
    cases same
    refine ⟨?_, _, result_linesOfDocument_strict_eq_ok_iff.mpr silent, rendered, ?_, ?_⟩
    · rw [diagnostics_renderValue]
      exact diagnostics_linesOfDocument_strict document.value
    · exact List.length_map _
    · intro i key value held
      rw [List.getElem?_map, held, Option.map_some, Option.map_some, valueOf_lineOf]

/-- Two rules with fields of every kind that loses nothing. -/
def quietDocument : Json.Document where
  value :=
    .array [
      .object [("type", .null), ("domain", .array [.string "a.example"]),
        ("domain_suffix", .array [.string ".b.example", .string "c.example"])],
      .object [("geoip", .array []), ("domain_suffix", .string "d.example")]]
  wellFormed := by simp

theorem quietDocument_lossless :
    (renderValue .strict .text quietDocument.value).result =
        .ok "a.example\n.b.example\n+.c.example\n+.d.example" ∧
      Lossless quietDocument.value := by
  have success : (renderValue .strict .text quietDocument.value).result =
      .ok "a.example\n.b.example\n+.c.example\n+.d.example" := by decide +kernel
  have accepts := (strict_succeeds_iff_lossless quietDocument .text).1
  exact ⟨success, accepts.mp ⟨_, success⟩⟩

end MetaDomain

end DomainRules
