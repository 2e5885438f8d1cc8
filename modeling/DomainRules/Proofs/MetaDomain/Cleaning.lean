import Mathlib.Algebra.BigOperators.Group.List.Basic
import Mathlib.Algebra.GroupWithZero.Nat
import DomainRules.Proofs.MetaDomain.Lossless

/-!
# Cleaning of documents

A lenient conversion leaves out what the target syntax cannot express.  The same
can be left out of the document beforehand, with one deletion for each warning, and
what is left is converted without loss.

A deletion is the work of either phase of a conversion: reading drops the fields
that hold something other than strings, and writing drops foreign keys and broken
strings.  A field is therefore followed through both, in one case analysis.
-/

namespace DomainRules.MetaDomain

open Json (Value)
open Rule.Document (Untagged PlainRule keptField? droppedKey? droppedKeys typeKey gapsFrom)

/-! ## What is deleted -/

def isString : Value → Bool
  | .string _ => true
  | _ => false

/-- A string that no single line can hold. -/
def isBroken : Value → Bool
  | .string text => decide (Broken text)
  | _ => false

/-- A string or an array of strings. -/
def holdsStrings : Value → Bool
  | .string _ => true
  | .array items => items.all isString
  | _ => false

def isEmptyArray : Value → Bool
  | .array [] => true
  | _ => false

/-- A field with something other than strings, or with a key that the target syntax
does not have. -/
def isMisplaced (key : String) (value : Value) : Bool :=
  !holdsStrings value || !decide (Expressible key) && !isEmptyArray value

/-- A field without its broken strings, or nothing if it is to be deleted whole. -/
def cleanField : String × Value → Option (String × Value)
  | (key, value) =>
      if key = "type" then some (key, value)
      else if isMisplaced key value then none
      else
        match value with
        | .array items => some (key, .array (items.filter (!isBroken ·)))
        | value => if isBroken value then none else some (key, value)

def cleanRule : Value → Value
  | .object fields => .object (fields.filterMap cleanField)
  | value => value

def cleanRules : Value → Value
  | .array rules => .array (rules.map cleanRule)
  | value => value

/-- The document without the strings and the fields that no line can express. -/
def clean : Value → Value
  | .object fields =>
      .object (fields.map fun (key, value) =>
        (key, if key = "rules" then cleanRules value else value))
  | document => cleanRules document

/-- How many elements an array has. -/
def elements : Value → Nat
  | .array items => items.length
  | _ => 0

/-- A field that is deleted counts once, and else every string that is deleted from it. -/
def deletionsOfField (field : String × Value) : Nat :=
  match cleanField field with
  | none => 1
  | some (_, kept) => elements field.2 - elements kept

def deletionsOfRule : Value → Nat
  | .object fields => (fields.map deletionsOfField).sum
  | _ => 0

/-- How much is deleted from a document. -/
def deletions (document : Value) : Nat :=
  match Rule.Document.rules document with
  | .ok rules => (rules.map deletionsOfRule).sum
  | .error _ => 0

/-! ## Fields -/

theorem eq_map_string_of_all {items : List Value} (strings : items.all isString = true) :
    items = (items.filterMap Value.string?).map .string := by
  induction items with
  | nil => rfl
  | cons item items ih =>
      rw [List.all_cons, Bool.and_eq_true] at strings
      rcases strings with ⟨first, others⟩
      cases item with
      | string text =>
          rw [List.filterMap_cons, Value.string?, List.map_cons, ← ih others]
      | null | bool | number | array | object => cases first

theorem holdsStrings_iff {value : Value} :
    holdsStrings value = true ↔ ∃ texts, value.Holds texts := by
  cases value with
  | string text => simp [holdsStrings, Value.Holds]
  | array items =>
      constructor
      · intro strings
        exact ⟨_, .inl (congrArg Value.array (eq_map_string_of_all strings))⟩
      · rintro ⟨texts, same | ⟨text, same, _⟩⟩
        · cases same
          rw [holdsStrings, List.all_map]
          exact List.all_eq_true.mpr fun _ _ => rfl
        · cases same
  | null | bool | number | object => simp [holdsStrings, Value.Holds]

theorem cleanField_typeKey (value : Value) : cleanField (typeKey, value) = some (typeKey, value) :=
  rfl

theorem cleanField_of_strings?_eq_none {key : String} {value : Value} (isField : key ≠ typeKey)
    (mixed : value.strings? = none) : cleanField (key, value) = none := by
  have notType : key ≠ "type" := isField
  have notStrings : holdsStrings value = false := by
    rw [← Bool.not_eq_true, holdsStrings_iff]
    rintro ⟨texts, holds⟩
    rw [Value.strings?_eq_some_iff.mpr holds] at mixed
    cases mixed
  simp only [cleanField, notType, if_false, isMisplaced, notStrings, Bool.not_false,
    Bool.true_or, if_true]

theorem cleanField_array {key : String} (isField : key ≠ typeKey) (texts : List String) :
    cleanField (key, .array (texts.map .string)) =
      if Expressible key ∨ texts = [] then
        some (key, .array ((texts.filter (¬Broken ·)).map .string))
      else none := by
  have notType : key ≠ "type" := isField
  have strings : holdsStrings (.array (texts.map .string)) = true :=
    holdsStrings_iff.mpr ⟨texts, .inl rfl⟩
  have kept : (texts.map Value.string).filter (!isBroken ·) =
      (texts.filter (¬Broken ·)).map .string := by
    rw [List.filter_map]
    simp only [decide_not]
    rfl
  simp only [cleanField, notType, if_false, isMisplaced, strings, kept]
  by_cases known : Expressible key
  · simp only [known, decide_true, Bool.not_true, Bool.false_and, Bool.or_self, true_or, if_true]
    rfl
  · cases texts with
    | nil => simp [known, isEmptyArray]
    | cons text texts => simp [known, isEmptyArray]

theorem cleanField_string {key : String} (isField : key ≠ typeKey) (text : String) :
    cleanField (key, .string text) =
      if Expressible key ∧ ¬Broken text then some (key, .string text)
      else none := by
  have notType : key ≠ "type" := isField
  by_cases known : Expressible key
  · by_cases broken : Broken text <;>
      simp [cleanField, notType, isMisplaced, holdsStrings, known, isBroken, broken]
  · simp [cleanField, notType, isMisplaced, holdsStrings, known, isEmptyArray]

/-- What becomes of a field. -/
inductive Cleaning (key : String) (value : Value) : Option (String × Value) → Prop where
  /-- It holds something other than strings. -/
  | mixed : value.strings? = none → Cleaning key value none
  /-- The target syntax does not have its key. -/
  | unknown {texts : List String} :
      value.Holds texts → ¬Expressible key → texts ≠ [] → Cleaning key value none
  /-- It is a single string that is broken. -/
  | broken {text : String} :
      value.Holds [text] → Expressible key → Broken text → Cleaning key value none
  /-- It keeps the strings that are not broken. -/
  | kept {texts : List String} {left : Value} :
      value.Holds texts → Expressible key ∨ texts = [] →
      left.Holds (texts.filter (¬Broken ·)) →
      elements value - elements left = (texts.filter (Broken ·)).length →
      Cleaning key value (some (key, left))

theorem length_sub_length_filter_not (texts : List String) :
    texts.length - (texts.filter (¬Broken ·)).length =
      (texts.filter (Broken ·)).length := by
  have parts := texts.length_eq_length_filter_add (decide <| Broken ·)
  simp only [decide_not]
  omega

theorem cleaning_cleanField {key : String} (isField : key ≠ typeKey) (value : Value) :
    Cleaning key value (cleanField (key, value)) := by
  cases read : value.strings? with
  | none =>
      rw [cleanField_of_strings?_eq_none isField read]
      exact .mixed read
  | some texts =>
      have holds := Value.strings?_eq_some_iff.mp read
      rcases holds with rfl | ⟨text, rfl, rfl⟩
      · rw [cleanField_array isField]
        split
        · next permitted =>
            apply Cleaning.kept (.inl rfl) permitted (.inl rfl)
            rw [elements, elements, List.length_map, List.length_map]
            exact length_sub_length_filter_not texts
        · next refused =>
            rcases not_or.mp refused with ⟨unknown, present⟩
            exact .unknown (.inl rfl) unknown present
      · rw [cleanField_string isField]
        by_cases known : Expressible key
        · by_cases broken : Broken text
          · rw [if_neg (fun permitted => permitted.2 broken)]
            exact .broken (.inr ⟨text, rfl, rfl⟩) known broken
          · rw [if_pos ⟨known, broken⟩]
            have holds : (Value.string text).Holds [text] := .inr ⟨text, rfl, rfl⟩
            have single : [text].filter (¬Broken ·) = [text] := by simp [broken]
            apply Cleaning.kept holds (.inl known)
            · rw [single]
              exact holds
            · simp [broken, elements]
        · rw [if_neg (fun permitted => known permitted.1)]
          exact .unknown (.inr ⟨text, rfl, rfl⟩) known (List.cons_ne_nil _ _)

/-- What is left of a field loses nothing. -/
theorem lossless_of_cleanField {key : String} {value : Value} {left : String × Value}
    (isField : key ≠ typeKey) (cleaned : cleanField (key, value) = some left) :
    left.1 = key ∧ LosslessField key left.2 := by
  have outcome := cleaning_cleanField isField value
  rw [cleaned] at outcome
  cases outcome with
  | kept holds permitted holdsLeft _ =>
      refine ⟨rfl, _, holdsLeft, ?_, ?_⟩
      · intro present
        rcases permitted with known | rfl
        · exact known
        · exact absurd (holds_nil_iff.mp holdsLeft) present
      · intro text member
        have single := of_decide_eq_true (List.mem_filter.mp member).2
        exact (not_broken_iff text).mp single

theorem linesOf_filter (key : String) (texts : List String) :
    linesOf ⟨key, texts.filter (¬Broken ·)⟩ = linesOf ⟨key, texts⟩ := by
  simp only [linesOf, List.filter_filter, Bool.and_self]

/-- What is left of a field has the lines of the field. -/
theorem flatMap_cleanField_linesOf (field : String × Value) :
    (cleanField field).toList.flatMap (ofEntry linesOf) = ofEntry linesOf field := by
  rcases field with ⟨key, value⟩
  by_cases isType : key = typeKey
  · rw [isType, cleanField_typeKey, Option.toList_some, List.flatMap_singleton]
  · have outcome := cleaning_cleanField isType value
    generalize cleanField (key, value) = cleaned at outcome
    cases outcome with
    | mixed mixed =>
        simp only [ofEntry, keptField?, isType, if_false, mixed]
        rfl
    | unknown holds unknown _ =>
        rw [ofEntry_of_holds linesOf isType holds, linesOf, if_neg unknown]
        rfl
    | broken holds known broken =>
        rw [ofEntry_of_holds linesOf isType holds]
        simp [linesOf, broken]
    | kept holds _ holdsLeft _ =>
        rw [ofEntry_of_holds linesOf isType holds, ← linesOf_filter, Option.toList_some,
          List.flatMap_singleton, ofEntry_of_holds linesOf isType holdsLeft]

/-- A field is warned of as often as something is deleted from it. -/
theorem length_gaps_eq_deletionsOfField (field : String × Value) :
    (droppedKey? field).toList.length + (ofEntry gapsOf field).length =
      deletionsOfField field := by
  rcases field with ⟨key, value⟩
  by_cases isType : key = typeKey
  · rw [isType, deletionsOfField, cleanField_typeKey, ofEntry_typeKey]
    simp [droppedKey?]
  · rw [deletionsOfField]
    have outcome := cleaning_cleanField isType value
    have none_of_holds : ∀ texts, value.Holds texts → droppedKey? (key, value) = none :=
      fun texts holds => (droppedKey?_eq_none_iff isType).mpr ⟨texts, holds⟩
    generalize cleanField (key, value) = cleaned at outcome
    cases outcome with
    | mixed mixed =>
        simp [ofEntry, keptField?, droppedKey?, isType, mixed]
    | unknown holds unknown present =>
        rw [none_of_holds _ holds, ofEntry_of_holds gapsOf isType holds]
        simp [gapsOf, unknown, present]
    | broken holds known broken =>
        rw [none_of_holds _ holds, ofEntry_of_holds gapsOf isType holds]
        simp [gapsOf, known, broken]
    | kept holds permitted _ lost =>
        rw [none_of_holds _ holds, ofEntry_of_holds gapsOf isType holds]
        dsimp only
        rw [lost]
        rcases permitted with known | rfl
        · simp [gapsOf, known]
        · simp [gapsOf]

/-! ## Rules -/

theorem key_of_cleanField {field left : String × Value} (cleaned : cleanField field = some left) :
    left.1 = field.1 := by
  rcases field with ⟨key, value⟩
  by_cases isType : key = typeKey
  · rw [isType, cleanField_typeKey] at cleaned
    cases cleaned
    exact isType.symm
  · exact (lossless_of_cleanField isType cleaned).1

theorem wellFormed_of_cleanField {field left : String × Value} (wellFormed : field.2.WellFormed)
    (cleaned : cleanField field = some left) : left.2.WellFormed := by
  rcases field with ⟨key, value⟩
  by_cases isType : key = typeKey
  · rw [isType, cleanField_typeKey] at cleaned
    cases cleaned
    exact wellFormed
  · rcases (lossless_of_cleanField isType cleaned).2 with ⟨texts, holds, _⟩
    exact Value.wellFormed_of_holds holds

theorem wellFormed_cleanRule {rule : Value} (wellFormed : rule.WellFormed) :
    (cleanRule rule).WellFormed := by
  cases rule with
  | object fields =>
      apply Value.WellFormed.object
      · apply List.Nodup.sublist _ wellFormed.keys_nodup
        exact Rule.Document.keys_filterMap_sublist (fun _ _ => key_of_cleanField) fields
      · intro left member
        rcases List.mem_filterMap.mp member with ⟨field, isField, cleaned⟩
        exact wellFormed_of_cleanField (wellFormed.values field isField) cleaned
  | null | bool | number | string | array => exact wellFormed

/-- The field that names the kind of a rule stays. -/
theorem lookup_type_cleanField (fields : List (String × Value)) :
    (fields.filterMap cleanField).lookup typeKey = fields.lookup typeKey := by
  induction fields with
  | nil => rfl
  | cons field fields ih =>
      rcases field with ⟨key, value⟩
      by_cases isType : key = typeKey
      · rw [isType, List.filterMap_cons_some (cleanField_typeKey value), List.lookup_cons_self,
          List.lookup_cons_self]
      · have different : (typeKey == key) = false := beq_false_of_ne (Ne.symm isType)
        rw [List.filterMap_cons, List.lookup_cons, different, ← ih]
        cases cleaned : cleanField (key, value) with
        | none => rfl
        | some left =>
            rcases left with ⟨other, kept⟩
            rcases lossless_of_cleanField isType cleaned with ⟨rfl, _⟩
            rw [List.lookup_cons, different]

theorem losslessRule_cleanRule {rule : Value} (plain : PlainRule rule) :
    LosslessRule (cleanRule rule) := by
  rcases plain with ⟨fields, rfl, untagged⟩
  rw [Untagged, Json.Fields.get?, ← lookup_type_cleanField] at untagged
  refine ⟨_, rfl, untagged, ?_⟩
  intro key value member isField
  rcases List.mem_filterMap.mp member with ⟨⟨other, held⟩, _, cleaned⟩
  cases key_of_cleanField cleaned
  exact (lossless_of_cleanField isField cleaned).2

theorem ofRule_linesOf_cleanRule (rule : Value) :
    ofRule linesOf (cleanRule rule) = ofRule linesOf rule := by
  cases rule with
  | object fields =>
      rw [cleanRule, ofRule, ofRule, List.filterMap_eq_flatMap_toList, List.flatMap_assoc,
        funext flatMap_cleanField_linesOf]
  | null | bool | number | string | array => rfl

/-- What the members of a list contribute on two sides is counted member by member. -/
theorem length_flatMap_add_length_flatMap {α β γ : Type} {first : α → List β}
    {second : α → List γ} {count : α → Nat} {members : List α}
    (each : ∀ member ∈ members,
      (first member).length + (second member).length = count member) :
    (members.flatMap first).length + (members.flatMap second).length =
      (members.map count).sum := by
  rw [List.length_flatMap, List.length_flatMap, ← List.sum_map_add, List.map_congr_left each]

theorem length_gaps_eq_deletionsOfRule (rule : Value) :
    (droppedKeys rule).length + (ofRule gapsOf rule).length = deletionsOfRule rule := by
  cases rule with
  | object fields =>
      rw [droppedKeys, ofRule, deletionsOfRule, List.filterMap_eq_flatMap_toList]
      exact length_flatMap_add_length_flatMap
        fun field _ => length_gaps_eq_deletionsOfField field
  | null | bool | number | string | array => rfl

/-! ## Documents -/

theorem lookup_map_rulesKey (fields : List (String × Value)) :
    (fields.map fun (key, value) =>
        (key, if key = "rules" then cleanRules value else value)).lookup "rules" =
      (fields.lookup "rules").map cleanRules := by
  induction fields with
  | nil => rfl
  | cons field fields ih =>
      rcases field with ⟨key, value⟩
      by_cases isRules : key = "rules"
      · cases isRules
        simp only [List.map_cons, if_true, List.lookup_cons_self, Option.map_some]
      · have different : ("rules" == key) = false := beq_false_of_ne (Ne.symm isRules)
        simp only [List.map_cons, List.lookup_cons, different, ih]

/-- The rules of a cleaned document are the cleaned rules of the document. -/
theorem rules_clean {document : Value} {rules : List Value}
    (read : Rule.Document.rules document = .ok rules) :
    Rule.Document.rules (clean document) = .ok (rules.map cleanRule) := by
  apply rules_eq_ok_iff.mpr
  rcases rules_eq_ok_iff.mp read with rfl | ⟨fields, rfl, held⟩
  · exact .inl rfl
  · refine .inr ⟨_, rfl, ?_⟩
    rw [lookup_map_rulesKey, held]
    rfl

theorem linesOfDocument_strict_clean {document : Value} {rules : List Value}
    (plain : Plain document rules) :
    linesOfDocument .strict (clean document) = ⟨[], .ok (rules.flatMap (ofRule linesOf))⟩ := by
  have wellFormed : ∀ rule ∈ rules.map cleanRule, rule.WellFormed := by
    intro cleaned member
    rcases List.mem_map.mp member with ⟨rule, isRule, rfl⟩
    exact wellFormed_cleanRule (plain.wellFormed rule isRule)
  have lossless : ∀ rule ∈ rules.map cleanRule, LosslessRule rule := by
    intro cleaned member
    rcases List.mem_map.mp member with ⟨rule, isRule, rfl⟩
    exact losslessRule_cleanRule (plain.plain rule isRule)
  have silent := linesOfDocument_of_lossless (rules_clean plain.read) wellFormed lossless
  rw [List.flatMap_map, funext ofRule_linesOf_cleanRule] at silent
  exact Logged.ext (diagnostics_linesOfDocument_strict _)
    (result_linesOfDocument_strict_eq_ok_iff.mpr silent)

theorem length_gaps_eq_deletions {document : Value} {rules : List Value}
    (plain : Plain document rules) :
    (gapsFrom 1 rules ++ rules.flatMap (ofRule gapsOf)).length = deletions document := by
  rw [List.length_append, Rule.Document.length_gapsFrom plain.plain, deletions, plain.read]
  exact length_flatMap_add_length_flatMap fun rule _ => length_gaps_eq_deletionsOfRule rule

/-- A document that a lenient conversion succeeds on can be cleaned beforehand: a strict
conversion of what is left has the same text, and the lenient one had a warning for each
deletion. -/
theorem strict_clean_of_lenient (document : Json.Document) {given : Format} {text : String}
    (success : (renderValue .lenient given document.value).result = .ok text)
    (format : Format) :
    ∃ text, (renderValue .lenient format document.value).result = .ok text ∧
      renderValue .strict format (clean document.value) = ⟨[], .ok text⟩ ∧
      (renderValue .lenient format document.value).diagnostics.length =
        deletions document.value := by
  rcases result_renderValue_eq_ok_iff.mp success with ⟨lines, success, _⟩
  rcases exists_plain_of_lenient_success success with ⟨rules, plain⟩
  have lenient := linesOfDocument_lenient plain
  refine ⟨format.render (rules.flatMap (ofRule linesOf)), ?_, ?_, ?_⟩
  · apply result_renderValue_eq_ok_iff.mpr
    exact ⟨_, congrArg Logged.result lenient, rfl⟩
  · rw [renderValue, linesOfDocument_strict_clean plain]
    rfl
  · rw [diagnostics_renderValue, lenient, List.length_map, length_gaps_eq_deletions plain]

/-- Rules that lose strings and fields of every kind. -/
def mixedDocument : Json.Document where
  value :=
    .object [
      ("version", .number (.natural 3)),
      ("rules", .array [
        .object [("domain", .array [.string "a.example", .string "b\n.example"]),
          ("domain_suffix", .string "c.example\r"), ("port", .number (.natural 53))],
        .object [("type", .null), ("geoip", .array [.string "xx", .string "yy"]),
          ("domain_keyword", .array []),
          ("domain_suffix", .array [.string "d.example", .string ".e.example"])]])]
  wellFormed := by simp

theorem mixedDocument_cleaned :
    (renderValue .lenient .text mixedDocument.value).result =
        .ok "a.example\n+.d.example\n.e.example" ∧
      deletions mixedDocument.value = 4 ∧
      ∃ text, (renderValue .lenient .json mixedDocument.value).result = .ok text ∧
        renderValue .strict .json (clean mixedDocument.value) = ⟨[], .ok text⟩ ∧
        (renderValue .lenient .json mixedDocument.value).diagnostics.length =
          deletions mixedDocument.value := by
  have success : (renderValue .lenient .text mixedDocument.value).result =
      .ok "a.example\n+.d.example\n.e.example" := by decide +kernel
  have count : deletions mixedDocument.value = 4 := by decide +kernel
  exact ⟨success, count, strict_clean_of_lenient mixedDocument success .json⟩

end DomainRules.MetaDomain
