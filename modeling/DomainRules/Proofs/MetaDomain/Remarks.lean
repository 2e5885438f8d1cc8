import DomainRules.Proofs.Diagnostic
import DomainRules.Proofs.Rule.Decoding
import DomainRules.Proofs.Yaml.Payload

/-!
# The lines of remarks

A lenient conversion warns of everything that it drops, and names the key of the field that
is concerned.  The words around a key hold no line break, but a key is any text and is told
as it stands in the document.  So a warning is a single line if the key is one, and the
main statement follows from this: where the keys of a document are single lines, the report
has a line for each gap and no other.  A line feed in a key begins a line of the report
that is no warning of its own and may look like one.
-/

namespace DomainRules

open Json (Value)

namespace MetaDomain

open Rule (Field RuleSet)
open Rule.Document (HasRules kind? load? leadingRules loadGaps loadGapsOf gapsFrom)

/-- The gaps that a lenient conversion meets: those of the rules before the first one that
cannot be read and then, if all of them can be, those of the fields that it visits. -/
def gapsOfValue (document : Value) : List String :=
  match Rule.Document.rules document with
  | .error _ => []
  | .ok rules =>
      gapsFrom 1 (rules.take (leadingRules rules)) ++
        if leadingRules rules = rules.length then
          (visitedFields (rules.filterMap load?)).flatMap gapsOf
        else []

/-- The gaps that a lenient conversion of a text meets. -/
def gapsOfText (document : String) : List String :=
  match Value.ofString document with
  | .error _ => []
  | .ok value => gapsOfValue value

/-- The reason of a gap names the key of a field. -/
inductive Concerns (key : String) : String → Prop where
  /-- The field, of a rule with a number in its document, does not hold strings. -/
  | notStrings (number : Nat) :
      Concerns key ("rule " ++ toString number ++ ": field `" ++ key ++
        "` holds a non-string value and is dropped")
  /-- The target syntax does not have the field. -/
  | unsupported : Concerns key ("field `" ++ key ++ "` is not supported by meta-domain rule sets")
  /-- No single line can hold a value of the field. -/
  | lineBreak : Concerns key ("field `" ++ key ++ "` value contains a line break")

/-- Some rule of a document that has been read has a field with the key. -/
def HasKey (document : Value) (key : String) : Prop :=
  ∃ rules entries, HasRules document rules ∧ Value.object entries ∈ rules ∧
    key ∈ entries.map Prod.fst

/-- Some rule of a document has a field with the key. -/
def TextHasKey (document key : String) : Prop :=
  ∃ value, Value.ofString document = .ok value ∧ HasKey value key

/-! ## The gaps of a conversion -/

/-- A lenient conversion leaves one warning for each gap. -/
theorem diagnostics_linesOfDocument_eq_gaps (document : Value) :
    (linesOfDocument .lenient document).diagnostics = (gapsOfValue document).map .warning := by
  rw [linesOfDocument, RuleSet.ofValue, gapsOfValue]
  cases Rule.Document.rules document with
  | error failure => rfl
  | ok rules =>
      rw [Logged.ofExcept_ok, pure_bind]
      by_cases all : leadingRules rules = rules.length
      · have read := Rule.Document.leadingRules_eq_length_iff.mp all
        rw [Rule.Document.items_lenient_of_all read, Logged.mk_ok_bind, Logged.diagnostics_pure,
          List.append_nil, Logged.result_pure, Logged.mk_ok_bind, lines_eq_gather,
          gather_itemLines_lenient]
        simp only [all, List.take_length, if_true, List.map_append]
      · rw [Rule.Document.items_lenient]
        have behind : leadingRules rules < rules.length :=
          Nat.lt_of_le_of_ne List.findIdx_le_length all
        simp only [List.getElem?_eq_getElem behind, Logged.mk_error_bind, if_neg all,
          List.append_nil]

theorem diagnostics_render_eq_gaps (format : Format) (document : String) :
    (render .lenient format document).diagnostics = (gapsOfText document).map .warning := by
  rw [gapsOfText]
  cases read : Json.Document.ofString document with
  | error report =>
      rw [render_of_unread read, Json.Document.ofString_eq_error_iff.mp read]
      rfl
  | ok parsed =>
      rw [render_of_read read, Json.Document.ofString_eq_ok_iff.mp read, diagnostics_renderValue]
      exact diagnostics_linesOfDocument_eq_gaps parsed.value

theorem concerns_of_mem_loadGaps {number : Nat} {rule : Value} {reason : String}
    (gap : reason ∈ loadGaps number rule) :
    ∃ entries key, rule = .object entries ∧ key ∈ entries.map Prod.fst ∧
      Concerns key reason := by
  cases rule with
  | object entries =>
      rw [loadGaps] at gap
      cases read : kind? entries with
      | none =>
          rw [read] at gap
          cases gap
      | some kind =>
          rw [read, Option.map_some, Option.getD_some, loadGapsOf] at gap
          split at gap
          · cases gap
          · obtain ⟨key, dropped, rfl⟩ := List.mem_map.mp gap
            have isKey := (Rule.Document.holding_filterMap entries).keys.2 dropped
            exact ⟨entries, key, rfl, isKey, .notStrings number⟩
  | null | bool | number | string | array => cases gap

theorem concerns_of_mem_gapsOf {field : Field} {reason : String} (gap : reason ∈ gapsOf field) :
    Concerns field.key reason := by
  rw [gapsOf] at gap
  split at gap
  · obtain ⟨_, _, rfl⟩ := List.mem_map.mp gap
    exact .lineBreak
  · split at gap
    · cases gap
    · rw [List.mem_singleton.mp gap]
      exact .unsupported

/-- The fields that are visited come from entries of the rules. -/
theorem exists_entry_of_visited {rules : List Value}
    (wellFormed : ∀ rule ∈ rules, rule.WellFormed) {field : Field}
    (visited : field ∈ visitedFields (rules.filterMap load?)) :
    ∃ entries, Value.object entries ∈ rules ∧ field.key ∈ entries.map Prod.fst := by
  obtain ⟨item, taken, held⟩ := List.mem_flatMap.mp visited
  obtain ⟨rule, isRule, isItem⟩ := List.mem_filterMap.mp (List.mem_of_mem_take taken)
  -- the number only stands in the words for gaps, so any will do
  obtain ⟨entries, others, rfl, _, holding, _⟩ :=
    (Rule.Document.describes_of_load? (wellFormed rule isRule) isItem 1).object
  exact ⟨entries, isRule, holding.keys.1 (List.mem_map_of_mem (List.mem_of_mem_filter held))⟩

theorem exists_concerns_of_mem_gapsOfValue {document : Json.Document} {reason : String}
    (gap : reason ∈ gapsOfValue document.value) :
    ∃ key, HasKey document.value key ∧ Concerns key reason := by
  rw [gapsOfValue] at gap
  cases isRules : Rule.Document.rules document.value with
  | error failure =>
      rw [isRules] at gap
      cases gap
  | ok rules =>
      have has := rules_eq_ok_iff.mp isRules
      rw [isRules] at gap
      rcases List.mem_append.mp gap with reading | writing
      · obtain ⟨⟨rule, number⟩, numbered, gap⟩ := List.mem_flatMap.mp reading
        obtain ⟨entries, key, rfl, isKey, concerns⟩ := concerns_of_mem_loadGaps gap
        have isRule := List.mem_of_mem_take (List.fst_mem_of_mem_zipIdx numbered)
        exact ⟨key, ⟨rules, entries, has, isRule, isKey⟩, concerns⟩
      · split at writing
        · obtain ⟨field, visited, gap⟩ := List.mem_flatMap.mp writing
          obtain ⟨entries, isRule, isKey⟩ :=
            exists_entry_of_visited (wellFormed_rules isRules) visited
          exact ⟨field.key, ⟨rules, entries, has, isRule, isKey⟩, concerns_of_mem_gapsOf gap⟩
        · cases writing

/-- Every gap of a text concerns one of its keys. -/
theorem exists_concerns_of_mem_gapsOfText {document reason : String}
    (gap : reason ∈ gapsOfText document) :
    ∃ key, TextHasKey document key ∧ Concerns key reason := by
  rw [gapsOfText] at gap
  cases read : Json.Document.ofString document with
  | error report =>
      rw [Json.Document.ofString_eq_error_iff.mp read] at gap
      cases gap
  | ok parsed =>
      have isValue := Json.Document.ofString_eq_ok_iff.mp read
      rw [isValue] at gap
      obtain ⟨key, isKey, concerns⟩ := exists_concerns_of_mem_gapsOfValue gap
      exact ⟨key, ⟨parsed.value, isValue, isKey⟩, concerns⟩

/-! ## The words around a key -/

@[simp] theorem broken_append (front back : String) :
    Broken (front ++ back) ↔ Broken front ∨ Broken back := by
  simp only [Broken, String.toList_append, List.mem_append]
  exact or_or_or_comm

@[simp] theorem not_broken_toString (number : Nat) : ¬Broken (toString number) := by
  have digits : ∀ c ∈ (toString number).toList, c.isDigit = true := by
    intro c member
    rw [Nat.toString_eq_repr, Nat.toList_repr] at member
    exact Nat.isDigit_of_mem_toDigits (by decide) (by decide) member
  rintro (member | member)
  · exact absurd (digits _ member) (by decide)
  · exact absurd (digits _ member) (by decide)

/-- The reason of a gap has the key between words without a line break. -/
theorem Concerns.told {key reason : String} (concerns : Concerns key reason) :
    ∃ front back, reason = front ++ key ++ back ∧ ¬Broken front ∧ ¬Broken back := by
  cases concerns with
  | notStrings number =>
      refine ⟨"rule " ++ toString number ++ ": field `",
        "` holds a non-string value and is dropped", rfl, ?_, by decide⟩
      simp only [broken_append, not_broken_toString, or_false]
      decide
  | unsupported =>
      exact ⟨"field `", "` is not supported by meta-domain rule sets", rfl, by decide, by decide⟩
  | lineBreak =>
      exact ⟨"field `", "` value contains a line break", rfl, by decide, by decide⟩

/-! ## The lines of a report -/

theorem line_warning (reason : String) :
    (Diagnostic.mk .warning reason).line = "warning: " ++ reason :=
  rfl

theorem Concerns.broken_line_iff {key reason : String} (concerns : Concerns key reason) :
    Broken (Diagnostic.mk .warning reason).line ↔ Broken key := by
  obtain ⟨front, back, told, frontSingle, backSingle⟩ := concerns.told
  have start : ¬Broken "warning: " := by decide
  simp only [line_warning, told, broken_append, start, frontSingle, backSingle, false_or,
    or_false]

theorem Concerns.lineFeed_mem_line_iff {key reason : String} (concerns : Concerns key reason) :
    '\n' ∈ (Diagnostic.mk .warning reason).line.toList ↔ '\n' ∈ key.toList := by
  obtain ⟨front, back, told, frontSingle, backSingle⟩ := concerns.told
  have notFront := ((not_broken_iff front).mp frontSingle).1
  have notBack := ((not_broken_iff back).mp backSingle).1
  have notStart : '\n' ∉ "warning: ".toList := by decide
  simp only [line_warning, told, String.toList_append, List.mem_append, notStart, notFront,
    notBack, false_or, or_false]

/-- Remarks without a line break are the lines of their report. -/
theorem splitOn_report {remarks : List Diagnostic}
    (single : ∀ remark ∈ remarks, ¬Broken remark.line) :
    (Diagnostic.report false remarks).toList.splitOn '\n' =
      remarks.map (·.line.toList) ++ [[]] := by
  rw [Diagnostic.report_uncolored, Yaml.Payload.splitOn_join, List.map_map]
  · rfl
  · intro line member
    obtain ⟨remark, isRemark, rfl⟩ := List.mem_map.mp member
    exact ((not_broken_iff _).mp (single remark isRemark)).1

/-- A lenient conversion leaves one warning for each gap that it meets.  Every gap names a
key of the document, and its warning is a single line if the key is one.  The report has a
line for each gap exactly when no key that is named holds a line feed; its lines are the
warnings where all keys of the document are single lines. -/
theorem lenient_remarks_told (format : Format) (document : String) :
    let gaps := gapsOfText document
    let remarks := (render .lenient format document).diagnostics
    remarks = gaps.map (⟨.warning, ·⟩) ∧
      (∀ remark ∈ remarks, "warning: ".toList <+: remark.line.toList) ∧
      (∀ gap ∈ gaps, ∃ key, TextHasKey document key ∧ Concerns key gap ∧
        (Broken (Diagnostic.mk .warning gap).line ↔ Broken key)) ∧
      ((Diagnostic.report false remarks).toList.count '\n' = gaps.length ↔
        ∀ gap ∈ gaps, ∀ key, Concerns key gap → '\n' ∉ key.toList) ∧
      ((∀ key, TextHasKey document key → ¬Broken key) →
        (∀ remark ∈ remarks, ¬Broken remark.line) ∧
          (Diagnostic.report false remarks).toList.splitOn '\n' =
            remarks.map (·.line.toList) ++ [[]]) := by
  intro gaps remarks
  have warned : remarks = gaps.map (⟨.warning, ·⟩) := diagnostics_render_eq_gaps format document
  have named : ∀ gap ∈ gaps, ∃ key, TextHasKey document key ∧ Concerns key gap :=
    fun _ isGap => exists_concerns_of_mem_gapsOfText isGap
  have sameLength : remarks.length = gaps.length := by rw [warned, List.length_map]
  refine ⟨warned, ?_, ?_, ?_, ?_⟩
  · rw [warned, List.forall_mem_map]
    intro gap _
    rw [line_warning, String.toList_append]
    exact List.prefix_append _ _
  · intro gap isGap
    obtain ⟨key, isKey, concerns⟩ := named gap isGap
    exact ⟨key, isKey, concerns, concerns.broken_line_iff⟩
  · rw [← sameLength, Diagnostic.count_report_eq_length_iff, warned, List.forall_mem_map]
    constructor
    · intro single gap isGap key concerns
      exact mt concerns.lineFeed_mem_line_iff.mpr (single gap isGap)
    · intro single gap isGap
      obtain ⟨key, _, concerns⟩ := named gap isGap
      exact mt concerns.lineFeed_mem_line_iff.mp (single gap isGap key concerns)
  · intro singleKeys
    have single : ∀ remark ∈ remarks, ¬Broken remark.line := by
      rw [warned, List.forall_mem_map]
      intro gap isGap
      obtain ⟨key, isKey, concerns⟩ := named gap isGap
      exact mt concerns.broken_line_iff.mp (singleKeys key isKey)
    exact ⟨single, splitOn_report single⟩

/-- A rule with a single field, whose key holds a line feed. -/
def forgedDocument : String :=
  "[\x7b\"x\\nerror: y\": 1\x7d]"

/-- The one gap of this document is told in two lines, and the second looks like an error. -/
theorem forged_error_told :
    (¬∀ remark ∈ (render .lenient .text forgedDocument).diagnostics, ¬Broken remark.line) ∧
      (render .lenient .text forgedDocument).result = .ok "" ∧
      (Diagnostic.report false (render .lenient .text forgedDocument).diagnostics).toList.splitOn
          '\n' =
        ["warning: rule 1: field `x".toList,
          "error: y` holds a non-string value and is dropped".toList, []] := by
  refine ⟨?_, ?_, ?_⟩
  · decide +kernel
  · decide +kernel
  · decide +kernel

end MetaDomain

end DomainRules
