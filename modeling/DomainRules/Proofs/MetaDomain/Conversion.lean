import DomainRules.Proofs.Json.WellFormed
import DomainRules.Proofs.MetaDomain.Strictness

/-!
# Conversion of documents that have been read

What a conversion makes of a JSON value, told field by field.  A lenient conversion
succeeds on the documents all of whose rules are objects without a tag; its lines
are the lines of the fields of all rules, in the order of the document, and it warns
first of the fields that hold something other than strings and then of the others
that the target syntax cannot express.
-/

namespace DomainRules

open Json (Value)

/-! ## Rules without a tag -/

namespace Rule.Document

/-- The field `type` is missing or holds nothing. -/
def Untagged (fields : Json.Fields) : Prop :=
  Json.Fields.get? typeKey fields = none ∨ Json.Fields.get? typeKey fields = some .null

/-- A value that describes a plain rule. -/
def PlainRule (rule : Value) : Prop :=
  ∃ fields, rule = .object fields ∧ Untagged fields

theorem kind?_eq_plain_iff (fields : Json.Fields) : kind? fields = some .plain ↔ Untagged fields := by
  rw [kind?, Untagged]
  cases Json.Fields.get? typeKey fields with
  | none => simp
  | some value =>
      cases value with
      | null => simp
      | string tag =>
          by_cases logical : tag = logicalTag <;> simp [Kind.ofTag, logical]
      | bool | number | array | object => simp

theorem load?_of_untagged {fields : Json.Fields} (untagged : Untagged fields) :
    load? (.object fields) = some (.ofFields .plain (fields.filterMap keptField?)) := by
  rw [load?, (kind?_eq_plain_iff fields).mpr untagged]
  rfl

theorem plainRule_of_load? {rule : Value} {item : Item} (read : load? rule = some item)
    (plain : item.kind = .plain) : PlainRule rule := by
  cases rule with
  | object fields =>
      rcases Option.map_eq_some_iff.mp read with ⟨kind, isKind, rfl⟩
      rw [Item.kind_ofFields] at plain
      rw [plain] at isKind
      exact ⟨fields, rfl, (kind?_eq_plain_iff fields).mp isKind⟩
  | null | bool | number | string | array => cases read

/-- The keys of the fields of a value that hold something other than strings. -/
def droppedKeys : Value → List String
  | .object fields => fields.filterMap droppedKey?
  | _ => []

theorem loadGaps_of_plain {rule : Value} (number : Nat) (plain : PlainRule rule) :
    loadGaps number rule = (droppedKeys rule).map (notStrings number) := by
  rcases plain with ⟨fields, rfl, untagged⟩
  rw [loadGaps, (kind?_eq_plain_iff fields).mpr untagged]
  rfl

/-- The numbers of the rules change the words for their gaps only. -/
theorem length_gapsFrom {number : Nat} {rules : List Value}
    (plain : ∀ rule ∈ rules, PlainRule rule) :
    (gapsFrom number rules).length = (rules.flatMap droppedKeys).length := by
  induction rules generalizing number with
  | nil => rfl
  | cons rule rules ih =>
      rw [gapsFrom_cons, loadGaps_of_plain number (plain rule List.mem_cons_self),
        List.length_append, List.length_map, List.flatMap_cons, List.length_append, ih]
      exact fun other member => plain other (List.mem_cons_of_mem _ member)

/-- Fields that keep their keys stay distinct when some of them are left out. -/
theorem keys_filterMap_sublist {α : Type} {change : String × Value → Option (String × α)}
    (keeps : ∀ field changed, change field = some changed → changed.1 = field.1)
    (fields : Json.Fields) :
    ((fields.filterMap change).map Prod.fst).Sublist (fields.map Prod.fst) := by
  induction fields with
  | nil => exact List.Sublist.slnil
  | cons field fields ih =>
      rw [List.filterMap_cons]
      cases changed : change field with
      | none => exact ih.cons _
      | some result =>
          rw [List.map_cons, List.map_cons, keeps field result changed]
          exact ih.cons_cons _

theorem key_of_keptField? {field : String × Value} {kept : String × List String}
    (keeps : keptField? field = some kept) : kept.1 = field.1 := by
  rcases field with ⟨key, value⟩
  rw [keptField?] at keeps
  split at keeps
  · cases keeps
  · rcases Option.map_eq_some_iff.mp keeps with ⟨values, _, rfl⟩
    rfl

end Rule.Document

namespace MetaDomain

open Rule (Field Item RuleSet)
open Rule.Document (Untagged PlainRule keptField? load? gapsFrom)

/-! ## Conversions -/

/-- The lines that a document becomes. -/
def linesOfDocument (policy : Policy) (document : Value) : Logged Failure (List String) := do
  let rules ← RuleSet.ofValue policy document
  lines policy rules

/-- The text that a document becomes. -/
def renderValue (policy : Policy) (format : Format) (document : Value) :
    Logged Failure String := do
  let lines ← linesOfDocument policy document
  pure (format.render lines)

/-- A text that cannot be read is not converted. -/
theorem render_of_unread {text : String} {report : Json.Report}
    (unread : Json.Document.ofString text = .error report) (policy : Policy) (format : Format) :
    render policy format text = ⟨[], .error (.document (.json report))⟩ := by
  rw [render, RuleSet.ofString, Json.Document.ofString_eq_error_iff.mp unread]
  rfl

/-- A text is converted by reading it as a document and converting that. -/
theorem render_of_read {text : String} {document : Json.Document}
    (read : Json.Document.ofString text = .ok document) (policy : Policy) (format : Format) :
    render policy format text = renderValue policy format document.value := by
  rw [render, RuleSet.ofString, Json.Document.ofString_eq_ok_iff.mp read, renderValue,
    linesOfDocument, bind_assoc]
  rfl

theorem result_renderValue_eq_ok_iff {policy : Policy} {format : Format} {document : Value}
    {text : String} :
    (renderValue policy format document).result = .ok text ↔
      ∃ lines, (linesOfDocument policy document).result = .ok lines ∧
        text = format.render lines := by
  rw [renderValue, Logged.result_bind_eq_ok_iff]
  simp only [Logged.result_pure, Except.ok.injEq, eq_comm]

theorem diagnostics_renderValue (policy : Policy) (format : Format) (document : Value) :
    (renderValue policy format document).diagnostics =
      (linesOfDocument policy document).diagnostics := by
  rw [renderValue]
  rcases linesOfDocument policy document with ⟨diagnostics, result⟩
  cases result with
  | ok lines =>
      rw [Logged.mk_ok_bind, Logged.diagnostics_pure, List.append_nil]
  | error failure => rw [Logged.mk_error_bind]

/-- A strict conversion succeeds where a lenient one does without a warning. -/
theorem result_linesOfDocument_strict_eq_ok_iff {document : Value} {lines : List String} :
    (linesOfDocument .strict document).result = .ok lines ↔
      linesOfDocument .lenient document = ⟨[], .ok lines⟩ := by
  rw [linesOfDocument, linesOfDocument, RuleSet.ofValue_strict, funext lines_strict,
    Logged.result_bind_eq_ok_iff, Logged.bind_eq_silent_iff]
  simp only [Logged.result_interrupted_eq_ok_iff]

theorem diagnostics_linesOfDocument_strict (document : Value) :
    (linesOfDocument .strict document).diagnostics = [] := by
  rw [linesOfDocument, RuleSet.ofValue_strict, funext lines_strict]
  apply Logged.diagnostics_bind_eq_nil
  · exact Logged.diagnostics_interrupted _
  · intro rules
    exact Logged.diagnostics_interrupted _

/-! ## Documents of plain rules -/

/-- What a field of a document contributes, given what a field of a rule does. -/
def ofEntry {α : Type} (image : Field → List α) (entry : String × Value) : List α :=
  match keptField? entry with
  | some (key, values) => image ⟨key, values⟩
  | none => []

/-- What a rule of a document contributes, given what a field of a rule does. -/
def ofRule {α : Type} (image : Field → List α) : Value → List α
  | .object fields => fields.flatMap (ofEntry image)
  | _ => []

theorem flatMap_ofEntry {α : Type} (image : Field → List α) (fields : Json.Fields) :
    ((fields.filterMap keptField?).map fun (key, values) => ⟨key, values⟩).flatMap image =
      fields.flatMap (ofEntry image) := by
  induction fields with
  | nil => rfl
  | cons field fields ih =>
      rw [List.filterMap_cons, List.flatMap_cons, ← ih, ofEntry]
      cases keptField? field <;> rfl

theorem flatMap_presentFields_of_load {α : Type} {image : Field → List α} {rule : Value}
    (empty : ∀ key, image ⟨key, []⟩ = []) (plain : PlainRule rule)
    (wellFormed : rule.WellFormed) :
    ∃ item, load? rule = some item ∧ item.kind = .plain ∧
      (presentFields item).flatMap image = ofRule image rule := by
  rcases plain with ⟨fields, rfl, untagged⟩
  refine ⟨_, Rule.Document.load?_of_untagged untagged, Item.kind_ofFields _ _, ?_⟩
  have distinct : ((fields.filterMap keptField?).map Prod.fst).Nodup := by
    apply List.Nodup.sublist _ wellFormed.keys_nodup
    exact Rule.Document.keys_filterMap_sublist
      (fun _ _ keeps => Rule.Document.key_of_keptField? keeps) fields
  rw [flatMap_presentFields _ empty, Item.fields_ofFields .plain distinct, flatMap_ofEntry]
  rfl

theorem flatMap_presentFields_of_loads {α : Type} {image : Field → List α} {rules : List Value}
    (empty : ∀ key, image ⟨key, []⟩ = []) (plain : ∀ rule ∈ rules, PlainRule rule)
    (wellFormed : ∀ rule ∈ rules, rule.WellFormed) :
    ((rules.filterMap load?).flatMap presentFields).flatMap image =
      rules.flatMap (ofRule image) := by
  induction rules with
  | nil => rfl
  | cons rule rules ih =>
      obtain ⟨item, read, _, contributes⟩ := flatMap_presentFields_of_load empty
        (plain rule List.mem_cons_self) (wellFormed rule List.mem_cons_self)
      rw [List.filterMap_cons, read, List.flatMap_cons, List.flatMap_append, List.flatMap_cons,
        contributes, ih]
      · exact fun other member => plain other (List.mem_cons_of_mem _ member)
      · exact fun other member => wellFormed other (List.mem_cons_of_mem _ member)

/-- A document whose rules are all plain and have distinct keys. -/
structure Plain (document : Value) (rules : List Value) : Prop where
  read : Rule.Document.rules document = .ok rules
  plain : ∀ rule ∈ rules, PlainRule rule
  wellFormed : ∀ rule ∈ rules, rule.WellFormed

/-- A lenient conversion of plain rules loses the gaps of their fields only. -/
theorem linesOfDocument_lenient {document : Value} {rules : List Value}
    (plain : Plain document rules) :
    linesOfDocument .lenient document =
      ⟨(gapsFrom 1 rules ++ rules.flatMap (ofRule gapsOf)).map .warning,
        .ok (rules.flatMap (ofRule linesOf))⟩ := by
  have loads : ∀ rule ∈ rules, ∃ item, load? rule = some item ∧ item.kind = .plain := by
    intro rule member
    rcases plain.plain rule member with ⟨fields, rfl, untagged⟩
    exact ⟨_, Rule.Document.load?_of_untagged untagged, Item.kind_ofFields _ _⟩
  have readable : ∀ rule ∈ rules, (load? rule).isSome := by
    intro rule member
    rcases loads rule member with ⟨item, read, _⟩
    rw [read]
    rfl
  have allPlain : ∀ item ∈ rules.filterMap load?, item.kind = .plain := by
    intro item member
    rcases List.mem_filterMap.mp member with ⟨rule, isRule, read⟩
    rcases loads rule isRule with ⟨other, readOther, isPlain⟩
    rw [read] at readOther
    cases readOther
    exact isPlain
  rw [linesOfDocument, RuleSet.ofValue, plain.read, Logged.ofExcept_ok, pure_bind,
    Rule.Document.items_lenient_of_all readable, Logged.mk_ok_bind]
  dsimp only [Logged.diagnostics_pure, Logged.result_pure]
  rw [List.append_nil, Logged.mk_ok_bind, lines_eq_gather, gather_itemLines_lenient,
    visitedFields_of_all_plain allPlain, outcome_of_all_plain allPlain,
    flatMap_presentFields_of_loads gapsOf_empty plain.plain plain.wellFormed,
    flatMap_presentFields_of_loads linesOf_empty plain.plain plain.wellFormed,
    ← List.map_append]

theorem wellFormed_rules {document : Json.Document} {rules : List Value}
    (read : Rule.Document.rules document.value = .ok rules) :
    ∀ rule ∈ rules, rule.WellFormed := by
  obtain ⟨value, wellFormed⟩ := document
  cases value with
  | array items =>
      cases read
      exact wellFormed.items
  | object fields =>
      rw [Rule.Document.rules] at read
      split at read
      · next rules' held =>
          cases read
          exact (wellFormed.values _ (Json.Fields.mem_of_get? held)).items
      · cases read
      · cases read
  | null | bool | number | string => cases read

/-- A document that a lenient conversion succeeds on is one of plain rules. -/
theorem exists_plain_of_lenient_success {document : Json.Document} {lines : List String}
    (success : (linesOfDocument .lenient document.value).result = .ok lines) :
    ∃ rules, Plain document.value rules := by
  rw [linesOfDocument, Logged.result_bind_eq_ok_iff] at success
  rcases success with ⟨ruleSet, read, written⟩
  rw [RuleSet.ofValue, Logged.result_bind_eq_ok_iff] at read
  rcases read with ⟨rules, isRules, read⟩
  rw [Logged.result_bind_eq_ok_iff] at read
  rcases read with ⟨items, isItems, read⟩
  cases read
  refine ⟨rules, isRules, ?_, wellFormed_rules isRules⟩
  have readable := Rule.Document.all_of_items_lenient isItems
  rw [Rule.Document.items_lenient_of_all readable] at isItems
  cases isItems
  rw [lines_eq_gather, gather_itemLines_lenient] at written
  have plain := all_plain_of_outcome written
  intro rule member
  rcases Option.isSome_iff_exists.mp (readable rule member) with ⟨item, read⟩
  exact Rule.Document.plainRule_of_load? read
    (plain item (List.mem_filterMap.mpr ⟨rule, member, read⟩))

end MetaDomain

end DomainRules
