import DomainRules.Proofs.MetaDomain.Lossless

/-!
# Rejected documents

Why a lenient conversion fails.  Reading is finished before writing begins, so a rule
that cannot be read is told before an earlier one that cannot be expressed.
`Rejection` lists the four causes in the order in which they take effect, each with
the warnings that come before the failure.  The main statement is that a lenient
conversion fails for these causes only, and tells the first of them.
-/

namespace DomainRules

open Json (Value)

/-! ## Rules that can be read -/

namespace Rule.Document

/-- The rules of a document, given directly or as one of its fields. -/
def HasRules (document : Value) (rules : List Value) : Prop :=
  document = .array rules ∨
    ∃ fields, document = .object fields ∧ fields.lookup "rules" = some (.array rules)

/-- A value that describes a rule: an object with no tag, or with a string for one. -/
def Readable (rule : Value) : Prop :=
  ∃ fields, rule = .object fields ∧
    (fields.lookup "type" = none ∨ fields.lookup "type" = some .null ∨
      ∃ tag, fields.lookup "type" = some (.string tag))

/-- An object with a tag. -/
def Tagged (rule : Value) (tag : String) : Prop :=
  ∃ fields, rule = .object fields ∧ fields.lookup "type" = some (.string tag)

/-- What is wrong with a document that has no rules. -/
def noRulesReason : Value → String
  | .object fields =>
      if (fields.lookup "rules").isSome then "`rules` must be an array"
      else "expected an array of rules or an object with a `rules` array"
  | _ => "expected an array of rules or an object with a `rules` array"

theorem readable_object_iff (fields : Json.Fields) :
    Readable (.object fields) ↔
      fields.lookup "type" = none ∨ fields.lookup "type" = some .null ∨
        ∃ tag, fields.lookup "type" = some (.string tag) := by
  constructor
  · rintro ⟨others, same, typed⟩
    cases same
    exact typed
  · intro typed
    exact ⟨fields, rfl, typed⟩

theorem isSome_load?_iff {rule : Value} : (load? rule).isSome = true ↔ Readable rule := by
  cases rule with
  | object fields =>
      have lookup : Json.Fields.get? typeKey fields = fields.lookup "type" := rfl
      rw [load?, kind?, Option.isSome_map, lookup, readable_object_iff]
      cases fields.lookup "type" with
      | none => simp
      | some value => cases value <;> simp
  | null | bool | number | string | array => simp [load?, Readable]

theorem load?_eq_none_of_not_readable {rule : Value} (unreadable : ¬Readable rule) :
    load? rule = none := by
  rw [← Option.not_isSome_iff_eq_none, isSome_load?_iff]
  exact unreadable

theorem load?_of_tagged {rule : Value} {tag : String} (tagged : Tagged rule tag) :
    ∃ item, load? rule = some item ∧ item.kind = .ofTag (some tag) := by
  rcases tagged with ⟨fields, rfl, held⟩
  have read : kind? fields = some (.ofTag (some tag)) := by
    have lookup : Json.Fields.get? typeKey fields = some (.string tag) := held
    rw [kind?, lookup]
  refine ⟨_, ?_, Item.kind_ofFields _ (fields.filterMap keptField?)⟩
  rw [load?, read, Option.map_some]

/-- A rule without a tag is plain. -/
theorem Readable.plainRule {rule : Value} (readable : Readable rule)
    (untagged : ∀ tag, ¬Tagged rule tag) : PlainRule rule := by
  rcases readable with ⟨fields, rfl, absent | null | ⟨tag, held⟩⟩
  · exact ⟨fields, rfl, .inl absent⟩
  · exact ⟨fields, rfl, .inr null⟩
  · exact absurd ⟨fields, rfl, held⟩ (untagged tag)

theorem rules_of_hasRules {document : Value} {values : List Value}
    (has : HasRules document values) : rules document = .ok values :=
  MetaDomain.rules_eq_ok_iff.mpr has

theorem rules_of_noRules {document : Value} (noRules : ¬∃ values, HasRules document values) :
    rules document = .error (malformed (noRulesReason document)) := by
  cases document with
  | array values => exact absurd ⟨values, .inl rfl⟩ noRules
  | object fields =>
      have lookup : Json.Fields.get? rulesKey fields = fields.lookup "rules" := rfl
      rw [rules, lookup, noRulesReason]
      cases held : fields.lookup "rules" with
      | none => rfl
      | some value =>
          cases value with
          | array values => exact absurd ⟨values, .inr ⟨fields, rfl, held⟩⟩ noRules
          | null | bool | number | string | object => rfl
  | null | bool | number | string => rfl

theorem items_lenient_of_readable {number : Nat} {values : List Value}
    (readable : ∀ value ∈ values, Readable value) :
    items .lenient number values =
      ⟨(gapsFrom number values).map .warning, .ok (values.filterMap load?)⟩ :=
  items_lenient_of_all fun value member => isSome_load?_iff.mpr (readable value member)

/-! ## The first rule that cannot be read -/

theorem leadingRules_of_first {before after : List Value} {rule : Value}
    (read : ∀ earlier ∈ before, Readable earlier) (unreadable : ¬Readable rule) :
    leadingRules (before ++ rule :: after) = before.length := by
  induction before with
  | nil => exact leadingRules_cons_of_none (load?_eq_none_of_not_readable unreadable)
  | cons first before ih =>
      have firstRead := isSome_load?_iff.mpr (read first List.mem_cons_self)
      rcases Option.isSome_iff_exists.mp firstRead with ⟨item, isItem⟩
      rw [List.cons_append, leadingRules_cons_of_some isItem, List.length_cons, ih]
      intro earlier member
      exact read earlier (List.mem_cons_of_mem _ member)

theorem items_lenient_of_first {number : Nat} {before after : List Value} {rule : Value}
    (read : ∀ earlier ∈ before, Readable earlier) (unreadable : ¬Readable rule) :
    items .lenient number (before ++ rule :: after) =
      ⟨(gapsFrom number before).map .warning,
        .error (notRule (number + before.length) rule)⟩ := by
  rw [items_lenient, leadingRules_of_first read unreadable]
  simp

end Rule.Document

/-! ## The first rule that cannot be expressed -/

namespace MetaDomain

open Rule (Field Item Kind RuleSet)
open Rule.Document (HasRules Readable Tagged PlainRule load? gapsFrom noRulesReason notRule)

theorem gather_itemLines_lenient_of_first {before after : List Item} {item : Item}
    {failure : Failure} (plain : ∀ earlier ∈ before, earlier.kind = .plain)
    (refused : refusal? item.kind = some failure) :
    gather (itemLines registry .lenient) (before ++ item :: after) =
      ⟨((before.flatMap presentFields).flatMap gapsOf).map .warning, .error failure⟩ := by
  induction before with
  | nil =>
      rw [List.nil_append, gather, itemLines_of_refusal .lenient refused]
      rfl
  | cons first before ih =>
      have tail := ih fun earlier member => plain earlier (List.mem_cons_of_mem _ member)
      rw [List.cons_append, gather, itemLines_lenient_of_plain (plain first List.mem_cons_self),
        tail, Logged.mk_ok_bind, Logged.mk_error_bind]
      simp

/-- The failure at a rule with a tag. -/
def tagFailure (tag : String) : Failure :=
  if tag = "logical" then .capability ⟨.output, .structural, "logical rule is not supported"⟩
  else .document (.unexpectedType tag)

theorem refusal?_ofTag (tag : String) :
    refusal? (.ofTag (some tag)) = some (tagFailure tag) := by
  by_cases logical : tag = "logical"
  · have isTag : tag = Rule.logicalTag := logical
    simp [Kind.ofTag, isTag, refusal?, tagFailure, Rule.logicalTag]
  · have notTag : tag ≠ Rule.logicalTag := logical
    simp [Kind.ofTag, notTag, refusal?, tagFailure, logical]

theorem kind_of_load?_of_plain {rule : Value} {item : Item} (plain : PlainRule rule)
    (read : load? rule = some item) : item.kind = .plain := by
  rcases plain with ⟨fields, rfl, untagged⟩
  rw [Rule.Document.load?_of_untagged untagged] at read
  cases read
  exact Item.kind_ofFields _ _

/-! ## Whole documents -/

/-- The warnings and the failure of a lenient conversion of a document that it
rejects. -/
inductive Rejection (document : String) : List Diagnostic → Failure → Prop where
  /-- The text is no JSON. -/
  | unreadable {report : Json.Report} :
      Value.ofString document = .error report →
      Rejection document [] (.document (.json report))
  /-- The document has no rules. -/
  | noRules {value : Value} :
      Value.ofString document = .ok value →
      (¬∃ rules, HasRules value rules) →
      Rejection document [] (.document (.malformed (noRulesReason value)))
  /-- A rule cannot be read, and those before it can. -/
  | noRule {value rule : Value} {before after : List Value} :
      Value.ofString document = .ok value →
      HasRules value (before ++ rule :: after) →
      (∀ earlier ∈ before, Readable earlier) →
      ¬Readable rule →
      Rejection document ((gapsFrom 1 before).map (⟨.warning, ·⟩))
        (notRule (before.length + 1) rule)
  /-- All rules can be read, and a rule has a tag that those before it do not have. -/
  | tagged {value rule : Value} {before after : List Value} {tag : String} :
      Value.ofString document = .ok value →
      HasRules value (before ++ rule :: after) →
      (∀ other ∈ before ++ rule :: after, Readable other) →
      (∀ earlier ∈ before, ∀ other, ¬Tagged earlier other) →
      Tagged rule tag →
      Rejection document
        ((gapsFrom 1 (before ++ rule :: after) ++ before.flatMap (ofRule gapsOf)).map
          (⟨.warning, ·⟩))
        (tagFailure tag)

/-- A document that is no JSON, has no rules, or has a rule that cannot be read or is
not plain. -/
def Faulty (document : String) : Prop :=
  (∃ report, Value.ofString document = .error report) ∨
    ∃ value, Value.ofString document = .ok value ∧
      ((¬∃ rules, HasRules value rules) ∨
        ∃ rules, HasRules value rules ∧
          ((∃ rule ∈ rules, ¬Readable rule) ∨ ∃ rule ∈ rules, ∃ tag, Tagged rule tag))

theorem linesOfDocument_of_tagged {document : Json.Document} {rule : Value}
    {before after : List Value} {tag : String}
    (has : HasRules document.value (before ++ rule :: after))
    (read : ∀ other ∈ before ++ rule :: after, Readable other)
    (untagged : ∀ earlier ∈ before, ∀ other, ¬Tagged earlier other)
    (tagged : Tagged rule tag) :
    linesOfDocument .lenient document.value =
      ⟨(gapsFrom 1 (before ++ rule :: after) ++ before.flatMap (ofRule gapsOf)).map .warning,
        .error (tagFailure tag)⟩ := by
  have isRules := Rule.Document.rules_of_hasRules has
  have plain : ∀ earlier ∈ before, PlainRule earlier := by
    intro earlier member
    exact (read earlier (List.mem_append_left _ member)).plainRule (untagged earlier member)
  have beforeWellFormed : ∀ earlier ∈ before, earlier.WellFormed := by
    intro earlier member
    exact wellFormed_rules isRules earlier (List.mem_append_left _ member)
  obtain ⟨item, isItem, kind⟩ := Rule.Document.load?_of_tagged tagged
  have refused : refusal? item.kind = some (tagFailure tag) := by
    rw [kind, refusal?_ofTag]
  have plainItems : ∀ earlier ∈ before.filterMap load?, earlier.kind = .plain := by
    intro earlier member
    rcases List.mem_filterMap.mp member with ⟨source, inBefore, isEarlier⟩
    exact kind_of_load?_of_plain (plain source inBefore) isEarlier
  rw [linesOfDocument, RuleSet.ofValue, isRules, Logged.ofExcept_ok, pure_bind,
    Rule.Document.items_lenient_of_readable read, Logged.mk_ok_bind]
  dsimp only [Logged.diagnostics_pure, Logged.result_pure]
  rw [List.append_nil, Logged.mk_ok_bind, lines_eq_gather, List.filterMap_append,
    List.filterMap_cons, isItem, gather_itemLines_lenient_of_first plainItems refused,
    flatMap_presentFields_of_loads gapsOf_empty plain beforeWellFormed, List.map_append]

theorem renderValue_of_failure {policy : Policy} {format : Format} {value : Value}
    {diagnostics : List Diagnostic} {failure : Failure}
    (failed : linesOfDocument policy value = ⟨diagnostics, .error failure⟩) :
    renderValue policy format value = ⟨diagnostics, .error failure⟩ := by
  rw [renderValue, failed, Logged.mk_error_bind]

/-- Every cause of a rejection makes the conversion fail, with the warnings before it. -/
theorem render_of_rejection {document : String} {diagnostics : List Diagnostic}
    {failure : Failure} (format : Format) (rejection : Rejection document diagnostics failure) :
    render .lenient format document = ⟨diagnostics, .error failure⟩ := by
  cases rejection with
  | unreadable unread => exact render_of_unread (Json.Document.ofString_eq_error_iff.mpr unread) _ _
  | noRules read noRules =>
      obtain ⟨document, isDocument, rfl⟩ := Json.Document.exists_of_read read
      rw [render_of_read isDocument]
      apply renderValue_of_failure
      rw [linesOfDocument, RuleSet.ofValue, Rule.Document.rules_of_noRules noRules]
      rfl
  | noRule read has readable unreadable =>
      obtain ⟨document, isDocument, rfl⟩ := Json.Document.exists_of_read read
      rw [render_of_read isDocument]
      apply renderValue_of_failure
      rw [linesOfDocument, RuleSet.ofValue, Rule.Document.rules_of_hasRules has,
        Logged.ofExcept_ok, pure_bind,
        Rule.Document.items_lenient_of_first readable unreadable, Nat.add_comm 1]
      rfl
  | tagged read has readable untagged tagged =>
      obtain ⟨document, isDocument, rfl⟩ := Json.Document.exists_of_read read
      rw [render_of_read isDocument]
      apply renderValue_of_failure
      exact linesOfDocument_of_tagged has readable untagged tagged

/-- The first member of a list with a property, if any has it. -/
theorem exists_first {α : Type} {members : List α} {property : α → Prop}
    (some : ∃ member ∈ members, property member) :
    ∃ before member after, members = before ++ member :: after ∧ property member ∧
      ∀ earlier ∈ before, ¬property earlier := by
  classical
  rcases some with ⟨member, isMember, holds⟩
  have found : (members.find? fun other => decide (property other)).isSome = true :=
    List.find?_isSome.mpr ⟨member, isMember, decide_eq_true holds⟩
  rcases Option.isSome_iff_exists.mp found with ⟨first, isFirst⟩
  rcases List.find?_eq_some_iff_append.mp isFirst with ⟨holdsFirst, before, after, split, none⟩
  refine ⟨before, first, after, split, of_decide_eq_true holdsFirst, ?_⟩
  intro earlier member
  simpa using none earlier member

/-- Of several causes the first one takes effect. -/
theorem exists_rejection_of_faulty {document : String} (faulty : Faulty document) :
    ∃ diagnostics failure, Rejection document diagnostics failure := by
  rcases faulty with ⟨report, unread⟩ | ⟨value, read, noRules | ⟨rules, has, fault⟩⟩
  · exact ⟨_, _, .unreadable unread⟩
  · exact ⟨_, _, .noRules read noRules⟩
  · by_cases unreadable : ∃ rule ∈ rules, ¬Readable rule
    · obtain ⟨before, rule, after, rfl, unreadable, readable⟩ := exists_first unreadable
      refine ⟨_, _, .noRule read has ?_ unreadable⟩
      intro earlier member
      exact not_not.mp (readable earlier member)
    · have readable : ∀ rule ∈ rules, Readable rule := by
        intro rule member
        by_contra unread
        exact unreadable ⟨rule, member, unread⟩
      have someTag := fault.resolve_left unreadable
      obtain ⟨before, rule, after, rfl, ⟨tag, tagged⟩, untagged⟩ := exists_first someTag
      refine ⟨_, _, .tagged read has readable ?_ tagged⟩
      intro earlier member other
      exact not_exists.mp (untagged earlier member) other

/-- Without a cause the conversion succeeds. -/
theorem render_of_not_faulty {document : String} (format : Format)
    (faultless : ¬Faulty document) :
    ∃ text, (render .lenient format document).result = .ok text := by
  cases read : Json.Document.ofString document with
  | error report =>
      exact absurd (.inl ⟨report, Json.Document.ofString_eq_error_iff.mp read⟩) faultless
  | ok parsed =>
      have isValue := Json.Document.ofString_eq_ok_iff.mp read
      have hasRules : ∃ rules, HasRules parsed.value rules := by
        by_contra noRules
        exact faultless (.inr ⟨_, isValue, .inl noRules⟩)
      rcases hasRules with ⟨rules, has⟩
      have isRules := Rule.Document.rules_of_hasRules has
      have plain : ∀ rule ∈ rules, PlainRule rule := by
        intro rule member
        have readable : Readable rule := by
          by_contra unreadable
          exact faultless (.inr ⟨_, isValue, .inr ⟨rules, has, .inl ⟨rule, member, unreadable⟩⟩⟩)
        apply readable.plainRule
        intro tag tagged
        exact faultless (.inr ⟨_, isValue, .inr ⟨rules, has, .inr ⟨rule, member, tag, tagged⟩⟩⟩)
      have converted := linesOfDocument_lenient ⟨isRules, plain, wellFormed_rules isRules⟩
      have success := congrArg Logged.result converted
      rw [render_of_read read]
      exact ⟨_, result_renderValue_eq_ok_iff.mpr ⟨_, success, rfl⟩⟩

/-- A lenient conversion fails for the causes of a rejection only.  It tells the first
of them, after the warnings of reading and of writing that come before it. -/
theorem render_lenient_eq_error_iff (format : Format) (document : String) :
    ((∃ failure, (render .lenient format document).result = .error failure) ↔
        Faulty document) ∧
      ∀ diagnostics failure,
        render .lenient format document = ⟨diagnostics, .error failure⟩ ↔
          Rejection document diagnostics failure := by
  have faulty_of_failure : ∀ failure,
      (render .lenient format document).result = .error failure → Faulty document := by
    intro failure failed
    by_contra faultless
    rcases render_of_not_faulty format faultless with ⟨text, success⟩
    rw [success] at failed
    cases failed
  constructor
  · constructor
    · rintro ⟨failure, failed⟩
      exact faulty_of_failure failure failed
    · intro faulty
      obtain ⟨diagnostics, failure, rejection⟩ := exists_rejection_of_faulty faulty
      exact ⟨failure, congrArg Logged.result (render_of_rejection format rejection)⟩
  · intro diagnostics failure
    constructor
    · intro run
      have faulty := faulty_of_failure failure (congrArg Logged.result run)
      obtain ⟨others, other, rejection⟩ := exists_rejection_of_faulty faulty
      have same := render_of_rejection format rejection
      rw [run] at same
      cases same
      exact rejection
    · exact render_of_rejection format

end MetaDomain

end DomainRules
