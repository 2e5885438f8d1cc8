import DomainRules.Proofs.MetaDomain.Rejection

/-!
# What reading a document makes of it

The rules of a document are told here entry by entry, without regard to the way in which
they are read.  An entry of an object is its tag, or a field that holds strings, or else a
gap unless the rule is logical.  Reading makes exactly this of a document: all of its rules
with all of their gaps, or those before the first value that is no rule.
-/

namespace DomainRules.Rule

open Json (Value)

namespace Document

/-- The kind of the rule that an object describes. -/
inductive HasKind (entries : Json.Fields) : Kind → Prop where
  | untagged : entries.lookup "type" = none ∨ entries.lookup "type" = some .null →
      HasKind entries .plain
  | logical : entries.lookup "type" = some (.string "logical") → HasKind entries .logical
  | unknown {tag : String} (isOther : tag ≠ "logical") :
      entries.lookup "type" = some (.string tag) → HasKind entries (.unknown tag isOther)

/-- The fields that the entries of an object hold, and the keys of those that hold
something other than strings. -/
inductive Holding : Json.Fields → List Field → List String → Prop where
  | nil : Holding [] [] []
  | tag {value : Value} {entries : Json.Fields} {fields : List Field} {others : List String} :
      Holding entries fields others →
      Holding (("type", value) :: entries) fields others
  | field {key : String} {value : Value} {texts : List String} {entries : Json.Fields}
      {fields : List Field} {others : List String} :
      key ≠ "type" → value.Holds texts → Holding entries fields others →
      Holding ((key, value) :: entries) (⟨key, texts⟩ :: fields) others
  | other {key : String} {value : Value} {entries : Json.Fields} {fields : List Field}
      {others : List String} :
      key ≠ "type" → (∀ texts, ¬value.Holds texts) → Holding entries fields others →
      Holding ((key, value) :: entries) fields (key :: others)

/-- A value with a number in its document describes a rule, apart from some gaps. -/
structure Describes (number : Nat) (value : Value) (item : Item) (gaps : List String) : Prop where
  object : ∃ entries others, value = .object entries ∧ HasKind entries item.kind ∧
    Holding entries item.fields others ∧
    gaps =
      if item.kind = .logical then []
      else
        others.map fun key =>
          "rule " ++ toString number ++ ": field `" ++ key ++
            "` holds a non-string value and is dropped"
  distinct : item.keys.Nodup

/-- Values describe rules one by one, the first of which has the given number. -/
inductive Decodes : Nat → List Value → List Item → List String → Prop where
  | nil {number : Nat} : Decodes number [] [] []
  | cons {number : Nat} {value : Value} {values : List Value} {item : Item} {items : List Item}
      {gaps others : List String} :
      Describes number value item gaps → Decodes (number + 1) values items others →
      Decodes number (value :: values) (item :: items) (gaps ++ others)

/-- How a run ends that fails at its first gap. -/
def endAtGap (gaps : List String) (result : Except Failure RuleSet) : Except Failure RuleSet :=
  match gaps with
  | [] => result
  | first :: _ => .error (.capability ⟨.input, .degradable, first⟩)

/-- What reading a document comes to: a lenient run warns of every gap, and a strict one
fails at the first without a warning. -/
structure Reads (document : Value) (gaps : List String) (result : Except Failure RuleSet) :
    Prop where
  lenient : RuleSet.ofValue .lenient document = ⟨gaps.map (⟨.warning, ·⟩), result⟩
  strict : RuleSet.ofValue .strict document = ⟨[], endAtGap gaps result⟩

/-! ## One rule -/

theorem hasKind_of_kind? {entries : Json.Fields} {kind : Kind} (read : kind? entries = some kind) :
    HasKind entries kind := by
  have lookup : Json.Fields.get? typeKey entries = entries.lookup "type" := rfl
  rw [kind?, lookup] at read
  split at read
  · next absent =>
      cases read
      exact .untagged (.inl absent)
  · next null =>
      cases read
      exact .untagged (.inr null)
  · next tag held =>
      cases read
      rw [Kind.ofTag]
      split
      · next isLogical =>
          rw [isLogical] at held
          exact .logical held
      · next isOther => exact .unknown isOther held
  · cases read

theorem holding_filterMap (entries : Json.Fields) :
    Holding entries
      ((entries.filterMap keptField?).map fun (key, values) => ⟨key, values⟩)
      (entries.filterMap droppedKey?) := by
  induction entries with
  | nil => exact .nil
  | cons entry entries ih =>
      rcases entry with ⟨key, value⟩
      rw [List.filterMap_cons, List.filterMap_cons]
      by_cases isType : key = "type"
      · subst isType
        exact .tag ih
      · have isField : key ≠ typeKey := isType
        cases read : value.strings? with
        | some texts =>
            simp only [keptField?, droppedKey?, isField, read, if_false, Option.map_some,
              Option.isSome_some, or_true, if_true, List.map_cons]
            exact .field isType (Value.strings?_eq_some_iff.mp read) ih
        | none =>
            simp only [keptField?, droppedKey?, isField, read, if_false, Option.map_none,
              Option.isSome_none, Bool.false_eq_true, or_false]
            apply Holding.other isType _ ih
            intro texts holds
            rw [Value.strings?_eq_some_iff.mpr holds] at read
            cases read

/-- What is held, and what is not, comes from entries. -/
theorem Holding.keys {entries : Json.Fields} {fields : List Field} {others : List String}
    (holding : Holding entries fields others) :
    fields.map Field.key ⊆ entries.map Prod.fst ∧ others ⊆ entries.map Prod.fst := by
  induction holding with
  | nil => exact ⟨List.nil_subset _, List.nil_subset _⟩
  | tag _ ih => exact ⟨List.subset_cons_of_subset _ ih.1, List.subset_cons_of_subset _ ih.2⟩
  | field _ _ _ ih => exact ⟨List.cons_subset_cons _ ih.1, List.subset_cons_of_subset _ ih.2⟩
  | other _ _ _ ih => exact ⟨List.subset_cons_of_subset _ ih.1, List.cons_subset_cons _ ih.2⟩

theorem describes_of_load? {value : Value} {item : Item} (wellFormed : value.WellFormed)
    (read : load? value = some item) (number : Nat) :
    Describes number value item (loadGaps number value) := by
  cases value with
  | object entries =>
      rcases Option.map_eq_some_iff.mp read with ⟨kind, isKind, rfl⟩
      have distinct : ((entries.filterMap keptField?).map Prod.fst).Nodup := by
        apply List.Nodup.sublist _ wellFormed.keys_nodup
        exact keys_filterMap_sublist (fun _ _ keeps => key_of_keptField? keeps) entries
      refine ⟨⟨entries, entries.filterMap droppedKey?, rfl, ?_, ?_, ?_⟩, Item.distinct _⟩
      · rw [Item.kind_ofFields]
        exact hasKind_of_kind? isKind
      · rw [Item.fields_ofFields kind distinct]
        exact holding_filterMap entries
      · rw [Item.kind_ofFields, loadGaps, isKind]
        rfl
  | null | bool | number | string | array => cases read

/-! ## All rules -/

theorem decodes_of_readable {values : List Value} (wellFormed : ∀ value ∈ values, value.WellFormed)
    (readable : ∀ value ∈ values, Readable value) (number : Nat) :
    Decodes number values (values.filterMap load?) (gapsFrom number values) := by
  induction values generalizing number with
  | nil => exact .nil
  | cons value values ih =>
      have isRule := isSome_load?_iff.mpr (readable value List.mem_cons_self)
      rcases Option.isSome_iff_exists.mp isRule with ⟨item, read⟩
      rw [List.filterMap_cons, read, gapsFrom_cons]
      apply Decodes.cons
      · exact describes_of_load? (wellFormed value List.mem_cons_self) read number
      · apply ih
        · exact fun other member => wellFormed other (List.mem_cons_of_mem _ member)
        · exact fun other member => readable other (List.mem_cons_of_mem _ member)

theorem length_eq_of_decodes {number : Nat} {values : List Value} {items : List Item}
    {gaps : List String} (decodes : Decodes number values items gaps) :
    items.length = values.length := by
  induction decodes with
  | nil => rfl
  | cons _ _ ih => rw [List.length_cons, List.length_cons, ih]

/-- A document comes to what its rules do. -/
theorem reads_of_items {document : Value} {values : List Value} {gaps : List String}
    {result : Except Failure (List Item)} (has : HasRules document values)
    (run : items .lenient 1 values = ⟨gaps.map .warning, result⟩) :
    Reads document gaps (result.map RuleSet.mk) := by
  have lenient : RuleSet.ofValue .lenient document =
      ⟨gaps.map .warning, result.map RuleSet.mk⟩ := by
    rw [RuleSet.ofValue, rules_of_hasRules has, Logged.ofExcept_ok, pure_bind, run]
    cases result with
    | error failure => rfl
    | ok items =>
        rw [Logged.mk_ok_bind, Logged.diagnostics_pure, List.append_nil]
        rfl
  refine ⟨lenient, ?_⟩
  rw [RuleSet.ofValue_strict, lenient]
  cases gaps with
  | nil => rfl
  | cons first others => rfl

end Document

namespace RuleSet

open Document (HasRules Readable Decodes Reads notRule)

/-- A document whose rules can all be read comes to these rules and their gaps.  Any other
one fails at the first value that is no rule, after the gaps of the rules before it. -/
theorem ofValue_decodes {document : Json.Document} {values : List Value}
    (has : HasRules document.value values) :
    ((∀ value ∈ values, Readable value) →
        ∃ items gaps, Decodes 1 values items gaps ∧ items.length = values.length ∧
          Reads document.value gaps (.ok ⟨items⟩)) ∧
      ∀ before value after, values = before ++ value :: after →
        (∀ earlier ∈ before, Readable earlier) → ¬Readable value →
          ∃ items gaps, Decodes 1 before items gaps ∧
            Reads document.value gaps (.error (notRule (before.length + 1) value)) := by
  have wellFormedValues := MetaDomain.wellFormed_rules (Document.rules_of_hasRules has)
  constructor
  · intro readable
    have decodes := Document.decodes_of_readable wellFormedValues readable 1
    refine ⟨_, _, decodes, Document.length_eq_of_decodes decodes, ?_⟩
    exact Document.reads_of_items has (Document.items_lenient_of_readable readable)
  · rintro before value after rfl readable unreadable
    have wellFormedBefore : ∀ earlier ∈ before, earlier.WellFormed := by
      intro earlier member
      exact wellFormedValues earlier (List.mem_append_left _ member)
    have decodes := Document.decodes_of_readable wellFormedBefore readable 1
    refine ⟨_, _, decodes, ?_⟩
    rw [Nat.add_comm]
    exact Document.reads_of_items has (Document.items_lenient_of_first readable unreadable)

/-- A rule with its tag between other fields, and a logical one. -/
def oddRules : List Value :=
  [.object [("domain", .array [.string "a.example", .string "b.example"]), ("type", .string "x"),
      ("port", .bool true), ("geoip", .array [])],
    .object [("type", .string "logical"), ("rules", .array [.null])]]

/-- These rules and, behind them, a value that is none. -/
def brokenDocument : Json.Document where
  value := .object [("version", .bool true), ("rules", .array (oddRules ++ [.string "domain"]))]
  wellFormed := by simp [oddRules]

/-- The gap of the first rule. -/
def portReason : String :=
  "rule 1: field `port` holds a non-string value and is dropped"

theorem brokenDocument_decodes :
    HasRules brokenDocument.value (oddRules ++ [.string "domain"]) ∧
      ∃ items, Decodes 1 oddRules items [portReason] ∧
        Reads brokenDocument.value [portReason]
          (.error (.document (.malformed "rule 3 is not an object"))) := by
  have has : HasRules brokenDocument.value (oddRules ++ [.string "domain"]) :=
    .inr ⟨_, rfl, rfl⟩
  have read : ∀ value ∈ oddRules, (Document.load? value).isSome = true := by decide +kernel
  have readable : ∀ value ∈ oddRules, Readable value := by
    intro value member
    exact Document.isSome_load?_iff.mp (read value member)
  have unreadable : ¬Readable (.string "domain") := by
    rintro ⟨_, isObject, _⟩
    cases isObject
  obtain ⟨items, gaps, decodes, reads⟩ :=
    (ofValue_decodes has).2 oddRules _ [] rfl readable unreadable
  have warned : (ofValue .lenient brokenDocument.value).diagnostics = [⟨.warning, portReason⟩] := by
    decide +kernel
  rw [reads.lenient] at warned
  obtain ⟨gap, rfl, same⟩ := List.map_eq_singleton_iff.mp warned
  cases same
  exact ⟨has, items, decodes, reads⟩

end RuleSet

end DomainRules.Rule
