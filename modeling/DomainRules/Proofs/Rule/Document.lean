import DomainRules.Rule.Document
import DomainRules.Proofs.Policy
import DomainRules.Proofs.Rule.Item

/-!
# What a lenient run reads from a document

A rule is read from the fields of its object alone: its kind, the fields that hold
strings, and a gap for each of the others.  The main statements account for a whole
document: the rules in their order with all their gaps, up to the first value that
is no rule.
-/

namespace DomainRules.Rule.Document

open Json (Value)

/-- The kind that the field `type` stands for, if it stands for one. -/
def kind? (fields : Json.Fields) : Option Kind :=
  match Json.Fields.get? typeKey fields with
  | none => some .plain
  | some .null => some .plain
  | some (.string tag) => some (.ofTag (some tag))
  | some _ => none

/-- The strings of a field of a rule, if it holds strings. -/
def keptField? : String × Value → Option (String × List String)
  | (key, value) => if key = typeKey then none else value.strings?.map (key, ·)

/-- The key of a field of a rule that holds something other than strings. -/
def droppedKey? : String × Value → Option String
  | (key, value) => if key = typeKey ∨ value.strings?.isSome then none else some key

/-- The gaps of a rule.  A logical rule has none, whatever it holds. -/
def loadGapsOf (number : Nat) (kind : Kind) (fields : Json.Fields) : List String :=
  if kind = .logical then []
  else
    (fields.filterMap droppedKey?).map fun key =>
      "rule " ++ toString number ++ ": field `" ++ key ++
        "` holds a non-string value and is dropped"

/-- The rule that a value describes, if it describes one. -/
def load? : Value → Option Item
  | .object fields => (kind? fields).map fun kind => .ofFields kind (fields.filterMap keptField?)
  | _ => none

/-- The gaps of the rule that a value describes. -/
def loadGaps (number : Nat) : Value → List String
  | .object fields => ((kind? fields).map fun kind => loadGapsOf number kind fields).getD []
  | _ => []

/-- What is wrong with a value that describes no rule. -/
def notRule (number : Nat) : Value → Failure
  | .object _ =>
      .document (.malformed ("rule " ++ toString number ++ ": `type` must be a string"))
  | _ => .document (.malformed ("rule " ++ toString number ++ " is not an object"))

/-- How many values describe rules before the first that does not. -/
def leadingRules (values : List Value) : Nat :=
  values.findIdx (load? · |>.isNone)

/-- The gaps of rules, the first of which has the given number in its document. -/
def gapsFrom (number : Nat) (values : List Value) : List String :=
  (values.zipIdx number).flatMap fun (value, number) => loadGaps number value

/-! ## One rule -/

theorem kind_eq (number : Nat) (fields : Json.Fields) :
    kind number fields =
      match kind? fields with
      | some kind => .ok kind
      | none => .error (notRule number (.object fields)) := by
  rw [kind, kind?]
  cases Json.Fields.get? typeKey fields with
  | none => rfl
  | some value => cases value <;> rfl

/-- Sets a field that holds strings; the others leave the rule as it is. -/
def withKept (item : Item) (field : String × Value) : Item :=
  match keptField? field with
  | some (key, values) => item.withField key values
  | none => item

theorem kind_withKept (item : Item) (field : String × Value) :
    (withKept item field).kind = item.kind := by
  rw [withKept]
  cases keptField? field <;> rfl

theorem foldl_withKept (fields : Json.Fields) (start : Item) :
    fields.foldl withKept start =
      (fields.filterMap keptField?).foldl
        (fun item (key, values) => item.withField key values) start := by
  induction fields generalizing start with
  | nil => rfl
  | cons field fields ih =>
      rw [List.foldl_cons, ih, List.filterMap_cons, withKept]
      cases keptField? field <;> rfl

theorem loadGapsOf_cons (number : Nat) (kind : Kind) (field : String × Value)
    (fields : Json.Fields) :
    loadGapsOf number kind (field :: fields) =
      loadGapsOf number kind [field] ++ loadGapsOf number kind fields := by
  rw [loadGapsOf, loadGapsOf, loadGapsOf]
  split
  · rfl
  · rw [List.filterMap_cons, List.filterMap_cons]
    cases droppedKey? field <;> rfl

theorem addField_lenient (number : Nat) (item : Item) (field : String × Value) :
    addField .lenient number item field =
      ⟨(loadGapsOf number item.kind [field]).map .warning, .ok (withKept item field)⟩ := by
  rcases field with ⟨key, value⟩
  by_cases isType : key = typeKey
  · simp only [addField, loadGapsOf, withKept, keptField?, droppedKey?, isType, if_true, true_or,
      List.filterMap_cons, List.filterMap_nil, List.map_nil, ite_self]
    rfl
  · cases held : value.strings? with
    | some values =>
        simp only [addField, loadGapsOf, withKept, keptField?, droppedKey?, isType, held, if_false,
          Option.isSome_some, or_true, if_true, Option.map_some, List.filterMap_cons,
          List.filterMap_nil, List.map_nil, ite_self]
        rfl
    | none =>
        by_cases logical : item.kind = .logical
        · simp only [addField, loadGapsOf, withKept, keptField?, isType, held, logical, if_false,
            if_true, Option.map_none, List.map_nil]
          rfl
        · simp only [addField, loadGapsOf, withKept, keptField?, droppedKey?, isType, held,
            logical, if_false, Option.map_none, Option.isSome_none, Bool.false_eq_true, or_false,
            List.filterMap_cons, List.filterMap_nil, List.map_cons, List.map_nil]
          rfl

/-- The fields of an object are added to a rule of a kind that does not change. -/
theorem foldlM_addField_lenient (number : Nat) (fields : Json.Fields) (start : Item) :
    fields.foldlM (addField .lenient number) start =
      ⟨(loadGapsOf number start.kind fields).map .warning,
        .ok (fields.foldl withKept start)⟩ := by
  induction fields generalizing start with
  | nil =>
      rw [loadGapsOf, List.filterMap_nil, List.map_nil, ite_self]
      rfl
  | cons field fields ih =>
      rw [List.foldlM_cons, addField_lenient, Logged.mk_ok_bind, ih, kind_withKept,
        loadGapsOf_cons number start.kind field fields, List.map_append, List.foldl_cons]

theorem item_lenient (number : Nat) (value : Value) :
    item .lenient number value =
      match load? value with
      | some item => ⟨(loadGaps number value).map .warning, .ok item⟩
      | none => Logged.fail (notRule number value) := by
  cases value with
  | object fields =>
      rw [item, kind_eq, load?]
      cases read : kind? fields with
      | none => rfl
      | some kind =>
          simp only [Option.map_some, Logged.ofExcept_ok, pure_bind, foldlM_addField_lenient,
            foldl_withKept, loadGaps, read, Option.getD_some]
          rfl
  | null | bool | number | string | array => rfl

/-! ## All rules -/

theorem leadingRules_cons_of_some {value : Value} {values : List Value} {item : Item}
    (read : load? value = some item) :
    leadingRules (value :: values) = leadingRules values + 1 := by
  simp [leadingRules, List.findIdx_cons, read]

theorem leadingRules_cons_of_none {value : Value} {values : List Value}
    (unread : load? value = none) : leadingRules (value :: values) = 0 := by
  simp [leadingRules, List.findIdx_cons, unread]

theorem gapsFrom_cons (number : Nat) (value : Value) (values : List Value) :
    gapsFrom number (value :: values) =
      loadGaps number value ++ gapsFrom (number + 1) values := by
  rw [gapsFrom, List.zipIdx_cons, List.flatMap_cons]
  rfl

/-- A lenient run reads rules until a value is none.  It leaves the warnings of the
rules it has read, in their order. -/
theorem items_lenient (number : Nat) (values : List Value) :
    items .lenient number values =
      ⟨(gapsFrom number (values.take (leadingRules values))).map .warning,
        match values[leadingRules values]? with
        | none => .ok (values.filterMap load?)
        | some value => .error (notRule (number + leadingRules values) value)⟩ := by
  induction values generalizing number with
  | nil => rfl
  | cons value values ih =>
      rw [items, item_lenient]
      cases read : load? value with
      | none =>
          simp only [leadingRules_cons_of_none read]
          rfl
      | some item =>
          simp only [leadingRules_cons_of_some read, List.take_succ_cons, gapsFrom_cons,
            List.map_append, List.getElem?_cons_succ, List.filterMap_cons, read]
          rw [ih, Logged.mk_ok_bind]
          cases values[leadingRules values]? with
          | none =>
              simp only [Logged.mk_ok_bind, Logged.diagnostics_pure, Logged.result_pure,
                List.append_nil]
          | some other =>
              rw [Logged.mk_error_bind, Nat.add_right_comm, Nat.add_assoc]

theorem leadingRules_eq_length_iff {values : List Value} :
    leadingRules values = values.length ↔ ∀ value ∈ values, (load? value).isSome := by
  rw [leadingRules, List.findIdx_eq_length]
  constructor
  · intro none value member
    simpa using none value member
  · intro some value member
    simpa using some value member

theorem items_lenient_of_all {number : Nat} {values : List Value}
    (read : ∀ value ∈ values, (load? value).isSome) :
    items .lenient number values =
      ⟨(gapsFrom number values).map .warning, .ok (values.filterMap load?)⟩ := by
  rw [items_lenient, leadingRules_eq_length_iff.mpr read, List.take_length,
    List.getElem?_eq_none (Nat.le_refl _)]

theorem all_of_items_lenient {number : Nat} {values : List Value} {items' : List Item}
    (success : (items .lenient number values).result = .ok items') :
    ∀ value ∈ values, (load? value).isSome := by
  rw [items_lenient] at success
  dsimp only at success
  split at success
  · next behind =>
      have atLeast := List.getElem?_eq_none_iff.mp behind
      have atMost : leadingRules values ≤ values.length := List.findIdx_le_length
      exact leadingRules_eq_length_iff.mp (Nat.le_antisymm atMost atLeast)
  · cases success

end DomainRules.Rule.Document
