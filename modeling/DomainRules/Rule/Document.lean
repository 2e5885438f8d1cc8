import DomainRules.Json.Reader
import DomainRules.Policy
import DomainRules.Rule.Item

/-!
# Rule documents

A rule document is a JSON array of rules, or an object whose field `rules` holds
one; its other fields are passed over.  A rule is an object: the field `type` is
its tag and every other one is a field of the rule, a string or an array of
strings.

A field of any other shape is a gap on the input side and is dropped.  In a
logical rule such fields hold the rules it is composed of; they are dropped
without a word, because the rule as a whole will not be expressible.
-/

namespace DomainRules.Rule

open Json (Value)

namespace Document

/-- The field of a document that holds the rules. -/
def rulesKey : String := "rules"

/-- The field of a rule that holds its tag. -/
def typeKey : String := "type"

/-- The failure of a document of the wrong shape. -/
def malformed (reason : String) : Failure :=
  .document (.malformed reason)

/-- The rules of a document, not yet read. -/
def rules : Value → Except Failure (List Value)
  | .array rules => .ok rules
  | .object fields =>
      match Json.Fields.get? rulesKey fields with
      | some (.array rules) => .ok rules
      | some _ => .error (malformed "`rules` must be an array")
      | none =>
          .error (malformed "expected an array of rules or an object with a `rules` array")
  | _ => .error (malformed "expected an array of rules or an object with a `rules` array")

/-- The kind of a rule, which has the given number in its document. -/
def kind (number : Nat) (fields : Json.Fields) : Except Failure Kind :=
  match Json.Fields.get? typeKey fields with
  | none => .ok (.ofTag none)
  | some .null => .ok (.ofTag none)
  | some (.string tag) => .ok (.ofTag (some tag))
  | some _ => .error (malformed s!"rule {number}: `type` must be a string")

/-- The gap of a field that holds something other than strings. -/
def notStrings (number : Nat) (key : String) : String :=
  s!"rule {number}: field `{key}` holds a non-string value and is dropped"

/-- Adds a field of the document to a rule. -/
def addField (policy : Policy) (number : Nat) (item : Item) :
    String × Value → Logged Failure Item
  | (key, value) =>
      if key = typeKey then pure item
      else
        match value.strings? with
        | some values => pure (item.withField key values)
        | none =>
            if item.kind = .logical then pure item
            else do
              policy.degrade .input (notStrings number key)
              pure item

/-- Reads a rule, which has the given number in its document. -/
def item (policy : Policy) (number : Nat) : Value → Logged Failure Item
  | .object fields => do
      let kind ← Logged.ofExcept (kind number fields)
      fields.foldlM (addField policy number) (Item.ofKind kind)
  | _ => Logged.fail (malformed s!"rule {number} is not an object")

/-- Reads rules, the first of which has the given number in its document. -/
def items (policy : Policy) (number : Nat) : List Value → Logged Failure (List Item)
  | [] => pure []
  | value :: rest => do
      let first ← item policy number value
      let others ← items policy (number + 1) rest
      pure (first :: others)

end Document

namespace RuleSet

/-- Reads the rules of a document. -/
def ofValue (policy : Policy) (document : Value) : Logged Failure RuleSet := do
  let rules ← Logged.ofExcept (Document.rules document)
  let items ← Document.items policy 1 rules
  pure ⟨items⟩

/-- Reads the rules of a document that has been read as JSON, or failed to be. -/
def ofParsed (policy : Policy) (document : Except Json.Report Value) :
    Logged Failure RuleSet := do
  let document ← Logged.ofExcept (document.mapError fun report => .document (.json report))
  ofValue policy document

/-- Reads the rules of a document from its text. -/
def ofString (policy : Policy) (text : String) : Logged Failure RuleSet :=
  ofParsed policy (Value.ofString text)

/-- Reads the rules of a document from a stream of bytes. -/
def ofBytes (policy : Policy) (bytes : List UInt8) : Logged Failure RuleSet :=
  ofParsed policy (Value.ofBytes bytes)

end RuleSet

end DomainRules.Rule
