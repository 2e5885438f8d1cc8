import DomainRules.Output.Writer
import DomainRules.Policy
import DomainRules.Registry
import DomainRules.Rule.Document

/-!
# Domain rule sets

The target syntax is a list of lines.  A line is a domain, or a domain behind the
marker `+.`, which stands for the domain and everything below it; a line that
begins with a dot stands for everything below a domain.

Only the fields `domain` and `domain_suffix` of plain rules can be written so.
Other fields are gaps on the output side, and so is a value with a line break,
which no single line can hold.  A logical rule is a structural gap.
-/

namespace DomainRules.MetaDomain

open Rule (Field Item RuleSet)

/-- The marker for a domain and everything below it. -/
def marker : String := "+."

/-- The lines of values that stand for single domains. -/
def translateDomain (values : List String) : List String :=
  values

/-- The line of a value that stands for the domains with an ending.  One that
begins with a dot leaves out the domain itself and is written as it is. -/
def suffixLine (value : String) : String :=
  if value.startsWith "." then value else marker ++ value

/-- The lines of values that stand for the domains with an ending. -/
def translateSuffix (values : List String) : List String :=
  values.map suffixLine

/-- What is to be done with a field. -/
inductive Handler where
  | translate (lines : List String → List String)
  | unsupported (key : String)

/-- The fields that the target syntax can express. -/
def translators : List (String × Handler) :=
  [("domain", .translate translateDomain), ("domain_suffix", .translate translateSuffix)]

/-- What is to be done with each field. -/
def handlers : Except RegistryFault (Registry Handler) :=
  Registry.ofBindings translators (.factory .unsupported)

/-- A text that no single line can hold. -/
def hasLineBreak (text : String) : Bool :=
  text.toList.any fun c => c = '\n' || c = '\r'

/-- The gap of a value of a field. -/
def lineBreakReason (key : String) : String :=
  s!"field `{key}` value contains a line break"

/-- The gap of a field. -/
def unsupportedReason (key : String) : String :=
  s!"field `{key}` is not supported by meta-domain rule sets"

/-- Keeps the lines that are single lines and takes the others as gaps. -/
def keepLines (policy : Policy) (key : String) : List String → Logged Failure (List String)
  | [] => pure []
  | line :: rest =>
      if hasLineBreak line then do
        policy.degrade .output (lineBreakReason key)
        keepLines policy key rest
      else do
        let others ← keepLines policy key rest
        pure (line :: others)

/-- The lines of a field. -/
def fieldLines (registry : Registry Handler) (policy : Policy) (field : Field) :
    Logged Failure (List String) := do
  let resolved ← Logged.ofExcept ((registry.resolve field.key).mapError .registry)
  match resolved.handler with
  | .translate lines => keepLines policy field.key (lines field.values)
  | .unsupported key => do
      policy.degrade .output (unsupportedReason key)
      pure []

/-- The lines that a step makes of each member of a list, in order. -/
def gather {α : Type} (step : α → Logged Failure (List String)) :
    List α → Logged Failure (List String)
  | [] => pure []
  | first :: rest => do
      let lines ← step first
      let others ← gather step rest
      pure (lines ++ others)

/-- The lines of a rule. -/
def itemLines (registry : Registry Handler) (policy : Policy) (item : Item) :
    Logged Failure (List String) :=
  match item.kind with
  | .plain => gather (fieldLines registry policy) item.minify.fields
  | .logical => Logged.fail (.structural "logical rule is not supported")
  | .unknown tag _ => Logged.fail (.document (.unexpectedType tag))

/-- The lines of a rule set. -/
def lines (policy : Policy) (rules : RuleSet) : Logged Failure (List String) := do
  let registry ← Logged.ofExcept (handlers.mapError .registry)
  gather (itemLines registry policy) rules.items

/-- The lines of a single rule. -/
def linesOfItem (policy : Policy) (item : Item) : Logged Failure (List String) := do
  let registry ← Logged.ofExcept (handlers.mapError .registry)
  itemLines registry policy item

/-- Writes a rule set in a format.  The writer sees nothing unless all rules have
been translated. -/
def exportTo (writer : Writer) (format : Format) (policy : Policy) (rules : RuleSet) :
    Logged Failure Unit × Writer :=
  let translated := lines policy rules
  match translated.result with
  | .error failure => (⟨translated.diagnostics, .error failure⟩, writer)
  | .ok lines =>
      let (result, writer) := writer.writeLines format lines
      (⟨translated.diagnostics, result⟩, writer)

/-- The text that a rule document becomes. -/
def render (policy : Policy) (format : Format) (document : String) : Logged Failure String := do
  let rules ← RuleSet.ofString policy document
  let lines ← lines policy rules
  pure (format.render lines)

end DomainRules.MetaDomain
