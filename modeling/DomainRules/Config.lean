import DomainRules.Output.Format
import DomainRules.Policy
import DomainRules.Toml.Document

/-!
# Configuration

Settings that hold where the command line says nothing, read from a TOML document.
Its sections and their keys are all optional, and there are no others.
-/

namespace DomainRules

/-- The settings of a configuration file. -/
structure Config where
  version : String := "1"
  pedantic : Bool := false
  format : Format := .yaml
  color : Color := .auto
deriving DecidableEq, Repr

namespace Config

instance : Inhabited Config :=
  ⟨⟨"1", false, .yaml, .auto⟩⟩

/-- The only version of the format there is. -/
def supportedVersion : String := "1"

/-- The name of the file that is looked for where none is named. -/
def fileName : String := "ruleconv.toml"

/-- A file that says what holds without it, as a start for changes. -/
def template : String :=
"[ruleconv]
version = \"1\"

[policy]
# Fail on every construct the target cannot represent instead of
# warning and dropping it. Logical rules fail in every mode.
pedantic = false

[output]
# yaml | json | text
format = \"yaml\"
# auto | always | never
color = \"auto\"
"

open Toml (Item Key Span)

/-- An item that is not of the shape its key takes. -/
structure Mismatch where
  span : Span
  reason : String
deriving DecidableEq, Repr

/-- How the item of a key becomes part of the settings.  The span is where the
item stands, or its key if the item has no place of its own. -/
abbrev Slot := String × (Span → Item → Config → Except Mismatch Config)

/-- Reads a text. -/
def text (span : Span) : Item → Except Mismatch String
  | .scalar _ (.string text) => .ok text
  | item => .error ⟨span, Shape.invalidType item.found "a string"⟩

/-- Reads a truth value. -/
def flag (span : Span) : Item → Except Mismatch Bool
  | .scalar _ (.boolean value) => .ok value
  | item => .error ⟨span, Shape.invalidType item.found "a boolean"⟩

/-- Reads a name of one of a few values. -/
def named {α : Type} [Choice α] (span : Span) (name : String) : Except Mismatch α :=
  match Choice.ofName? name with
  | some value => .ok value
  | none => .error ⟨span, Shape.unknownVariant name (Choice.names α)⟩

/-- Refuses an item that should hold nothing and does not. -/
def hollow (span : Span) (item : Item) : Except Mismatch Unit :=
  let refuse (reason : String) : Except Mismatch Unit := .error ⟨item.span?.getD span, reason⟩
  match item with
  | .tables _ [] => .ok ()
  | .tables _ _ => refuse "expected empty array"
  | .array _ [] => .ok ()
  | .array _ _ => refuse "expected empty table"
  | .table _ [] => .ok ()
  | .table _ _ => refuse "expected empty table"
  | .scalar _ _ => refuse ("expected table, found " ++ item.kind)

/-- Reads one of a few values: its name, or a table whose only key is its name and
holds nothing. -/
def choice {α : Type} [Choice α] (span : Span) : Item → Except Mismatch α
  | .scalar _ (.string name) => named span name
  | .table _ [] => .error ⟨span, "wanted exactly 1 element, found 0 elements"⟩
  | .table _ [(key, item)] => do
      let value ← named key.span key.name
      hollow span item
      .ok value
  | .table _ _ => .error ⟨span, "wanted exactly 1 element, more than 1 element"⟩
  | _ => .error ⟨span, "wanted string or table"⟩

/-- Reads the bindings of a table, in order. -/
def ofEntries (slots : List Slot) (entries : List (Key × Item)) (config : Config) :
    Except Mismatch Config :=
  entries.foldlM (fun config (key, item) =>
    match slots.lookup key.name with
    | some read => read (item.span?.getD key.span) item config
    | none => .error ⟨key.span, Shape.unknownField key.name (slots.map Prod.fst)⟩) config

/-- Reads the keys' items as a list, in the order in which the keys are listed.
A shorter list leaves the last keys unbound, a longer one is read no further. -/
def ofItems (slots : List Slot) (span : Span) (items : List Item) (config : Config) :
    Except Mismatch Config :=
  (slots.zip items).foldlM (fun config (slot, item) =>
    slot.2 (item.span?.getD span) item config) config

/-- The key under which a date or time shows itself where a table is wanted. -/
def datetimeKey : String := "$__toml_private_datetime"

/-- Reads a section: a table, or a list of its items. -/
def ofSection (name : String) (slots : List Slot) (span : Span) (item : Item) (config : Config) :
    Except Mismatch Config :=
  match item with
  | .table _ entries => ofEntries slots entries config
  | .array _ items => ofItems slots span items config
  | .tables _ members =>
      ofItems slots span (members.map fun member => .table member.1 member.2) config
  | .scalar _ .datetime =>
      .error ⟨span, Shape.unknownField datetimeKey (slots.map Prod.fst)⟩
  | item => .error ⟨span, Shape.invalidType item.found ("struct " ++ name)⟩

/-- The keys of the section about the file itself. -/
def metaSlots : List Slot :=
  [("version", fun span item config => do
    .ok ⟨← text span item, config.pedantic, config.format, config.color⟩)]

/-- The keys of the section about the policy. -/
def policySlots : List Slot :=
  [("pedantic", fun span item config => do
    .ok ⟨config.version, ← flag span item, config.format, config.color⟩)]

/-- The keys of the section about the output. -/
def outputSlots : List Slot :=
  [("format", fun span item config => do
      .ok ⟨config.version, config.pedantic, ← choice span item, config.color⟩),
    ("color", fun span item config => do
      .ok ⟨config.version, config.pedantic, config.format, ← choice span item⟩)]

/-- The sections. -/
def sections : List Slot :=
  [("ruleconv", ofSection "RuleconvMeta" metaSlots),
    ("policy", ofSection "PolicyConfig" policySlots),
    ("output", ofSection "OutputConfig" outputSlots)]

/-- Reads the settings from the text of a file.  What is wrong with its shape is
told before what is wrong with its version. -/
def ofString (source : String) : Except ConfigFault Config :=
  match Toml.Table.ofString source with
  | .error report => .error (.parse report)
  | .ok table =>
      match ofEntries sections table.entries default with
      | .error mismatch => .error (.parse (.of source mismatch.span mismatch.reason))
      | .ok config =>
          if config.version = supportedVersion then .ok config
          else
            .error (.validation ("Unsupported configuration version '" ++ config.version ++
              "'. Expected '" ++ supportedVersion ++ "'"))

/-- The policy that the settings select. -/
def policy (config : Config) : Policy :=
  .ofPedantic config.pedantic

end Config

end DomainRules
