import DomainRules.CommandLine.Invocation

/-!
# The manual

Each page describes a command: what it does, how it is called, its arguments and
its options.  A short page gives an option a line, a long one a paragraph.
-/

namespace DomainRules.CommandLine.Help

/-- The version of the program. -/
def version : String := "0.1.0"

/-- The name of the program. -/
def program : String := "ruleconv"

/-- A named thing with words about it. -/
structure Entry where
  /-- How it is written, the first four columns left to the letter of an option. -/
  term : String
  text : String
  /-- The values it takes, each with words about it. -/
  values : List (String × String) := []

/-- A page before it is laid out. -/
structure Outline where
  about : String
  usage : String
  commands : List Entry := []
  arguments : List Entry := []
  options : List Entry := []

/-- A text with blanks behind it up to a width. -/
def padded (width : Nat) (text : String) : String :=
  text.pushn ' ' (width - text.length)

/-- The length of the longest text. -/
def width (texts : List String) : Nat :=
  (texts.map String.length).foldl max 0

/-- Entries as lines, their words in a column of their own. -/
def table (entries : List Entry) : List String :=
  let width := width (entries.map Entry.term)
  entries.map fun entry =>
    let values :=
      if entry.values.isEmpty then ""
      else " [possible values: " ++ ", ".intercalate (entry.values.map Prod.fst) ++ "]"
    "  " ++ padded width entry.term ++ "  " ++ entry.text ++ values ++ "\n"

/-- An entry as a paragraph. -/
def paragraph (entry : Entry) : String :=
  let margin := "          "
  let width := width (entry.values.map Prod.fst)
  let values :=
    if entry.values.isEmpty then ""
    else "\n" ++ margin ++ "Possible values:\n" ++ String.join (entry.values.map fun value =>
      margin ++ "- " ++ padded (width + 1) (value.1 ++ ":") ++ " " ++ value.2 ++ "\n")
  "  " ++ entry.term ++ "\n" ++ margin ++ entry.text ++ "\n" ++ values

/-- A part of a page under a title, if it has entries. -/
def part (title : String) (layout : List Entry → String) (entries : List Entry) : String :=
  if entries.isEmpty then "" else "\n" ++ title ++ ":\n" ++ layout entries

/-- The text of a page. -/
def Outline.text (outline : Outline) (long : Bool) : String :=
  let lines := fun entries => String.join (table entries)
  let layout := if long then fun entries => "\n".intercalate (entries.map paragraph) else lines
  outline.about ++ "\n\nUsage: " ++ program ++ " " ++ outline.usage ++ "\n" ++
    part "Commands" lines outline.commands ++ part "Arguments" layout outline.arguments ++
    part "Options" layout outline.options

/-- The option that all commands have. -/
def color : Entry :=
  ⟨"    --color <COLOR>", "Diagnostic coloring (overrides the config file)",
    [("auto", "Color when stderr is a terminal"), ("always", "Always use color"),
      ("never", "Never use color")]⟩

/-- The option that leads to a page of its own command. -/
def help (long : Bool) : Entry :=
  ⟨"-h, --help",
    if long then "Print help (see a summary with '-h')"
    else "Print help (see more with '--help')", []⟩

def exportAbout : String := "Export an IR document as a meta-domain rule set"

def initAbout : String := "Write a default ruleconv.toml in the current directory"

def helpAbout : String := "Print this message or the help of the given subcommand(s)"

/-- What a page says. -/
def outline (long : Bool) : Page → Outline
  | .program =>
      ⟨"Convert domain rule sets into meta-domain rule-provider syntax", "[OPTIONS] <COMMAND>",
        [⟨"export", exportAbout, []⟩, ⟨"init", initAbout, []⟩, ⟨"help", helpAbout, []⟩], [],
        [color, help long, ⟨"-V, --version", "Print version", []⟩]⟩
  | .exportRules =>
      ⟨exportAbout, "export [OPTIONS] <INPUT>", [],
        [⟨"<INPUT>", "IR document (JSON); `-` reads stdin", []⟩],
        [⟨"-o, --output <OUTPUT>", "Output file (defaults to stdout)", []⟩,
          ⟨"-f, --format <FORMAT>", "Output format (overrides the config file)",
            [("yaml", "`payload:` list in YAML (rule-provider file)"),
              ("json", "`\x7b\"payload\": [...]\x7d` in JSON"), ("text", "One rule per line")]⟩,
          color,
          ⟨"    --pedantic", "Fail on every capability gap instead of warning", []⟩,
          ⟨"    --lenient", "Warn on capability gaps even when the config file is pedantic", []⟩,
          ⟨"    --config <CONFIG>",
            "Configuration file (defaults to ./ruleconv.toml when present)", []⟩,
          help long]⟩
  | .initConfig =>
      ⟨initAbout, "init [OPTIONS]", [], [],
        [⟨"    --force", "Overwrite an existing file", []⟩, color, help long]⟩
  | .help =>
      ⟨helpAbout, "help [COMMAND]...", [],
        [⟨"[COMMAND]...", "Print help for the subcommand(s)", []⟩], []⟩

end Help

/-- The text of a page of the manual.  The page about the manual has only a short
form. -/
def Page.text (page : Page) (long : Bool) : String :=
  let long := long && page ≠ .help
  (Help.outline long page).text long

/-- What a run that ends here prints. -/
def Stop.output : Stop → String
  | .help page long => page.text long
  | .version => Help.program ++ " " ++ Help.version ++ "\n"
  | _ => ""

end DomainRules.CommandLine
