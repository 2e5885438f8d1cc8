import DomainRules.Output.Format

/-!
# Invocations

What a command line asks for: a command with its options, or, where none can be
made out, the reason.  The program has two commands.  `export` converts a rule
document and `init` writes a configuration file to start from.
-/

namespace DomainRules.CommandLine

/-- The options of an export. -/
structure ExportOptions where
  /-- The path of the rule document. -/
  input : String
  output? : Option String := none
  format? : Option Format := none
  pedantic : Bool := false
  lenient : Bool := false
  config? : Option String := none
deriving DecidableEq, Repr

/-- A command of the program. -/
inductive Command where
  | exportRules (options : ExportOptions)
  | initConfig (force : Bool)
deriving DecidableEq, Repr

/-- A command, and an option that all commands have. -/
structure Invocation where
  command : Command
  color? : Option Color
deriving DecidableEq, Repr

/-- A page of the manual. -/
inductive Page where
  | program
  | exportRules
  | initConfig
  | help
deriving DecidableEq, Repr

/-- Why a command line asks for no command. -/
inductive Stop where
  /-- It asks for a page of the manual, at length or in short. -/
  | help (page : Page) (long : Bool)
  /-- It asks for the version of the program. -/
  | version
  /-- It is empty. -/
  | nothing
  | missingCommand
  | unknownCommand
  | missingInput
  | unknownArgument
  | invalidValue
  /-- A value for an option that takes none. -/
  | surplusValue
  /-- An option twice, or two options that exclude each other. -/
  | conflict
deriving DecidableEq, Repr

namespace Stop

/-- The exit code of a run that ends here. -/
def exitCode : Stop → Nat
  | .help _ _ => 0
  | .version => 0
  | _ => 2

/-- A word about a command line that cannot be understood. -/
def message : Stop → String
  | .help _ _ => ""
  | .version => ""
  | .nothing => "no command given"
  | .missingCommand => "a command is required"
  | .unknownCommand => "no such command"
  | .missingInput => "the input is required"
  | .unknownArgument => "unexpected argument"
  | .invalidValue => "invalid or missing value of an option"
  | .surplusValue => "value for an option that takes none"
  | .conflict => "options that cannot be combined"

end Stop

end DomainRules.CommandLine
