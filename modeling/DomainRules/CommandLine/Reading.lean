import DomainRules.CommandLine.Invocation

/-!
# Reading command lines

Arguments are read from left to right.  An option takes its value from behind an
equals sign, from behind its letter, or from the next argument; there it is held
until the argument after it shows that the option is complete.  `--` ends the
options.  The program's own options stand before the command's name, and what
follows the name belongs to the command.
-/

namespace DomainRules.CommandLine

/-- The part of the program that an argument is for. -/
inductive Scope where
  | program
  | exportRules
  | initConfig
deriving DecidableEq, Repr

/-- An option with a value. -/
inductive Setting where
  | color
  | output
  | format
  | config
deriving DecidableEq, Repr

/-- An option without a value. -/
inductive Switch where
  | pedantic
  | lenient
  | force
  | help
  | version
deriving DecidableEq, Repr

/-- An option of either kind. -/
inductive Flag where
  | setting (setting : Setting)
  | switch (switch : Switch)
deriving DecidableEq, Repr

namespace Scope

/-- The options by their long names. -/
def longNames : Scope → List (String × Flag)
  | .program =>
      [("color", .setting .color), ("help", .switch .help), ("version", .switch .version)]
  | .exportRules =>
      [("output", .setting .output), ("format", .setting .format), ("color", .setting .color),
        ("pedantic", .switch .pedantic), ("lenient", .switch .lenient),
        ("config", .setting .config), ("help", .switch .help)]
  | .initConfig =>
      [("force", .switch .force), ("color", .setting .color), ("help", .switch .help)]

/-- The options by their letters. -/
def letters : Scope → List (Char × Flag)
  | .program => [('h', .switch .help), ('V', .switch .version)]
  | .exportRules => [('o', .setting .output), ('f', .setting .format), ('h', .switch .help)]
  | .initConfig => [('h', .switch .help)]

/-- The page of the manual about a part of the program. -/
def page : Scope → Page
  | .program => .program
  | .exportRules => .exportRules
  | .initConfig => .initConfig

end Scope

/-- What has been read of the arguments of one part of the program. -/
structure Record where
  input? : Option String := none
  output? : Option String := none
  format? : Option Format := none
  config? : Option String := none
  color? : Option Color := none
  pedantic : Bool := false
  lenient : Bool := false
  force : Bool := false
deriving DecidableEq, Repr

namespace Record

/-- Whether an option has been given. -/
def has (record : Record) : Setting → Bool
  | .color => record.color?.isSome
  | .output => record.output?.isSome
  | .format => record.format?.isSome
  | .config => record.config?.isSome

/-- A path, which is never empty. -/
def path (value : String) : Except Stop String :=
  if value.isEmpty then .error .invalidValue else .ok value

/-- One of a few values, by its name. -/
def choice {α : Type} [Choice α] (value : String) : Except Stop α :=
  match Choice.ofName? value with
  | some choice => .ok choice
  | none => .error .invalidValue

/-- Gives an option its value. -/
def set (record : Record) (setting : Setting) (value : String) : Except Stop Record :=
  if record.has setting then .error .conflict
  else
    match setting with
    | .color => (choice value).map fun color => { record with color? := some color }
    | .output => (path value).map fun path => { record with output? := some path }
    | .format => (choice value).map fun format => { record with format? := some format }
    | .config => (path value).map fun path => { record with config? := some path }

/-- Turns an option without a value on. -/
def turn (record : Record) (scope : Scope) (long : Bool) : Switch → Except Stop Record
  | .pedantic =>
      if record.pedantic then .error .conflict else .ok { record with pedantic := true }
  | .lenient =>
      if record.lenient then .error .conflict else .ok { record with lenient := true }
  | .force => if record.force then .error .conflict else .ok { record with force := true }
  | .help => .error (.help scope.page long)
  | .version => .error .version

end Record

/-- How far an option has come whose value is an argument of its own. -/
inductive Pending where
  | none
  /-- Its value has to come next. -/
  | awaiting (setting : Setting)
  /-- Its value has come and is not yet looked at. -/
  | holding (setting : Setting) (value : String)
deriving DecidableEq, Repr

/-- The state of reading the arguments of one part of the program. -/
structure State where
  record : Record := {}
  pending : Pending := .none
  /-- The options have ended. -/
  trailing : Bool := false
deriving DecidableEq, Repr

namespace State

/-- Completes the option that is not complete. -/
def settle (state : State) : Except Stop Record :=
  match state.pending with
  | .none => .ok state.record
  | .awaiting _ => .error .invalidValue
  | .holding setting value => state.record.set setting value

/-- Takes an option with a value, attached to it or still to come. -/
def takeSetting (state : State) (setting : Setting) (value? : Option String) :
    Except Stop State := do
  let record ← state.settle
  match value? with
  | none => .ok ⟨record, .awaiting setting, state.trailing⟩
  | some value => .ok ⟨← record.set setting value, .none, state.trailing⟩

/-- Takes an option without a value. -/
def takeSwitch (state : State) (scope : Scope) (long : Bool) (switch : Switch) :
    Except Stop State := do
  let record ← state.settle
  .ok ⟨← record.turn scope long switch, .none, state.trailing⟩

/-- Takes an option by its long name, and its value if there is an equals sign. -/
def takeLong (state : State) (scope : Scope) (text : List Char) : Except Stop State :=
  let name := text.takeWhile (· ≠ '=')
  let value? := match text.dropWhile (· ≠ '=') with
    | [] => none
    | _ :: value => some (String.ofList value)
  match scope.longNames.lookup (String.ofList name) with
  | none => .error .unknownArgument
  | some (.setting setting) => state.takeSetting setting value?
  | some (.switch switch) =>
      if value?.isSome then .error .surplusValue else state.takeSwitch scope true switch

/-- Takes options by their letters.  What follows the letter of an option with a
value is its value. -/
def takeLetters (state : State) (scope : Scope) : List Char → Except Stop State
  | [] => .ok state
  | letter :: rest =>
      match scope.letters.lookup letter with
      | none => .error .unknownArgument
      | some (.setting setting) =>
          match rest with
          | [] => state.takeSetting setting none
          | '=' :: value => state.takeSetting setting (some (String.ofList value))
          | value => state.takeSetting setting (some (String.ofList value))
      | some (.switch switch) => do
          takeLetters (← state.takeSwitch scope false switch) scope rest

/-- The names of the commands. -/
def commandNames : List String := ["export", "init", "help"]

/-- Takes an argument that is no option.  Only an export has one, its input. -/
def takePlain (state : State) (scope : Scope) (argument : String) : Except Stop State :=
  match scope with
  | .program =>
      .error (if state.trailing && commandNames.contains argument then .unknownArgument
        else .unknownCommand)
  | .exportRules =>
      if state.record.input?.isSome then .error .unknownArgument
      else do
        let record ← state.settle
        .ok ⟨{ record with input? := some argument }, .none, state.trailing⟩
  | .initConfig => .error .unknownArgument

/-- Takes the next argument. -/
def take (state : State) (scope : Scope) (argument : String) : Except Stop State :=
  if state.trailing then state.takePlain scope argument
  else
    match argument.toList with
    | ['-', '-'] => .ok ⟨state.record, state.pending, true⟩
    | '-' :: '-' :: text => state.takeLong scope text
    | '-' :: letter :: rest => state.takeLetters scope (letter :: rest)
    | _ =>
        match state.pending with
        | .awaiting setting => .ok ⟨state.record, .holding setting argument, false⟩
        | _ => state.takePlain scope argument

/-- Takes all arguments of a command. -/
def takeAll (state : State) (scope : Scope) (arguments : List String) : Except Stop Record := do
  let state ← arguments.foldlM (fun state argument => state.take scope argument) state
  state.settle

end State

/-- The page that the arguments of `help` name. -/
def helpPage : List String → Except Stop Page
  | [] => .ok .program
  | ["export"] => .ok .exportRules
  | ["init"] => .ok .initConfig
  | ["help"] => .ok .help
  | _ => .error .unknownCommand

namespace Command

/-- The command that reading the arguments of an export gives. -/
def ofExportRecord (record : Record) : Except Stop Command :=
  if record.pedantic && record.lenient then .error .conflict
  else
    match record.input? with
    | none => .error .missingInput
    | some input =>
        .ok (.exportRules ⟨input, record.output?, record.format?, record.pedantic, record.lenient,
          record.config?⟩)

/-- Reads the arguments of a command; the color is the command's own. -/
def ofArguments (name : String) (arguments : List String) :
    Except Stop (Command × Option Color) := do
  if name = "export" then
    let record ← State.takeAll {} .exportRules arguments
    .ok (← ofExportRecord record, record.color?)
  else if name = "init" then
    let record ← State.takeAll {} .initConfig arguments
    .ok (.initConfig record.force, record.color?)
  else
    .error (.help (← helpPage arguments) true)

end Command

namespace Invocation

/-- Reads the program's own arguments and then the command's.  What is wrong with
the latter is found before the last of the former is complete. -/
def ofState (state : State) : List String → Except Stop Invocation
  | [] => do
      let record ← state.settle
      .error (if record.color?.isSome then .missingCommand else .nothing)
  | argument :: rest => do
      let isName := match state.pending with
        | .awaiting _ => false
        | _ => !state.trailing && State.commandNames.contains argument
      if isName then
        let (command, color?) ← Command.ofArguments argument rest
        let record ← state.settle
        .ok ⟨command, color?.or record.color?⟩
      else
        ofState (← state.take .program argument) rest

/-- Reads a command line, the name of the program left out. -/
def ofArguments (arguments : List String) : Except Stop Invocation :=
  ofState {} arguments

end Invocation

end DomainRules.CommandLine
