import DomainRules.CommandLine.Help
import DomainRules.CommandLine.Reading
import DomainRules.Config
import DomainRules.MetaDomain
import DomainRules.Workspace

/-!
# The program

What an invocation does, as a sequence of accesses to files whose answers decide
how it goes on.  The same sequence can be carried out in a workspace, which is
pure, or by the operating system.
-/

namespace DomainRules

/-- A sequence of accesses to files that ends in a result. -/
inductive Program (α : Type) where
  | done (result : α)
  | readInput (next : List UInt8 → Program α)
  | readFile (path : String) (next : Except IoFault (List UInt8) → Program α)
  | findFile (path : String) (next : Bool → Program α)
  | writeFile (path : String) (bytes : List UInt8) (next : Except IoFault Unit → Program α)

/-- What a run of the program leaves to its caller, files apart. -/
structure Outcome where
  exitCode : Nat
  stdout : String := ""
  stderr : String := ""
deriving DecidableEq, Repr

namespace Program

variable {α β : Type}

/-- A program and what follows on its result. -/
def bind : Program α → (α → Program β) → Program β
  | .done result, after => after result
  | .readInput next, after => .readInput fun bytes => bind (next bytes) after
  | .readFile path next, after => .readFile path fun answer => bind (next answer) after
  | .findFile path next, after => .findFile path fun answer => bind (next answer) after
  | .writeFile path bytes next, after =>
      .writeFile path bytes fun answer => bind (next answer) after

instance : Monad Program where
  pure := .done
  bind := bind

/-- Carries out a program in a workspace. -/
def runIn (input : List UInt8) : Program α → Workspace → α × Workspace
  | .done result, workspace => (result, workspace)
  | .readInput next, workspace => runIn input (next input) workspace
  | .readFile path next, workspace => runIn input (next (workspace.read path)) workspace
  | .findFile path next, workspace => runIn input (next (workspace.contains path)) workspace
  | .writeFile path bytes next, workspace =>
      match workspace.write path bytes with
      | .ok workspace => runIn input (next (.ok ())) workspace
      | .error fault => runIn input (next (.error fault)) workspace

end Program

open CommandLine (Command ExportOptions Invocation Stop)

/-- The text that a file or the input holds. -/
def decodeText (answer : Except IoFault (List UInt8)) : Except IoFault String := do
  match Utf8.decode? (← answer) with
  | some text => .ok text
  | none => .error .notText

namespace Config

/-- The path of the configuration file that is looked for where none is named. -/
def defaultPath : String := "./" ++ fileName

/-- The settings in a file that has been read, or not. -/
def ofAnswer (answer : Except IoFault (List UInt8)) : Except ConfigFault Config :=
  match decodeText answer with
  | .ok text => ofString text
  | .error fault => .error (.io fault)

/-- Reads the settings from a file. -/
def load (path : String) : Program (Except ConfigFault Config) :=
  .readFile path fun answer => .done (ofAnswer answer)

/-- Reads the settings for a run.  A file that is named has to exist; otherwise the
file in the working directory is read if there is one. -/
def resolve : Option String → Program (Except ConfigFault Config)
  | some path => load path
  | none =>
      .findFile defaultPath fun present =>
        if present then load defaultPath else .done (.ok default)

end Config

namespace CommandLine.ExportOptions

/-- The path that stands for the standard input. -/
def inputMark : String := "-"

/-- The policy of a run: the options overrule the settings in either direction. -/
def policy (options : ExportOptions) (config : Config) : Policy :=
  if options.pedantic then .strict
  else if options.lenient then .lenient
  else config.policy

/-- Reads the rule document. -/
def readDocument (options : ExportOptions) : Program (Except IoFault String) :=
  if options.input = inputMark then
    .readInput fun bytes => .done (decodeText (.ok bytes))
  else
    .readFile options.input fun answer => .done (decodeText answer)

/-- Passes the exported text on, to a file or to the standard output. -/
def deliver (options : ExportOptions) (text : String) : Program (Except IoFault String) :=
  match options.output? with
  | none => .done (.ok text)
  | some path =>
      .writeFile path (Utf8.encode text) fun answer => .done (answer.map fun () => "")

end CommandLine.ExportOptions

namespace Outcome

/-- A run that fails, after it has emitted diagnostics. -/
def failed (colored : Bool) (diagnostics : List Diagnostic) (failure : Failure) : Outcome :=
  ⟨failure.exitCode, "", Diagnostic.report colored (diagnostics ++ [.error failure.message])⟩

/-- A run that succeeds, after it has emitted diagnostics. -/
def succeeded (colored : Bool) (diagnostics : List Diagnostic) (stdout : String) : Outcome :=
  ⟨0, stdout, Diagnostic.report colored diagnostics⟩

end Outcome

namespace Program

/-- Exports a rule document with the given settings.  Nothing is written unless
the whole document has been converted. -/
def exportWith (terminal : Bool) (options : ExportOptions) (color? : Option Color)
    (config : Config) : Program Outcome := do
  let colored := (color?.getD config.color).applies terminal
  let policy := options.policy config
  let format := options.format?.getD config.format
  match ← options.readDocument with
  | .error fault => pure (.failed colored [] (.io fault))
  | .ok document =>
      let rendered := MetaDomain.render policy format document
      match rendered.result with
      | .error failure => pure (.failed colored rendered.diagnostics failure)
      | .ok text =>
          match ← options.deliver text with
          | .error fault => pure (.failed colored rendered.diagnostics (.io fault))
          | .ok stdout => pure (.succeeded colored rendered.diagnostics stdout)

/-- Exports a rule document. -/
def exportRules (terminal : Bool) (options : ExportOptions) (color? : Option Color) :
    Program Outcome := do
  match ← Config.resolve options.config? with
  | .error fault =>
      pure (.failed ((color?.getD default).applies terminal) [] (.config fault))
  | .ok config => exportWith terminal options color? config

/-- What `init` did. -/
inductive Creation where
  | created
  | overwritten
deriving DecidableEq, Repr

/-- Why `init` did nothing. -/
inductive CreationFault where
  | alreadyExists
  | io (fault : IoFault)
deriving DecidableEq, Repr

def Creation.message : Creation → String
  | .created => "Created " ++ Config.fileName ++ "\n"
  | .overwritten => "Overwrote " ++ Config.fileName ++ "\n"

def CreationFault.message : CreationFault → String
  | .alreadyExists => Config.defaultPath ++ " already exists (use --force to overwrite)"
  | .io fault => "I/O error: " ++ fault.message

/-- Writes the configuration file to start from.  One that exists is overwritten
only by force. -/
def createConfig (force : Bool) : Program (Except CreationFault Creation) :=
  .findFile Config.defaultPath fun present =>
    if present && !force then .done (.error .alreadyExists)
    else
      .writeFile Config.defaultPath (Utf8.encode Config.template) fun answer =>
        .done (match answer with
          | .ok () => .ok (if present then .overwritten else .created)
          | .error fault => .error (.io fault))

/-- Writes the configuration file and tells so. -/
def initConfig (terminal : Bool) (force : Bool) (color? : Option Color) : Program Outcome := do
  match ← createConfig force with
  | .ok creation => pure ⟨0, creation.message, ""⟩
  | .error fault =>
      let colored := (color?.getD default).applies terminal
      pure ⟨2, "", Diagnostic.report colored [.error fault.message]⟩

/-- What an invocation does.  `terminal` tells whether diagnostics go to one. -/
def ofInvocation (terminal : Bool) (invocation : Invocation) : Program Outcome :=
  match invocation.command with
  | .exportRules options => exportRules terminal options invocation.color?
  | .initConfig force => initConfig terminal force invocation.color?

/-- What a command line does that asks for no command. -/
def ofStop (stop : Stop) : Outcome :=
  let stderr :=
    if stop.exitCode = 0 then ""
    else Diagnostic.report false [.error stop.message]
  ⟨stop.exitCode, stop.output, stderr⟩

/-- What a command line does. -/
def ofArguments (terminal : Bool) (arguments : List String) : Program Outcome :=
  match Invocation.ofArguments arguments with
  | .ok invocation => ofInvocation terminal invocation
  | .error stop => .done (ofStop stop)

end Program

end DomainRules
