import DomainRules.Program
import DomainRules.Proofs.Workspace

/-!
# Runs in a workspace

A run of two programs in sequence is a run of the first and, in the workspace it
leaves, a run of the second.  An export is put together from such runs, so that its
result is that of the functions which its parts stand for: the settings, the rule
document, the text it becomes and the place that takes it.
-/

namespace DomainRules

open CommandLine (ExportOptions)

variable {α β : Type} {input : List UInt8} {workspace : Workspace}

namespace Program

theorem runIn_bind (program : Program α) (next : α → Program β) :
    (program >>= next).runIn input workspace =
      (next (program.runIn input workspace).1).runIn input (program.runIn input workspace).2 := by
  change (program.bind next).runIn input workspace = _
  induction program generalizing workspace with
  | done result => rfl
  | readInput rest ih => exact ih input
  | readFile path rest ih => exact ih (workspace.read path)
  | findFile path rest ih => exact ih (workspace.contains path)
  | writeFile path bytes rest ih =>
      simp only [bind, runIn]
      cases workspace.write path bytes with
      | error fault => exact ih (.error fault)
      | ok after => exact ih (.ok ())

/-- What follows on a program whose run is known. -/
theorem runIn_bind_of_eq {program : Program α} {result : α} {after : Workspace}
    (run : program.runIn input workspace = (result, after)) (next : α → Program β) :
    (program >>= next).runIn input workspace = (next result).runIn input after := by
  rw [runIn_bind, run]

/-! ## Accesses -/

end Program

/-! ## Settings -/

namespace Config

theorem defaultPath_eq_usualPath : defaultPath = usualPath := by decide +kernel

/-- The settings in a file that has been read, or not: those that its text gives. -/
def givenBy : Except IoFault (List UInt8) → Except ConfigFault Config
  | .error fault => .error (.io fault)
  | .ok bytes =>
      match Utf8.decode? bytes with
      | some text => ofString text
      | none => .error (.io .notText)

theorem ofAnswer_eq_givenBy (answer : Except IoFault (List UInt8)) :
    ofAnswer answer = givenBy answer := by
  cases answer with
  | error fault => rfl
  | ok bytes =>
      simp only [ofAnswer, decodeText, givenBy, bind, Except.bind]
      cases Utf8.decode? bytes <;> rfl

/-- The settings that hold in a workspace: those of the file that is named, or of the
one that is there where none is named. -/
def resolveIn (workspace : Workspace) : Option String → Except ConfigFault Config
  | some path => givenBy (workspace.read path)
  | none =>
      if (workspace.get? usualPlace).isSome then givenBy (workspace.read usualPath)
      else .ok usual

theorem runIn_resolve (path? : Option String) :
    (resolve path?).runIn input workspace = (resolveIn workspace path?, workspace) := by
  cases path? with
  | some path =>
      change (ofAnswer (workspace.read path), workspace) = _
      rw [ofAnswer_eq_givenBy]
      rfl
  | none =>
      change (if workspace.contains defaultPath then load defaultPath
        else .done (.ok default)).runIn input workspace = _
      rw [resolveIn, ← ofAnswer_eq_givenBy, defaultPath_eq_usualPath, Workspace.contains_usualPath]
      split
      · rfl
      · rfl

end Config

/-! ## Rule documents -/

namespace CommandLine.ExportOptions

/-- The bytes of the rule document: of the standard input or of a file. -/
def source (options : ExportOptions) (input : List UInt8) (workspace : Workspace) :
    Except IoFault (List UInt8) :=
  if options.input = "-" then .ok input else workspace.read options.input

/-- The policy that the options ask for, or the settings where they ask for none. -/
def chosenPolicy (options : ExportOptions) (config : Config) : Policy :=
  if options.pedantic then .strict
  else if options.lenient then .lenient
  else if config.pedantic then .strict
  else .lenient

theorem policy_eq_chosenPolicy (options : ExportOptions) (config : Config) :
    options.policy config = options.chosenPolicy config :=
  rfl

theorem runIn_readDocument (options : ExportOptions) :
    options.readDocument.runIn input workspace =
      (decodeText (options.source input workspace), workspace) := by
  rw [readDocument, source, inputMark]
  split
  · rfl
  · rfl

/-- The workspace after a text has been passed on, and what the standard output gets. -/
def deliverIn (options : ExportOptions) (text : String) (workspace : Workspace) :
    Except IoFault (String × Workspace) :=
  match options.output? with
  | none => .ok (text, workspace)
  | some path => (workspace.write path (Utf8.encode text)).map fun after => ("", after)

theorem deliverIn_of_none {options : ExportOptions} (noOutput : options.output? = none)
    (text : String) (workspace : Workspace) :
    options.deliverIn text workspace = .ok (text, workspace) := by
  rw [deliverIn, noOutput]

theorem deliverIn_of_some {options : ExportOptions} {path : String}
    (isOutput : options.output? = some path) (text : String) (workspace : Workspace) :
    options.deliverIn text workspace =
      (workspace.write path (Utf8.encode text)).map fun after => ("", after) := by
  rw [deliverIn, isOutput]

theorem runIn_deliver (options : ExportOptions) (text : String) :
    (options.deliver text).runIn input workspace =
      match options.deliverIn text workspace with
      | .ok (stdout, after) => (.ok stdout, after)
      | .error fault => (.error fault, workspace) := by
  rw [deliver, deliverIn]
  cases options.output? with
  | none => rfl
  | some path =>
      simp only [Program.runIn]
      cases workspace.write path (Utf8.encode text) with
      | error fault => rfl
      | ok after => rfl

end CommandLine.ExportOptions

/-! ## Exports -/

namespace Program

theorem runIn_exportRules (terminal : Bool) (options : ExportOptions) (color? : Option Color) :
    (exportRules terminal options color?).runIn input workspace =
      match Config.resolveIn workspace options.config? with
      | .error fault =>
          (.failed ((color?.getD default).applies terminal) [] (.config fault), workspace)
      | .ok config => (exportWith terminal options color? config).runIn input workspace := by
  rw [exportRules, runIn_bind_of_eq (Config.runIn_resolve options.config?)]
  cases Config.resolveIn workspace options.config? with
  | error fault => rfl
  | ok config => rfl

theorem runIn_exportWith (terminal : Bool) (options : ExportOptions) (color? : Option Color)
    (config : Config) :
    (exportWith terminal options color? config).runIn input workspace =
      let colored := (color?.getD config.color).applies terminal
      match decodeText (options.source input workspace) with
      | .error fault => (.failed colored [] (.io fault), workspace)
      | .ok document =>
          let rendered := MetaDomain.render (options.policy config)
            (options.format?.getD config.format) document
          match rendered.result with
          | .error failure => (.failed colored rendered.diagnostics failure, workspace)
          | .ok text =>
              match options.deliverIn text workspace with
              | .error fault => (.failed colored rendered.diagnostics (.io fault), workspace)
              | .ok (stdout, after) => (.succeeded colored rendered.diagnostics stdout, after) := by
  rw [exportWith, runIn_bind_of_eq (options.runIn_readDocument)]
  cases decodeText (options.source input workspace) with
  | error fault => rfl
  | ok document =>
      dsimp only
      cases (MetaDomain.render (options.policy config) (options.format?.getD config.format)
        document).result with
      | error failure => rfl
      | ok text =>
          dsimp only
          rw [runIn_bind, options.runIn_deliver]
          cases options.deliverIn text workspace with
          | error fault => rfl
          | ok delivered => rfl

/-! ## Configuration files -/

theorem runIn_createConfig (force : Bool) :
    (createConfig force).runIn input workspace =
      if (workspace.get? Config.usualPlace).isSome && !force then
        (.error .alreadyExists, workspace)
      else
        match workspace.write Config.usualPath (Utf8.encode Config.template) with
        | .error fault => (.error (.io fault), workspace)
        | .ok after =>
            (.ok (if (workspace.get? Config.usualPlace).isSome then .overwritten else .created),
              after) := by
  rw [createConfig, Config.defaultPath_eq_usualPath, runIn, Workspace.contains_usualPath]
  split
  · rfl
  · rw [runIn]
    cases workspace.write Config.usualPath (Utf8.encode Config.template) with
    | error fault => rfl
    | ok after => rfl

/-- Making a configuration file fails and leaves the workspace as it is, or it has
written the file. -/
theorem initConfig_fails_or_writes (terminal force : Bool) (color? : Option Color) :
    (∃ stderr, (initConfig terminal force color?).runIn input workspace =
        (⟨2, "", stderr⟩, workspace)) ∨
      ∃ creation after,
        workspace.write Config.usualPath (Utf8.encode Config.template) = .ok after ∧
          (initConfig terminal force color?).runIn input workspace =
            (⟨0, Creation.message creation, ""⟩, after) := by
  rw [initConfig, runIn_bind, runIn_createConfig]
  by_cases refused : ((workspace.get? Config.usualPlace).isSome && !force) = true
  · rw [if_pos refused]
    exact .inl ⟨_, rfl⟩
  · rw [if_neg refused]
    cases workspace.write Config.usualPath (Utf8.encode Config.template) with
    | error fault => exact .inl ⟨_, rfl⟩
    | ok after => exact .inr ⟨_, after, rfl, rfl⟩

end Program

end DomainRules
