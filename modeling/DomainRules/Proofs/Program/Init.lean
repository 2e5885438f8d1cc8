import DomainRules.Proofs.Program.Independence
import DomainRules.Proofs.Program.Session

/-!
# Making a configuration file

The configuration file that the program makes says what holds without it.  So an export
that follows does what it would have done before, in a workspace that had no such file.
The file is made in its place or the workspace stays as it is, and what is there already
is only overwritten by force.
-/

namespace DomainRules

open CommandLine (ExportOptions Invocation)

namespace Config

/-! ## The settings of the file -/

/-- The settings in the characters of a text, where nothing is wrong with them. -/
def ofCharacters? (characters : List Char) : Option Config := do
  let draft ← (Toml.Draft.addLines characters.length .empty ⟨0, characters⟩).toOption
  let table ← draft.close.toOption
  (ofEntries sections table.entries default).toOption

/-- The settings in a text are those in its characters. -/
theorem ofString_of_ofCharacters? {source : String} {config : Config}
    (unmarked : source.toList.head? ≠ some '\uFEFF')
    (read : ofCharacters? source.toList = some config)
    (supported : config.version = supportedVersion) : ofString source = .ok config := by
  obtain ⟨draft, isDraft, read⟩ := Option.bind_eq_some_iff.mp read
  obtain ⟨table, isTable, read⟩ := Option.bind_eq_some_iff.mp read
  rw [toOption_eq_some_iff] at isDraft isTable read
  have start : (if (Toml.Cursor.ofString source).rest.head? = some '\uFEFF' then
      (Toml.Cursor.ofString source).advance 1 else Toml.Cursor.ofString source) =
      ⟨0, source.toList⟩ := if_neg unmarked
  have isRead : Toml.Table.ofString source = .ok table := by
    simp only [Toml.Table.ofString, start, isDraft, isTable]
  simp only [ofString, isRead, read]
  exact if_pos supported

set_option maxRecDepth 4000 in
/-- The file that is made says what holds without it. -/
theorem ofString_usualText : ofString usualText = .ok usual := by
  -- The kernel reads characters quickly, and a text by its bytes slowly.
  obtain ⟨characters, isTemplate, unmarked, read⟩ :
      ∃ characters, usualText = String.ofList characters ∧
        characters.head? ≠ some '\uFEFF' ∧ ofCharacters? characters = some usual :=
    ⟨_, rfl, by decide +kernel, by decide +kernel⟩
  have isCharacters : usualText.toList = characters := by
    rw [isTemplate, String.toList_ofList]
  rw [← isCharacters] at unmarked read
  exact ofString_of_ofCharacters? unmarked read rfl

end Config

/-! ## Workspaces with the file -/

namespace Workspace

variable {workspace : Workspace}

/-- The workspace with the configuration file that the program makes. -/
def configured (workspace : Workspace) : Workspace :=
  workspace.set Config.usualPlace (.file (Utf8.encode Config.usualText))

theorem get?_configured (workspace : Workspace) :
    workspace.configured.get? Config.usualPlace =
      some (.file (Utf8.encode Config.usualText)) := by
  rw [configured, get?_set workspace Config.usualPlace_ne_nil, if_pos rfl]

theorem get?_configured_of_ne (workspace : Workspace) {place : List String}
    (elsewhere : place ≠ Config.usualPlace) :
    workspace.configured.get? place = workspace.get? place := by
  rw [configured, get?_set workspace Config.usualPlace_ne_nil, if_neg elsewhere]

theorem configured_configured (workspace : Workspace) :
    workspace.configured.configured = workspace.configured :=
  workspace.set_set _ _

theorem agreeApartFrom_configured (workspace : Workspace) :
    workspace.AgreeApartFrom Config.usualPlace workspace.configured :=
  workspace.agreeApartFrom_set Config.usualPlace_ne_nil _

/-- The file can be opened to be written unless a directory is in its place. -/
theorem opened_usualPath (workspace : Workspace) :
    workspace.opened Config.usualPath =
      match workspace.get? Config.usualPlace with
      | some .directory => .error .isDirectory
      | _ => .ok Config.usualPlace := by
  have noSlash : ¬Config.usualPath.endsWith "/" = true := by decide +kernel
  rw [opened, if_neg noSlash, locate_usualPath]
  rfl

theorem givenBy_usualText : Config.givenBy (.ok (Utf8.encode Config.usualText)) = .ok .usual := by
  rw [Config.givenBy, Utf8.decode?_eq_some_iff.mpr rfl]
  exact Config.ofString_usualText

/-- A workspace without a configuration file has the settings that the file says. -/
theorem resolveIn_configured (absent : workspace.get? Config.usualPlace = none)
    {path? : Option String}
    (unmet : ∀ path, path? = some path → ¬workspace.Passes path Config.usualPlace) :
    Config.resolveIn workspace path? = Config.resolveIn workspace.configured path? := by
  cases path? with
  | some path =>
      have same := read_congr workspace.agreeApartFrom_configured (unmet path rfl)
      rw [Config.resolveIn, Config.resolveIn, same]
  | none =>
      have read : workspace.configured.read Config.usualPath =
          .ok (Utf8.encode Config.usualText) :=
        read_eq_ok_iff.mpr ⟨_, locate_usualPath _, get?_configured workspace⟩
      rw [Config.resolveIn, Config.resolveIn, absent, get?_configured, read, givenBy_usualText]
      rfl

end Workspace

/-! ## Making the file -/

namespace Program

variable {workspace : Workspace} {input : List UInt8} {force : Bool}

/-- Whether the file can be made, by what is in its place. -/
def creation (force : Bool) : Option Entry → Except CreationFault Creation
  | none => .ok .created
  | some entry =>
      if force then
        match entry with
        | .file _ => .ok .overwritten
        | .directory => .error (.io .isDirectory)
      else .error .alreadyExists

theorem runIn_createConfig_eq :
    (createConfig force).runIn input workspace =
      match creation force (workspace.get? Config.usualPlace) with
      | .ok made => (.ok made, workspace.configured)
      | .error fault => (.error fault, workspace) := by
  rw [runIn_createConfig, Config.template_eq_usualText, Workspace.write_eq,
    Workspace.opened_usualPath]
  cases workspace.get? Config.usualPlace with
  | none => rfl
  | some entry =>
      cases force with
      | false => rfl
      | true =>
          cases entry with
          | file bytes => rfl
          | directory => rfl

theorem Creation.message_eq (made : Creation) :
    made.message =
      if made = .overwritten then "Overwrote ruleconv.toml\n" else "Created ruleconv.toml\n" := by
  cases made <;> decide +kernel

theorem runIn_initConfig (terminal : Bool) (color? : Option Color) :
    (initConfig terminal force color?).runIn input workspace =
      match creation force (workspace.get? Config.usualPlace) with
      | .ok made => (⟨0, made.message, ""⟩, workspace.configured)
      | .error fault =>
          (⟨2, "", Diagnostic.report ((color?.getD default).applies terminal)
            [.error fault.message]⟩, workspace) := by
  rw [initConfig, runIn_bind, runIn_createConfig_eq]
  cases creation force (workspace.get? Config.usualPlace) with
  | ok made => rfl
  | error fault => rfl

/-- What is in the place of the file is there to be told of, and in the way without force. -/
theorem overwritten_iff_of_creation {found? : Option Entry} {made : Creation}
    (isMade : creation force found? = .ok made) :
    (made = .overwritten ↔ found?.isSome = true) ∧ (found?.isSome = true → force = true) := by
  cases found? with
  | none =>
      cases isMade
      simp
  | some entry =>
      cases force with
      | false => cases isMade
      | true =>
          cases entry with
          | file bytes =>
              cases isMade
              simp
          | directory => cases isMade

end Program

namespace CommandLine.ExportOptions

/-- The paths that an export is given. -/
def paths (options : ExportOptions) : List String :=
  (if options.input = "-" then [] else [options.input]) ++ options.output?.toList ++
    options.config?.toList

variable {options : ExportOptions} {path : String}

theorem input_mem_paths (isFile : options.input ≠ "-") : options.input ∈ options.paths := by
  rw [paths, if_neg isFile]
  simp

theorem output_mem_paths (isOutput : options.output? = some path) : path ∈ options.paths := by
  rw [paths, isOutput]
  simp

theorem config_mem_paths (isConfig : options.config? = some path) : path ∈ options.paths := by
  rw [paths, isConfig]
  simp

/-! ## Alike workspaces after an export -/

section SameFiles

variable {first second after other : Workspace} {place : List String}

/-- An export to a file away from a place leaves workspaces alike that were so apart from
it. -/
theorem get?_of_sameFiles (agree : first.AgreeApartFrom place second)
    (unmet : ∀ path ∈ options.paths, ¬first.Passes path place)
    (files : options.SameFiles first second after other) {elsewhere : List String}
    (same : first.get? elsewhere = second.get? elsewhere) :
    after.get? elsewhere = other.get? elsewhere := by
  rcases files with ⟨rfl, rfl⟩ | ⟨path, bytes, isOutput, written, otherWritten, _⟩
  · exact same
  · exact Workspace.get?_congr_of_write agree (unmet path (output_mem_paths isOutput)) written
      otherWritten same

theorem read_of_sameFiles (agree : first.AgreeApartFrom place second)
    (unmet : ∀ path ∈ options.paths, ¬first.Passes path place)
    (files : options.SameFiles first second after other) (isOutput : options.output? = some path) :
    after.read path = other.read path := by
  rcases files with ⟨rfl, rfl⟩ | ⟨written, bytes, isWritten, _, _, read, otherRead⟩
  · exact (Workspace.read_congr agree (unmet path (output_mem_paths isOutput))).symm
  · cases isOutput.symm.trans isWritten
    exact read.trans otherRead.symm

end SameFiles

end CommandLine.ExportOptions

/-- A call that makes no configuration file, and is given no path to a place or through
it. -/
def Call.Spares (call : Call) (workspace : Workspace) (place : List String) : Prop :=
  match Invocation.ofArguments call.arguments with
  | .ok ⟨.exportRules options, _⟩ => ∀ path ∈ options.paths, ¬workspace.Passes path place
  | .ok ⟨.initConfig _, _⟩ => False
  | .error _ => True

namespace Step

/-- Two steps that show the same and leave the same, a place apart. -/
structure AlikeApartFrom (place : List String) (step other : Step) : Prop where
  shown : step.outcome = other.outcome
  elsewhere : ∀ path, path ≠ place → step.after.get? path = other.after.get? path
  /-- The output of an export is found with the same content, or is not found. -/
  output : ∀ options color? path,
    Invocation.ofArguments step.call.arguments = .ok ⟨.exportRules options, color?⟩ →
      options.output? = some path → step.after.read path = other.after.read path

/-- What a call to make the configuration file does. -/
structure Initializes (force : Bool) (step : Step) : Prop where
  /-- What is in its place stays there, unless by force. -/
  refused : force = false → (step.before.get? Config.usualPlace).isSome = true →
    ¬step.Succeeds ∧ step.after = step.before
  written : step.Succeeds →
    step.after.get? Config.usualPlace = some (.file (Utf8.encode Config.usualText))
  /-- It is said to be overwritten if it was there before, and to be created otherwise. -/
  reported : step.Succeeds → ∃ creation : Program.Creation,
    ((Program.createConfig force).runIn step.call.input step.before).1 = .ok creation ∧
      (creation = .overwritten ↔ (step.before.get? Config.usualPlace).isSome = true) ∧
      step.outcome =
        ⟨0, if (step.before.get? Config.usualPlace).isSome then "Overwrote ruleconv.toml\n"
          else "Created ruleconv.toml\n", ""⟩
  /-- Making the file again by force succeeds and changes nothing more. -/
  repeated : ∀ (again : Call) color?,
    Invocation.ofArguments again.arguments = .ok ⟨.initConfig true, color?⟩ →
      (step.Succeeds → (again.step step.after).Succeeds) ∧
        (step.Succeeds ∨ force = true → (again.step step.after).after = step.after)

end Step

namespace Call

variable {workspace : Workspace} {call init : Call} {force : Bool} {color? : Option Color}

theorem step_of_made {made : Program.Creation}
    (isInit : Invocation.ofArguments init.arguments = .ok ⟨.initConfig force, color?⟩)
    (isMade : Program.creation force (workspace.get? Config.usualPlace) = .ok made) :
    init.step workspace =
      ⟨init, workspace, ⟨0, made.message, ""⟩, workspace.configured⟩ := by
  apply step_of_eq
  rw [Program.ofArguments_of_init isInit, Program.runIn_initConfig, isMade]

theorem step_of_not_made {fault : Program.CreationFault}
    (isInit : Invocation.ofArguments init.arguments = .ok ⟨.initConfig force, color?⟩)
    (failed : Program.creation force (workspace.get? Config.usualPlace) = .error fault) :
    init.step workspace =
      ⟨init, workspace, ⟨2, "", Diagnostic.report ((color?.getD default).applies init.terminal)
        [.error fault.message]⟩, workspace⟩ := by
  apply step_of_eq
  rw [Program.ofArguments_of_init isInit, Program.runIn_initConfig, failed]

theorem initializes_step_of_made {made : Program.Creation}
    (isInit : Invocation.ofArguments init.arguments = .ok ⟨.initConfig force, color?⟩)
    (isMade : Program.creation force (workspace.get? Config.usualPlace) = .ok made) :
    (init.step workspace).Initializes force := by
  obtain ⟨overwrites, forced⟩ := Program.overwritten_iff_of_creation isMade
  rw [step_of_made isInit isMade]
  constructor
  case refused =>
    intro unforced present
    cases unforced.symm.trans (forced present)
  case written => exact fun _ => workspace.get?_configured
  case reported =>
    intro _
    have result : ((Program.createConfig force).runIn init.input workspace).1 = .ok made := by
      rw [Program.runIn_createConfig_eq, isMade]
    refine ⟨made, result, overwrites, ?_⟩
    simp only [Program.Creation.message_eq, overwrites]
  case repeated =>
    intro again color? isAgain
    have isOverwritten : Program.creation true (workspace.configured.get? Config.usualPlace) =
        .ok .overwritten := by
      rw [Workspace.get?_configured]
      rfl
    rw [step_of_made isAgain isOverwritten]
    exact ⟨fun _ => rfl, fun _ => workspace.configured_configured⟩

theorem initializes_step_of_not_made {fault : Program.CreationFault}
    (isInit : Invocation.ofArguments init.arguments = .ok ⟨.initConfig force, color?⟩)
    (failed : Program.creation force (workspace.get? Config.usualPlace) = .error fault) :
    (init.step workspace).Initializes force := by
  have isStep := step_of_not_made isInit failed
  have fails : ¬(init.step workspace).Succeeds := by
    rw [isStep]
    exact Nat.succ_ne_zero _
  constructor
  case refused =>
    intro _ _
    exact ⟨fails, by rw [isStep]⟩
  case written => exact fun succeeds => absurd succeeds fails
  case reported => exact fun succeeds => absurd succeeds fails
  case repeated =>
    intro again color? isAgain
    refine ⟨fun succeeds => absurd succeeds fails, ?_⟩
    intro tried
    obtain rfl : force = true := tried.resolve_left fails
    rw [isStep, step_of_not_made isAgain failed]

/-- What a call to make the file does, whatever is in its place. -/
theorem initializes_step
    (isInit : Invocation.ofArguments init.arguments = .ok ⟨.initConfig force, color?⟩)
    (workspace : Workspace) : (init.step workspace).Initializes force := by
  cases result : Program.creation force (workspace.get? Config.usualPlace) with
  | ok made => exact initializes_step_of_made isInit result
  | error fault => exact initializes_step_of_not_made isInit result

/-! ## Exports after it -/

theorem alike_step_of_export {options : ExportOptions}
    (isExport : Invocation.ofArguments call.arguments = .ok ⟨.exportRules options, color?⟩)
    (unmet : ∀ path ∈ options.paths, ¬workspace.Passes path Config.usualPlace)
    (absent : workspace.get? Config.usualPlace = none) :
    (call.step workspace.configured).AlikeApartFrom Config.usualPlace (call.step workspace) := by
  have agree := workspace.agreeApartFrom_configured
  have document : options.SameDocument workspace workspace.configured := by
    intro isFile
    exact (Workspace.read_congr agree (unmet _ (ExportOptions.input_mem_paths isFile))).symm
  have output : options.SameOutput workspace workspace.configured := by
    intro path isOutput
    have spared := unmet _ (ExportOptions.output_mem_paths isOutput)
    exact (Workspace.openFault?_congr agree spared).symm
  have resolved := Workspace.resolveIn_configured absent fun path isConfig =>
    unmet path (ExportOptions.config_mem_paths isConfig)
  have same : Program.SameRun options workspace workspace.configured
      ((Program.ofArguments call.terminal call.arguments).runIn call.input workspace)
      ((Program.ofArguments call.terminal call.arguments).runIn call.input
        workspace.configured) := by
    rw [Program.ofArguments_of_accepted isExport]
    exact Program.sameRun_exportRules document output resolved call.terminal call.input
  constructor
  case shown => exact same.shown.symm
  case elsewhere =>
    intro place elsewhere
    have before := workspace.get?_configured_of_ne elsewhere
    exact (ExportOptions.get?_of_sameFiles agree unmet same.written before.symm).symm
  case output =>
    intro others _ path isOther isOutput
    cases isExport.symm.trans isOther
    exact (ExportOptions.read_of_sameFiles agree unmet same.written isOutput).symm

/-- A call does the same before and after the file has been made. -/
theorem alike_step_of_spares (spares : call.Spares workspace Config.usualPlace)
    (absent : workspace.get? Config.usualPlace = none) :
    (call.step workspace.configured).AlikeApartFrom Config.usualPlace (call.step workspace) := by
  rw [Spares] at spares
  cases read : Invocation.ofArguments call.arguments with
  | ok invocation =>
      rcases invocation with ⟨command, color?⟩
      rw [read] at spares
      cases command with
      | exportRules options => exact alike_step_of_export read spares absent
      | initConfig force => exact spares.elim
  | error stop =>
      have unchanged (workspace : Workspace) :
          call.step workspace = ⟨call, workspace, Program.ofStop stop, workspace⟩ :=
        step_of_eq (Program.runIn_ofArguments_of_stop read call.terminal)
      rw [unchanged, unchanged]
      constructor
      case shown => rfl
      case elsewhere => exact fun place elsewhere => workspace.get?_configured_of_ne elsewhere
      case output =>
        intro options _ _ isExport
        rw [read] at isExport
        cases isExport

end Call

/-- Making the configuration file changes nothing for later exports where there was none,
and otherwise it is refused or leaves the file as it is to be.  The exports are those whose
files are in the workspace, since paths that begin with a slash or leave the directory lead
to none. -/
theorem init_neutral {init : Call} {force : Bool} {color? : Option Color}
    (isInit : Invocation.ofArguments init.arguments = .ok ⟨.initConfig force, color?⟩)
    (workspace : Workspace) :
    (workspace.get? Config.usualPlace = none →
        (init.step workspace).Succeeds ∧
          ∀ call : Call, call.Spares workspace Config.usualPlace →
            (call.step (init.step workspace).after).AlikeApartFrom Config.usualPlace
              (call.step workspace)) ∧
      (init.step workspace).Initializes force := by
  constructor
  · intro absent
    have isMade : Program.creation force (workspace.get? Config.usualPlace) = .ok .created := by
      rw [absent]
      rfl
    rw [Call.step_of_made isInit isMade]
    exact ⟨rfl, fun call spares => call.alike_step_of_spares spares absent⟩
  · exact Call.initializes_step isInit workspace

/-- A call to make the configuration file. -/
def firstInit : Call :=
  ⟨["init"], [], false⟩

/-- An export to a file of its own. -/
def plainExport : Call :=
  ⟨["export", "rules.json", "-o", "out.yaml"], [], false⟩

/-- The options of that export. -/
def plainOptions : ExportOptions where
  input := "rules.json"
  output? := some "out.yaml"

theorem firstInit_neutral :
    Invocation.ofArguments firstInit.arguments = .ok ⟨.initConfig false, none⟩ ∧
      (firstInit.step singleDocument).outcome = ⟨0, "Created ruleconv.toml\n", ""⟩ ∧
      (firstInit.step singleDocument).after.get? Config.usualPlace =
        some (.file (Utf8.encode Config.usualText)) ∧
      ¬(firstInit.step (firstInit.step singleDocument).after).Succeeds ∧
      (plainExport.step (firstInit.step singleDocument).after).AlikeApartFrom
        Config.usualPlace (plainExport.step singleDocument) := by
  have isInit : Invocation.ofArguments firstInit.arguments = .ok ⟨.initConfig false, none⟩ := by
    decide +kernel
  have isExport : Invocation.ofArguments plainExport.arguments =
      .ok ⟨.exportRules plainOptions, none⟩ := by
    decide +kernel
  have spares : plainExport.Spares singleDocument Config.usualPlace := by
    rw [Call.Spares, isExport]
    intro path member
    have plain : Workspace.IsName path ∧ Config.usualPlace ≠ [path] := by
      revert path
      decide +kernel
    exact Workspace.not_passes_of_isName plain.1 Config.usualPlace_ne_nil plain.2
  obtain ⟨succeeds, alike⟩ := (init_neutral isInit singleDocument).1 rfl
  obtain ⟨_, _, _, reported⟩ := (init_neutral isInit singleDocument).2.reported succeeds
  have written := (init_neutral isInit singleDocument).2.written succeeds
  have present : ((firstInit.step singleDocument).after.get? Config.usualPlace).isSome = true := by
    rw [written]
    rfl
  have again := (init_neutral isInit (firstInit.step singleDocument).after).2
  exact ⟨isInit, reported, written, (again.refused rfl present).1, alike plainExport spares⟩

end DomainRules
