import DomainRules.Proofs.Program.Export
import DomainRules.Proofs.Workspace.Route

/-!
# What an export depends on

An export looks at its rule document, at the configuration file that it is told of or
finds, and at whether its output can be opened.  In two workspaces that are alike in these
it shows the same and writes the same.  So a configuration file in the working directory
goes unnoticed where another one is named, and no settings matter at all where the options
overrule each of them.
-/

namespace DomainRules

open CommandLine (ExportOptions Invocation)

variable {first second : Workspace} {options : ExportOptions} {color? : Option Color}
  {input : List UInt8}

namespace CommandLine.ExportOptions

/-- Two workspaces with the same rule document for an export. -/
def SameDocument (options : ExportOptions) (first second : Workspace) : Prop :=
  options.input ≠ "-" → first.read options.input = second.read options.input

/-- Two workspaces with the same configuration file for an export: the one that is named,
or else the one in the working directory, if there is one. -/
def SameSettings (options : ExportOptions) (first second : Workspace) : Prop :=
  match options.config? with
  | some path => first.read path = second.read path
  | none =>
      (first.get? Config.usualPlace).isSome = (second.get? Config.usualPlace).isSome ∧
        ((first.get? Config.usualPlace).isSome = true →
          first.read Config.usualPath = second.read Config.usualPath)

/-- Two workspaces in which the output of an export can be opened, or cannot for the same
reason. -/
def SameOutput (options : ExportOptions) (first second : Workspace) : Prop :=
  ∀ path, options.output? = some path → first.openFault? path = second.openFault? path

/-- Two workspaces are left as they are, or the same bytes are written to the output in
both of them, where they are found afterwards. -/
def SameFiles (options : ExportOptions) (first second after other : Workspace) : Prop :=
  (after = first ∧ other = second) ∨
    ∃ path bytes, options.output? = some path ∧
      first.write path bytes = .ok after ∧ second.write path bytes = .ok other ∧
      after.read path = .ok bytes ∧ other.read path = .ok bytes

/-! ## Parts of an export -/

theorem source_congr (document : options.SameDocument first second) :
    options.source input first = options.source input second := by
  rw [source, source]
  split
  · rfl
  · next isFile => exact document isFile

theorem resolveIn_congr (settings : options.SameSettings first second) :
    Config.resolveIn first options.config? = Config.resolveIn second options.config? := by
  rw [SameSettings] at settings
  cases isConfig : options.config? with
  | some path =>
      rw [isConfig] at settings
      exact congrArg Config.givenBy settings
  | none =>
      rw [isConfig] at settings
      obtain ⟨samePresence, sameContent⟩ := settings
      rw [Config.resolveIn, Config.resolveIn, ← samePresence]
      split
      · next present => rw [sameContent present]
      · rfl

/-- A text that is handed over in two workspaces is refused for the same reason, or it is
written to the same effect. -/
theorem deliverIn_congr (output : options.SameOutput first second) (text : String) :
    (∃ fault, options.deliverIn text first = .error fault ∧
        options.deliverIn text second = .error fault) ∨
      ∃ stdout after other, options.deliverIn text first = .ok (stdout, after) ∧
        options.deliverIn text second = .ok (stdout, other) ∧
        options.SameFiles first second after other := by
  cases isOutput : options.output? with
  | none =>
      right
      exact ⟨text, first, second, deliverIn_of_none isOutput text first,
        deliverIn_of_none isOutput text second, .inl ⟨rfl, rfl⟩⟩
  | some path =>
      rw [deliverIn_of_some isOutput, deliverIn_of_some isOutput]
      have sameFault := output path isOutput
      cases fails : first.openFault? path with
      | some fault =>
          left
          rw [fails] at sameFault
          refine ⟨fault, ?_, ?_⟩
          · rw [Workspace.write_of_openFault? fails]
            rfl
          · rw [Workspace.write_of_openFault? sameFault.symm]
            rfl
      | none =>
          right
          rw [fails] at sameFault
          obtain ⟨place, opened⟩ := Workspace.opened_of_openFault? fails
          obtain ⟨otherPlace, otherOpened⟩ := Workspace.opened_of_openFault? sameFault.symm
          have written := Workspace.write_of_opened opened (Utf8.encode text)
          have otherWritten := Workspace.write_of_opened otherOpened (Utf8.encode text)
          refine ⟨"", _, _, by rw [written]; rfl, by rw [otherWritten]; rfl, .inr ?_⟩
          exact ⟨path, Utf8.encode text, isOutput, written, otherWritten,
            Workspace.read_of_write written, Workspace.read_of_write otherWritten⟩

/-! ## Options that overrule the settings -/

theorem policy_of_overruled (overruled : options.pedantic = true ∨ options.lenient = true)
    (config other : Config) : options.policy config = options.policy other := by
  rw [policy, policy]
  split
  · rfl
  · split
    · rfl
    · next notPedantic notLenient =>
        rcases overruled with pedantic | lenient
        · exact absurd pedantic notPedantic
        · exact absurd lenient notLenient

theorem getD_of_isSome {α : Type} {value? : Option α} (given : value?.isSome = true)
    (first second : α) : value?.getD first = value?.getD second := by
  rcases Option.isSome_iff_exists.mp given with ⟨value, rfl⟩
  rfl

end CommandLine.ExportOptions

namespace Program

/-- Two runs of an export that show the same and write the same. -/
structure SameRun (options : ExportOptions) (first second : Workspace)
    (run other : Outcome × Workspace) : Prop where
  /-- The exit code and what goes to the standard output and the error stream. -/
  shown : run.1 = other.1
  written : options.SameFiles first second run.2 other.2

theorem sameRun_of_unchanged (options : ExportOptions) (first second : Workspace)
    (outcome : Outcome) :
    SameRun options first second (outcome, first) (outcome, second) :=
  ⟨rfl, .inl ⟨rfl, rfl⟩⟩

/-- Settings matter to an export by the color, the policy and the format that they lead
to. -/
theorem sameRun_exportWith {config other : Config}
    (document : options.SameDocument first second) (output : options.SameOutput first second)
    (color : color?.getD config.color = color?.getD other.color)
    (policy : options.policy config = options.policy other)
    (format : options.format?.getD config.format = options.format?.getD other.format)
    (terminal : Bool) (input : List UInt8) :
    SameRun options first second
      ((exportWith terminal options color? config).runIn input first)
      ((exportWith terminal options color? other).runIn input second) := by
  rw [runIn_exportWith, runIn_exportWith, ← color, ← policy, ← format,
    ← ExportOptions.source_congr document]
  cases decodeText (options.source input first) with
  | error fault => exact sameRun_of_unchanged options first second _
  | ok source =>
      dsimp only
      cases (MetaDomain.render (options.policy config) (options.format?.getD config.format)
          source).result with
      | error failure => exact sameRun_of_unchanged options first second _
      | ok text =>
          dsimp only
          rcases ExportOptions.deliverIn_congr output text with
            ⟨fault, failed, otherFailed⟩ | ⟨stdout, after, other, handed, otherHanded, same⟩
          · rw [failed, otherFailed]
            exact sameRun_of_unchanged options first second _
          · rw [handed, otherHanded]
            exact ⟨rfl, same⟩

/-- An export does the same where it finds the same settings, or cannot use them for the
same reason. -/
theorem sameRun_exportRules (document : options.SameDocument first second)
    (output : options.SameOutput first second)
    (resolved : Config.resolveIn first options.config? =
      Config.resolveIn second options.config?) (terminal : Bool) (input : List UInt8) :
    SameRun options first second
      ((exportRules terminal options color?).runIn input first)
      ((exportRules terminal options color?).runIn input second) := by
  rw [runIn_exportRules, runIn_exportRules, ← resolved]
  cases Config.resolveIn first options.config? with
  | error fault => exact sameRun_of_unchanged options first second _
  | ok config => exact sameRun_exportWith document output rfl rfl rfl terminal input

/-- Where the options say all that settings could, it is enough that there are some. -/
theorem sameRun_exportRules_of_overruled {config other : Config}
    (document : options.SameDocument first second) (output : options.SameOutput first second)
    (format : options.format?.isSome = true) (color : color?.isSome = true)
    (policy : options.pedantic = true ∨ options.lenient = true)
    (resolved : Config.resolveIn first options.config? = .ok config)
    (otherResolved : Config.resolveIn second options.config? = .ok other)
    (terminal : Bool) (input : List UInt8) :
    SameRun options first second
      ((exportRules terminal options color?).runIn input first)
      ((exportRules terminal options color?).runIn input second) := by
  rw [runIn_exportRules, runIn_exportRules, resolved, otherResolved]
  exact sameRun_exportWith document output (ExportOptions.getD_of_isSome color _ _)
    (ExportOptions.policy_of_overruled policy config other)
    (ExportOptions.getD_of_isSome format _ _) terminal input

/-- A configuration file in the working directory goes unnoticed where another is named. -/
theorem sameSettings_of_named {path : String} (named : options.config? = some path)
    (elsewhere : ¬first.Passes path Config.usualPlace)
    (agree : first.AgreeApartFrom Config.usualPlace second) :
    options.SameSettings first second := by
  rw [ExportOptions.SameSettings, named]
  exact (Workspace.read_congr agree elsewhere).symm

/-- A command line that is no use does the same everywhere.  One that asks for an export
shows the same and writes the same in two workspaces that have its rule document and its
settings in common, and in which its output can be opened or cannot for the same reason.
Nothing in the place of the usual configuration file matters where another one is named.
Any settings that can be used do where the options overrule all of them.  Paths that begin
with a slash or leave the directory lead to no file in either workspace. -/
theorem ofArguments_sameRun (first second : Workspace) (terminal : Bool)
    (arguments : List String) (input : List UInt8) :
    let run := fun workspace => (ofArguments terminal arguments).runIn input workspace
    (∀ stop, Invocation.ofArguments arguments = .error stop →
        run first = (ofStop stop, first) ∧ run second = (ofStop stop, second)) ∧
      ∀ options color?, Invocation.ofArguments arguments = .ok ⟨.exportRules options, color?⟩ →
        options.SameDocument first second → options.SameOutput first second →
          (options.SameSettings first second →
              SameRun options first second (run first) (run second)) ∧
            (∀ path, options.config? = some path → ¬first.Passes path Config.usualPlace →
              first.AgreeApartFrom Config.usualPlace second →
                SameRun options first second (run first) (run second)) ∧
            ∀ config other, options.format?.isSome = true → color?.isSome = true →
              options.pedantic = true ∨ options.lenient = true →
                Config.resolveIn first options.config? = .ok config →
                  Config.resolveIn second options.config? = .ok other →
                    SameRun options first second (run first) (run second) := by
  intro run
  constructor
  · intro stop refused
    exact ⟨runIn_ofArguments_of_stop refused terminal, runIn_ofArguments_of_stop refused terminal⟩
  · intro options color? accepted document output
    have isExport : ofArguments terminal arguments = exportRules terminal options color? :=
      ofArguments_of_accepted accepted terminal
    have same : options.SameSettings first second →
        SameRun options first second (run first) (run second) := by
      intro settings
      simp only [run, isExport]
      exact sameRun_exportRules document output (ExportOptions.resolveIn_congr settings) terminal
        input
    refine ⟨same, ?_, ?_⟩
    · intro path named elsewhere agree
      exact same (sameSettings_of_named named elsewhere agree)
    · intro config other format color policy resolved otherResolved
      simp only [run, isExport]
      exact sameRun_exportRules_of_overruled document output format color policy resolved
        otherResolved terminal input

/-- An export of a file to a file by the settings of a third one. -/
def namedSettings : ExportOptions where
  input := "rules.json"
  output? := some "out.yaml"
  config? := some "own.toml"

/-- A rule document and a configuration file. -/
def tidyWorkspace : Workspace :=
  ⟨[(["rules.json"], .file (Utf8.encode lossyDocument)),
    (["own.toml"], .file (Utf8.encode "[policy]\npedantic = true\n"))]⟩

/-- The same files with a text beside them that is no configuration, in the place of one. -/
def untidyWorkspace : Workspace :=
  tidyWorkspace.set Config.usualPlace (.file (Utf8.encode "[policy"))

theorem untidyWorkspace_unnoticed :
    let arguments := ["export", "rules.json", "-o", "out.yaml", "--config", "own.toml"]
    let run := fun workspace => (ofArguments false arguments).runIn [] workspace
    Invocation.ofArguments arguments = .ok ⟨.exportRules namedSettings, none⟩ ∧
      untidyWorkspace.get? Config.usualPlace ≠ tidyWorkspace.get? Config.usualPlace ∧
      SameRun namedSettings tidyWorkspace untidyWorkspace (run tidyWorkspace)
        (run untidyWorkspace) := by
  intro arguments run
  have accepted : Invocation.ofArguments arguments = .ok ⟨.exportRules namedSettings, none⟩ := by
    decide +kernel
  have agree : tidyWorkspace.AgreeApartFrom Config.usualPlace untidyWorkspace :=
    Workspace.agreeApartFrom_set tidyWorkspace Config.usualPlace_ne_nil _
  have unmet : ∀ name ∈ ["rules.json", "out.yaml", "own.toml"],
      ¬tidyWorkspace.Passes name Config.usualPlace := by
    intro name member
    have plain : Workspace.IsName name ∧ Config.usualPlace ≠ [name] := by
      revert name
      decide +kernel
    exact Workspace.not_passes_of_isName plain.1 Config.usualPlace_ne_nil plain.2
  have document : namedSettings.SameDocument tidyWorkspace untidyWorkspace := by
    intro _
    exact (Workspace.read_congr agree (unmet "rules.json" (by simp))).symm
  have output : namedSettings.SameOutput tidyWorkspace untidyWorkspace := by
    rintro path isOutput
    cases isOutput
    exact (Workspace.openFault?_congr agree (unmet "out.yaml" (by simp))).symm
  refine ⟨accepted, by decide +kernel, ?_⟩
  have same := (ofArguments_sameRun tidyWorkspace untidyWorkspace false arguments []).2
    namedSettings none accepted document output
  exact same.2.1 "own.toml" rfl (unmet "own.toml" (by simp)) agree

end Program

end DomainRules
