import DomainRules.Proofs.Program.Export

/-!
# Sessions

Several calls of the program in the same workspace, each of which finds what the calls
before it have left.  A call that fails leaves the workspace as it is.  One that succeeds
changes at most the one file that it is for, and what an export puts there comes from the
workspace before the call, even if that file is the rule document or the configuration.
-/

namespace DomainRules

open CommandLine (ExportOptions Invocation Stop)

/-- What the program is started with. -/
structure Call where
  arguments : List String
  input : List UInt8
  terminal : Bool

/-- A call that has been carried out, and the workspace before and after it. -/
structure Step where
  call : Call
  before : Workspace
  outcome : Outcome
  after : Workspace

namespace Call

/-- Carries out a call. -/
def step (call : Call) (workspace : Workspace) : Step :=
  let (outcome, after) :=
    (Program.ofArguments call.terminal call.arguments).runIn call.input workspace
  ⟨call, workspace, outcome, after⟩

/-- The place of the only file that a call may change. -/
def target? (call : Call) (workspace : Workspace) : Option (List String) :=
  match Invocation.ofArguments call.arguments with
  | .ok ⟨.exportRules options, _⟩ =>
      match options.output?.map workspace.locate with
      | some (.ok (.inside place)) => some place
      | _ => none
  | .ok ⟨.initConfig _, _⟩ => some Config.usualPlace
  | .error _ => none

end Call

namespace Step

/-- Whether a call has succeeded. -/
def Succeeds (step : Step) : Prop :=
  step.outcome.exitCode = 0

/-- Under the path there is now the text that the rule document became.  The document and
the settings are what was to be read before the call. -/
def Delivers (step : Step) (options : ExportOptions) (path : String) : Prop :=
  ∃ config document text,
    Config.resolveIn step.before options.config? = .ok config ∧
      options.source step.call.input step.before = .ok (Utf8.encode document) ∧
      (MetaDomain.render (options.chosenPolicy config) (options.format?.getD config.format)
        document).result = .ok text ∧
      step.after.read path = .ok (Utf8.encode text)

/-- What a call does to the workspace, and when it may. -/
structure Confined (step : Step) : Prop where
  /-- A call that fails does nothing and prints nothing. -/
  failed : ¬ step.Succeeds → step.after = step.before ∧ step.outcome.stdout = ""
  /-- A call that is for no file changes none. -/
  untouched : step.call.target? step.before = none → step.after = step.before
  /-- What lies elsewhere than in the place that the call is for stays as it is. -/
  elsewhere : ∀ place, step.call.target? step.before ≠ some place →
    step.after.get? place = step.before.get? place
  /-- An export that succeeds has delivered to the file that it names. -/
  exported : step.Succeeds → ∀ options color? path,
    Invocation.ofArguments step.call.arguments = .ok ⟨.exportRules options, color?⟩ →
      options.output? = some path → step.Delivers options path

end Step

/-- The calls of a session, carried out one after the other. -/
def session (workspace : Workspace) : List Call → List Step
  | [] => []
  | call :: calls =>
      let step := call.step workspace
      step :: session step.after calls

/-- The workspace that a session leaves. -/
def leftBy (workspace : Workspace) : List Call → Workspace
  | [] => workspace
  | call :: calls => leftBy (call.step workspace).after calls

variable {workspace after : Workspace} {call : Call} {outcome : Outcome}

/-! ## Steps -/

/-- A command line that asks for no command prints only if that is no mistake. -/
theorem CommandLine.Stop.output_of_exitCode_ne_zero {stop : Stop} (fails : stop.exitCode ≠ 0) :
    stop.output = "" := by
  cases stop with
  | help page long => exact absurd rfl fails
  | version => exact absurd rfl fails
  | _ => rfl

namespace Step

/-- A call that leaves the workspace as it is has only to be silent if it fails, and to
be for no file if it succeeds. -/
theorem confined_of_unchanged
    (silent : outcome.exitCode ≠ 0 → outcome.stdout = "")
    (noFile : outcome.exitCode = 0 → ∀ options color?,
      Invocation.ofArguments call.arguments = .ok ⟨.exportRules options, color?⟩ →
        options.output? = none) :
    Confined ⟨call, workspace, outcome, workspace⟩ where
  failed fails := ⟨rfl, silent fails⟩
  untouched _ := rfl
  elsewhere _ _ := rfl
  exported succeeds options color? path isExport isOutput := by
    rw [noFile succeeds options color? isExport] at isOutput
    cases isOutput

/-- A call that writes a file in the place that it is for changes nothing else. -/
theorem confined_of_written {path : String} {bytes : List UInt8}
    (succeeds : outcome.exitCode = 0) (written : workspace.write path bytes = .ok after)
    (isTarget : ∀ place, workspace.locate path = .ok (.inside place) →
      call.target? workspace = some place)
    (delivers : ∀ options color? output,
      Invocation.ofArguments call.arguments = .ok ⟨.exportRules options, color?⟩ →
        options.output? = some output →
          Delivers ⟨call, workspace, outcome, after⟩ options output) :
    Confined ⟨call, workspace, outcome, after⟩ where
  failed fails := absurd succeeds fails
  untouched noTarget := by
    obtain ⟨_, place, located, _⟩ := Workspace.write_eq_ok_iff.mp written
    have contrary := (isTarget place located).symm.trans noTarget
    cases contrary
  elsewhere place other :=
    Workspace.get?_of_write written fun located => other (isTarget place located)
  exported _ := delivers

end Step

namespace Call

theorem step_of_eq
    (run : (Program.ofArguments call.terminal call.arguments).runIn call.input workspace =
      (outcome, after)) :
    call.step workspace = ⟨call, workspace, outcome, after⟩ := by
  rw [step, run]

theorem confined_step_of_stop {stop : Stop}
    (isStop : Invocation.ofArguments call.arguments = .error stop) :
    (call.step workspace).Confined := by
  rw [step_of_eq (Program.runIn_ofArguments_of_stop isStop call.terminal)]
  refine Step.confined_of_unchanged CommandLine.Stop.output_of_exitCode_ne_zero ?_
  intro _ options color? isExport
  rw [isStop] at isExport
  cases isExport

theorem confined_step_of_export {options : ExportOptions} {color? : Option Color}
    (isExport : Invocation.ofArguments call.arguments = .ok ⟨.exportRules options, color?⟩) :
    (call.step workspace).Confined := by
  have program := Program.ofArguments_of_accepted isExport call.terminal
  have same {others : ExportOptions} {otherColor? : Option Color}
      (isOther : Invocation.ofArguments call.arguments =
        .ok ⟨.exportRules others, otherColor?⟩) : others = options := by
    rw [isExport] at isOther
    cases isOther
    rfl
  rcases Program.exportRules_fails_or_delivers call.terminal options color? call.input workspace
    with ⟨colored, remarks, failure, run⟩ |
      ⟨config, document, remarks, text, stdout, after, colored, resolved, readable, rendered,
        delivered, run⟩
  · rw [← program] at run
    rw [step_of_eq run]
    refine Step.confined_of_unchanged (fun _ => rfl) ?_
    intro succeeds
    exact absurd succeeds failure.exitCode_ne_zero
  · rw [← program] at run
    rw [step_of_eq run]
    cases isOutput : options.output? with
    | none =>
        rw [ExportOptions.deliverIn_of_none isOutput] at delivered
        cases delivered
        refine Step.confined_of_unchanged (fun fails => absurd rfl fails) ?_
        intro _ others _ isOther
        rw [same isOther, isOutput]
    | some path =>
        rw [ExportOptions.deliverIn_of_some isOutput] at delivered
        cases written : workspace.write path (Utf8.encode text) with
        | error fault =>
            rw [written] at delivered
            cases delivered
        | ok changed =>
            rw [written] at delivered
            cases delivered
            refine Step.confined_of_written rfl written ?_ ?_
            · intro place located
              rw [target?, isExport]
              simp only [isOutput, Option.map_some, located]
            · intro others _ output isOther isOtherOutput
              rw [same isOther] at isOtherOutput ⊢
              rw [options.policy_eq_chosenPolicy] at rendered
              cases isOutput.symm.trans isOtherOutput
              exact ⟨config, document, text, resolved, readable,
                congrArg Logged.result rendered, Workspace.read_of_write written⟩

theorem confined_step_of_init {force : Bool} {color? : Option Color}
    (isInit : Invocation.ofArguments call.arguments = .ok ⟨.initConfig force, color?⟩) :
    (call.step workspace).Confined := by
  have program := Program.ofArguments_of_init isInit call.terminal
  rcases Program.initConfig_fails_or_writes call.terminal force color?
    with ⟨stderr, run⟩ | ⟨creation, after, written, run⟩
  · rw [← program] at run
    rw [step_of_eq run]
    refine Step.confined_of_unchanged (fun _ => rfl) ?_
    intro succeeds
    exact absurd succeeds (Nat.succ_ne_zero _)
  · rw [← program] at run
    rw [step_of_eq run]
    refine Step.confined_of_written rfl written ?_ ?_
    · intro place located
      rw [Workspace.locate_usualPath] at located
      cases located
      rw [target?, isInit]
    · intro options _ _ isExport
      rw [isInit] at isExport
      cases isExport

/-- What a single call does to a workspace. -/
theorem confined_step (call : Call) (workspace : Workspace) :
    (call.step workspace).Confined := by
  cases read : Invocation.ofArguments call.arguments with
  | error stop => exact confined_step_of_stop read
  | ok invocation =>
      rcases invocation with ⟨command, color?⟩
      cases command with
      | exportRules options => exact confined_step_of_export read
      | initConfig force => exact confined_step_of_init read

end Call

/-! ## Whole sessions -/

theorem confined_of_mem_session {calls : List Call} {step : Step}
    (isStep : step ∈ session workspace calls) : step.Confined := by
  induction calls generalizing workspace with
  | nil => cases isStep
  | cons call calls ih =>
      rcases List.mem_cons.mp isStep with rfl | later
      · exact call.confined_step workspace
      · exact ih later

/-- A place that no successful call is for holds what it held before the session. -/
theorem get?_leftBy {calls : List Call} {place : List String}
    (spared : ∀ step ∈ session workspace calls, step.Succeeds →
      step.call.target? step.before ≠ some place) :
    (leftBy workspace calls).get? place = workspace.get? place := by
  induction calls generalizing workspace with
  | nil => rfl
  | cons call calls ih =>
      have confined := call.confined_step workspace
      have others := ih fun step isStep => spared step (List.mem_cons_of_mem _ isStep)
      rw [leftBy, others]
      by_cases succeeds : (call.step workspace).Succeeds
      · exact confined.elsewhere place (spared _ List.mem_cons_self succeeds)
      · rw [(confined.failed succeeds).1]
        rfl

/-- Every call of a session is confined, and so is the session as a whole: a call that
fails changes nothing, one that succeeds at most the file that it is for.  Nothing is said
of files outside the workspace, since no path leads to one: a call that is told to read or
write under a path that begins with a slash or leaves the directory fails. -/
theorem session_confined (workspace : Workspace) (calls : List Call) :
    (∀ step ∈ session workspace calls, step.Confined) ∧
      ∀ place, (∀ step ∈ session workspace calls, step.Succeeds →
          step.call.target? step.before ≠ some place) →
        (leftBy workspace calls).get? place = workspace.get? place := by
  constructor
  · intro step isStep
    exact confined_of_mem_session isStep
  · intro place spared
    exact get?_leftBy spared

/-- An export to the file of its own rule document. -/
def ownInput : Call :=
  ⟨["export", "rules.json", "-o", "rules.json"], [], false⟩

/-- The options of that export. -/
def ownOptions : ExportOptions where
  input := "rules.json"
  output? := some "rules.json"

/-- A rule document that converts without loss. -/
def plainDocument : String :=
  "\x7b\"version\": 3, \"rules\": [\x7b\"domain\": [\"a.example\"]\x7d]\x7d"

/-- The text that the document becomes. -/
def plainPayload : String :=
  "payload:\n- a.example\n"

/-- A directory with a single rule document. -/
def singleDocument : Workspace :=
  ⟨[(["rules.json"], .file (Utf8.encode plainDocument))]⟩

theorem ownInput_replaced :
    (ownInput.step singleDocument).Succeeds ∧
      (ownInput.step singleDocument).after.read "rules.json" = .ok (Utf8.encode plainPayload) ∧
      (leftBy singleDocument [ownInput]).get? ["other.json"] = none := by
  have accepted : Invocation.ofArguments ownInput.arguments =
      .ok ⟨.exportRules ownOptions, none⟩ := by decide +kernel
  have located : singleDocument.locate "rules.json" = .ok (.inside ["rules.json"]) :=
    Workspace.locate_of_name (by decide +kernel) (by decide) (by decide +kernel)
  have read : ownOptions.source [] singleDocument = .ok (Utf8.encode plainDocument) := by
    change singleDocument.read "rules.json" = _
    rw [Workspace.read, located]
    rfl
  have resolved : Config.resolveIn singleDocument ownOptions.config? = .ok .usual := rfl
  have rendered : MetaDomain.render .lenient .yaml plainDocument = ⟨[], .ok plainPayload⟩ := by
    apply Logged.ext
    · decide +kernel
    · decide +kernel
  have written : singleDocument.write "rules.json" (Utf8.encode plainPayload) =
      .ok (singleDocument.set ["rules.json"] (.file (Utf8.encode plainPayload))) :=
    Workspace.write_eq_ok_iff.mpr ⟨by decide +kernel, ["rules.json"], located, by decide, rfl⟩
  have delivered : ownOptions.deliverIn plainPayload singleDocument =
      .ok ("", singleDocument.set ["rules.json"] (.file (Utf8.encode plainPayload))) := by
    rw [ExportOptions.deliverIn_of_some rfl, written]
    rfl
  have succeeds : (ownInput.step singleDocument).Succeeds := by
    rw [Step.Succeeds, Call.step, Program.ofArguments_of_accepted accepted]
    change ((Program.exportRules false ownOptions none).runIn [] singleDocument).1.exitCode = 0
    rw [Program.runIn_exportRules, resolved]
    dsimp only
    rw [Program.runIn_exportWith_of_delivered .usual read rendered delivered]
    rfl
  obtain ⟨confined, spared⟩ := session_confined singleDocument [ownInput]
  have delivers := (confined _ List.mem_cons_self).exported succeeds _ _ _ accepted rfl
  obtain ⟨config, document, text, isConfig, readable, isText, holds⟩ := delivers
  refine ⟨succeeds, ?_, ?_⟩
  · cases resolved.symm.trans isConfig
    have isDocument : document = plainDocument :=
      Utf8.encode_inj.mp (Except.ok.inj (readable.symm.trans read))
    rw [isDocument] at isText
    cases isText.symm.trans (congrArg Logged.result rendered)
    exact holds
  · refine (spared ["other.json"] ?_).trans rfl
    intro step isStep _
    rw [List.mem_singleton.mp isStep]
    change ownInput.target? singleDocument ≠ _
    rw [Call.target?, accepted]
    have isOutput : ownOptions.output? = some "rules.json" := rfl
    simp only [isOutput, Option.map_some, located]
    decide

end DomainRules
