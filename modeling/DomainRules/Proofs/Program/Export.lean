import DomainRules.Proofs.Diagnostic
import DomainRules.Proofs.Failure
import DomainRules.Proofs.Logged
import DomainRules.Proofs.Program.Run
import DomainRules.Proofs.Text.Utf8
import DomainRules.Proofs.Workspace

/-!
# Exports

What comes of a command line that asks for an export.  Settings that cannot be used
end it before the rule document is looked at.  Otherwise it shows the remarks of the
conversion, and after them one failure or none: the file that was to be read, the
conversion itself, or the file that was to be written.
-/

namespace DomainRules

open CommandLine (ExportOptions Invocation Stop)

variable {input bytes : List UInt8} {workspace : Workspace}

theorem decodeText_eq_ok_iff {answer : Except IoFault (List UInt8)} {text : String} :
    decodeText answer = .ok text ↔ answer = .ok (Utf8.encode text) := by
  rw [decodeText, bind_eq_ok_iff]
  constructor
  · rintro ⟨bytes, isRead, decoded⟩
    split at decoded
    · next other isOther =>
        cases decoded
        rw [isRead, Utf8.decode?_eq_some_iff.mp isOther]
    · cases decoded
  · intro isRead
    refine ⟨Utf8.encode text, isRead, ?_⟩
    rw [Utf8.decode?_eq_some_iff.mpr rfl]

namespace Outcome

end Outcome

namespace Program

variable {arguments : List String} {options : ExportOptions} {color? : Option Color}
  {config : Config}

theorem ofArguments_of_accepted
    (accepted : Invocation.ofArguments arguments = .ok ⟨.exportRules options, color?⟩)
    (terminal : Bool) :
    ofArguments terminal arguments = exportRules terminal options color? := by
  rw [ofArguments, accepted]
  rfl

theorem ofArguments_of_init {force : Bool}
    (isInit : Invocation.ofArguments arguments = .ok ⟨.initConfig force, color?⟩)
    (terminal : Bool) : ofArguments terminal arguments = initConfig terminal force color? := by
  rw [ofArguments, isInit]
  rfl

theorem runIn_ofArguments_of_stop {stop : Stop}
    (isStop : Invocation.ofArguments arguments = .error stop) (terminal : Bool) :
    (ofArguments terminal arguments).runIn input workspace = (ofStop stop, workspace) := by
  rw [ofArguments, isStop]
  rfl

/-- An export of a document that cannot be read shows nothing but the failure. -/
theorem runIn_exportWith_of_unread {fault : IoFault}
    (unread : decodeText (options.source input workspace) = .error fault) (terminal : Bool) :
    (exportWith terminal options color? config).runIn input workspace =
      (.failed ((color?.getD config.color).applies terminal) [] (.io fault), workspace) := by
  rw [runIn_exportWith, unread]

/-- An export whose conversion fails shows what that remarks, and then the failure. -/
theorem runIn_exportWith_of_failed {document : String} {remarks : List Diagnostic}
    {failure : Failure} (config : Config)
    (readable : options.source input workspace = .ok (Utf8.encode document))
    (failed : MetaDomain.render (options.policy config) (options.format?.getD config.format)
      document = ⟨remarks, .error failure⟩) (terminal : Bool) :
    (exportWith terminal options color? config).runIn input workspace =
      (.failed ((color?.getD config.color).applies terminal) remarks failure, workspace) := by
  rw [runIn_exportWith, decodeText_eq_ok_iff.mpr readable]
  simp only [failed]

/-- An export whose text cannot be handed over shows what the conversion remarks, and
then the failure. -/
theorem runIn_exportWith_of_undelivered {document text : String} {remarks : List Diagnostic}
    {fault : IoFault} (config : Config)
    (readable : options.source input workspace = .ok (Utf8.encode document))
    (success : MetaDomain.render (options.policy config) (options.format?.getD config.format)
      document = ⟨remarks, .ok text⟩)
    (undelivered : options.deliverIn text workspace = .error fault) (terminal : Bool) :
    (exportWith terminal options color? config).runIn input workspace =
      (.failed ((color?.getD config.color).applies terminal) remarks (.io fault), workspace) := by
  rw [runIn_exportWith, decodeText_eq_ok_iff.mpr readable]
  simp only [success, undelivered]

theorem runIn_exportWith_of_delivered {document text stdout : String}
    {remarks : List Diagnostic} {after : Workspace} (config : Config)
    (readable : options.source input workspace = .ok (Utf8.encode document))
    (success : MetaDomain.render (options.policy config) (options.format?.getD config.format)
      document = ⟨remarks, .ok text⟩)
    (delivered : options.deliverIn text workspace = .ok (stdout, after)) (terminal : Bool) :
    (exportWith terminal options color? config).runIn input workspace =
      (.succeeded ((color?.getD config.color).applies terminal) remarks stdout, after) := by
  rw [runIn_exportWith, decodeText_eq_ok_iff.mpr readable]
  simp only [success, delivered]

/-- An export fails and leaves the workspace as it is, or it has handed over what the
conversion of its document gives. -/
theorem exportRules_fails_or_delivers (terminal : Bool) (options : ExportOptions)
    (color? : Option Color) (input : List UInt8) (workspace : Workspace) :
    (∃ colored remarks failure,
        (exportRules terminal options color?).runIn input workspace =
          (.failed colored remarks failure, workspace)) ∨
      ∃ config document remarks text stdout after colored,
        Config.resolveIn workspace options.config? = .ok config ∧
          options.source input workspace = .ok (Utf8.encode document) ∧
          MetaDomain.render (options.policy config) (options.format?.getD config.format)
            document = ⟨remarks, .ok text⟩ ∧
          options.deliverIn text workspace = .ok (stdout, after) ∧
          (exportRules terminal options color?).runIn input workspace =
            (.succeeded colored remarks stdout, after) := by
  rw [runIn_exportRules]
  cases resolved : Config.resolveIn workspace options.config? with
  | error fault => exact .inl ⟨_, _, _, rfl⟩
  | ok config =>
      dsimp only
      cases read : decodeText (options.source input workspace) with
      | error fault =>
          rw [runIn_exportWith_of_unread read]
          exact .inl ⟨_, [], .io fault, rfl⟩
      | ok document =>
          have readable := decodeText_eq_ok_iff.mp read
          rcases rendered : MetaDomain.render (options.policy config)
            (options.format?.getD config.format) document with ⟨remarks, result⟩
          cases result with
          | error failure =>
              rw [runIn_exportWith_of_failed config readable rendered]
              exact .inl ⟨_, _, _, rfl⟩
          | ok text =>
              cases delivered : options.deliverIn text workspace with
              | error fault =>
                  rw [runIn_exportWith_of_undelivered config readable rendered delivered]
                  exact .inl ⟨_, _, _, rfl⟩
              | ok handed =>
                  rw [runIn_exportWith_of_delivered config readable rendered delivered]
                  exact .inr ⟨config, document, remarks, text, handed.1, handed.2, _, rfl,
                    readable, rendered, delivered, rfl⟩

/-- Rules of which one field gets lost. -/
def lossyDocument : String :=
  "\x7b\"version\": 3, \"rules\": [\x7b\"domain\": [\"a.example\"], \"geoip\": \"xx\"\x7d]\x7d"

/-- The arguments of an export from the standard input to the standard output. -/
def exportArguments : List String := ["export", "--lenient", "-f", "text", "-"]

end Program

end DomainRules
