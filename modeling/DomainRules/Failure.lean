import DomainRules.Gap
import DomainRules.Json.Fault
import DomainRules.Toml.Report

/-!
# Failures

Everything that can end a run, by cause, with the words that a user reads and the
exit code that a calling program sees.
-/

namespace DomainRules

/-- Why an input or output operation fails. -/
inductive IoFault where
  | noEntry
  | notDirectory
  | isDirectory
  | nameTooLong
  /-- A file that should hold text holds bytes that encode none. -/
  | notText
  /-- A receiver that takes no more, and says so. -/
  | full
  /-- A receiver that takes no more, without saying so. -/
  | shortWrite
  | flushFailed
  | other (text : String)
deriving DecidableEq, Repr

/-- The words for a failing operation. -/
def IoFault.message : IoFault → String
  | .noEntry => "No such file or directory (os error 2)"
  | .notDirectory => "Not a directory (os error 20)"
  | .isDirectory => "Is a directory (os error 21)"
  | .nameTooLong => "File name too long (os error 36)"
  | .notText => "stream did not contain valid UTF-8"
  | .full => "sink is full"
  | .shortWrite => "failed to write whole buffer"
  | .flushFailed => "flush failed"
  | .other text => text

/-- Misuse of a registry, or a key that it does not know. -/
inductive RegistryFault where
  | duplicateKey (key : String)
  | unsupportedKey (key : String)
deriving DecidableEq, Repr

def RegistryFault.message : RegistryFault → String
  | .duplicateKey key => "duplicate key in registry: " ++ key
  | .unsupportedKey key => "unsupported key: " ++ key

/-- A document that holds no rule set. -/
inductive DocumentFault where
  /-- A rule of a kind that does not exist. -/
  | unexpectedType (tag : String)
  | malformed (reason : String)
  /-- A text that is no JSON. -/
  | json (report : Json.Report)
deriving DecidableEq, Repr

def DocumentFault.message : DocumentFault → String
  | .unexpectedType tag => "unexpected rule type: " ++ tag
  | .malformed reason => "malformed IR: " ++ reason
  | .json report => "invalid IR document: " ++ report.message

/-- A configuration that cannot be used. -/
inductive ConfigFault where
  | io (fault : IoFault)
  | parse (report : Toml.Report)
  | validation (reason : String)
deriving DecidableEq, Repr

def ConfigFault.message : ConfigFault → String
  | .io fault => "I/O error: " ++ fault.message
  | .parse report => "Parse error: " ++ report.message
  | .validation reason => "Validation error: " ++ reason

/-- Why a run fails. -/
inductive Failure where
  | registry (fault : RegistryFault)
  | document (fault : DocumentFault)
  | capability (gap : Gap)
  | config (fault : ConfigFault)
  /-- The encoder of the output format could not write. -/
  | encode (reason : String)
  | io (fault : IoFault)
deriving DecidableEq, Repr

namespace Failure

/-- The words for a failure. -/
def message : Failure → String
  | .registry fault => fault.message
  | .document fault => fault.message
  | .capability gap => gap.message
  | .config fault => "Configuration error: " ++ fault.message
  | .encode reason => "failed to encode output: " ++ reason
  | .io fault => "I/O error: " ++ fault.message

/-- The exit code of a run that fails.  A construct that cannot be represented has
a code of its own, and so has a text that cannot be read as what it should be. -/
def exitCode : Failure → Nat
  | .capability _ => 1
  | .document _ => 3
  | .config (.parse _) => 3
  | .registry _ | .config _ | .encode _ | .io _ => 2

end Failure

end DomainRules
