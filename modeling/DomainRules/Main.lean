import DomainRules.Program

/-!
# The command line

Carries out the program by means of the operating system.
-/

namespace DomainRules

/-- The fault that an error of the operating system stands for. -/
def IoFault.ofError : IO.Error → IoFault
  | .noFileOrDirectory _ _ _ => .noEntry
  | error => .other (toString error)

/-- Catches the error of an access. -/
def answerOf {α : Type} (access : IO α) : IO (Except IoFault α) := do
  try
    return .ok (← access)
  catch error =>
    return .error (.ofError error)

/-- Reads a stream to its end. -/
partial def readAll (stream : IO.FS.Stream) (front : ByteArray) : IO ByteArray := do
  let bytes ← stream.read 65536
  if bytes.isEmpty then return front else readAll stream (front ++ bytes)

/-- Carries out a program. -/
def Program.perform {α : Type} : Program α → IO α
  | .done result => return result
  | .readInput next => do
      let bytes ← readAll (← IO.getStdin) .empty
      (next bytes.toList).perform
  | .readFile path next => do
      let answer ← answerOf (IO.FS.readBinFile path)
      (next (answer.map ByteArray.toList)).perform
  | .findFile path next => do
      let present ← match ← answerOf (IO.FS.readBinFile path) with
        | .error .noEntry => pure false
        | _ => pure true
      (next present).perform
  | .writeFile path bytes next => do
      let answer ← answerOf (IO.FS.writeBinFile path ⟨bytes.toArray⟩)
      (next answer).perform

end DomainRules

/-- Runs the program with the arguments of the process. -/
def main (arguments : List String) : IO UInt32 := do
  let terminal ← (← IO.getStderr).isTty
  let outcome ← (DomainRules.Program.ofArguments terminal arguments).perform
  IO.print outcome.stdout
  IO.eprint outcome.stderr
  return outcome.exitCode.toUInt32
