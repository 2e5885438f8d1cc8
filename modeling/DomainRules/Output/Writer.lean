import DomainRules.Failure
import DomainRules.Output.Framing
import DomainRules.Text.Utf8

/-!
# Writers

A writer takes bytes until it has no room left.  It may take any part of what it
is offered, at least one byte while it has room, so writing offers the rest again
and again.  A writer without room refuses, with a fault or by taking nothing.
-/

namespace DomainRules

/-- How a writer without room refuses. -/
inductive Refusal where
  | fault
  /-- It takes no byte and reports success. -/
  | silence
deriving DecidableEq, Repr

/-- A receiver of bytes. -/
structure Writer where
  /-- What it has taken so far. -/
  received : List UInt8 := []
  /-- How many bytes it takes in addition, or no limit. -/
  room : Option Nat := none
  /-- The most bytes beyond one that it takes of its next offers; of later ones it
  takes all it has room for. -/
  portions : List Nat := []
  refusal : Refusal := .fault
  flushFails : Bool := false
deriving DecidableEq, Repr

namespace Writer

/-- How many bytes a writer takes of an offer. -/
def share (writer : Writer) (offered : Nat) : Nat :=
  let portion := match writer.portions with
    | [] => offered
    | most :: _ => min offered (most + 1)
  match writer.room with
  | none => portion
  | some room => min portion room

/-- Offers bytes to a writer once, and tells how many it took. -/
def offer (writer : Writer) (bytes : List UInt8) : Except IoFault Nat × Writer :=
  let count := writer.share bytes.length
  let after : Writer :=
    ⟨writer.received ++ bytes.take count, writer.room.map (· - count), writer.portions.drop 1,
      writer.refusal, writer.flushFails⟩
  if count = 0 && writer.refusal = .fault then (.error .full, after) else (.ok count, after)

/-- Offers bytes until all are taken; taking nothing of them is a fault. -/
def writeAll (writer : Writer) (bytes : List UInt8) : Except IoFault Unit × Writer :=
  if bytes = [] then (.ok (), writer)
  else
    match writer.offer bytes with
    | (.error fault, writer) => (.error fault, writer)
    | (.ok 0, writer) => (.error .shortWrite, writer)
    | (.ok (count + 1), writer) => writer.writeAll (bytes.drop (count + 1))
termination_by bytes.length
decreasing_by
  cases bytes with
  | nil => contradiction
  | cons _ _ => simp only [List.length_drop, List.length_cons]; omega

/-- Asks a writer to pass on what it has taken. -/
def flush (writer : Writer) : Except IoFault Unit :=
  if writer.flushFails then .error .flushFailed else .ok ()

/-- The failure that a fault in the encoder of a format counts as. -/
def bodyFailure (format : Format) (fault : IoFault) : Failure :=
  match format with
  | .text => .io fault
  | .yaml | .json => .encode fault.message

/-- Writes lines in a format. -/
def writeLines (writer : Writer) (format : Format) (lines : List String) :
    Except Failure Unit × Writer :=
  match writer.writeAll (Utf8.encode (format.body lines)) with
  | (.error fault, writer) => (.error (bodyFailure format fault), writer)
  | (.ok (), writer) =>
      match writer.writeAll (Utf8.encode format.tail) with
      | (.error fault, writer) => (.error (.io fault), writer)
      | (.ok (), writer) => (writer.flush.mapError .io, writer)

end Writer

end DomainRules
