import DomainRules.Proofs.Json.WellFormed
import DomainRules.Proofs.Text.Utf8

/-!
# Delivery of a text

A text may be read whole or byte after byte.  Its value is the same, and so is the cause
of a fault.  Only a number that is out of range is told at different places: a stream has
taken one byte more by then, if there is one.
-/

namespace DomainRules.Json

open Utf8 (Symbol)

variable {α β : Type}

/-! ## Faults -/

/-- A fault that a stream tells in the same place as a whole text, or a number out of
range. -/
inductive Fault.Steady : Fault → Prop where
  | inPlace (cause : Cause) (left seen back : Nat) : Steady ⟨cause, left, seen, 0, back⟩
  | outOfRange (left : Nat) : Steady ⟨.numberOutOfRange, left, 0, 1, 0⟩

/-- A result that is no fault, or a steady one. -/
def Steady (result : Except Fault α) : Prop :=
  ∀ fault, result = .error fault → fault.Steady

namespace Steady

theorem ok (value : α) : Steady (.ok value) := by
  intro fault failure
  cases failure

theorem error {fault : Fault} (steady : fault.Steady) : Steady (.error fault : Except Fault α) := by
  intro other failure
  cases failure
  exact steady

theorem inPlace (cause : Cause) (left seen back : Nat) :
    Steady (.error ⟨cause, left, seen, 0, back⟩ : Except Fault α) :=
  error (.inPlace cause left seen back)

theorem behind (cause : Cause) (rest : Source) : Steady (Fault.behind (α := α) cause rest) :=
  inPlace cause rest.length 0 0

theorem next (cause : Cause) (rest : Source) : Steady (Fault.next (α := α) cause rest) :=
  inPlace cause rest.length 1 0

theorem map {result : Except Fault α} (steady : Steady result) (image : α → β) :
    Steady (result.map image) := by
  cases result with
  | error fault => exact error (steady fault rfl)
  | ok value => exact ok (image value)

theorem bind {result : Except Fault α} (steady : Steady result) {follow : α → Except Fault β}
    (follows : ∀ value, Steady (follow value)) : Steady (result >>= follow) := by
  cases result with
  | error fault => exact error (steady fault rfl)
  | ok value => exact follows value

theorem ite {condition : Prop} [Decidable condition] {first second : Except Fault α}
    (steadyFirst : Steady first) (steadySecond : Steady second) :
    Steady (if condition then first else second) := by
  split
  · exact steadyFirst
  · exact steadySecond

/-- A fault that is passed on. -/
theorem passed {result : Except Fault α} (steady : Steady result) {fault : Fault}
    (failure : result = .error fault) : Steady (.error fault : Except Fault β) :=
  error (steady fault failure)

end Steady

/-! ## Strings -/

namespace Quoted

end Quoted

/-! ## Numbers -/

namespace Numeral

end Numeral

/-! ## Values -/

namespace Reader

end Reader

/-! ## Places -/

/-- The place behind a text. -/
def Position.behind (text : List Char) : Position :=
  (text.map Symbol.char).foldl advance ⟨1, 0⟩

/-- The place behind one byte more, which is the next character or begins it. -/
def Position.pastByteOf (position : Position) (c : Char) : Position :=
  if c = '\n' then ⟨position.line + 1, 0⟩ else ⟨position.line, position.column + 1⟩

theorem Position.advanceBytes_zero (position : Position) (source : Source) :
    position.advanceBytes 0 source = position := by
  rw [advanceBytes]

theorem Position.advanceBytes_one (position : Position) (c : Char) (rest : Source) :
    position.advanceBytes 1 (.char c :: rest) = position.pastByteOf c := by
  rw [advanceBytes, pastByteOf]
  by_cases isLineFeed : c = '\n'
  · subst isLineFeed
    have isOne : (Symbol.char '\n').size = 1 := rfl
    rw [isOne, if_pos (Nat.le_refl 1), if_pos rfl]
    exact advanceBytes_zero _ rest
  · rw [if_neg isLineFeed]
    split
    · next fits =>
        have isOne : (Symbol.char c).size = 1 := Nat.le_antisymm fits c.utf8Size_pos
        rw [isOne]
        refine (advanceBytes_zero _ rest).trans ?_
        rw [advance, isOne]
        intro same
        exact isLineFeed (Symbol.char.inj same)
    · rfl

/-- Two reports of one fault, on a whole text and on a stream of its bytes.  The stream may
be one byte on, and only for a number out of range. -/
structure Report.Alike (text : String) (whole stream : Report) : Prop where
  cause_eq : stream.cause = whole.cause
  place : stream.position = whole.position ∨
    whole.cause = .numberOutOfRange ∧ ∃ before c after, text.toList = before ++ c :: after ∧
      whole.position = .behind before ∧ stream.position = whole.position.pastByteOf c

/-- A steady fault is told in the same place, or one byte on. -/
theorem Fault.Steady.alike {fault : Fault} (steady : fault.Steady) (text : String) :
    Report.Alike text (fault.locate .whole (Utf8.ofString text))
      (fault.locate .stream (Utf8.ofString text)) := by
  cases steady with
  | inPlace cause left seen back => exact ⟨rfl, .inl rfl⟩
  | outOfRange left =>
      refine ⟨rfl, ?_⟩
      let consumed := (Utf8.ofString text).length - left
      let front := Position.behind (text.toList.take consumed)
      have isFront : ((Utf8.ofString text).take consumed).foldl Position.advance ⟨1, 0⟩ = front :=
        congrArg (List.foldl Position.advance ⟨1, 0⟩) List.map_take.symm
      have whole : (Fault.locate ⟨.numberOutOfRange, left, 0, 1, 0⟩ .whole
          (Utf8.ofString text)).position = front := by
        rw [← isFront]
        exact Position.advanceBytes_zero _ _
      have stream : (Fault.locate ⟨.numberOutOfRange, left, 0, 1, 0⟩ .stream
          (Utf8.ofString text)).position =
            front.advanceBytes 1 ((text.toList.drop consumed).map .char) := by
        rw [← isFront, List.map_drop]
        rfl
      rw [whole, stream]
      cases next : text.toList.drop consumed with
      | nil =>
          left
          rw [List.map_nil, Position.advanceBytes]
          exact Nat.succ_ne_zero 0
      | cons c after =>
          right
          refine ⟨rfl, text.toList.take consumed, c, after, ?_, rfl, ?_⟩
          · rw [← next, List.take_append_drop]
          · exact Position.advanceBytes_one _ c _

namespace Value

end Value

end DomainRules.Json
