import DomainRules.Proofs.MetaDomain.Lines
import DomainRules.Proofs.Rule.Document

/-!
# Strict conversions

A conversion has two phases, and gaps of either phase are on one side of the
conversion.  Each phase of a strict run is the same phase of a lenient run,
interrupted at its first gap.  The main statement puts the phases together: a
strict conversion never warns, fails at the gap that a lenient conversion warns of
first, and is the lenient conversion where that does not warn at all.
-/

namespace DomainRules

/-! ## Reading the document -/

namespace Rule.Document

open Json (Value)

theorem addField_strict (number : Nat) (item : Item) (field : String × Value) :
    addField .strict number item field =
      (addField .lenient number item field).interrupted .input := by
  rcases field with ⟨key, value⟩
  rw [addField, addField]
  split
  · rfl
  · split
    · rfl
    · split
      · rfl
      · rw [Logged.interrupted_bind, Policy.degrade_strict]
        rfl

theorem item_strict (number : Nat) (value : Value) :
    item .strict number value = (item .lenient number value).interrupted .input := by
  cases value with
  | object fields =>
      rw [item, item, Logged.interrupted_bind, Logged.interrupted_ofExcept]
      congr 1
      funext kind
      rw [Logged.interrupted_foldlM]
      congr 1
      funext item field
      exact addField_strict number item field
  | null | bool | number | string | array => rfl

theorem items_strict (number : Nat) (values : List Value) :
    items .strict number values = (items .lenient number values).interrupted .input := by
  induction values generalizing number with
  | nil => rfl
  | cons value values ih =>
      rw [items, items, item_strict, ih, Logged.interrupted_bind]
      congr 1
      funext first
      rw [Logged.interrupted_bind]
      rfl

end Rule.Document

namespace Rule.RuleSet

open Json (Value)

theorem ofValue_strict (document : Value) :
    ofValue .strict document = (ofValue .lenient document).interrupted .input := by
  rw [ofValue, ofValue, Logged.interrupted_bind, Logged.interrupted_ofExcept]
  congr 1
  funext rules
  rw [Document.items_strict, Logged.interrupted_bind]
  rfl

theorem ofString_strict (text : String) :
    ofString .strict text = (ofString .lenient text).interrupted .input := by
  rw [ofString, ofString, ofParsed, ofParsed, Logged.interrupted_bind,
    Logged.interrupted_ofExcept]
  congr 1
  funext document
  exact ofValue_strict document

theorem tolerant_ofString_lenient (text : String) : (ofString .lenient text).Tolerant := by
  apply Logged.tolerant_bind
  · intro side reason failed
    cases parsed : Value.ofString text with
    | error report =>
        rw [parsed] at failed
        cases failed
    | ok document =>
        rw [parsed] at failed
        cases failed
  · intro document
    apply Logged.tolerant_bind
    · intro side reason failed
      unfold Document.rules at failed
      split at failed
      · cases failed
      · split at failed <;> cases failed
      · cases failed
    · intro rules
      apply Logged.tolerant_bind
      · intro side reason failed
        rw [Document.items_lenient] at failed
        dsimp only at failed
        split at failed
        · cases failed
        · rename_i value _
          cases value <;> cases failed
      · intro items
        exact Logged.tolerant_of_ok rfl

end Rule.RuleSet

/-! ## Writing the lines -/

namespace MetaDomain

open Json (Value)
open Rule (Field Item Kind RuleSet)

theorem keepLines_strict (key : String) (lines : List String) :
    keepLines .strict key lines = (keepLines .lenient key lines).interrupted .output := by
  induction lines with
  | nil => rfl
  | cons line rest ih =>
      rw [keepLines, keepLines, ih]
      split
      · rw [Logged.interrupted_bind, Policy.degrade_strict]
      · rw [Logged.interrupted_bind]
        rfl

theorem fieldLines_strict (field : Field) :
    fieldLines registry .strict field =
      (fieldLines registry .lenient field).interrupted .output := by
  by_cases expressible : Expressible field.key
  · rw [fieldLines_of_expressible .strict expressible,
      fieldLines_of_expressible .lenient expressible]
    exact keepLines_strict field.key _
  · rw [fieldLines, fieldLines, resolve_of_not_expressible expressible]
    rfl

theorem interrupted_gather {α : Type} (step : α → Logged Failure (List String))
    (members : List α) (side : Side) :
    (gather step members).interrupted side =
      gather (fun member => (step member).interrupted side) members := by
  induction members with
  | nil => rfl
  | cons member members ih =>
      rw [gather, gather, Logged.interrupted_bind]
      congr 1
      funext lines
      rw [Logged.interrupted_bind, ih]
      rfl

theorem itemLines_strict (item : Item) :
    itemLines registry .strict item =
      (itemLines registry .lenient item).interrupted .output := by
  unfold itemLines
  split
  · rw [interrupted_gather, funext fieldLines_strict]
  · rfl
  · rfl

theorem lines_strict (rules : RuleSet) :
    lines .strict rules = (lines .lenient rules).interrupted .output := by
  rw [lines_eq_gather, lines_eq_gather, interrupted_gather, funext itemLines_strict]

/-- Where a lenient run has nothing to remark, a strict one does the same. -/
theorem lines_of_silent {rules : RuleSet} {result : Except Failure (List String)}
    (silent : lines .lenient rules = ⟨[], result⟩) (policy : Policy) :
    lines policy rules = ⟨[], result⟩ := by
  cases policy with
  | lenient => exact silent
  | strict =>
      rw [lines_strict, silent]
      rfl

theorem tolerant_lines_lenient (rules : RuleSet) : (lines .lenient rules).Tolerant := by
  intro side reason failed
  rw [lines_eq_gather, gather_itemLines_lenient] at failed
  dsimp only [outcome] at failed
  split at failed
  · cases failed
  · next failure refused =>
      rcases Option.bind_eq_some_iff.mp refused with ⟨item, _, refused⟩
      cases kind : item.kind <;> rw [kind] at refused <;> cases refused <;> cases failed

/-! ## Whole conversions -/

/-- What a lenient conversion warns of on one side: in reading the document, or in
writing the lines of the rules that have been read. -/
def warnings (document : String) : Side → List Diagnostic
  | .input => (RuleSet.ofString .lenient document).diagnostics
  | .output =>
      match (RuleSet.ofString .lenient document).result with
      | .ok rules => (lines .lenient rules).diagnostics
      | .error _ => []

theorem diagnostics_render_lenient (format : Format) (document : String) :
    (render .lenient format document).diagnostics =
      warnings document .input ++ warnings document .output := by
  rw [render, warnings, warnings]
  rcases RuleSet.ofString .lenient document with ⟨diagnostics, result⟩
  cases result with
  | error failure => exact (List.append_nil diagnostics).symm
  | ok rules =>
      rw [Logged.mk_ok_bind]
      dsimp only
      rcases lines .lenient rules with ⟨others, result⟩
      cases result with
      | error failure => rfl
      | ok lines =>
          rw [Logged.mk_ok_bind]
          simp only [Logged.diagnostics_pure, List.append_nil]

/-- The first warning of a lenient conversion is the failure of the strict one, on
the side of the phase that it comes from.  Without a warning the conversions end in
the same way, and no degradable gap ever ends a lenient one. -/
theorem render_strict (format : Format) (document : String) :
    let lenient := render .lenient format document
    lenient.diagnostics = warnings document .input ++ warnings document .output ∧
      render .strict format document =
        ⟨[], match warnings document .input, warnings document .output with
          | first :: _, _ => .error (.capability ⟨.input, .degradable, first.message⟩)
          | [], first :: _ => .error (.capability ⟨.output, .degradable, first.message⟩)
          | [], [] => lenient.result⟩ ∧
      ∀ side reason, lenient.result ≠ .error (.capability ⟨side, .degradable, reason⟩) := by
  intro lenient
  refine ⟨diagnostics_render_lenient format document, ?_, ?_⟩
  -- A warning of the first phase keeps the second from beginning, so the phases are
  -- taken apart in their order.
  · rw [render, RuleSet.ofString_strict, funext lines_strict, warnings, warnings,
      show lenient = render .lenient format document from rfl, render]
    rcases RuleSet.ofString .lenient document with ⟨diagnostics, result⟩
    cases diagnostics with
    | cons first others => rfl
    | nil =>
        cases result with
        | error failure => rfl
        | ok rules =>
            rw [Logged.interrupted_of_silent rfl, Logged.mk_ok_bind, Logged.mk_ok_bind]
            dsimp only
            rcases lines .lenient rules with ⟨diagnostics, result⟩
            cases diagnostics with
            | cons first others => rfl
            | nil => cases result <;> rfl
  · apply Logged.tolerant_bind (Rule.RuleSet.tolerant_ofString_lenient document)
    intro rules
    apply Logged.tolerant_bind (tolerant_lines_lenient rules)
    intro lines
    exact Logged.tolerant_of_ok rfl

end MetaDomain

end DomainRules
