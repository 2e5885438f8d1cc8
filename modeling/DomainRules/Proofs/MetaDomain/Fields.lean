import DomainRules.MetaDomain
import DomainRules.Proofs.Policy

/-!
# The lines and the gaps of a field

What the target syntax makes of a field, told by the key and the values alone: the
line of every value that a single line can hold, a gap for every other value, and
one gap for a field of any key that the syntax does not have.  The words for a gap stand
here in full, apart from the functions by which a run finds them.

The main statement is that a lenient run produces exactly these lines and exactly
one warning for each of these gaps.
-/

namespace DomainRules.MetaDomain

open Rule (Field Item Kind RuleSet)

/-- A key of the target syntax. -/
def Expressible (key : String) : Prop :=
  key = "domain" ∨ key = "domain_suffix"

instance : DecidablePred Expressible := fun key =>
  inferInstanceAs (Decidable (key = "domain" ∨ key = "domain_suffix"))

/-- A suffix that leaves out the domain itself. -/
def Anchored (value : String) : Prop :=
  value.toList.head? = some '.'

instance : DecidablePred Anchored := fun value =>
  inferInstanceAs (Decidable (value.toList.head? = some '.'))

/-- A text that no single line can hold. -/
def Broken (text : String) : Prop :=
  '\n' ∈ text.toList ∨ '\r' ∈ text.toList

instance : DecidablePred Broken := fun text =>
  inferInstanceAs (Decidable ('\n' ∈ text.toList ∨ '\r' ∈ text.toList))

/-- The line for a value of a key of the target syntax. -/
def lineOf (key value : String) : String :=
  if key = "domain_suffix" ∧ ¬Anchored value then "+." ++ value else value

/-- The lines of a field. -/
def linesOf (field : Field) : List String :=
  if Expressible field.key then
    (field.values.filter (¬Broken ·)).map (lineOf field.key)
  else []

/-- The reasons of the gaps of a field. -/
def gapsOf (field : Field) : List String :=
  if Expressible field.key then
    (field.values.filter (Broken ·)).map fun _ =>
      "field `" ++ field.key ++ "` value contains a line break"
  else if field.values = [] then []
  else ["field `" ++ field.key ++ "` is not supported by meta-domain rule sets"]

/-! ## Values -/

@[simp] theorem hasLineBreak_eq_true_iff (text : String) :
    hasLineBreak text = true ↔ Broken text := by
  simp only [hasLineBreak, List.any_eq_true, Bool.or_eq_true, decide_eq_true_eq]
  constructor
  · rintro ⟨c, member, rfl | rfl⟩
    · exact .inl member
    · exact .inr member
  · rintro (member | member)
    · exact ⟨'\n', member, .inl rfl⟩
    · exact ⟨'\r', member, .inr rfl⟩

theorem not_broken_iff (text : String) :
    ¬Broken text ↔ '\n' ∉ text.toList ∧ '\r' ∉ text.toList :=
  not_or

theorem startsWith_dot_iff (value : String) : value.startsWith "." = true ↔ Anchored value := by
  rw [String.startsWith_string_iff, Anchored]
  change ['.'] <+: value.toList ↔ _
  cases value.toList with
  | nil => simp
  | cons c rest => simp [List.cons_prefix_cons, eq_comm]

theorem suffixLine_eq (value : String) : suffixLine value = lineOf "domain_suffix" value := by
  by_cases anchored : Anchored value
  · have starts := (startsWith_dot_iff value).mpr anchored
    simp [suffixLine, lineOf, anchored, starts]
  · have starts : ¬value.startsWith "." = true :=
      fun starts => anchored ((startsWith_dot_iff value).mp starts)
    simp [suffixLine, lineOf, anchored, starts, marker]

/-- The marker brings no line break with it. -/
@[simp] theorem broken_lineOf (key value : String) : Broken (lineOf key value) ↔ Broken value := by
  rw [lineOf]
  split
  · simp [Broken, String.toList_append]
  · rfl

/-! ## Fields -/

theorem gapsOf_eq_nil_iff {key : String} {texts : List String} :
    gapsOf ⟨key, texts⟩ = [] ↔
      (texts ≠ [] → Expressible key) ∧ ∀ text ∈ texts, ¬Broken text := by
  by_cases expressible : Expressible key
  · simp only [gapsOf, expressible, if_true, List.map_eq_nil_iff, List.filter_eq_nil_iff,
      decide_eq_true_eq, implies_true, true_and]
  · cases texts with
    | nil => simp [gapsOf]
    | cons text texts => simp [gapsOf, expressible]

/-- A field without a gap has a line for each of its values. -/
theorem linesOf_of_gapless {field : Field} (gapless : gapsOf field = []) :
    linesOf field = field.values.map (lineOf field.key) := by
  rcases gapsOf_eq_nil_iff.mp gapless with ⟨expressible, single⟩
  cases present : field.values with
  | nil => simp [linesOf, present]
  | cons value values =>
      have known : Expressible field.key := expressible (by simp [present])
      have all : field.values.filter (¬Broken ·) = field.values := by
        apply List.filter_eq_self.mpr
        intro text member
        exact decide_eq_true (single text member)
      rw [linesOf, if_pos known, all, present]

/-- The handlers, in the order in which a registry holds them. -/
def registry : Registry Handler :=
  ⟨translators, .factory .unsupported, by decide⟩

theorem handlers_eq : handlers = .ok registry :=
  rfl

theorem resolve_of_not_expressible {key : String} (foreign : ¬Expressible key) :
    registry.resolve key = .ok ⟨.unsupported key, false⟩ := by
  have notDomain : (key == "domain") = false :=
    beq_eq_false_iff_ne.mpr fun same => foreign (.inl same)
  have notSuffix : (key == "domain_suffix") = false :=
    beq_eq_false_iff_ne.mpr fun same => foreign (.inr same)
  simp only [Registry.resolve, Registry.get?, registry, translators, List.lookup_cons, notDomain,
    notSuffix, List.lookup_nil]

theorem keepLines_lenient (key : String) (lines : List String) :
    keepLines .lenient key lines =
      ⟨(lines.filter (Broken ·)).map fun _ => .warning (lineBreakReason key),
        .ok (lines.filter (¬Broken ·))⟩ := by
  induction lines with
  | nil => rfl
  | cons line rest ih =>
      rw [keepLines, ih]
      by_cases broken : Broken line
      · simp only [hasLineBreak_eq_true_iff, if_true, List.filter_cons, broken, decide_true,
          not_true_eq_false, decide_false, Bool.false_eq_true, if_false, List.map_cons]
        rfl
      · simp only [hasLineBreak_eq_true_iff, if_false, List.filter_cons, broken, decide_false,
          Bool.false_eq_true, not_false_eq_true, decide_true, if_true, Logged.mk_ok_bind,
          Logged.diagnostics_pure, List.append_nil, Logged.result_pure]

theorem fieldLines_of_expressible (policy : Policy) {field : Field}
    (expressible : Expressible field.key) :
    fieldLines registry policy field =
      keepLines policy field.key (field.values.map (lineOf field.key)) := by
  rcases field with ⟨key, values⟩
  rcases expressible with rfl | rfl
  · have identity : lineOf "domain" = id := by
      funext value
      simp [lineOf]
    rw [identity, List.map_id]
    rfl
  · have translation : translateSuffix values = values.map (lineOf "domain_suffix") := by
      rw [translateSuffix, funext suffixLine_eq]
    rw [← translation]
    rfl

theorem fieldLines_lenient {field : Field} (present : field.values ≠ []) :
    fieldLines registry .lenient field =
      ⟨(gapsOf field).map .warning, .ok (linesOf field)⟩ := by
  by_cases expressible : Expressible field.key
  · rw [fieldLines_of_expressible .lenient expressible, keepLines_lenient, List.filter_map,
      List.filter_map]
    simp only [gapsOf, linesOf, expressible, if_true, List.map_map, Function.comp_def,
      broken_lineOf]
    rfl
  · rw [fieldLines, resolve_of_not_expressible expressible]
    simp only [gapsOf, linesOf, expressible, if_false, present]
    rfl

end DomainRules.MetaDomain
