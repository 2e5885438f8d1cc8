import Mathlib.Data.List.Basic
import DomainRules.Proofs.Json.Payload
import DomainRules.Proofs.MetaDomain.Lines
import DomainRules.Proofs.Output.Writer
import DomainRules.Proofs.Text.Utf8
import DomainRules.Proofs.Yaml.Payload

/-!
# Framing of exported lines

No exported line holds a line break, whatever the policy and the fields it comes
from.  The main statements follow from this: the formats of a conversion say the same
lines, a YAML document has one physical line for each of them, and no two lists of
such lines have the same YAML document.
-/

namespace DomainRules.MetaDomain

open Rule (Field Item RuleSet)

/-! ## Single lines -/

/-- Lines without a line break. -/
def SingleLines (lines : List String) : Prop :=
  ∀ line ∈ lines, ¬Broken line

instance : DecidablePred SingleLines := fun lines =>
  inferInstanceAs (Decidable (∀ line ∈ lines, ¬Broken line))

theorem SingleLines.lineFeed_notMem {lines : List String} (single : SingleLines lines) :
    ∀ line ∈ lines, '\n' ∉ line.toList := by
  intro line member
  exact ((not_broken_iff line).mp (single line member)).1

@[simp] theorem singleLines_nil : SingleLines [] :=
  List.forall_mem_nil _

@[simp] theorem singleLines_cons_iff {line : String} {lines : List String} :
    SingleLines (line :: lines) ↔ ¬Broken line ∧ SingleLines lines :=
  List.forall_mem_cons

@[simp] theorem singleLines_append_iff {front lines : List String} :
    SingleLines (front ++ lines) ↔ SingleLines front ∧ SingleLines lines :=
  List.forall_mem_append

theorem singleLines_keepLines {policy : Policy} {key : String} {lines kept : List String}
    (success : (keepLines policy key lines).result = .ok kept) : SingleLines kept := by
  induction lines generalizing kept with
  | nil =>
      cases success
      exact singleLines_nil
  | cons line rest ih =>
      rw [keepLines] at success
      split at success
      · rcases Logged.result_bind_eq_ok_iff.mp success with ⟨_, _, others⟩
        exact ih others
      · next unbroken =>
          rcases Logged.result_bind_eq_ok_iff.mp success with ⟨others, isOthers, same⟩
          cases same
          rw [singleLines_cons_iff]
          constructor
          · exact mt (hasLineBreak_eq_true_iff line).mpr unbroken
          · exact ih isOthers

theorem singleLines_fieldLines {registry : Registry Handler} {policy : Policy} {field : Field}
    {lines : List String} (success : (fieldLines registry policy field).result = .ok lines) :
    SingleLines lines := by
  rw [fieldLines] at success
  rcases Logged.result_bind_eq_ok_iff.mp success with ⟨resolved, _, handled⟩
  cases handler : resolved.handler with
  | translate translation =>
      rw [handler] at handled
      exact singleLines_keepLines handled
  | unsupported key =>
      rw [handler] at handled
      rcases Logged.result_bind_eq_ok_iff.mp handled with ⟨_, _, empty⟩
      cases empty
      exact singleLines_nil

theorem singleLines_gather {α : Type} {step : α → Logged Failure (List String)}
    (single : ∀ member lines, (step member).result = .ok lines → SingleLines lines)
    {members : List α} {lines : List String}
    (success : (gather step members).result = .ok lines) : SingleLines lines := by
  induction members generalizing lines with
  | nil =>
      cases success
      exact singleLines_nil
  | cons first rest ih =>
      rw [gather] at success
      rcases Logged.result_bind_eq_ok_iff.mp success with ⟨front, isFront, whole⟩
      rcases Logged.result_bind_eq_ok_iff.mp whole with ⟨others, isOthers, same⟩
      cases same
      rw [singleLines_append_iff]
      constructor
      · exact single first front isFront
      · exact ih isOthers

theorem singleLines_itemLines {registry : Registry Handler} {policy : Policy} {item : Item}
    {lines : List String} (success : (itemLines registry policy item).result = .ok lines) :
    SingleLines lines := by
  unfold itemLines at success
  split at success
  · exact singleLines_gather (fun _ _ => singleLines_fieldLines) success
  · cases success
  · cases success

/-- No exported line holds a line break. -/
theorem singleLines_lines {policy : Policy} {rules : RuleSet} {exported : List String}
    (success : (lines policy rules).result = .ok exported) : SingleLines exported := by
  rw [lines_eq_gather] at success
  exact singleLines_gather (fun _ _ => singleLines_itemLines) success

/-! ## Formats -/

/-- The lines that the text of a document becomes. -/
def linesOfString (policy : Policy) (document : String) : Logged Failure (List String) := do
  let rules ← RuleSet.ofString policy document
  lines policy rules

theorem render_eq_linesOfString (policy : Policy) (format : Format) (document : String) :
    render policy format document =
      linesOfString policy document >>= fun lines => pure (format.render lines) := by
  rw [render, linesOfString, bind_assoc]

theorem singleLines_linesOfString {policy : Policy} {document : String} {exported : List String}
    (success : (linesOfString policy document).result = .ok exported) : SingleLines exported := by
  rcases Logged.result_bind_eq_ok_iff.mp success with ⟨rules, _, success⟩
  exact singleLines_lines success

/-- Lines without a line feed are told apart at the line feeds between them. -/
theorem split_render_text {lines : List String} (single : SingleLines lines) (some : lines ≠ []) :
    ((Format.text.render lines).split '\n').toList.map (·.copy) = lines := by
  have parts := String.toList_split_intercalate single.lineFeed_notMem
  rw [if_neg some] at parts
  have isText : Format.text.render lines = (String.singleton '\n').intercalate lines :=
    String.append_empty
  rw [isText]
  exact parts

/-- The formats of a conversion have the same remarks and the same failure, or else the
same lines: those of the payload in JSON are those of the text. -/
theorem render_formats (policy : Policy) (document : String) :
    (∀ format other,
      (render policy format document).diagnostics =
        (render policy other document).diagnostics) ∧
      ((∃ failure, ∀ format, (render policy format document).result = .error failure) ∨
        ∃ lines, (linesOfString policy document).result = .ok lines ∧
          (∀ format, (render policy format document).result = .ok (format.render lines)) ∧
          Json.Payload.decode (Format.json.render lines) = .ok lines ∧
          (lines ≠ [] →
            ((Format.text.render lines).split '\n').toList.map (·.copy) = lines) ∧
          (lines = [] → Format.text.render lines = "")) := by
  simp only [render_eq_linesOfString]
  rcases run : linesOfString policy document with ⟨diagnostics, result⟩
  cases result with
  | error failure =>
      constructor
      · intro format other
        rfl
      · left
        exact ⟨failure, fun _ => rfl⟩
  | ok lines =>
      constructor
      · intro format other
        rfl
      · right
        refine ⟨lines, rfl, fun _ => rfl, Json.Payload.decode_render lines, ?_, ?_⟩
        · intro some
          have success := congrArg Logged.result run
          exact split_render_text (singleLines_linesOfString success) some
        · intro none
          rw [none]
          rfl

/-! ## Exports -/

theorem exportTo_of_error {policy : Policy} {rules : RuleSet} {failure : Failure}
    (failed : (lines policy rules).result = .error failure) (writer : Writer) (format : Format) :
    exportTo writer format policy rules =
      (⟨(lines policy rules).diagnostics, .error failure⟩, writer) := by
  rw [exportTo]
  dsimp only
  rw [failed]

theorem exportTo_of_ok {policy : Policy} {rules : RuleSet} {exported : List String}
    (success : (lines policy rules).result = .ok exported) (writer : Writer) (format : Format) :
    exportTo writer format policy rules =
      (⟨(lines policy rules).diagnostics, (writer.writeLines format exported).1⟩,
        (writer.writeLines format exported).2) := by
  rw [exportTo]
  dsimp only
  rw [success]

/-! ## YAML -/

theorem render_yaml (lines : List String) : Format.yaml.render lines = Yaml.Payload.render lines :=
  String.append_empty

/-- The YAML document of single lines has a physical line for each of them. -/
theorem render_yaml_of_singleLines {lines : List String} (single : SingleLines lines) :
    Format.yaml.render lines =
      if lines = [] then "payload: []\n"
      else "payload:\n" ++
        String.join (lines.map fun line => Yaml.Payload.itemLine line ++ "\n") := by
  rw [render_yaml, Yaml.Payload.render_eq single.lineFeed_notMem]
  cases lines with
  | nil => rfl
  | cons first rest => simp [Yaml.Payload.physicalLines, Function.comp_def]

/-- The YAML export of no lines is a single physical line.  Any other has a physical line
for each exported line, which depends on nothing but that line. -/
theorem exportTo_yaml {writer : Writer} (unlimited : writer.room = none)
    (flushes : writer.flushFails = false) {policy : Policy} {rules : RuleSet}
    {exported : List String} (success : (lines policy rules).result = .ok exported) :
    (exportTo writer .yaml policy rules).1.result = .ok () ∧
      (exportTo writer .yaml policy rules).2.received =
        writer.received ++ Utf8.encode
          (if exported = [] then "payload: []\n"
            else "payload:\n" ++
              String.join (exported.map fun line => Yaml.Payload.itemLine line ++ "\n")) ∧
      ∀ line ∈ exported,
        "- ".toList <+: (Yaml.Payload.itemLine line).toList ∧
          '\n' ∉ (Yaml.Payload.itemLine line).toList := by
  have single := singleLines_lines success
  obtain ⟨result, received⟩ := Writer.writeLines_of_unlimited unlimited .yaml exported
  rw [exportTo_of_ok success, ← render_yaml_of_singleLines single]
  refine ⟨?_, received, ?_⟩
  · rw [result]
    simp [Writer.flush, flushes, Except.mapError]
  · intro line member
    constructor
    · rw [Yaml.Payload.toList_itemLine]
      exact List.prefix_append ['-', ' '] _
    · exact Yaml.Payload.lineFeed_notMem_itemLine (single.lineFeed_notMem line member)

/-- A rule whose values need the care of every style. -/
def oddRules : RuleSet :=
  ⟨[⟨.plain, [⟨"domain", ["null", "'a'", "b\u0085# c", "- d", "\t\\"]⟩,
    ⟨"domain_suffix", [".e", "f\u2028g"]⟩], by decide⟩]⟩

theorem oddRules_exported :
    (lines .strict oddRules).result =
        .ok ["null", "'a'", "b\u0085# c", "- d", "\t\\", ".e", "+.f\u2028g"] ∧
      (exportTo {} .yaml .strict oddRules).2.received =
        Utf8.encode ("payload:\n- 'null'\n- '''a'''\n- \"b\\N# c\"\n- '- d'\n" ++
          "- \"\\t\\\\\"\n- .e\n- '+.f\u2028  g'\n") := by
  have success : (lines .strict oddRules).result =
      .ok ["null", "'a'", "b\u0085# c", "- d", "\t\\", ".e", "+.f\u2028g"] := by
    decide +kernel
  have unlimited : ({} : Writer).room = none := rfl
  have received := (exportTo_yaml unlimited rfl success).2.1
  refine ⟨success, received.trans ?_⟩
  decide +kernel

/-- Lines without a line break are read back from their YAML document, so no two lists of
them are written in the same way. -/
theorem writeLines_yaml_inj {writer : Writer} (unlimited : writer.room = none)
    {first second : List String} (firstSingle : SingleLines first)
    (secondSingle : SingleLines second) :
    Yaml.Payload.decode (Format.yaml.render first) = first ∧
      ((writer.writeLines .yaml first).2.received = (writer.writeLines .yaml second).2.received ↔
        first = second) := by
  have readBack : ∀ {lines : List String}, SingleLines lines →
      Yaml.Payload.decode (Format.yaml.render lines) = lines := by
    intro lines single
    rw [render_yaml, Yaml.Payload.decode_render single.lineFeed_notMem]
  refine ⟨readBack firstSingle, ?_⟩
  rw [(Writer.writeLines_of_unlimited unlimited .yaml first).2,
    (Writer.writeLines_of_unlimited unlimited .yaml second).2,
    List.append_cancel_left_eq, Utf8.encode_inj]
  constructor
  · intro same
    rw [← readBack firstSingle, same, readBack secondSingle]
  · exact congrArg Format.yaml.render

/-- A text between single quotes is not taken for the text that needs them. -/
theorem quotes_told_apart :
    SingleLines ["- a", "\u2028"] ∧ SingleLines ["'- a'", "\u2028"] ∧
      Yaml.Payload.decode (Format.yaml.render ["- a", "\u2028"]) = ["- a", "\u2028"] ∧
      (Writer.writeLines {} .yaml ["- a", "\u2028"]).2.received ≠
        (Writer.writeLines {} .yaml ["'- a'", "\u2028"]).2.received := by
  have firstSingle : SingleLines ["- a", "\u2028"] := by decide
  have secondSingle : SingleLines ["'- a'", "\u2028"] := by decide
  have unlimited : ({} : Writer).room = none := rfl
  obtain ⟨readBack, inj⟩ := writeLines_yaml_inj unlimited firstSingle secondSingle
  refine ⟨firstSingle, secondSingle, readBack, ?_⟩
  intro same
  exact absurd (inj.mp same) (by decide)

end DomainRules.MetaDomain
