import DomainRules.Proofs.MetaDomain.Fields

/-!
# The lines and the gaps of a rule set

A lenient run visits the rules in order, as far as the first that is not plain, and
in each rule the fields that have values.  The main statement accounts for all that
it leaves: the lines of the visited fields, a warning for each of their gaps, and
the failure at the rule where it stops.
-/

namespace DomainRules.MetaDomain

open Rule (Field Item Kind RuleSet)

/-- The failure at a rule of a kind that the target syntax does not have. -/
def refusal? : Kind → Option Failure
  | .plain => none
  | .logical => some (.capability ⟨.output, .structural, "logical rule is not supported"⟩)
  | .unknown tag _ => some (.document (.unexpectedType tag))

/-- The fields of a rule that have values. -/
def presentFields (item : Item) : List Field :=
  item.fields.filter (·.values ≠ [])

/-- How many rules stand before the first that is not plain. -/
def leadingPlain (items : List Item) : Nat :=
  items.findIdx (·.kind ≠ .plain)

/-- The fields that a run visits, in order. -/
def visitedFields (items : List Item) : List Field :=
  (items.take (leadingPlain items)).flatMap presentFields

/-- How a run ends that has visited the rules. -/
def outcome (items : List Item) : Except Failure (List String) :=
  match items[leadingPlain items]?.bind fun item => refusal? item.kind with
  | none => .ok ((visitedFields items).flatMap linesOf)
  | some failure => .error failure

/-! ## Rules -/

theorem minify_fields (item : Item) : item.minify.fields = presentFields item := by
  apply List.filter_congr
  intro field _
  cases values : field.values with
  | nil => simp [Field.isEmpty, values]
  | cons value rest => simp [Field.isEmpty, values]

/-- Steps that all succeed produce their lines one after the other. -/
theorem gather_of_success {α : Type} {step : α → Logged Failure (List String)}
    {remarks : α → List Diagnostic} {lines : α → List String} {members : List α}
    (success : ∀ member ∈ members, step member = ⟨remarks member, .ok (lines member)⟩) :
    gather step members = ⟨members.flatMap remarks, .ok (members.flatMap lines)⟩ := by
  induction members with
  | nil => rfl
  | cons member members ih =>
      have tail := ih fun other inTail => success other (List.mem_cons_of_mem _ inTail)
      rw [gather, success member List.mem_cons_self, tail]
      simp only [Logged.mk_ok_bind, Logged.diagnostics_pure, Logged.result_pure,
        List.append_nil, List.flatMap_cons]

theorem itemLines_lenient_of_plain {item : Item} (plain : item.kind = .plain) :
    itemLines registry .lenient item =
      ⟨((presentFields item).flatMap gapsOf).map .warning,
        .ok ((presentFields item).flatMap linesOf)⟩ := by
  simp only [itemLines, plain, minify_fields, List.map_flatMap]
  apply gather_of_success
  intro field visited
  have present : field.values ≠ [] := by
    simpa using (List.mem_filter.mp visited).2
  exact fieldLines_lenient present

/-- A rule that is not plain ends the run, whatever the policy. -/
theorem itemLines_of_refusal (policy : Policy) {item : Item} {failure : Failure}
    (refused : refusal? item.kind = some failure) :
    itemLines registry policy item = Logged.fail failure := by
  unfold itemLines
  cases kind : item.kind with
  | plain =>
      rw [kind] at refused
      cases refused
  | logical =>
      rw [kind] at refused
      cases refused
      rfl
  | unknown tag isOther =>
      rw [kind] at refused
      cases refused
      rfl

theorem exists_refusal_of_not_plain {kind : Kind} (notPlain : kind ≠ .plain) :
    ∃ failure, refusal? kind = some failure := by
  cases kind with
  | plain => exact absurd rfl notPlain
  | logical => exact ⟨_, rfl⟩
  | unknown tag isOther => exact ⟨_, rfl⟩

/-! ## Rule sets -/

theorem leadingPlain_cons_of_plain {item : Item} {items : List Item}
    (plain : item.kind = .plain) :
    leadingPlain (item :: items) = leadingPlain items + 1 := by
  simp [leadingPlain, List.findIdx_cons, plain]

theorem leadingPlain_cons_of_not_plain {item : Item} {items : List Item}
    (notPlain : item.kind ≠ .plain) : leadingPlain (item :: items) = 0 := by
  simp [leadingPlain, List.findIdx_cons, notPlain]

theorem visitedFields_cons_of_plain {item : Item} {items : List Item}
    (plain : item.kind = .plain) :
    visitedFields (item :: items) = presentFields item ++ visitedFields items := by
  rw [visitedFields, leadingPlain_cons_of_plain plain, List.take_succ_cons, List.flatMap_cons]
  rfl

theorem outcome_cons_of_plain {item : Item} {items : List Item} (plain : item.kind = .plain) :
    outcome (item :: items) =
      (outcome items).map ((presentFields item).flatMap linesOf ++ ·) := by
  simp only [outcome, leadingPlain_cons_of_plain plain, List.getElem?_cons_succ,
    visitedFields_cons_of_plain plain, List.flatMap_append]
  cases items[leadingPlain items]?.bind fun item => refusal? item.kind with
  | none => rfl
  | some failure => rfl

theorem outcome_cons_of_refusal {item : Item} {items : List Item} {failure : Failure}
    (refused : refusal? item.kind = some failure) :
    outcome (item :: items) = .error failure := by
  have notPlain : item.kind ≠ .plain := by
    intro plain
    rw [plain] at refused
    cases refused
  simp only [outcome, leadingPlain_cons_of_not_plain notPlain, List.getElem?_cons_zero,
    Option.bind_some, refused]

theorem gather_itemLines_lenient (items : List Item) :
    gather (itemLines registry .lenient) items =
      ⟨((visitedFields items).flatMap gapsOf).map .warning, outcome items⟩ := by
  induction items with
  | nil => rfl
  | cons item items ih =>
      by_cases plain : item.kind = .plain
      · rw [gather, itemLines_lenient_of_plain plain, ih, visitedFields_cons_of_plain plain,
          outcome_cons_of_plain plain, List.flatMap_append, List.map_append, Logged.mk_ok_bind]
        cases outcome items with
        | error failure => rfl
        | ok lines =>
            simp only [Logged.mk_ok_bind, Logged.diagnostics_pure, Logged.result_pure,
              List.append_nil]
            rfl
      · rcases exists_refusal_of_not_plain plain with ⟨failure, refused⟩
        rw [gather, itemLines_of_refusal .lenient refused, Logged.fail_bind,
          outcome_cons_of_refusal refused, visitedFields, leadingPlain_cons_of_not_plain plain]
        rfl

/-! ## Fields without values -/

/-- What has nothing to show for a field without values does not miss it. -/
theorem flatMap_presentFields {α : Type} {image : Field → List α} (item : Item)
    (empty : ∀ key, image ⟨key, []⟩ = []) :
    (presentFields item).flatMap image = item.fields.flatMap image := by
  rw [presentFields]
  induction item.fields with
  | nil => rfl
  | cons field fields ih =>
      rcases field with ⟨key, values⟩
      cases values with
      | nil =>
          simp only [List.filter_cons, ne_eq, not_true_eq_false, decide_false,
            Bool.false_eq_true, if_false, List.flatMap_cons, empty, List.nil_append]
          exact ih
      | cons value values =>
          simp only [List.filter_cons, ne_eq, reduceCtorEq, not_false_eq_true, decide_true,
            if_true, List.flatMap_cons]
          rw [← ih]

theorem flatMap_flatMap_presentFields {α : Type} {image : Field → List α} (items : List Item)
    (empty : ∀ key, image ⟨key, []⟩ = []) :
    (items.flatMap presentFields).flatMap image = items.flatMap (·.fields.flatMap image) := by
  rw [List.flatMap_assoc]
  congr 1
  funext item
  exact flatMap_presentFields item empty

theorem linesOf_empty (key : String) : linesOf ⟨key, []⟩ = [] := by
  simp [linesOf]

theorem gapsOf_empty (key : String) : gapsOf ⟨key, []⟩ = [] := by
  simp [gapsOf]

/-! ## Rule sets of plain rules -/

theorem visitedFields_of_all_plain {items : List Item}
    (plain : ∀ item ∈ items, item.kind = .plain) :
    visitedFields items = items.flatMap presentFields := by
  have all : leadingPlain items = items.length := by
    apply List.findIdx_eq_length.mpr
    intro item member
    simp [plain item member]
  rw [visitedFields, all, List.take_length]

theorem outcome_of_all_plain {items : List Item} (plain : ∀ item ∈ items, item.kind = .plain) :
    outcome items = .ok ((items.flatMap presentFields).flatMap linesOf) := by
  induction items with
  | nil => rfl
  | cons item items ih =>
      have tail := ih fun other member => plain other (List.mem_cons_of_mem _ member)
      rw [outcome_cons_of_plain (plain item List.mem_cons_self), tail, List.flatMap_cons,
        List.flatMap_append]
      rfl

theorem all_plain_of_outcome {items : List Item} {lines : List String}
    (success : outcome items = .ok lines) : ∀ item ∈ items, item.kind = .plain := by
  induction items generalizing lines with
  | nil => exact fun _ member => absurd member List.not_mem_nil
  | cons first items ih =>
      by_cases plain : first.kind = .plain
      · rw [outcome_cons_of_plain plain] at success
        cases rest : outcome items with
        | error failure =>
            rw [rest] at success
            cases success
        | ok others =>
            intro item member
            rcases List.mem_cons.mp member with same | inRest
            · exact same ▸ plain
            · exact ih rest item inRest
      · rcases exists_refusal_of_not_plain plain with ⟨failure, refused⟩
        rw [outcome_cons_of_refusal refused] at success
        cases success

/-! ## The lenient run -/

theorem lines_eq_gather (policy : Policy) (rules : RuleSet) :
    lines policy rules = gather (itemLines registry policy) rules.items := by
  rw [lines, handlers_eq]
  rfl

/-- A lenient run leaves one warning for each gap of the fields it visits, in the
order of its visits, and ends either with the lines of all of them, in the same
order, or with the failure of the first rule that is not plain. -/
theorem lines_lenient (rules : RuleSet) :
    let count := rules.items.findIdx (·.kind ≠ .plain)
    let visited := (rules.items.take count).flatMap fun item =>
      item.fields.filter (·.values ≠ [])
    (lines .lenient rules).diagnostics = (visited.flatMap gapsOf).map (⟨.warning, ·⟩) ∧
      (lines .lenient rules).result =
        match rules.items[count]?.bind fun item => refusal? item.kind with
        | none => .ok (visited.flatMap linesOf)
        | some failure => .error failure := by
  intro count visited
  rw [lines_eq_gather, gather_itemLines_lenient]
  exact ⟨rfl, rfl⟩

end DomainRules.MetaDomain
