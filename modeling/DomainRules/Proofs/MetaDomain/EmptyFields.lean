import Mathlib.Data.List.Forall2
import DomainRules.Proofs.MetaDomain.Lines

/-!
# Fields without values

A field without values says nothing about any domain, whatever its key is and wherever
it stands.  Two rule sets are alike if such fields are all that tells them apart.  The
main statement is that no export tells alike rule sets apart: not by its lines or bytes,
not by its failure, and not by a diagnostic.
-/

namespace DomainRules

namespace Rule

/-- Two lists of fields of which one becomes the other when fields without values are
left out of it, in any places, and others are put in, in any places. -/
inductive Field.Alike : List Field → List Field → Prop where
  | nil : Alike [] []
  | both (field : Field) {fields others : List Field} :
      Alike fields others → Alike (field :: fields) (field :: others)
  /-- A field without values is left out. -/
  | omitted (key : String) {fields others : List Field} :
      Alike fields others → Alike (⟨key, []⟩ :: fields) others
  /-- A field without values is put in. -/
  | added (key : String) {fields others : List Field} :
      Alike fields others → Alike fields (⟨key, []⟩ :: others)

/-- Two rules of one kind that fields without values tell apart, if anything does. -/
structure Item.Alike (item other : Item) : Prop where
  kind : item.kind = other.kind
  fields : Field.Alike item.fields other.fields

/-- Rule sets whose rules are alike one by one. -/
def RuleSet.Alike (rules others : RuleSet) : Prop :=
  List.Forall₂ Item.Alike rules.items others.items

namespace Field

theorem isEmpty_iff {field : Field} : field.isEmpty = true ↔ ∃ key, field = ⟨key, []⟩ := by
  rcases field with ⟨key, values⟩
  simp [isEmpty]

theorem Alike.added_before {before fields others : List Field}
    (empty : ∀ field ∈ before, field.isEmpty = true) (alike : Alike fields others) :
    Alike fields (before ++ others) := by
  induction before with
  | nil => exact alike
  | cons field before ih =>
      rcases isEmpty_iff.mp (empty field List.mem_cons_self) with ⟨key, rfl⟩
      apply Alike.added key
      exact ih fun other member => empty other (List.mem_cons_of_mem _ member)

/-- Lists of fields are alike if they have the same fields with values, in the same
order. -/
theorem alike_iff {fields others : List Field} :
    Alike fields others ↔ fields.filter (!·.isEmpty) = others.filter (!·.isEmpty) := by
  constructor
  · intro alike
    induction alike with
    | nil => rfl
    | both field _ ih => rw [List.filter_cons, List.filter_cons, ih]
    | omitted key _ ih => exact ih
    | added key _ ih => exact ih
  · intro same
    induction fields generalizing others with
    | nil =>
        have empty : ∀ field ∈ others, field.isEmpty = true := by
          simpa using List.filter_eq_nil_iff.mp same.symm
        rw [← List.append_nil others]
        exact Alike.added_before empty .nil
    | cons field fields ih =>
        cases isEmpty : field.isEmpty with
        | true =>
            rw [List.filter_cons, isEmpty] at same
            rcases isEmpty_iff.mp isEmpty with ⟨key, rfl⟩
            exact .omitted key (ih same)
        | false =>
            rw [List.filter_cons, isEmpty] at same
            rcases List.filter_eq_cons_iff.mp same.symm with ⟨before, after, rfl, empty, _, rest⟩
            have emptyBefore : ∀ other ∈ before, other.isEmpty = true := by
              simpa using empty
            exact Alike.added_before emptyBefore (.both field (ih rest.symm))

end Field

/-- A rule is like itself without its empty fields. -/
theorem Item.alike_minify (item : Item) : item.Alike item.minify where
  kind := rfl
  fields := by
    rw [Field.alike_iff, minify, List.filter_filter]
    simp only [Bool.and_self]

end Rule

namespace MetaDomain

open Rule (Item RuleSet)

variable {item other : Item} {rules others : RuleSet}

theorem itemLines_congr (alike : item.Alike other) (registry : Registry Handler)
    (policy : Policy) : itemLines registry policy item = itemLines registry policy other := by
  have fields : item.minify.fields = other.minify.fields := Rule.Field.alike_iff.mp alike.fields
  unfold itemLines
  rw [alike.kind, fields]

theorem gather_congr {α : Type} {step : α → Logged Failure (List String)}
    {members others : List α}
    (same : List.Forall₂ (fun member other => step member = step other) members others) :
    gather step members = gather step others := by
  induction same with
  | nil => rfl
  | cons first _ ih => rw [gather, gather, first, ih]

theorem lines_congr (alike : rules.Alike others) (policy : Policy) :
    lines policy rules = lines policy others := by
  rw [lines_eq_gather, lines_eq_gather]
  apply gather_congr
  exact List.Forall₂.imp (fun _ _ alike => itemLines_congr alike registry policy) alike

/-- Fields without values may be left out of a rule set and put into it, and nothing that
an export shows is changed. -/
theorem export_of_alike (alike : rules.Alike others) (policy : Policy) :
    lines policy rules = lines policy others ∧
      (∀ writer format,
        exportTo writer format policy rules = exportTo writer format policy others) ∧
      ∀ item, linesOfItem policy item = linesOfItem policy item.minify := by
  have same := lines_congr alike policy
  refine ⟨same, ?_, ?_⟩
  · intro writer format
    rw [exportTo, exportTo, same]
  · intro item
    rw [linesOfItem, linesOfItem, funext fun registry =>
      itemLines_congr item.alike_minify registry policy]

/-- Two rules, among whose fields some have no values. -/
def paddedRules : RuleSet :=
  ⟨[⟨.plain, [⟨"geoip", []⟩, ⟨"domain", ["a.example"]⟩, ⟨"domain_suffix", []⟩], by decide⟩,
    ⟨.plain, [⟨"domain", []⟩, ⟨"domain_suffix", ["b.example"]⟩], by decide⟩]⟩

/-- The same rules with some of these fields, and with one that they did not have. -/
def repaddedRules : RuleSet :=
  ⟨[⟨.plain, [⟨"domain", ["a.example"]⟩, ⟨"port", []⟩, ⟨"domain_suffix", []⟩], by decide⟩,
    ⟨.plain, [⟨"domain_suffix", ["b.example"]⟩], by decide⟩]⟩

theorem padding_unseen :
    paddedRules.Alike repaddedRules ∧
      (lines .strict paddedRules).result = .ok ["a.example", "+.b.example"] ∧
      lines .strict paddedRules = lines .strict repaddedRules ∧
      ∀ writer, exportTo writer .yaml .strict paddedRules =
        exportTo writer .yaml .strict repaddedRules := by
  have alike : paddedRules.Alike repaddedRules :=
    .cons ⟨rfl, .omitted "geoip" (.both _ (.added "port" (.both _ .nil)))⟩
      (.cons ⟨rfl, .omitted "domain" (.both _ .nil)⟩ .nil)
  have same := export_of_alike alike .strict
  exact ⟨alike, by decide +kernel, same.1, fun writer => same.2.1 writer .yaml⟩

end MetaDomain

end DomainRules
