import Mathlib.Data.List.Basic
import DomainRules.Proofs.MetaDomain.Strictness

/-!
# The hosts that rules cover

A value of a field stands for hosts, and so does a line of the target syntax; the two
notations are read here independently of each other.  The main statement is that an
export keeps the meaning of every value in its place, so that an engine that takes the
first match takes the same one.

Two notations of a line must not be mistaken for each other: a single domain is written
as it is, so it has to be one that does not look like an ending.
-/

namespace DomainRules.MetaDomain

open Rule (Item RuleSet)

/-! ## Hosts -/

def EndsIn (host ending : String) : Prop :=
  ∃ front, host = front ++ ending

theorem endsIn_iff {host ending : String} : EndsIn host ending ↔ ending.toList <:+ host.toList := by
  constructor
  · rintro ⟨front, rfl⟩
    exact ⟨front.toList, String.toList_append.symm⟩
  · rintro ⟨front, same⟩
    refine ⟨String.ofList front, String.toList_inj.mp ?_⟩
    rw [String.toList_append, String.toList_ofList, same]

instance (host ending : String) : Decidable (EndsIn host ending) :=
  decidable_of_iff _ endsIn_iff.symm

/-- A host is a domain or stands below it. -/
def Within (host domain : String) : Prop :=
  host = domain ∨ EndsIn host ("." ++ domain)

instance (host domain : String) : Decidable (Within host domain) :=
  inferInstanceAs (Decidable (_ ∨ _))

/-- A line with the marker for a domain and everything below it. -/
def Marked (line : String) : Prop :=
  "+.".toList <+: line.toList

instance (line : String) : Decidable (Marked line) :=
  inferInstanceAs (Decidable (_ <+: _))

/-- A value under a key stands for a host. -/
def ValueCovers (key value host : String) : Prop :=
  key = "domain" ∧ host = value ∨
    key = "domain_suffix" ∧ if Anchored value then EndsIn host value else Within host value

instance (key value host : String) : Decidable (ValueCovers key value host) :=
  inferInstanceAs (Decidable (_ ∨ _))

/-- A line stands for a host. -/
def LineCovers (line host : String) : Prop :=
  if Marked line then Within host (String.ofList (line.toList.drop 2))
  else if Anchored line then EndsIn host line
  else host = line

instance (line host : String) : Decidable (LineCovers line host) :=
  inferInstanceAs (Decidable (
    if Marked line then Within host (String.ofList (line.toList.drop 2))
    else if Anchored line then EndsIn host line
    else host = line))

/-! ## Rules that can be exported as they are -/

/-- The values of a rule set, each with its key, in the order of rules and fields. -/
def valuesOf (rules : RuleSet) : List (String × String) :=
  rules.items.flatMap fun item => item.fields.flatMap fun field => field.values.map (field.key, ·)

/-- Plain rules whose values the target syntax can express, among which no single domain
looks like an ending. -/
structure Faithful (rules : RuleSet) : Prop where
  plain : ∀ item ∈ rules.items, item.kind = .plain
  keys : ∀ entry ∈ valuesOf rules, entry.1 = "domain" ∨ entry.1 = "domain_suffix"
  single : ∀ entry ∈ valuesOf rules, '\n' ∉ entry.2.toList ∧ '\r' ∉ entry.2.toList
  exact : ∀ entry ∈ valuesOf rules, entry.1 = "domain" → ¬Anchored entry.2 ∧ ¬Marked entry.2

theorem mem_valuesOf {rules : RuleSet} {key value : String} :
    (key, value) ∈ valuesOf rules ↔
      ∃ item ∈ rules.items, ∃ field ∈ item.fields, value ∈ field.values ∧ field.key = key := by
  simp [valuesOf]

theorem Faithful.gapless {rules : RuleSet} (faithful : Faithful rules) {item : Item}
    (isItem : item ∈ rules.items) {field : Rule.Field} (isField : field ∈ item.fields) :
    gapsOf field = [] := by
  have entries : ∀ value ∈ field.values, (field.key, value) ∈ valuesOf rules :=
    fun value member => mem_valuesOf.mpr ⟨item, isItem, field, isField, member, rfl⟩
  apply gapsOf_eq_nil_iff.mpr
  constructor
  · intro present
    rcases List.exists_mem_of_ne_nil _ present with ⟨value, member⟩
    exact faithful.keys _ (entries value member)
  · intro value member
    exact (not_broken_iff value).mpr (faithful.single _ (entries value member))

/-- An export of such rules has a line for each value, and nothing to remark. -/
theorem lines_of_faithful {rules : RuleSet} (faithful : Faithful rules) (policy : Policy) :
    lines policy rules =
      ⟨[], .ok ((valuesOf rules).map fun (key, value) => lineOf key value)⟩ := by
  have gaps : rules.items.flatMap (·.fields.flatMap gapsOf) = [] := by
    rw [List.flatMap_eq_nil_iff]
    intro item isItem
    rw [List.flatMap_eq_nil_iff]
    intro field isField
    exact faithful.gapless isItem isField
  have written : rules.items.flatMap (·.fields.flatMap linesOf) =
      (valuesOf rules).map fun (key, value) => lineOf key value := by
    rw [valuesOf, List.map_flatMap]
    apply List.flatMap_congr
    intro item isItem
    rw [List.map_flatMap]
    apply List.flatMap_congr
    intro field isField
    rw [linesOf_of_gapless (faithful.gapless isItem isField), List.map_map]
    rfl
  apply lines_of_silent
  rw [lines_eq_gather, gather_itemLines_lenient, visitedFields_of_all_plain faithful.plain,
    outcome_of_all_plain faithful.plain, flatMap_flatMap_presentFields _ gapsOf_empty,
    flatMap_flatMap_presentFields _ linesOf_empty, gaps, written]
  rfl

/-! ## What lines and values cover -/

theorem marked_marker (value : String) : Marked ("+." ++ value) := by
  rw [Marked, String.toList_append]
  exact List.prefix_append _ _

theorem Anchored.not_marked {value : String} (anchored : Anchored value) : ¬Marked value := by
  rintro ⟨rest, same⟩
  rw [Anchored, ← same] at anchored
  cases anchored

theorem lineCovers_lineOf {key value : String} (known : key = "domain" ∨ key = "domain_suffix")
    (exact : key = "domain" → ¬Anchored value ∧ ¬Marked value) (host : String) :
    LineCovers (lineOf key value) host ↔ ValueCovers key value host := by
  rcases known with rfl | rfl
  · obtain ⟨notAnchored, notMarked⟩ := exact rfl
    simp [lineOf, LineCovers, ValueCovers, notAnchored, notMarked]
  · by_cases anchored : Anchored value
    · simp [lineOf, LineCovers, ValueCovers, anchored, anchored.not_marked]
    · simp [lineOf, LineCovers, ValueCovers, anchored, marked_marker]

/-- A search among images ends at the same place as a search among what they are images
of, if both look for the same. -/
theorem findIdx?_map_of_same {α β : Type} {image : α → β} {isImage : β → Bool}
    {isMember : α → Bool} {members : List α}
    (same : ∀ member ∈ members, isImage (image member) = isMember member) :
    (members.map image).findIdx? isImage = members.findIdx? isMember := by
  have answers : members.map (isImage ∘ image) = members.map isMember :=
    List.map_congr_left same
  have places := congrArg (List.findIdx? id) answers
  rw [List.findIdx?_map, List.findIdx?_map] at places
  rw [List.findIdx?_map]
  exact places

/-- An export keeps what every value covers, and so the first value that covers a host. -/
theorem lines_cover {rules : RuleSet} (faithful : Faithful rules) (policy : Policy) :
    ∃ exported, lines policy rules = ⟨[], .ok exported⟩ ∧
      exported.length = (valuesOf rules).length ∧
      ∀ host,
        (∀ (i : Nat) line key value, exported[i]? = some line →
          (valuesOf rules)[i]? = some (key, value) →
            (LineCovers line host ↔ ValueCovers key value host)) ∧
        exported.findIdx? (fun line => LineCovers line host) =
          (valuesOf rules).findIdx? fun (key, value) => ValueCovers key value host := by
  refine ⟨_, lines_of_faithful faithful policy, List.length_map _, ?_⟩
  intro host
  have covers : ∀ entry ∈ valuesOf rules,
      (LineCovers (lineOf entry.1 entry.2) host ↔ ValueCovers entry.1 entry.2 host) :=
    fun entry member =>
      lineCovers_lineOf (faithful.keys entry member) (faithful.exact entry member) host
  constructor
  · intro i line key value isLine isValue
    rw [List.getElem?_map, isValue] at isLine
    cases isLine
    exact covers (key, value) (List.mem_of_getElem? isValue)
  · apply findIdx?_map_of_same
    intro entry member
    exact decide_eq_decide.mpr (covers entry member)

/-- Values that begin like lines of another kind, and an empty one. -/
def lookalikeRules : RuleSet :=
  ⟨[⟨.plain, [⟨"domain", ["a.example", ""]⟩, ⟨"geoip", []⟩], by decide⟩,
    ⟨.plain, [⟨"domain_suffix", [".b.example", "+.c", "+.c.example"]⟩], by decide⟩]⟩

theorem lookalikeRules_covered :
    Faithful lookalikeRules ∧
      ∃ exported, lines .strict lookalikeRules = ⟨[], .ok exported⟩ ∧
        exported.findIdx? (fun line => LineCovers line "x.+.c") = some 3 := by
  have faithful : Faithful lookalikeRules :=
    ⟨by decide, by decide +kernel, by decide +kernel, by decide +kernel⟩
  obtain ⟨exported, run, _, covers⟩ := lines_cover faithful .strict
  refine ⟨faithful, exported, run, ?_⟩
  rw [(covers "x.+.c").2]
  decide +kernel

end DomainRules.MetaDomain
