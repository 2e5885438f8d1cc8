import Mathlib.Data.Prod.Basic
import DomainRules.Proofs.Config.Setting
import DomainRules.Proofs.Toml.Document

/-!
# What a configuration file gives

The keys of a section are those of its settings, and each takes the scalars of its setting
and no others.  The main statement is about the files whose sections hold nothing but
scalars: such a file is read when all its bindings give settings, and the settings that it
does not give are the usual ones.  What is wrong with its shape is told before what is
wrong with its version.
-/

namespace DomainRules

/-! ## Flat tables -/

namespace Toml

/-- A value without parts. -/
def Item.isScalar : Item → Bool
  | .scalar _ _ => true
  | _ => false

/-- A scalar or a table of scalars. -/
def Item.isFlat : Item → Bool
  | .scalar _ _ => true
  | .table _ entries => entries.all fun entry => entry.2.isScalar
  | _ => false

namespace Table

/-- A table of scalars and of tables of scalars. -/
def isFlat (table : Table) : Bool :=
  table.entries.all fun entry => entry.2.isFlat

/-- What an entry of a table binds, if it is a section, each with its place: the name of the
section and the key. -/
def entryBindings (entry : Key × Item) : List ((String × String) × Item) :=
  match entry.2 with
  | .table _ inner => inner.map fun binding => ((entry.1.name, binding.1.name), binding.2)
  | _ => []

/-- What the sections of a table bind. -/
def bindings (table : Table) : List ((String × String) × Item) :=
  table.entries.flatMap entryBindings

theorem fst_eq_of_mem_entryBindings {entry : Key × Item} {place : String × String}
    (bound : place ∈ (entryBindings entry).map Prod.fst) : place.1 = entry.1.name := by
  rw [entryBindings] at bound
  split at bound
  · simp only [List.map_map, List.mem_map, Function.comp_apply] at bound
    obtain ⟨binding, _, rfl⟩ := bound
    rfl
  · cases bound

/-- In a document no place is bound twice. -/
theorem WellFormed.nodup_bindings {table : Table} (wellFormed : table.WellFormed) :
    (table.bindings.map Prod.fst).Nodup := by
  obtain ⟨distinct, values⟩ := wellFormed_iff.mp wellFormed
  rw [bindings, List.map_flatMap, List.nodup_flatMap]
  constructor
  · intro entry member
    rw [entryBindings]
    split
    · next origin inner isTable =>
        have innerWellFormed := values entry member
        rw [isTable] at innerWellFormed
        cases innerWellFormed with
        | table origin innerDistinct _ =>
            have mapped := innerDistinct.map (Prod.mk_right_injective entry.1.name)
            rw [List.map_map] at mapped ⊢
            exact mapped
    · exact List.nodup_nil
  · rw [names, List.Nodup, List.pairwise_map] at distinct
    apply distinct.imp
    intro first second different place isFirst isSecond
    apply different
    rw [← fst_eq_of_mem_entryBindings isFirst, fst_eq_of_mem_entryBindings isSecond]

end Table

end Toml

namespace Config

open Toml (Item Key Scalar Span Table)

/-! ## Sections -/

variable {place span : Span} {scalar : Scalar}

theorem text_scalar_eq_ok_iff {value : String} :
    text place (.scalar span scalar) = .ok value ↔ scalar = .string value := by
  cases scalar <;> simp [text]

theorem flag_scalar_eq_ok_iff {value : Bool} :
    flag place (.scalar span scalar) = .ok value ↔ scalar = .boolean value := by
  cases scalar <;> simp [flag]

theorem choice_scalar_eq_ok_iff {α : Type} [Choice α] [Choice.Lawful α] {value : α} :
    choice place (.scalar span scalar) = .ok value ↔ scalar = .string (Choice.name value) := by
  cases scalar with
  | string name =>
      rw [Scalar.string.injEq, ← Choice.ofName?_eq_some_iff]
      cases found : Choice.ofName? (α := α) name <;> simp [choice, named, found]
  | _ => simp [choice]

/-- A slot that takes the scalars of a setting and nothing else. -/
def Setting.Takes (setting : Setting) (read : Span → Item → Config → Except Mismatch Config) :
    Prop :=
  ∀ (place span : Span) (scalar : Scalar) (config after : Config),
    read place (.scalar span scalar) config = .ok after ↔
      setting.scalar after = scalar ∧ setting.copy after config = after

/-- A slot takes a setting if its values are those of the setting and it puts them there. -/
theorem Setting.takes_of {α : Type} {setting : Setting} {field : Config → α}
    {written : α → Scalar} {ofItem : Span → Item → Except Mismatch α}
    {put : α → Config → Config}
    (isRead : ∀ {place span scalar value},
      ofItem place (.scalar span scalar) = .ok value ↔ scalar = written value)
    (isScalar : ∀ config, setting.scalar config = written (field config))
    (isCopy : ∀ source config, setting.copy source config = put (field source) config)
    (field_put : ∀ value config, field (put value config) = value) :
    setting.Takes fun span item config => (do .ok (put (← ofItem span item) config)) := by
  intro place span scalar config after
  rw [bind_eq_ok_iff, isScalar, isCopy]
  constructor
  · rintro ⟨value, success, same⟩
    cases same
    rw [field_put]
    exact ⟨(isRead.mp success).symm, rfl⟩
  · rintro ⟨isWritten, same⟩
    exact ⟨field after, isRead.mpr isWritten.symm, congrArg Except.ok same⟩

/-- The keys of a section are those of its settings, and each takes its setting. -/
structure Reads (slots : List Slot) (name : String) : Prop where
  known : ∀ slot ∈ slots, ∃ setting : Setting, setting.place = (name, slot.1)
  takes : ∀ setting : Setting, setting.place.1 = name →
    ∃ read, slots.lookup setting.place.2 = some read ∧ setting.Takes read

theorem reads_metaSlots : Reads metaSlots "ruleconv" where
  known slot member := by
    rw [List.mem_singleton.mp member]
    exact ⟨.version, rfl⟩
  takes setting isHere := by
    cases setting with
    | version =>
        exact ⟨_, rfl, Setting.takes_of text_scalar_eq_ok_iff (fun _ => rfl) (fun _ _ => rfl)
          fun _ _ => rfl⟩
    | _ => exact absurd isHere (by decide)

theorem reads_policySlots : Reads policySlots "policy" where
  known slot member := by
    rw [List.mem_singleton.mp member]
    exact ⟨.pedantic, rfl⟩
  takes setting isHere := by
    cases setting with
    | pedantic =>
        exact ⟨_, rfl, Setting.takes_of flag_scalar_eq_ok_iff (fun _ => rfl) (fun _ _ => rfl)
          fun _ _ => rfl⟩
    | _ => exact absurd isHere (by decide)

theorem reads_outputSlots : Reads outputSlots "output" where
  known slot member := by
    rcases List.mem_pair.mp member with rfl | rfl
    · exact ⟨.format, rfl⟩
    · exact ⟨.color, rfl⟩
  takes setting isHere := by
    cases setting with
    | format =>
        exact ⟨_, rfl, Setting.takes_of choice_scalar_eq_ok_iff
          (fun config => congrArg Scalar.string config.format.name_eq_word.symm)
          (fun _ _ => rfl) fun _ _ => rfl⟩
    | color =>
        exact ⟨_, rfl, Setting.takes_of choice_scalar_eq_ok_iff
          (fun config => congrArg Scalar.string config.color.name_eq_word.symm)
          (fun _ _ => rfl) fun _ _ => rfl⟩
    | _ => exact absurd isHere (by decide)

theorem mem_of_lookup {slots : List Slot} {key : String}
    {read : Span → Item → Config → Except Mismatch Config}
    (isSlot : slots.lookup key = some read) : (key, read) ∈ slots := by
  obtain ⟨front, back, rfl, _⟩ := List.lookup_eq_some_iff.mp isSlot
  exact List.mem_append_right front List.mem_cons_self

/-- A slot of a section takes the setting of its key. -/
theorem Reads.exists_takes {slots : List Slot} {name key : String} (reads : Reads slots name)
    {read : Span → Item → Config → Except Mismatch Config}
    (isSlot : slots.lookup key = some read) :
    ∃ setting : Setting, setting.place = (name, key) ∧ setting.Takes read := by
  obtain ⟨setting, isPlace⟩ := reads.known _ (mem_of_lookup isSlot)
  obtain ⟨taking, isTaking, takes⟩ := reads.takes setting (congrArg Prod.fst isPlace)
  rw [isPlace, isSlot] at isTaking
  cases isTaking
  exact ⟨setting, isPlace, takes⟩

/-- The section of a setting is read. -/
theorem exists_reads (setting : Setting) : ∃ title slots,
    sections.lookup setting.place.1 = some (ofSection title slots) ∧
      Reads slots setting.place.1 := by
  cases setting with
  | version => exact ⟨_, _, rfl, reads_metaSlots⟩
  | pedantic => exact ⟨_, _, rfl, reads_policySlots⟩
  | format | color => exact ⟨_, _, rfl, reads_outputSlots⟩

/-- There are no sections without settings. -/
theorem exists_place_of_mem_sections {slot : Slot} (member : slot ∈ sections) :
    ∃ setting : Setting, setting.place.1 = slot.1 := by
  simp only [sections, List.mem_cons, List.not_mem_nil, or_false] at member
  rcases member with rfl | rfl | rfl
  · exact ⟨.version, rfl⟩
  · exact ⟨.pedantic, rfl⟩
  · exact ⟨.format, rfl⟩

/-! ## Bindings -/

variable {slots : List Slot} {name : String} {key : Key} {item : Item}
  {entries : List (Key × Item)}

/-- A binding is read by the slot of its key before those behind it. -/
theorem ofEntries_cons_eq_ok_iff : ofEntries slots ((key, item) :: entries) config = .ok after ↔
    ∃ read middle, slots.lookup key.name = some read ∧
      read (item.span?.getD key.span) item config = .ok middle ∧
      ofEntries slots entries middle = .ok after := by
  rw [ofEntries, List.foldlM_cons, bind_eq_ok_iff]
  cases isSlot : slots.lookup key.name with
  | none => simp [isSlot]
  | some read => simp [isSlot, ofEntries]

/-- A section of scalars is read when its bindings give settings. -/
theorem Reads.ofEntries_eq_ok_iff (reads : Reads slots name)
    (scalars : ∀ entry ∈ entries, entry.2.isScalar = true) :
    ofEntries slots entries config = .ok after ↔
      Taken (entries.map fun entry => ((name, entry.1.name), entry.2)) config after := by
  induction entries generalizing config with
  | nil =>
      constructor
      · intro success
        cases success
        rfl
      · rintro rfl
        rfl
  | cons entry entries ih =>
      obtain ⟨key, item⟩ := entry
      obtain ⟨isScalar, others⟩ := List.forall_mem_cons.mp scalars
      cases item with
      | scalar span scalar =>
          rw [ofEntries_cons_eq_ok_iff]
          constructor
          · rintro ⟨read, middle, isSlot, isRead, rest⟩
            obtain ⟨setting, isPlace, takes⟩ := reads.exists_takes isSlot
            obtain ⟨rfl, isCopy⟩ := (takes _ span scalar config middle).mp isRead
            refine ⟨setting, middle, span, by rw [isPlace], ?_⟩
            rw [isCopy]
            exact (ih others).mp rest
          · rintro ⟨setting, source, span, same, rest⟩
            obtain ⟨isPlace, isScalar⟩ := Prod.mk.inj same
            cases isScalar
            obtain ⟨read, isSlot, takes⟩ := reads.takes setting (by rw [← isPlace])
            rw [← isPlace] at isSlot
            refine ⟨read, setting.copy source config, isSlot, ?_, (ih others).mpr rest⟩
            rw [takes]
            exact ⟨setting.scalar_copy source config, setting.copy_copy source config⟩
      | _ => cases isScalar

/-- An entry of a document that is one of the sections. -/
def IsSection (entry : Key × Item) : Prop :=
  (∃ setting : Setting, setting.place.1 = entry.1.name) ∧
    ∃ origin inner, entry.2 = .table origin inner

theorem ofSection_scalar_ne_ok {title : String} :
    ofSection title slots place (.scalar span scalar) config ≠ .ok after := by
  cases scalar <;> exact nofun

/-- A document of scalars and tables of scalars is read when its entries are sections whose
bindings give settings. -/
theorem ofEntries_sections_eq_ok_iff (flat : ∀ entry ∈ entries, entry.2.isFlat = true) :
    ofEntries sections entries config = .ok after ↔
      (∀ entry ∈ entries, IsSection entry) ∧
        Taken (entries.flatMap Table.entryBindings) config after := by
  induction entries generalizing config with
  | nil =>
      constructor
      · intro success
        cases success
        exact ⟨fun _ member => absurd member List.not_mem_nil, rfl⟩
      · rintro ⟨_, rfl⟩
        rfl
  | cons entry entries ih =>
      obtain ⟨key, item⟩ := entry
      obtain ⟨isFlat, others⟩ := List.forall_mem_cons.mp flat
      rw [ofEntries_cons_eq_ok_iff, List.forall_mem_cons, List.flatMap_cons, taken_append_iff]
      constructor
      · rintro ⟨read, middle, isSlot, isRead, rest⟩
        obtain ⟨areSections, taken⟩ := (ih others).mp rest
        obtain ⟨setting, isPlace⟩ := exists_place_of_mem_sections (mem_of_lookup isSlot)
        obtain ⟨title, slots, isSection, reads⟩ := exists_reads setting
        rw [isPlace, isSlot] at isSection
        cases isSection
        cases item with
        | table origin inner =>
            refine ⟨⟨⟨⟨setting, isPlace⟩, origin, inner, rfl⟩, areSections⟩, middle, ?_, taken⟩
            rw [isPlace] at reads
            exact (reads.ofEntries_eq_ok_iff (List.all_eq_true.mp isFlat)).mp isRead
        | scalar => exact absurd isRead ofSection_scalar_ne_ok
        | array | tables => cases isFlat
      · rintro ⟨⟨⟨⟨setting, isPlace⟩, origin, inner, isTable⟩, areSections⟩, middle, taken, rest⟩
        obtain ⟨title, slots, isSection, reads⟩ := exists_reads setting
        rw [isPlace] at isSection reads
        cases isTable
        have isRead := (reads.ofEntries_eq_ok_iff (List.all_eq_true.mp isFlat)).mpr taken
        exact ⟨_, middle, isSection, isRead, (ih others).mpr ⟨areSections, rest⟩⟩

/-! ## Files -/

/-- A document that gives the settings of a configuration, and no others than the usual
ones where it gives none. -/
structure Describes (table : Table) (config : Config) : Prop where
  sections : ∀ entry ∈ table.entries, IsSection entry
  given : ∀ binding ∈ table.bindings, ∃ (setting : Setting) (span : Span),
    binding = (setting.place, .scalar span (setting.scalar config))
  absent : ∀ setting : Setting, setting.place ∉ table.bindings.map Prod.fst →
    setting.scalar config = setting.scalar usual

theorem ofEntries_eq_ok_iff_describes {table : Table} (wellFormed : table.WellFormed)
    (flat : table.isFlat = true) :
    ofEntries sections table.entries default = .ok config ↔ Describes table config := by
  rw [ofEntries_sections_eq_ok_iff (List.all_eq_true.mp flat), ← Table.bindings,
    taken_iff wellFormed.nodup_bindings, default_eq_usual]
  constructor
  · rintro ⟨areSections, given, absent⟩
    exact ⟨areSections, given, absent⟩
  · rintro ⟨areSections, given, absent⟩
    exact ⟨areSections, given, absent⟩

/-- A text whose document describes a configuration, of whatever version. -/
def Gives (source : String) (config : Config) : Prop :=
  ∃ table, Table.ofString source = .ok table ∧ Describes table config

variable {source : String}

/-- What a text gives decides what becomes of it. -/
theorem ofString_of_gives
    (flat : ∀ table, Table.ofString source = .ok table → table.isFlat = true) :
    (∃ config, Gives source config ∧ (∀ other, Gives source other → other = config) ∧
      if config.version = "1" then ofString source = .ok config
      else ∃ reason, ofString source = .error (.validation reason)) ∨
    (∀ config, ¬Gives source config) ∧
      ∃ report, ofString source = .error (.parse report) := by
  cases isRead : Table.ofString source with
  | error report =>
      right
      constructor
      · rintro config ⟨table, success, _⟩
        rw [isRead] at success
        cases success
      · exact ⟨report, by simp only [ofString, isRead]⟩
  | ok table =>
      have described (config : Config) :
          Gives source config ↔ ofEntries sections table.entries default = .ok config := by
        rw [ofEntries_eq_ok_iff_describes (Table.wellFormed_ofString isRead) (flat table isRead)]
        simp [Gives, isRead]
      simp only [described]
      cases isConfig : ofEntries sections table.entries default with
      | error mismatch =>
          right
          constructor
          · exact nofun
          · exact ⟨_, by simp only [ofString, isRead, isConfig]; rfl⟩
      | ok config =>
          left
          refine ⟨config, rfl, fun other same => (Except.ok.inj same).symm, ?_⟩
          simp only [ofString, isRead, isConfig, supportedVersion]
          split
          · next supported => exact if_pos supported
          · next unsupported => exact ⟨_, if_neg unsupported⟩

/-- A text whose document holds nothing but scalars and tables of scalars is read if it gives
a configuration, and that has the version that there is. -/
theorem ofString_accepts_its_shape (source : String)
    (flat : ∀ table, Table.ofString source = .ok table → table.isFlat = true) :
    (∀ config, ofString source = .ok config ↔ Gives source config ∧ config.version = "1") ∧
    ((∃ reason, ofString source = .error (.validation reason)) ↔
      ∃ config, Gives source config ∧ config.version ≠ "1") ∧
    ((∃ report, ofString source = .error (.parse report)) ↔
      ∀ config, ¬Gives source config) := by
  rcases ofString_of_gives flat with ⟨config, gives, only, isResult⟩ | ⟨silent, report, isResult⟩
  · have isGiven (other : Config) : Gives source other ↔ other = config :=
      ⟨only other, fun same => same ▸ gives⟩
    simp only [isGiven]
    split at isResult
    · next supported =>
        rw [isResult]
        refine ⟨fun other => ⟨?_, ?_⟩, by simp [supported], by simp⟩
        · intro same
          cases same
          exact ⟨rfl, supported⟩
        · rintro ⟨rfl, _⟩
          rfl
    · next unsupported =>
        obtain ⟨reason, isResult⟩ := isResult
        simp [isResult, unsupported]
  · simp [isResult, silent]

/-- A file with a dotted key, an inline table and a header, none of which say how the output
is framed. -/
def mixedFile : String :=
  "output.color = \"never\"\nruleconv = \x7b version = '1' \x7d\n[policy]\npedantic = true\n"

theorem mixedFile_gives :
    (∀ table, Table.ofString mixedFile = .ok table → table.isFlat = true) ∧
      Gives mixedFile ⟨"1", true, .yaml, .never⟩ := by
  have flat : ∀ table, Table.ofString mixedFile = .ok table → table.isFlat = true := by
    have checked : (Table.ofString mixedFile).toOption.all Table.isFlat = true := by
      decide +kernel
    intro table success
    rw [success] at checked
    exact checked
  have read : (ofString mixedFile).toOption = some ⟨"1", true, .yaml, .never⟩ := by
    decide +kernel
  rw [toOption_eq_some_iff] at read
  exact ⟨flat, (((ofString_accepts_its_shape mixedFile flat).1 _).mp read).1⟩

end Config

end DomainRules
