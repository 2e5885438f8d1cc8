import Mathlib.Data.List.Nodup
import DomainRules.Proofs.Success
import DomainRules.Toml.Item

/-!
# Tables with distinct keys

A binding is only added to a table that does not have its key.  A path of keys leads to one
table, in which a change shows when the path is followed again, and the tables on the way
keep their keys.  So a table whose keys are distinct at every depth stays one whatever is
bound at the end of a path.
-/

namespace DomainRules.Toml

/-- An item in which no table has a key twice. -/
inductive Item.WellFormed : Item → Prop where
  | scalar (span : Span) (value : Scalar) : WellFormed (.scalar span value)
  | array (span : Span) {items : List Item} :
      (∀ item ∈ items, WellFormed item) → WellFormed (.array span items)
  | table (origin : Origin) {entries : List (Key × Item)} :
      (entries.map fun entry => entry.1.name).Nodup →
      (∀ entry ∈ entries, WellFormed entry.2) → WellFormed (.table origin entries)
  | tables (span? : Option Span) {members : List (Origin × List (Key × Item))} :
      (∀ member ∈ members, WellFormed (.table member.1 member.2)) →
      WellFormed (.tables span? members)

theorem Item.WellFormed.members {span? : Option Span}
    {members : List (Origin × List (Key × Item))}
    (wellFormed : (Item.tables span? members).WellFormed) :
    ∀ member ∈ members, (Item.table member.1 member.2).WellFormed := by
  cases wellFormed with
  | tables span? members => exact members

/-- One more table of several. -/
theorem Item.WellFormed.concat {span? : Option Span}
    {members : List (Origin × List (Key × Item))} {last : Origin × List (Key × Item)}
    (others : ∀ member ∈ members, (Item.table member.1 member.2).WellFormed)
    (new : (Item.table last.1 last.2).WellFormed) :
    (Item.tables span? (members ++ [last])).WellFormed := by
  apply tables
  intro member isMember
  rcases List.mem_append.mp isMember with isOther | isNew
  · exact others member isOther
  · rw [List.mem_singleton.mp isNew]
    exact new

namespace Table

variable {table : Table} {name : String} {key : Key} {item : Item}

/-- The names that a table binds. -/
def names (table : Table) : List String :=
  table.entries.map fun entry => entry.1.name

/-- A table in which no key stands twice, at any depth. -/
def WellFormed (table : Table) : Prop :=
  table.toItem.WellFormed

theorem wellFormed_iff :
    table.WellFormed ↔ table.names.Nodup ∧ ∀ entry ∈ table.entries, entry.2.WellFormed := by
  constructor
  · intro wellFormed
    cases wellFormed with
    | table origin distinct values => exact ⟨distinct, values⟩
  · rintro ⟨distinct, values⟩
    exact .table table.origin distinct values

/-! ## Bindings -/

theorem get?_eq_none_iff : table.get? name = none ↔ name ∉ table.names := by
  rw [get?, Option.map_eq_none_iff, List.find?_eq_none, names, List.mem_map]
  simp

theorem mem_of_get? (held : table.get? name = some item) :
    ∃ key, (key, item) ∈ table.entries ∧ key.name = name := by
  obtain ⟨entry, isFound, rfl⟩ := Option.map_eq_some_iff.mp held
  have named : entry.1.name = name := by simpa using List.find?_some isFound
  exact ⟨entry.1, List.mem_of_find?_eq_some isFound, named⟩

theorem get?_append (absent : table.get? key.name = none) (item : Item) :
    (table.append key item).get? key.name = some item := by
  rw [get?, Option.map_eq_none_iff] at absent
  rw [get?, append, List.find?_append, absent]
  simp

theorem get?_replace (held : table.get? name = some item) (other : Item) :
    (table.replace name other).get? name = some other := by
  obtain ⟨entry, isFound, _⟩ := Option.map_eq_some_iff.mp held
  have named : entry.1.name = name := by simpa using List.find?_some isFound
  have sameNames : ((fun entry : Key × Item => decide (entry.1.name = name)) ∘
      fun entry => if entry.1.name = name then (entry.1, other) else entry) =
      fun entry => decide (entry.1.name = name) := by
    funext entry
    simp only [Function.comp_apply]
    split <;> rfl
  rw [get?, replace, List.find?_map, sameNames, isFound, Option.map_some, Option.map_some,
    if_pos named]

theorem get?_erase (table : Table) (name : String) : (table.erase name).get? name = none := by
  rw [get?_eq_none_iff, names, erase, List.mem_map]
  rintro ⟨entry, member, same⟩
  simp [same] at member

theorem names_replace (table : Table) (name : String) (item : Item) :
    (table.replace name item).names = table.names := by
  rw [names, replace, List.map_map]
  apply List.map_congr_left
  intro entry _
  simp only [Function.comp_apply]
  split <;> rfl

theorem wellFormed_of_get? (wellFormed : table.WellFormed) (held : table.get? name = some item) :
    item.WellFormed := by
  obtain ⟨key, member, _⟩ := mem_of_get? held
  exact (wellFormed_iff.mp wellFormed).2 _ member

/-- A table that holds nothing, however it came about. -/
theorem wellFormed_hollow (origin : Origin) : Table.WellFormed ⟨origin, []⟩ :=
  .table origin List.nodup_nil fun _ member => absurd member List.not_mem_nil

theorem wellFormed_append (wellFormed : table.WellFormed) (absent : table.get? key.name = none)
    (held : item.WellFormed) : (table.append key item).WellFormed := by
  obtain ⟨distinct, values⟩ := wellFormed_iff.mp wellFormed
  rw [get?_eq_none_iff] at absent
  rw [wellFormed_iff]
  constructor
  · rw [names, append, List.map_append]
    refine List.nodup_append.mpr ⟨distinct, List.nodup_singleton _, ?_⟩
    intro present isPresent added isAdded same
    rw [same, List.mem_singleton.mp isAdded] at isPresent
    exact absent isPresent
  · intro entry member
    rcases List.mem_append.mp member with old | new
    · exact values entry old
    · rw [List.mem_singleton.mp new]
      exact held

theorem wellFormed_replace (wellFormed : table.WellFormed) (name : String)
    (held : item.WellFormed) : (table.replace name item).WellFormed := by
  obtain ⟨distinct, values⟩ := wellFormed_iff.mp wellFormed
  rw [wellFormed_iff, names_replace]
  refine ⟨distinct, ?_⟩
  intro entry member
  obtain ⟨old, isOld, rfl⟩ := List.mem_map.mp member
  split
  · exact held
  · exact values old isOld

theorem wellFormed_erase (wellFormed : table.WellFormed) (name : String) :
    (table.erase name).WellFormed := by
  obtain ⟨distinct, values⟩ := wellFormed_iff.mp wellFormed
  rw [wellFormed_iff]
  constructor
  · exact distinct.sublist (List.filter_sublist.map _)
  · intro entry member
    exact values entry (List.mem_of_mem_filter member)

/-- It does not matter how the table came about. -/
theorem WellFormed.of_entries {other : Table} (wellFormed : table.WellFormed)
    (same : other.entries = table.entries) : other.WellFormed := by
  rw [wellFormed_iff, names] at wellFormed ⊢
  rw [same]
  exact wellFormed

/-! ## Paths -/

/-- The table that a path leads to, with the tables made that are missing. -/
def target? (dotted : Bool) : List Key → Table → Option Table
  | [], table => some table
  | key :: path, table =>
      match table.get? key.name with
      | none => target? dotted path (table.between dotted)
      | some (.table origin entries) => target? dotted path ⟨origin, entries⟩
      | some (.tables _ members) =>
          members.getLast?.bind fun member => target? dotted path ⟨member.1, member.2⟩
      | some _ => none

/-- A key leads from a table to another one, and what becomes of that is put back under the
key. -/
structure Leads (dotted : Bool) (key : Key) (table next : Table) (back : Table → Table) :
    Prop where
  before_eq : ∀ path, target? dotted (key :: path) table = target? dotted path next
  after_eq : ∀ path found, target? dotted (key :: path) (back found) = target? dotted path found
  next_wellFormed : table.WellFormed → next.WellFormed
  back_wellFormed : ∀ found, table.WellFormed → found.WellFormed → (back found).WellFormed

theorem leads_of_absent (dotted : Bool) (absent : table.get? key.name = none) :
    Leads dotted key table (table.between dotted) fun found => table.append key found.toItem where
  before_eq path := by rw [target?, absent]
  after_eq path found := by
    rw [target?, get?_append absent]
    rfl
  next_wellFormed _ := wellFormed_hollow _
  back_wellFormed found wellFormed foundWellFormed :=
    wellFormed_append wellFormed absent foundWellFormed

theorem leads_of_table (dotted : Bool) {origin : Origin} {entries : List (Key × Item)}
    (held : table.get? key.name = some (.table origin entries)) :
    Leads dotted key table ⟨origin, entries⟩ fun found =>
      table.replace key.name found.toItem where
  before_eq path := by rw [target?, held]
  after_eq path found := by
    rw [target?, get?_replace held]
    rfl
  next_wellFormed wellFormed := wellFormed_of_get? wellFormed held
  back_wellFormed found wellFormed foundWellFormed :=
    wellFormed_replace wellFormed key.name foundWellFormed

theorem leads_of_tables (dotted : Bool) {span? : Option Span}
    {members : List (Origin × List (Key × Item))} {last : Origin × List (Key × Item)}
    (held : table.get? key.name = some (.tables span? members))
    (isLast : members.getLast? = some last) :
    Leads dotted key table ⟨last.1, last.2⟩ fun found =>
      table.replace key.name
        (.tables span? (members.dropLast ++ [(found.origin, found.entries)])) where
  before_eq path := by
    rw [target?, held]
    simp only [isLast, Option.bind_some]
  after_eq path found := by
    rw [target?, get?_replace held]
    simp only [List.getLast?_concat, Option.bind_some]
  next_wellFormed wellFormed :=
    (wellFormed_of_get? wellFormed held).members last (List.mem_of_getLast? isLast)
  back_wellFormed found wellFormed foundWellFormed := by
    apply wellFormed_replace wellFormed key.name
    refine Item.WellFormed.concat ?_ foundWellFormed
    intro member isMember
    exact (wellFormed_of_get? wellFormed held).members member
      ((List.dropLast_sublist members).subset isMember)

variable {β : Type} {dotted : Bool} {change : Table → Except Cause (Table × β)}
  {path : List Key} {after : Table} {result : β}

/-- A change behind a key is one in the table that the key leads to. -/
theorem exists_leads_of_changeAt {front : List String}
    (changed : changeAt dotted change front (key :: path) table = .ok (after, result)) :
    ∃ next back found, Leads dotted key table next back ∧ after = back found ∧
      changeAt dotted change (front ++ [key.name]) path next = .ok (found, result) := by
  rw [changeAt] at changed
  cases held : table.get? key.name with
  | none =>
      simp only [held] at changed
      obtain ⟨⟨found, _⟩, isFound, same⟩ := map_eq_ok_iff.mp changed
      cases same
      exact ⟨_, _, found, leads_of_absent dotted held, rfl, isFound⟩
  | some item =>
      cases item with
      | scalar | array =>
          simp only [held] at changed
          cases changed
      | table origin entries =>
          simp only [held] at changed
          split at changed
          · cases changed
          · split at changed
            · cases changed
            · obtain ⟨⟨found, _⟩, isFound, same⟩ := map_eq_ok_iff.mp changed
              cases same
              exact ⟨_, _, found, leads_of_table dotted held, rfl, isFound⟩
      | tables span? members =>
          simp only [held] at changed
          split at changed
          · cases changed
          · next origin entries isLast =>
              obtain ⟨⟨found, _⟩, isFound, same⟩ := map_eq_ok_iff.mp changed
              cases same
              exact ⟨_, _, found, leads_of_tables dotted held isLast, rfl, isFound⟩

/-- A change at the end of a path, which turns one table into another. -/
structure Changes (dotted : Bool) (path : List Key) (table after inner other : Table) :
    Prop where
  before_eq : target? dotted path table = some inner
  after_eq : target? dotted path after = some other
  inner_wellFormed : table.WellFormed → inner.WellFormed
  wellFormed : table.WellFormed → other.WellFormed → after.WellFormed

/-- What is changed is the table that the path leads to, and after it the path leads to what
this table has become. -/
theorem exists_changes_of_changeAt {front : List String}
    (changed : changeAt dotted change front path table = .ok (after, result)) :
    ∃ inner other, change inner = .ok (other, result) ∧
      Changes dotted path table after inner other := by
  induction path generalizing table front after with
  | nil => exact ⟨table, after, changed, rfl, rfl, id, fun _ => id⟩
  | cons key path ih =>
      obtain ⟨next, back, found, leads, rfl, isFound⟩ := exists_leads_of_changeAt changed
      obtain ⟨inner, other, isChange, changes⟩ := ih isFound
      refine ⟨inner, other, isChange, ?_, ?_, ?_, ?_⟩
      · rw [leads.before_eq]
        exact changes.before_eq
      · rw [leads.after_eq]
        exact changes.after_eq
      · intro wellFormed
        exact changes.inner_wellFormed (leads.next_wellFormed wellFormed)
      · intro wellFormed otherWellFormed
        exact leads.back_wellFormed found wellFormed
          (changes.wellFormed (leads.next_wellFormed wellFormed) otherWellFormed)

/-- A binding is added to a table that lacks its key. -/
theorem wellFormed_bind {name? : Option (List String)} (wellFormed : table.WellFormed)
    (held : item.WellFormed) (bound : table.bind name? path key item = .ok after) :
    after.WellFormed := by
  obtain ⟨⟨changed, _⟩, isChanged, rfl⟩ := map_eq_ok_iff.mp bound
  obtain ⟨inner, other, isChange, changes⟩ := exists_changes_of_changeAt isChanged
  apply changes.wellFormed wellFormed
  split at isChange
  · cases isChange
  · split at isChange
    · cases isChange
    · next absent =>
        cases isChange
        rw [Option.not_isSome_iff_eq_none] at absent
        exact wellFormed_append (changes.inner_wellFormed wellFormed) absent held

end Table

end DomainRules.Toml
