import DomainRules.Rule.Kind

/-!
# Rules

A rule has a kind and fields, each of which binds a key to a list of values.  The
fields keep the order in which their keys were first set, and no two of them have
the same key.
-/

namespace DomainRules.Rule

/-- A key with its values. -/
structure Field where
  key : String
  values : List String
deriving DecidableEq, Repr

namespace Field

/-- A field without values says nothing about any domain. -/
def isEmpty (field : Field) : Bool :=
  field.values.isEmpty

/-- The values of a key in a list of fields. -/
def find? (key : String) : List Field → Option (List String)
  | [] => none
  | field :: rest => if field.key = key then some field.values else find? key rest

/-- Sets the values of a key, in its place where the list has it and at the end
where not; returns the values that it had. -/
def put (key : String) (values : List String) : List Field → Option (List String) × List Field
  | [] => (none, [⟨key, values⟩])
  | field :: rest =>
      if field.key = key then (some field.values, ⟨key, values⟩ :: rest)
      else ((put key values rest).1, field :: (put key values rest).2)

theorem keys_put (key : String) (values : List String) (fields : List Field) :
    (put key values fields).2.map Field.key =
      if key ∈ fields.map Field.key then fields.map Field.key
      else fields.map Field.key ++ [key] := by
  induction fields with
  | nil => simp [put]
  | cons field rest ih =>
      by_cases same : field.key = key
      · simp [put, same]
      · have different : key ≠ field.key := fun equal => same equal.symm
        simp only [put, same, if_false, List.map_cons, ih, List.mem_cons, different, false_or]
        split <;> rfl

theorem nodup_keys_put {key : String} {values : List String} {fields : List Field}
    (distinct : (fields.map Field.key).Nodup) :
    ((put key values fields).2.map Field.key).Nodup := by
  rw [keys_put]
  split
  · exact distinct
  · next absent =>
      refine List.nodup_append.mpr ⟨distinct, by simp, ?_⟩
      intro present isPresent added isAdded equal
      exact absent (by simp_all)

end Field

/-- A rule. -/
structure Item where
  kind : Kind := .plain
  fields : List Field := []
  distinct : (fields.map Field.key).Nodup := by simp
deriving DecidableEq, Repr

namespace Item

/-- A rule of a kind without fields. -/
def ofKind (kind : Kind) : Item :=
  ⟨kind, [], by simp⟩

/-- Sets the values of a key and returns those that it had. -/
def insert (item : Item) (key : String) (values : List String) :
    Option (List String) × Item :=
  ((Field.put key values item.fields).1,
    ⟨item.kind, (Field.put key values item.fields).2, Field.nodup_keys_put item.distinct⟩)

/-- The rule with the values of a key set. -/
def withField (item : Item) (key : String) (values : List String) : Item :=
  (item.insert key values).2

/-- A rule of a kind with these fields set one after the other. -/
def ofFields (kind : Kind) (fields : List (String × List String)) : Item :=
  fields.foldl (fun item (key, values) => item.withField key values) (ofKind kind)

/-- The values of a key. -/
def get? (item : Item) (key : String) : Option (List String) :=
  Field.find? key item.fields

/-- The keys, in the order in which they were first set. -/
def keys (item : Item) : List String :=
  item.fields.map Field.key

/-- The number of fields, empty ones included. -/
def size (item : Item) : Nat :=
  item.fields.length

def isEmpty (item : Item) : Bool :=
  item.fields.isEmpty

/-- The rule without its empty fields. -/
def minify (item : Item) : Item :=
  ⟨item.kind, item.fields.filter (!·.isEmpty),
    item.distinct.sublist (List.filter_sublist.map Field.key)⟩

end Item

/-- A list of rules.  Their order matters where the first match wins. -/
structure RuleSet where
  items : List Item := []
deriving DecidableEq, Repr

namespace RuleSet

/-- Adds a rule behind the others. -/
def push (rules : RuleSet) (item : Item) : RuleSet :=
  ⟨rules.items ++ [item]⟩

/-- The rules from the last to the first. -/
def reverse (rules : RuleSet) : RuleSet :=
  ⟨rules.items.reverse⟩

/-- The rules without their empty fields. -/
def minify (rules : RuleSet) : RuleSet :=
  ⟨rules.items.map Item.minify⟩

def size (rules : RuleSet) : Nat :=
  rules.items.length

def isEmpty (rules : RuleSet) : Bool :=
  rules.items.isEmpty

/-- The rule at an index, counted from zero. -/
def get? (rules : RuleSet) (index : Nat) : Option Item :=
  rules.items[index]?

end RuleSet

end DomainRules.Rule
