import DomainRules.Json.Reader
import DomainRules.Proofs.Success

/-!
# Documents

An object of a document has each key once, because a repeated key takes the place
of its first mention.  The main statement is that every value that is read from a
text or from a stream of bytes is of this kind, at every depth.  A `Document` is such
a value, so that what holds of documents need not say so again.
-/

namespace DomainRules.Json

/-- A value in which no object has a key twice. -/
inductive Value.WellFormed : Value → Prop where
  | null : WellFormed .null
  | bool (value : Bool) : WellFormed (.bool value)
  | number (value : Number) : WellFormed (.number value)
  | string (value : String) : WellFormed (.string value)
  | array {items : List Value} :
      (∀ item ∈ items, WellFormed item) → WellFormed (.array items)
  | object {fields : Fields} :
      (fields.map Prod.fst).Nodup → (∀ field ∈ fields, WellFormed field.2) →
      WellFormed (.object fields)

namespace Value.WellFormed

theorem items {items : List Value} (wellFormed : (Value.array items).WellFormed) :
    ∀ item ∈ items, item.WellFormed := by
  cases wellFormed with
  | array items => exact items

theorem keys_nodup {fields : Fields} (wellFormed : (Value.object fields).WellFormed) :
    (fields.map Prod.fst).Nodup := by
  cases wellFormed with
  | object distinct _ => exact distinct

theorem values {fields : Fields} (wellFormed : (Value.object fields).WellFormed) :
    ∀ field ∈ fields, field.2.WellFormed := by
  cases wellFormed with
  | object _ values => exact values

end Value.WellFormed

namespace Value

attribute [simp] WellFormed.null WellFormed.bool WellFormed.number WellFormed.string

@[simp] theorem wellFormed_array_iff (items : List Value) :
    (Value.array items).WellFormed ↔ ∀ item ∈ items, item.WellFormed :=
  ⟨WellFormed.items, .array⟩

@[simp] theorem wellFormed_object_iff (fields : Fields) :
    (Value.object fields).WellFormed ↔
      (fields.map Prod.fst).Nodup ∧ ∀ field ∈ fields, field.2.WellFormed :=
  ⟨fun wellFormed => ⟨wellFormed.keys_nodup, wellFormed.values⟩,
    fun ⟨distinct, values⟩ => .object distinct values⟩

end Value

/-! ## Fields -/

namespace Fields

theorem keys_insert (key : String) (value : Value) (fields : Fields) :
    (insert key value fields).map Prod.fst =
      if key ∈ fields.map Prod.fst then fields.map Prod.fst
      else fields.map Prod.fst ++ [key] := by
  induction fields with
  | nil => simp [insert]
  | cons field rest ih =>
      rcases field with ⟨other, held⟩
      by_cases same : other = key
      · simp [insert, same]
      · have different : key ≠ other := fun equal => same equal.symm
        simp only [insert, same, if_false, List.map_cons, ih, List.mem_cons, different, false_or]
        split <;> rfl

theorem mem_insert {key : String} {value : Value} {fields : Fields} {field : String × Value}
    (member : field ∈ insert key value fields) : field = (key, value) ∨ field ∈ fields := by
  induction fields with
  | nil => exact .inl (List.mem_singleton.mp member)
  | cons first rest ih =>
      rcases first with ⟨other, held⟩
      rw [insert] at member
      split at member
      · rcases List.mem_cons.mp member with new | old
        · exact .inl new
        · exact .inr (List.mem_cons_of_mem _ old)
      · rcases List.mem_cons.mp member with same | inRest
        · exact .inr (same ▸ List.mem_cons_self)
        · rcases ih inRest with new | old
          · exact .inl new
          · exact .inr (List.mem_cons_of_mem _ old)

theorem mem_of_get? {key : String} {value : Value} {fields : Fields}
    (held : get? key fields = some value) : (key, value) ∈ fields := by
  rcases List.lookup_eq_some_iff.mp held with ⟨before, after, rfl, _⟩
  exact List.mem_append_right before List.mem_cons_self

theorem wellFormed_insert {key : String} {value : Value} {fields : Fields}
    (wellFormed : (Value.object fields).WellFormed) (held : value.WellFormed) :
    (Value.object (insert key value fields)).WellFormed := by
  apply Value.WellFormed.object
  · rw [keys_insert]
    split
    · exact wellFormed.keys_nodup
    · next absent =>
        refine List.nodup_append.mpr ⟨wellFormed.keys_nodup, by simp, ?_⟩
        intro present isPresent added isAdded equal
        rw [equal, List.mem_singleton.mp isAdded] at isPresent
        exact absent isPresent
  · intro field member
    rcases mem_insert member with new | old
    · rw [new]
      exact held
    · exact wellFormed.values field old

theorem wellFormed_ofMentions {mentions : List (String × Value)}
    (values : ∀ mention ∈ mentions, mention.2.WellFormed) :
    (Value.object (ofMentions mentions)).WellFormed := by
  apply List.foldlRecOn (motive := fun fields => (Value.object fields).WellFormed) mentions
  · exact .object List.nodup_nil fun _ member => absurd member List.not_mem_nil
  · intro fields wellFormed mention member
    exact wellFormed_insert wellFormed (values mention member)

end Fields

/-! ## Readers -/

namespace Reader

variable {α : Type} {property : α → Prop}

/-- Every item that a reader returns has a property. -/
def Ensures (reader : Reader α) (property : α → Prop) : Prop :=
  ∀ source item rest, reader source = .ok (item, rest) → property item

theorem ensures_moreElements {element : Reader α} (ensured : Ensures element property)
    {limit : Nat} {front : List α} (read : ∀ item ∈ front, property item) :
    Ensures (moreElements element limit front) fun items => ∀ item ∈ items, property item := by
  intro source items rest success
  fun_induction moreElements element limit front source with
  | case1 | case3 | case4 | case5 | case7 => cases success
  | case2 =>
      cases success
      intro item member
      exact read item (List.mem_reverse.mp member)
  | case6 =>
      rename_i first after next ih
      apply ih _ success
      intro other member
      rcases List.mem_cons.mp member with new | old
      · rw [new]
        exact ensured _ _ _ next
      · exact read other old

theorem ensures_elements {element : Reader α} (ensured : Ensures element property)
    (limit : Nat) :
    Ensures (elements element limit) fun items => ∀ item ∈ items, property item := by
  intro source items rest success
  unfold elements at success
  split at success
  · cases success
  · cases success
    exact fun _ member => absurd member List.not_mem_nil
  · split at success
    · cases success
    · next first after read =>
        apply ensures_moreElements ensured _ _ _ _ success
        intro item member
        rw [List.mem_singleton.mp member]
        exact ensured _ _ _ read

theorem ensures_moreFields {field : α → String → Reader α}
    (ensured : ∀ result key, property result → Ensures (field result key) property)
    {limit : Nat} {start : α} (read : property start) :
    Ensures (moreFields field limit start) property := by
  intro source result rest success
  fun_induction moreFields field limit start source with
  | case1 | case3 | case4 | case5 | case7 | case8 | case9 => cases success
  | case2 =>
      cases success
      exact read
  | case6 =>
      rename_i next ih
      exact ih (ensured _ _ read _ _ _ next) success

theorem ensures_fields {field : α → String → Reader α}
    (ensured : ∀ result key, property result → Ensures (field result key) property)
    (limit : Nat) {start : α} (read : property start) :
    Ensures (fields field limit start) property := by
  intro source result rest success
  unfold fields at success
  split at success
  · cases success
  · cases success
    exact read
  · split at success
    · cases success
    · next key behindKey _ =>
        split at success
        · cases success
        · next first after next =>
            exact ensures_moreFields ensured (ensured start key read _ _ _ next) _ _ _ success
  · cases success

theorem ensures_mention {value : Reader Value} (ensured : Ensures value Value.WellFormed)
    (mentions : List (String × Value)) (key : String)
    (read : ∀ mention ∈ mentions, mention.2.WellFormed) :
    Ensures (mention value mentions key) fun mentions =>
      ∀ mention ∈ mentions, mention.2.WellFormed := by
  intro source result rest success
  unfold mention at success
  split at success
  · cases success
  · split at success
    · cases success
    · next held after next =>
        cases success
        intro other member
        rcases List.mem_cons.mp member with new | old
        · rw [new]
          exact ensured _ _ _ next
        · exact read other old

/-- The recursion is on the depth that is left for lists and objects. -/
theorem ensures_value (limit depth : Nat) : Ensures (value limit depth) Value.WellFormed := by
  intro source item rest success
  unfold value at success
  split at success
  · cases success
  · cases depth with
    | zero => cases success
    | succ depth =>
        rcases map_eq_ok_iff.mp success with ⟨⟨items, after⟩, read, same⟩
        cases same
        exact .array (ensures_elements (ensures_value limit depth) limit _ _ _ read)
  · cases depth with
    | zero => cases success
    | succ depth =>
        rcases map_eq_ok_iff.mp success with ⟨⟨mentions, after⟩, read, same⟩
        cases same
        have values := ensures_fields (ensures_mention (ensures_value limit depth)) limit
          (fun _ member => absurd member List.not_mem_nil) _ _ _ read
        apply Fields.wellFormed_ofMentions
        intro mention member
        exact values mention (List.mem_reverse.mp member)
  · rcases map_eq_ok_iff.mp success with ⟨pair, _, same⟩
    cases same
    exact .string _
  · rcases map_eq_ok_iff.mp success with ⟨pair, _, same⟩
    cases same
    exact .number _
  · rcases map_eq_ok_iff.mp success with ⟨after, _, same⟩
    cases same
    exact .null
  · rcases map_eq_ok_iff.mp success with ⟨after, _, same⟩
    cases same
    exact .bool true
  · rcases map_eq_ok_iff.mp success with ⟨after, _, same⟩
    cases same
    exact .bool false
  · split at success
    · rcases map_eq_ok_iff.mp success with ⟨pair, _, same⟩
      cases same
      exact .number _
    · cases success
termination_by depth

end Reader

namespace Value

/-- A document that is read has distinct keys at every depth, however it is
delivered. -/
theorem wellFormed_ofSource {delivery : Delivery} {source : Source} {value : Value}
    (read : ofSource delivery source = .ok value) : value.WellFormed := by
  unfold ofSource Reader.whole at read
  split at read
  · next value' whole =>
      cases read
      split at whole
      · cases whole
      · next item after success =>
          split at whole
          · cases whole
            exact Reader.ensures_value _ _ _ _ _ success
          · cases whole
  · cases read

theorem wellFormed_ofString {text : String} {value : Value}
    (read : ofString text = .ok value) : value.WellFormed :=
  wellFormed_ofSource read

end Value

/-! ## Documents -/

/-- A value with distinct keys at every depth. -/
@[ext] structure Document where
  value : Value
  wellFormed : value.WellFormed

namespace Document

/-- Reads a document from a text. -/
def ofString (text : String) : Except Report Document :=
  match read : Value.ofString text with
  | .ok value => .ok ⟨value, Value.wellFormed_ofString read⟩
  | .error report => .error report

variable {text : String}

theorem ofString_eq_error_iff {report : Report} :
    ofString text = .error report ↔ Value.ofString text = .error report := by
  rw [ofString]
  split
  · next value read => simp [read]
  · next other read => simp [read]

theorem ofString_eq_ok_iff {document : Document} :
    ofString text = .ok document ↔ Value.ofString text = .ok document.value := by
  rw [ofString]
  split
  · next value read => simp [read, Document.ext_iff]
  · next other read => simp [read]

/-- Every value that is read is a document. -/
theorem exists_of_read {value : Value} (read : Value.ofString text = .ok value) :
    ∃ document, ofString text = .ok document ∧ document.value = value :=
  ⟨⟨value, Value.wellFormed_ofString read⟩, ofString_eq_ok_iff.mpr read, rfl⟩

end Document

end DomainRules.Json
