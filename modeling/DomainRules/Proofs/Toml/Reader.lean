import DomainRules.Proofs.Toml.Table
import DomainRules.Toml.Reader

/-!
# Values with distinct keys

Every value that is read has distinct keys at every depth: an inline table is built binding
by binding, and an array has no keys of its own.
-/

namespace DomainRules.Toml.Reader

variable {α : Type} {property : α → Prop}

/-- Whatever a reader returns has a property. -/
def Ensures (reader : Reader α) (property : α → Prop) : Prop :=
  ∀ cursor, Yields (reader cursor) fun read => property read.1

/-! ## Members -/

theorem yields_reverse {front : List α} (read : ∀ x ∈ front, property x) (cursor : Cursor) :
    Yields (.ok (front.reverse, cursor) : Except Fault (List α × Cursor))
      fun read => ∀ x ∈ read.1, property x := by
  apply Yields.ok
  intro x member
  exact read x (List.mem_reverse.mp member)

theorem ensures_moreMembers {member : Reader α} (ensured : Ensures member property)
    (separator : Char) (limit : Nat) {front : List α} (read : ∀ x ∈ front, property x) :
    Ensures (moreMembers separator member limit front) fun all => ∀ x ∈ all, property x := by
  intro cursor
  induction limit generalizing front cursor with
  | zero => exact yields_reverse read cursor
  | succ limit ih =>
      rw [moreMembers]
      split
      · split
        · exact .ite (.error _) (yields_reverse read cursor)
        · next x behind next =>
            apply ih
            intro other isRead
            rcases List.mem_cons.mp isRead with new | old
            · rw [new]
              exact ensured _ _ next
            · exact read other old
      · exact yields_reverse read cursor

theorem ensures_members {member : Reader α} (ensured : Ensures member property)
    (separator : Char) : Ensures (members separator member) fun all => ∀ x ∈ all, property x := by
  intro cursor
  rw [members]
  split
  · exact .ite (.error _) (.ok fun x member => absurd member List.not_mem_nil)
  · next x behind next =>
      apply ensures_moreMembers ensured
      intro other member
      rw [List.mem_singleton.mp member]
      exact ensured cursor _ next

/-! ## Values -/

theorem ensures_array {value : Reader Item} (ensured : Ensures value Item.WellFormed) :
    Ensures (array value) fun items => ∀ item ∈ items, item.WellFormed := by
  intro cursor
  have empty : Yields (.ok ([], cursor.advance 1) : Except Fault (List Item × Cursor))
      fun read => ∀ item ∈ read.1, item.WellFormed :=
    .ok fun item member => absurd member List.not_mem_nil
  apply Yields.mapError
  dsimp only
  refine .ite (empty.bind fun read held => ?_)
    ((@ensures_members _ Item.WellFormed _ ?member ',' (cursor.advance 1)).bind
      fun read held => ?_)
  case member =>
    intro cursor
    refine .after fun start => (ensured start).bind fun read held => ?_
    exact .after fun behind => .ok held
  all_goals
    exact .ite (.after fun behind => .after fun closed => .ok held)
      (.after fun behind => .after fun closed => .ok held)

theorem wellFormed_bindings {bindings : List Binding} {start table : Table}
    (wellFormed : start.WellFormed) (held : ∀ binding ∈ bindings, binding.item.WellFormed)
    (built : bindings.foldlM (fun table binding =>
      Table.bind none binding.path binding.key binding.item table) start = .ok table) :
    table.WellFormed := by
  induction bindings generalizing start with
  | nil =>
      cases built
      exact wellFormed
  | cons binding bindings ih =>
      rw [List.foldlM_cons] at built
      obtain ⟨next, bound, rest⟩ := bind_eq_ok_iff.mp built
      have nextWellFormed :=
        Table.wellFormed_bind wellFormed (held binding List.mem_cons_self) bound
      apply ih nextWellFormed _ rest
      intro other member
      exact held other (List.mem_cons_of_mem _ member)

theorem ensures_inlineTable {value : Reader Item} (ensured : Ensures value Item.WellFormed) :
    Ensures (inlineTable value) Table.WellFormed := by
  intro cursor
  apply Yields.mapError
  refine (@ensures_members _ (fun binding => binding.item.WellFormed) _ ?member ','
    (cursor.advance 1)).bind fun read held => ?_
  case member =>
    intro cursor
    refine .after fun read => .mapError (.after fun start => ?_) _
    exact (ensured start).bind fun read held => .ok held
  dsimp only
  split
  · exact .error _
  · next table built =>
      exact .after fun closed => .ok (wellFormed_bindings (Table.wellFormed_hollow _) held built)

/-- The recursion is on the depth that is left for arrays and inline tables. -/
theorem ensures_value (depth : Nat) : Ensures (value depth) Item.WellFormed := by
  intro cursor
  unfold value
  split
  · cases depth with
    | zero => exact .error _
    | succ depth =>
        exact .map ((ensures_array (ensures_value depth) cursor).mono fun read held =>
          .array _ held)
  · cases depth with
    | zero => exact .error _
    | succ depth =>
        exact .map ((ensures_inlineTable (ensures_value depth) cursor).mono fun read held =>
          held.of_entries rfl)
  · exact .map fun read _ => .scalar _ read.1
termination_by depth

/-! ## Lines -/

/-- The item that a line binds has distinct keys. -/
def Line.WellFormed : Line → Prop
  | .blank => True
  | .binding bound => bound.item.WellFormed
  | .header _ => True

theorem ensures_line : Ensures line Line.WellFormed := by
  intro cursor
  unfold line
  split
  · exact .map fun _ _ => trivial
  · exact .map fun _ _ => trivial
  · exact .map fun _ _ => trivial
  · exact .map fun _ _ => trivial
  · apply Yields.map
    apply Yields.mapError
    refine .after fun read => .mapError (.after fun start => ?_) _
    exact (ensures_value depthLimit start).bind fun read held => .after fun behind => .ok held

end DomainRules.Toml.Reader
