import DomainRules.Proofs.Toml.Reader
import DomainRules.Toml.Document

/-!
# Documents with distinct keys

A header names a table that is not there yet, or takes it out of its place, and the table is
put there when the next header closes it.  Nothing is bound in this place in between, so that
no key is ever bound twice.  The main statement is that every document that is read has
distinct keys at every depth.
-/

namespace DomainRules.Toml

namespace Draft

/-- A draft in which no key is bound twice, nor will be by closing its current table. -/
structure Sound (draft : Draft) : Prop where
  root : draft.root.WellFormed
  current : draft.current.WellFormed
  /-- The place of the current table is free, unless it is one of several. -/
  free : ∀ header, draft.header? = some header → header.isListed = false →
    ∀ outer, Table.target? false header.path draft.root = some outer →
      outer.get? header.key.name = none

variable {draft : Draft}

theorem sound_empty : empty.Sound where
  root := Table.wellFormed_hollow _
  current := Table.wellFormed_hollow _
  free _ none := nomatch none

theorem yields_close (sound : draft.Sound) : Yields draft.close Table.WellFormed := by
  intro closed success
  rw [close] at success
  split at success
  · cases success
    exact sound.current
  · next header isHeader =>
      obtain ⟨⟨changed, _⟩, isChanged, rfl⟩ := map_eq_ok_iff.mp success
      obtain ⟨inner, other, isChange, changes⟩ := Table.exists_changes_of_changeAt isChanged
      have innerWellFormed := changes.inner_wellFormed sound.root
      apply changes.wellFormed sound.root
      split at isChange
      · split at isChange
        · next span? members held =>
            cases isChange
            have others := (Table.wellFormed_of_get? innerWellFormed held).members
            exact Table.wellFormed_replace innerWellFormed _ (.concat others sound.current)
        · cases isChange
      · next single =>
          cases isChange
          have absent := sound.free header isHeader (by simpa using single) inner
            changes.before_eq
          exact Table.wellFormed_append innerWellFormed absent sound.current

/-- A header is taken when its table is where it may be: away from the place that it names,
if that is not a list. -/
theorem sound_of_changes {root changed inner other current : Table} {header : Reader.Header}
    (changes : Table.Changes false header.path root changed inner other)
    (rootWellFormed : root.WellFormed) (otherWellFormed : other.WellFormed)
    (currentWellFormed : current.WellFormed)
    (free : header.isListed = false → other.get? header.key.name = none) :
    Sound ⟨changed, current, some header⟩ where
  root := changes.wellFormed rootWellFormed otherWellFormed
  current := currentWellFormed
  free := by
    intro named same single outer isOuter
    cases same
    rw [changes.after_eq] at isOuter
    cases isOuter
    exact free single

theorem yields_openTable {root : Table} (wellFormed : root.WellFormed)
    (header : Reader.Header) : Yields (openTable root header) Sound := by
  intro draft success
  obtain ⟨⟨changed, current⟩, isChanged, rfl⟩ := map_eq_ok_iff.mp success
  obtain ⟨inner, other, isChange, changes⟩ := Table.exists_changes_of_changeAt isChanged
  have innerWellFormed := changes.inner_wellFormed wellFormed
  have fresh : (Table.headed (some header.span)).WellFormed := Table.wellFormed_hollow _
  dsimp only at isChange
  split at isChange
  · next absent =>
      split at isChange
      · next listed =>
          cases isChange
          have noTables : (Item.tables none []).WellFormed := .tables none nofun
          exact sound_of_changes changes wellFormed
            (Table.wellFormed_append innerWellFormed absent noTables) fresh (by simp [listed])
      · cases isChange
        exact sound_of_changes changes wellFormed innerWellFormed fresh fun _ => absent
  · next span? members held =>
      split at isChange
      · next listed =>
          cases isChange
          have same := Table.wellFormed_of_get? innerWellFormed held
          exact sound_of_changes changes wellFormed
            (Table.wellFormed_replace innerWellFormed _ same) fresh (by simp [listed])
      · cases isChange
  · next origin entries held =>
      split at isChange
      · cases isChange
        have implicit : Table.WellFormed ⟨origin, entries⟩ :=
          Table.wellFormed_of_get? innerWellFormed held
        exact sound_of_changes changes wellFormed (Table.wellFormed_erase innerWellFormed _)
          (implicit.of_entries rfl) fun _ => Table.get?_erase inner _
      · cases isChange
  · cases isChange

theorem yields_bind (sound : draft.Sound) {binding : Reader.Binding}
    (held : binding.item.WellFormed) : Yields (draft.bind binding) Sound := by
  intro after success
  obtain ⟨current, bound, rfl⟩ := map_eq_ok_iff.mp success
  have stretched : ∀ span?, (draft.current.withSpan span?).WellFormed :=
    fun _ => sound.current.of_entries rfl
  exact ⟨sound.root, Table.wellFormed_bind (stretched _) held bound, sound.free⟩

theorem yields_add (sound : draft.Sound) (place : Cursor) {line : Reader.Line}
    (held : line.WellFormed) : Yields (draft.add place line) Sound := by
  cases line with
  | blank => exact .ok sound
  | binding binding =>
      rw [add]
      split
      · next after bound => exact .ok (yields_bind sound held after bound)
      · exact .error _
  | header header =>
      rw [add]
      split
      · next after opened =>
          obtain ⟨root, closed, isOpen⟩ := bind_eq_ok_iff.mp opened
          exact .ok (yields_openTable (yields_close sound root closed) header after isOpen)
      · exact .mapError (.error _) _

/-- The induction is on the lines that are left. -/
theorem yields_addLines (sound : draft.Sound) (limit : Nat) (place : Cursor) :
    Yields (draft.addLines limit place) Sound := by
  induction limit generalizing draft place with
  | zero => exact .ok sound
  | succ limit ih =>
      rw [addLines]
      refine .ite (.ok sound) ?_
      split
      · exact .error _
      · next line behind read =>
          split
          · exact .error _
          · next after added =>
              have held := Reader.ensures_line _ _ read
              exact ih (yields_add sound _ held after added) behind

end Draft

/-- A document that is read has distinct keys at every depth. -/
theorem Table.wellFormed_ofString {text : String} {table : Table}
    (read : ofString text = .ok table) : table.WellFormed := by
  rw [ofString] at read
  split at read
  · cases read
  · next draft added =>
      split at read
      · next root closed =>
          cases read
          exact Draft.yields_close (Draft.yields_addLines Draft.sound_empty _ _ _ added) _ closed
      · cases read

end DomainRules.Toml
