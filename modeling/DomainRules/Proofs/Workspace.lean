import Mathlib.Data.String.Basic
import DomainRules.Proofs.Config.Usual
import DomainRules.Proofs.Success
import DomainRules.Workspace

/-!
# Files under paths

Writing a file changes what is found in one place of a workspace and nowhere else.
The main statement is that what has been written under a path is read under it: the
directories along the path stay what they are, since none of them is the file.
-/

namespace DomainRules

namespace Workspace

variable {workspace after : Workspace} {path : String} {bytes : List UInt8}
  {place : List String}

/-! ## Entries -/

theorem lookup_cons_eq (name other : List String) (held : Entry)
    (entries : List (List String × Entry)) :
    ((name, held) :: entries).lookup other =
      if other = name then some held else entries.lookup other := by
  rw [List.lookup_cons]
  split
  · next same => rw [if_pos (eq_of_beq same)]
  · next different => rw [if_neg (ne_of_beq_false different)]

theorem lookup_map_replace (entries : List (List String × Entry)) (place other : List String)
    (entry : Entry) :
    (entries.map fun old => if old.1 = place then (place, entry) else old).lookup other =
      if other = place then (entries.lookup place).map fun _ => entry
      else entries.lookup other := by
  induction entries with
  | nil => simp
  | cons old entries ih =>
      rcases old with ⟨name, held⟩
      rw [List.map_cons]
      by_cases isPlace : name = place
      · subst isPlace
        rw [if_pos rfl, lookup_cons_eq, lookup_cons_eq, lookup_cons_eq, ih]
        by_cases isName : other = name
        · simp [isName]
        · simp [isName]
      · rw [if_neg isPlace, lookup_cons_eq, lookup_cons_eq, lookup_cons_eq, ih]
        by_cases isOther : other = place
        · subst isOther
          simp [Ne.symm isPlace]
        · simp [isOther]

/-- Setting an entry changes what is found in its place and nowhere else. -/
theorem get?_set (workspace : Workspace) (nonempty : place ≠ []) (entry : Entry)
    (other : List String) :
    (workspace.set place entry).get? other =
      if other = place then some entry else workspace.get? other := by
  by_cases root : other = []
  · subst root
    rw [if_neg (Ne.symm nonempty)]
    rfl
  · simp only [get?, root, if_false, set]
    split
    · next present =>
        rcases Option.isSome_iff_exists.mp present with ⟨held, isHeld⟩
        rw [lookup_map_replace, isHeld]
        rfl
    · next absent =>
        rw [Bool.not_eq_true, Option.isSome_eq_false_iff, Option.isNone_iff_eq_none] at absent
        rw [List.lookup_append, lookup_cons_eq]
        by_cases isPlace : other = place
        · subst isPlace
          simp [absent]
        · simp [isPlace]

/-- Setting an entry a second time changes nothing. -/
theorem set_set (workspace : Workspace) (place : List String) (entry : Entry) :
    (workspace.set place entry).set place entry = workspace.set place entry := by
  have replaced (old : List String × Entry) :
      (if (if old.1 = place then (place, entry) else old).1 = place then (place, entry)
        else if old.1 = place then (place, entry) else old) =
      if old.1 = place then (place, entry) else old := by
    by_cases isPlace : old.1 = place
    · simp [isPlace]
    · simp [isPlace]
  by_cases present : (workspace.entries.lookup place).isSome
  · have here : workspace.set place entry =
        ⟨workspace.entries.map fun old => if old.1 = place then (place, entry) else old⟩ :=
      if_pos present
    rw [here, set, lookup_map_replace, if_pos rfl, Option.isSome_map, if_pos present,
      List.map_map]
    exact congrArg Workspace.mk (List.map_congr_left fun old _ => replaced old)
  · have atEnd : workspace.set place entry = ⟨workspace.entries ++ [(place, entry)]⟩ :=
      if_neg present
    rw [Bool.not_eq_true, Option.isSome_eq_false_iff, Option.isNone_iff_eq_none] at present
    have others : ∀ old ∈ workspace.entries,
        (if old.1 = place then (place, entry) else old) = old := by
      intro old member
      have notPlace := List.lookup_eq_none_iff.mp present old member
      exact if_neg (Ne.symm (ne_of_beq_false (by simpa using notPlace)))
    rw [atEnd, set, if_pos]
    · dsimp only
      rw [List.map_append, List.map_congr_left others, List.map_id', List.map_singleton, if_pos rfl]
    · rw [List.lookup_append, present, Option.none_or, List.lookup_cons_self]
      rfl

/-- The workspace itself is a directory, so a place that is none has a name. -/
theorem ne_nil_of_get?_ne_directory (writable : workspace.get? place ≠ some .directory) :
    place ≠ [] := by
  rintro rfl
  exact writable rfl

/-! ## Names -/

section Names

open String

theorem splitOnAux_cons (before part rest : List Char) (character : Char) (found : List String) :
    splitOnAux (ofList (before ++ part ++ character :: rest)) "/" ⟨utf8Len before⟩
        ⟨utf8Len (before ++ part)⟩ 0 found =
      if character = '/' then
        splitOnAux (ofList (before ++ part ++ character :: rest)) "/"
          ⟨utf8Len (before ++ part ++ [character])⟩ ⟨utf8Len (before ++ part ++ [character])⟩ 0
          (ofList part :: found)
      else
        splitOnAux (ofList (before ++ part ++ character :: rest)) "/" ⟨utf8Len before⟩
          ⟨utf8Len (before ++ part ++ [character])⟩ 0 found := by
  have next : Pos.Raw.next (ofList (before ++ part ++ character :: rest))
      ⟨utf8Len (before ++ part)⟩ = ⟨utf8Len (before ++ part ++ [character])⟩ := by
    rw [next_of_valid]
    simp [Nat.add_assoc]
  have slash : Pos.Raw.get "/" 0 = '/' := rfl
  rw [splitOnAux, if_neg fun atEnd => List.cons_ne_nil _ _ ((atEnd_of_valid _ _).mp atEnd),
    get_of_valid, slash, List.headD_cons]
  by_cases isSlash : character = '/'
  · subst isSlash
    have back : (⟨utf8Len (before ++ part ++ ['/'])⟩ : Pos.Raw).unoffsetBy (Pos.Raw.next "/" 0) =
        ⟨utf8Len before + utf8Len part⟩ := by
      rw [utf8Len_append, utf8Len_append]
      rfl
    rw [if_pos rfl, if_pos (beq_self_eq_true _)]
    simp only [next]
    rw [if_pos (by decide), back, extract_of_valid]
  · have here : (⟨utf8Len (before ++ part)⟩ : Pos.Raw).unoffsetBy 0 =
        ⟨utf8Len (before ++ part)⟩ := rfl
    rw [if_neg isSlash, if_neg (mt beq_iff_eq.mp isSlash), here, next]

/-- Cutting at slashes, from within a part on. -/
theorem splitOnAux_eq (before part rest : List Char) (found : List String) :
    splitOnAux (ofList (before ++ part ++ rest)) "/" ⟨utf8Len before⟩
        ⟨utf8Len (before ++ part)⟩ 0 found =
      found.reverse ++ (List.splitOnPPrepend (· == '/') rest part.reverse).map ofList := by
  induction rest generalizing before part found with
  | nil =>
      have taken := extract_of_valid before part []
      rw [← utf8Len_append] at taken
      rw [splitOnAux, if_pos ((atEnd_of_valid _ _).mpr rfl), taken]
      simp
  | cons character rest ih =>
      rw [splitOnAux_cons, List.splitOnPPrepend_cons_eq_if]
      by_cases isSlash : character = '/'
      · have others := ih (before ++ part ++ [character]) [] (ofList part :: found)
        rw [List.append_nil, List.append_assoc _ [character], List.singleton_append] at others
        rw [if_pos isSlash, if_pos (beq_iff_eq.mpr isSlash), others]
        rw [List.reverse_cons, List.append_assoc, List.map_cons, List.reverse_reverse]
        rfl
      · have longer := ih before (part ++ [character]) found
        rw [← List.append_assoc before, List.append_assoc _ [character],
          List.singleton_append] at longer
        rw [if_neg isSlash, if_neg (mt beq_iff_eq.mp isSlash), longer, List.reverse_append]
        rfl

/-- The names along a path are what stands between the slashes. -/
theorem names_eq (path : String) :
    names path = (path.toList.splitOn '/').map ofList := by
  have cut := splitOnAux_eq [] [] path.toList []
  rw [List.nil_append, List.nil_append, ofList_toList] at cut
  rw [names, splitOn, if_neg (by decide)]
  exact cut

end Names

/-! ## Paths -/

theorem checkDirectory_inside_eq_ok_iff :
    workspace.checkDirectory (.inside place) = .ok () ↔
      workspace.get? place = some .directory := by
  rw [checkDirectory]
  split
  · next absent => simp [absent]
  · next file => simp [file]
  · next directory => simp [directory]

theorem checkDirectory_set (writable : workspace.get? place ≠ some .directory) {here : Location}
    (isDirectory : workspace.checkDirectory here = .ok ()) (bytes : List UInt8) :
    (workspace.set place (.file bytes)).checkDirectory here = .ok () := by
  cases here with
  | outside => rfl
  | inside path =>
      rw [checkDirectory_inside_eq_ok_iff] at isDirectory ⊢
      have other : path ≠ place := by
        rintro rfl
        exact writable isDirectory
      rw [get?_set workspace (ne_nil_of_get?_ne_directory writable), if_neg other]
      exact isDirectory

theorem walk_cons_of_eq {here there : Location} {name : String} (others : List String)
    (isDirectory : workspace.checkDirectory here = .ok ()) (stepped : step here name = .ok there) :
    workspace.walk here (name :: others) = workspace.walk there others := by
  rw [walk, isDirectory, stepped]
  rfl

/-- Writing a file leaves the ways along directories as they are. -/
theorem walk_set (writable : workspace.get? place ≠ some .directory) {here there : Location}
    {names : List String} (reached : workspace.walk here names = .ok there)
    (bytes : List UInt8) :
    (workspace.set place (.file bytes)).walk here names = .ok there := by
  induction names generalizing here with
  | nil => exact reached
  | cons name names ih =>
      rw [walk] at reached
      obtain ⟨_, isDirectory, reached⟩ := bind_eq_ok_iff.mp reached
      obtain ⟨next, stepped, reached⟩ := bind_eq_ok_iff.mp reached
      rw [walk_cons_of_eq names (checkDirectory_set writable isDirectory bytes) stepped]
      exact ih reached

theorem locate_set (writable : workspace.get? place ≠ some .directory) {there : Location}
    (located : workspace.locate path = .ok there) (bytes : List UInt8) :
    (workspace.set place (.file bytes)).locate path = .ok there := by
  obtain ⟨here, begins, reached⟩ := bind_eq_ok_iff.mp located
  rw [locate, begins]
  exact walk_set writable reached bytes

/-- A path without a slash leads to the entry of that name. -/
theorem locate_of_name {name : String} (begins : start name = .ok (.inside []))
    (single : '/' ∉ name.toList) (stepped : step (.inside []) name = .ok (.inside [name])) :
    workspace.locate name = .ok (.inside [name]) := by
  have parts : names name = [name] := by
    rw [names_eq, List.splitOn_eq_singleton single, List.map_singleton, String.ofList_toList]
  rw [locate, begins, parts]
  exact walk_cons_of_eq [] rfl stepped

/-- The path of the usual configuration file leads to its place. -/
theorem locate_usualPath (workspace : Workspace) :
    workspace.locate Config.usualPath = .ok (.inside Config.usualPlace) := by
  have begins : start Config.usualPath = .ok (.inside []) := by decide +kernel
  have parts : names Config.usualPath = [".", "ruleconv.toml"] := by
    rw [names_eq]
    decide +kernel
  have first : step (.inside []) "." = .ok (.inside []) := by decide +kernel
  have second : step (.inside []) "ruleconv.toml" = .ok (.inside Config.usualPlace) := by
    decide +kernel
  rw [locate, begins, parts]
  exact (walk_cons_of_eq _ rfl first).trans (walk_cons_of_eq [] rfl second)

theorem contains_usualPath (workspace : Workspace) :
    workspace.contains Config.usualPath = (workspace.get? Config.usualPlace).isSome := by
  rw [contains, locate_usualPath]

/-! ## Reading and writing -/

/-- A file is written in the place that its path leads to, unless that is a directory. -/
theorem write_eq_ok_iff :
    workspace.write path bytes = .ok after ↔
      path.endsWith "/" = false ∧ ∃ place, workspace.locate path = .ok (.inside place) ∧
        workspace.get? place ≠ some .directory ∧ after = workspace.set place (.file bytes) := by
  rw [write]
  split
  · next slash =>
      constructor
      · intro written
        rcases bind_eq_ok_iff.mp written with ⟨_, _, written⟩
        rcases bind_eq_ok_iff.mp written with ⟨_, _, written⟩
        rcases bind_eq_ok_iff.mp written with ⟨_, _, written⟩
        cases written
      · rintro ⟨noSlash, _⟩
        rw [slash] at noSlash
        cases noSlash
  · next noSlash =>
      rw [Bool.not_eq_true] at noSlash
      rw [bind_eq_ok_iff]
      constructor
      · rintro ⟨there, located, written⟩
        cases there with
        | outside => cases written
        | inside place =>
            dsimp only at written
            split at written
            · cases written
            · next writable =>
                exact ⟨noSlash, place, located, writable, (Except.ok.inj written).symm⟩
      · rintro ⟨_, place, located, writable, rfl⟩
        refine ⟨.inside place, located, ?_⟩
        dsimp only
        split
        · next isDirectory => exact absurd isDirectory writable
        · rfl

/-- Writing a file leaves all other places as they are. -/
theorem get?_of_write (written : workspace.write path bytes = .ok after)
    (elsewhere : workspace.locate path ≠ .ok (.inside place)) :
    after.get? place = workspace.get? place := by
  obtain ⟨_, target, located, writable, rfl⟩ := write_eq_ok_iff.mp written
  have other : place ≠ target := by
    rintro rfl
    exact elsewhere located
  rw [get?_set workspace (ne_nil_of_get?_ne_directory writable), if_neg other]

/-- A file is read in the place that its path leads to. -/
theorem read_eq_ok_iff :
    workspace.read path = .ok bytes ↔
      ∃ place, workspace.locate path = .ok (.inside place) ∧
        workspace.get? place = some (.file bytes) := by
  rw [read, bind_eq_ok_iff]
  constructor
  · rintro ⟨there, located, isRead⟩
    cases there with
    | outside => cases isRead
    | inside place =>
        dsimp only at isRead
        split at isRead
        · cases isRead
        · cases isRead
        · next found =>
            cases isRead
            exact ⟨place, located, found⟩
  · rintro ⟨place, located, found⟩
    refine ⟨.inside place, located, ?_⟩
    simp only [found]

/-- What has been written under a path is read under it. -/
theorem read_of_write (written : workspace.write path bytes = .ok after) :
    after.read path = .ok bytes := by
  obtain ⟨_, place, located, writable, rfl⟩ := write_eq_ok_iff.mp written
  refine read_eq_ok_iff.mpr ⟨place, locate_set writable located bytes, ?_⟩
  rw [get?_set workspace (ne_nil_of_get?_ne_directory writable), if_pos rfl]

end Workspace

end DomainRules
