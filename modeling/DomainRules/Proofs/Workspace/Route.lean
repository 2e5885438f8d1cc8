import DomainRules.Proofs.Workspace

/-!
# Routes of paths

A path is gone along name by name, and what becomes of it depends on the locations on
this route only.  So two workspaces that differ in one place, and in what lies below it,
look the same under every path that neither leads to the place nor through it.
-/

namespace DomainRules.Workspace

/-- The locations along a path from a directory, as far as it can be gone. -/
def route (workspace : Workspace) (here : Location) : List String → List Location
  | [] => [here]
  | name :: rest =>
      here ::
        match workspace.checkDirectory here, step here name with
        | .ok (), .ok there => route workspace there rest
        | _, _ => []

/-- A path leads to a place, or through it. -/
def Passes (workspace : Workspace) (path : String) (place : List String) : Prop :=
  ∃ here, start path = .ok here ∧ .inside place ∈ workspace.route here (names path)

/-- Two workspaces with the same entries, apart from a place and what lies below it. -/
def AgreeApartFrom (place : List String) (first second : Workspace) : Prop :=
  ∀ other, ¬place <+: other → first.get? other = second.get? other

/-- A location that is neither a place nor below it. -/
def Location.Apart (place : List String) : Location → Prop
  | .outside => True
  | .inside path => ¬place <+: path

/-- Where the file lies that is opened under a path to be written. -/
def opened (workspace : Workspace) (path : String) : Except IoFault (List String) := do
  if path.endsWith "/" then
    let names := (names path).reverse.dropWhile String.isEmpty
    workspace.checkDirectory (← workspace.walk (← start path) (names.drop 1).reverse)
    .error .isDirectory
  else
    match ← workspace.locate path with
    | .outside => .error .isDirectory
    | .inside place =>
        match workspace.get? place with
        | some .directory => .error .isDirectory
        | _ => .ok place

/-- How a path fails to be opened, if it does. -/
def openFault? (workspace : Workspace) (path : String) : Option IoFault :=
  match workspace.opened path with
  | .ok _ => none
  | .error fault => some fault

variable {workspace first second after : Workspace} {path : String} {bytes : List UInt8}
  {place : List String} {here there : Location} {names others : List String}

/-! ## Opening a file -/

/-- What can fail in a write is to open the file, whatever is to be written. -/
theorem write_eq (workspace : Workspace) (path : String) (bytes : List UInt8) :
    workspace.write path bytes =
      (workspace.opened path).map fun place => workspace.set place (.file bytes) := by
  rw [write, opened]
  split
  · cases start path with
    | error fault => rfl
    | ok here =>
        simp only [bind, Except.bind]
        cases workspace.walk here
            (((Workspace.names path).reverse.dropWhile String.isEmpty).drop 1).reverse with
        | error fault => rfl
        | ok there =>
            dsimp only
            cases workspace.checkDirectory there with
            | error fault => rfl
            | ok => rfl
  · cases workspace.locate path with
    | error fault => rfl
    | ok there =>
        cases there with
        | outside => rfl
        | inside place =>
            simp only [bind, Except.bind]
            cases workspace.get? place with
            | none => rfl
            | some entry => cases entry <;> rfl

theorem write_of_opened (opened : workspace.opened path = .ok place) (bytes : List UInt8) :
    workspace.write path bytes = .ok (workspace.set place (.file bytes)) := by
  rw [write_eq, opened]
  rfl

theorem write_of_openFault? {fault : IoFault} (fails : workspace.openFault? path = some fault)
    (bytes : List UInt8) : workspace.write path bytes = .error fault := by
  rw [openFault?] at fails
  split at fails
  · cases fails
  · next other isOther =>
      cases fails
      rw [write_eq, isOther]
      rfl

theorem opened_of_openFault? (opens : workspace.openFault? path = none) :
    ∃ place, workspace.opened path = .ok place := by
  rw [openFault?] at opens
  split at opens
  · next place isPlace => exact ⟨place, isPlace⟩
  · cases opens

/-! ## Routes -/

theorem mem_route (workspace : Workspace) (here : Location) (names : List String) :
    here ∈ workspace.route here names := by
  cases names with
  | nil => exact List.mem_singleton_self here
  | cons name names => exact List.mem_cons_self

theorem mem_route_cons {name : String} (isDirectory : workspace.checkDirectory here = .ok ())
    (stepped : step here name = .ok there) {location : Location}
    (member : location ∈ workspace.route there names) :
    location ∈ workspace.route here (name :: names) := by
  rw [route, isDirectory, stepped]
  exact List.mem_cons_of_mem _ member

/-- Who goes less far along the same names comes by no other locations. -/
theorem mem_route_of_prefix (front : names <+: others) {location : Location}
    (member : location ∈ workspace.route here names) :
    location ∈ workspace.route here others := by
  induction names generalizing here others with
  | nil =>
      rw [List.mem_singleton.mp member]
      exact mem_route workspace here others
  | cons name names ih =>
      rcases others with _ | ⟨other, others⟩
      · exact absurd (List.prefix_nil.mp front) (List.cons_ne_nil _ _)
      · obtain ⟨rfl, frontTail⟩ := List.cons_prefix_cons.mp front
        rw [route] at member
        rcases List.mem_cons.mp member with rfl | behind
        · exact mem_route workspace _ _
        · split at behind
          · next isDirectory stepped =>
              exact mem_route_cons isDirectory stepped (ih frontTail behind)
          · cases behind

/-- The names before the last, the empty ones at the end left out. -/
theorem isPrefix_names_before_last (names : List String) :
    ((names.reverse.dropWhile String.isEmpty).drop 1).reverse <+: names := by
  rw [← List.reverse_suffix, List.reverse_reverse]
  exact (List.drop_suffix 1 _).trans (List.dropWhile_suffix _)

/-- One step leads into a place from nowhere but its own directory. -/
theorem apart_of_step {name : String} (apart : here.Apart place)
    (stepped : step here name = .ok there) (other : there ≠ .inside place) :
    there.Apart place := by
  unfold step at stepped
  split at stepped
  · cases stepped
    exact apart
  · split at stepped
    · split at stepped
      · cases stepped
        trivial
      · cases stepped
    · next path =>
        split at stepped
        · cases stepped
          split
          · trivial
          · intro below
            exact apart (below.trans (List.dropLast_prefix path))
        · split at stepped
          · cases stepped
          · cases stepped
            intro below
            rcases List.prefix_concat_iff.mp below with same | above
            · exact other (congrArg Location.inside same.symm)
            · exact apart above

theorem checkDirectory_congr (agree : AgreeApartFrom place first second)
    (apart : here.Apart place) : second.checkDirectory here = first.checkDirectory here := by
  cases here with
  | outside => rfl
  | inside path => rw [checkDirectory, checkDirectory, agree path apart]

/-- Workspaces that agree apart from a place lead along the same route, as long as it
does not come by the place. -/
theorem walk_congr (agree : AgreeApartFrom place first second) (apart : here.Apart place)
    (unmet : .inside place ∉ first.route here names) :
    second.walk here names = first.walk here names ∧
      second.route here names = first.route here names ∧
      ∀ there, first.walk here names = .ok there → there.Apart place := by
  induction names generalizing here with
  | nil =>
      refine ⟨rfl, rfl, ?_⟩
      intro there reached
      cases reached
      exact apart
  | cons name names ih =>
      rw [walk, walk, route, route, checkDirectory_congr agree apart]
      cases isDirectory : first.checkDirectory here with
      | error fault =>
          refine ⟨rfl, rfl, ?_⟩
          intro there reached
          cases reached
      | ok =>
          cases stepped : step here name with
          | error fault =>
              refine ⟨rfl, rfl, ?_⟩
              intro there reached
              cases reached
          | ok next =>
              have unmetNext : .inside place ∉ first.route next names := by
                intro member
                exact unmet (mem_route_cons isDirectory stepped member)
              have other : next ≠ .inside place := by
                rintro rfl
                exact unmetNext (mem_route first _ names)
              obtain ⟨sameWalk, sameRoute, ends⟩ := ih (apart_of_step apart stepped other) unmetNext
              exact ⟨sameWalk, congrArg (here :: ·) sameRoute, ends⟩

/-! ## Paths that do not pass a place -/

/-- A route begins above every place, or outside of the workspace. -/
theorem apart_of_start (begins : start path = .ok here) (other : here ≠ .inside place) :
    here.Apart place := by
  rw [start] at begins
  split at begins
  · cases begins
  · split at begins
    · cases begins
    · split at begins
      · cases begins
        trivial
      · cases begins
        intro below
        exact other (congrArg Location.inside (List.prefix_nil.mp below).symm)

theorem walk_congr_of_not_passes (agree : AgreeApartFrom place first second)
    (unmet : ¬first.Passes path place) (begins : start path = .ok here)
    (front : names <+: Workspace.names path) :
    second.walk here names = first.walk here names ∧
      ∀ there, first.walk here names = .ok there → there.Apart place := by
  have unmetFront : .inside place ∉ first.route here names := by
    intro member
    exact unmet ⟨here, begins, mem_route_of_prefix front member⟩
  have other : here ≠ .inside place := by
    rintro rfl
    exact unmetFront (mem_route first _ names)
  obtain ⟨sameWalk, _, ends⟩ := walk_congr agree (apart_of_start begins other) unmetFront
  exact ⟨sameWalk, ends⟩

theorem locate_congr (agree : AgreeApartFrom place first second)
    (unmet : ¬first.Passes path place) :
    second.locate path = first.locate path ∧
      ∀ there, first.locate path = .ok there → there.Apart place := by
  rw [locate, locate]
  cases begins : start path with
  | error fault =>
      refine ⟨rfl, ?_⟩
      intro there located
      cases located
  | ok here => exact walk_congr_of_not_passes agree unmet begins (List.prefix_refl _)

theorem read_congr (agree : AgreeApartFrom place first second)
    (unmet : ¬first.Passes path place) : second.read path = first.read path := by
  obtain ⟨same, apart⟩ := locate_congr agree unmet
  rw [read, read, same]
  cases located : first.locate path with
  | error fault => rfl
  | ok there =>
      cases there with
      | outside => rfl
      | inside other =>
          have found := agree other (apart _ located)
          simp only [bind, Except.bind, found]

theorem opened_congr (agree : AgreeApartFrom place first second)
    (unmet : ¬first.Passes path place) :
    second.opened path = first.opened path ∧
      ∀ target, first.opened path = .ok target → ¬place <+: target := by
  rw [opened, opened]
  split
  · cases begins : start path with
    | error fault =>
        refine ⟨rfl, ?_⟩
        intro target opens
        cases opens
    | ok here =>
        obtain ⟨same, apart⟩ := walk_congr_of_not_passes agree unmet begins
          (isPrefix_names_before_last (Workspace.names path))
        simp only [bind, Except.bind, same]
        cases reached : first.walk here
            (((Workspace.names path).reverse.dropWhile String.isEmpty).drop 1).reverse with
        | error fault => simp
        | ok there =>
            simp only [checkDirectory_congr agree (apart there reached), true_and]
            intro target opens
            split at opens <;> cases opens
  · obtain ⟨same, apart⟩ := locate_congr agree unmet
    rw [same]
    cases located : first.locate path with
    | error fault =>
        refine ⟨rfl, ?_⟩
        intro target opens
        cases opens
    | ok there =>
        cases there with
        | outside =>
            refine ⟨rfl, ?_⟩
            intro target opens
            cases opens
        | inside other =>
            have away := apart _ located
            simp only [bind, Except.bind, agree other away, true_and]
            intro target opens
            split at opens
            · cases opens
            · cases opens
              exact away

theorem openFault?_congr (agree : AgreeApartFrom place first second)
    (unmet : ¬first.Passes path place) : second.openFault? path = first.openFault? path := by
  rw [openFault?, openFault?, (opened_congr agree unmet).1]

/-- A file that is written where workspaces agree leaves them alike wherever they were. -/
theorem get?_congr_of_write {other : Workspace} (agree : AgreeApartFrom place first second)
    (unmet : ¬first.Passes path place) (written : first.write path bytes = .ok after)
    (otherWritten : second.write path bytes = .ok other) {elsewhere : List String}
    (same : first.get? elsewhere = second.get? elsewhere) :
    after.get? elsewhere = other.get? elsewhere := by
  obtain ⟨_, target, located, writable, rfl⟩ := write_eq_ok_iff.mp written
  obtain ⟨_, _, otherLocated, _, rfl⟩ := write_eq_ok_iff.mp otherWritten
  rw [(locate_congr agree unmet).1, located] at otherLocated
  cases otherLocated
  have nonempty := ne_nil_of_get?_ne_directory writable
  rw [get?_set first nonempty, get?_set second nonempty, same]

/-! ## Entries and names -/

/-- Setting an entry changes nothing apart from its place. -/
theorem agreeApartFrom_set (workspace : Workspace) (nonempty : place ≠ []) (entry : Entry) :
    AgreeApartFrom place workspace (workspace.set place entry) := by
  intro other away
  have notPlace : other ≠ place := by
    rintro rfl
    exact away (List.prefix_refl other)
  rw [get?_set workspace nonempty, if_neg notPlace]

/-- A path that is a single name, which an entry can have. -/
def IsName (name : String) : Prop :=
  start name = .ok (.inside []) ∧ '/' ∉ name.toList ∧
    step (.inside []) name = .ok (.inside [name])

instance (name : String) : Decidable (IsName name) :=
  inferInstanceAs (Decidable (_ ∧ _ ∧ _))

/-- A single name passes no place but its own. -/
theorem not_passes_of_isName {name : String} (isName : IsName name) (nonempty : place ≠ [])
    (other : place ≠ [name]) : ¬workspace.Passes name place := by
  obtain ⟨begins, single, stepped⟩ := isName
  rintro ⟨here, isStart, member⟩
  cases begins.symm.trans isStart
  rw [names_eq, List.splitOn_eq_singleton single, List.map_singleton, String.ofList_toList,
    route] at member
  rcases List.mem_cons.mp member with isRoot | behind
  · exact nonempty (Location.inside.inj isRoot)
  · rw [stepped] at behind
    change Location.inside place ∈ [Location.inside [name]] at behind
    exact other (Location.inside.inj (List.mem_singleton.mp behind))

end DomainRules.Workspace
