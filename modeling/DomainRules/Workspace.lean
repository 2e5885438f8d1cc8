import DomainRules.Failure

/-!
# Workspaces

A directory as a program sees it that is started in it: the files and directories
below it, each under its path.  What lies outside is taken to hold directories
only, and nothing that has a name.  So a path that begins with a slash, or that
leaves the directory by `..`, leads to no file: nothing can be read or written
under it, even where the way would lead back into the directory.
-/

namespace DomainRules

/-- What a path can lead to. -/
inductive Entry where
  | file (bytes : List UInt8)
  | directory
deriving DecidableEq, Repr

/-- The entries of a directory and of those below it.  A path is the list of the
names along it. -/
structure Workspace where
  entries : List (List String × Entry) := []
deriving DecidableEq, Repr

namespace Workspace

/-- The longest name that an entry can have, in bytes. -/
def nameLimit : Nat := 255

/-- The longest text of a path, in bytes. -/
def pathLimit : Nat := 4095

/-- The entry under a path. -/
def get? (workspace : Workspace) (path : List String) : Option Entry :=
  if path = [] then some .directory else workspace.entries.lookup path

/-- Sets the entry under a path. -/
def set (workspace : Workspace) (path : List String) (entry : Entry) : Workspace :=
  if (workspace.entries.lookup path).isSome then
    ⟨workspace.entries.map fun old => if old.1 = path then (path, entry) else old⟩
  else
    ⟨workspace.entries ++ [(path, entry)]⟩

/-- Where the text of a path leads. -/
inductive Location where
  /-- To a place that an entry has, or could have. -/
  | inside (path : List String)
  /-- To a directory above or beside the workspace. -/
  | outside
deriving DecidableEq, Repr

/-- Goes one step along a path. -/
def step (here : Location) (name : String) : Except IoFault Location :=
  if name.isEmpty || name = "." then .ok here
  else
    match here with
    | .outside => if name = ".." then .ok .outside else .error .noEntry
    | .inside path =>
        if name = ".." then .ok (if path = [] then .outside else .inside path.dropLast)
        else if nameLimit < name.utf8ByteSize then .error .nameTooLong
        else .ok (.inside (path ++ [name]))

/-- A location that a path goes on from, which has to be a directory. -/
def checkDirectory (workspace : Workspace) : Location → Except IoFault Unit
  | .outside => .ok ()
  | .inside path =>
      match workspace.get? path with
      | none => .error .noEntry
      | some (.file _) => .error .notDirectory
      | some .directory => .ok ()

/-- Goes along a path from a directory.  Every location but the last has to be a
directory. -/
def walk (workspace : Workspace) (here : Location) : List String → Except IoFault Location
  | [] => .ok here
  | name :: rest => do
      workspace.checkDirectory here
      walk workspace (← step here name) rest

/-- Where a path begins. -/
def start (path : String) : Except IoFault Location :=
  if path.isEmpty then .error .noEntry
  else if pathLimit < path.utf8ByteSize then .error .nameTooLong
  else .ok (if path.startsWith "/" then .outside else .inside [])

/-- The names along a path. -/
def names (path : String) : List String :=
  path.splitOn "/"

/-- Where the text of a path leads. -/
def locate (workspace : Workspace) (path : String) : Except IoFault Location := do
  workspace.walk (← start path) (names path)

/-- The bytes of a file. -/
def read (workspace : Workspace) (path : String) : Except IoFault (List UInt8) := do
  match ← workspace.locate path with
  | .outside => .error .isDirectory
  | .inside path =>
      match workspace.get? path with
      | none => .error .noEntry
      | some .directory => .error .isDirectory
      | some (.file bytes) => .ok bytes

/-- Whether a path leads to an entry. -/
def contains (workspace : Workspace) (path : String) : Bool :=
  match workspace.locate path with
  | .error _ => false
  | .ok .outside => true
  | .ok (.inside path) => (workspace.get? path).isSome

/-- Sets the bytes of a file, which is made if there is none.  A path with a slash
at its end names a directory, whatever it has before the slash, and no file can be
made there. -/
def write (workspace : Workspace) (path : String) (bytes : List UInt8) :
    Except IoFault Workspace := do
  if path.endsWith "/" then
    let names := (names path).reverse.dropWhile String.isEmpty
    workspace.checkDirectory (← workspace.walk (← start path) (names.drop 1).reverse)
    .error .isDirectory
  else
    match ← workspace.locate path with
    | .outside => .error .isDirectory
    | .inside place =>
        match workspace.get? place with
        | some .directory => .error .isDirectory
        | _ => .ok (workspace.set place (.file bytes))

end Workspace

end DomainRules
