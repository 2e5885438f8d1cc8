import DomainRules.Failure
import DomainRules.Text.Quoted

/-!
# Registries

A registry binds keys to handlers, each key once.  What it has for other keys is
its fallback's business: nothing, one handler for all of them, or a handler made
for the key.

The bindings are kept in the order of their keys, so that two registries with the
same bindings are the same whatever the order of registration was.
-/

namespace DomainRules

/-- What a registry has for a key without a binding. -/
inductive Fallback (α : Type) where
  | none
  | fixed (handler : α)
  | factory (make : String → α)

/-- Keys bound to handlers. -/
structure Registry (α : Type) where
  bindings : List (String × α) := []
  fallback : Fallback α := .none
  ordered : bindings.Pairwise (fun first second => first.1 < second.1) := by simp

/-- A handler for a key. -/
structure Resolved (α : Type) where
  handler : α
  /-- Whether the registry holds the handler, rather than having made it. -/
  stored : Bool
deriving DecidableEq, Repr

namespace Registry

variable {α : Type}

/-- A registry without bindings. -/
def ofFallback (fallback : Fallback α) : Registry α :=
  ⟨[], fallback, by simp⟩

/-- Puts a binding in its place, if its key is not bound. -/
def place (key : String) (handler : α) : List (String × α) → Option (List (String × α))
  | [] => some [(key, handler)]
  | binding :: rest =>
      if key < binding.1 then some ((key, handler) :: binding :: rest)
      else if key = binding.1 then none
      else (place key handler rest).map (binding :: ·)

theorem mem_of_place {key : String} {handler : α} {bindings placed : List (String × α)}
    (success : place key handler bindings = some placed) (binding : String × α)
    (isPlaced : binding ∈ placed) : binding = (key, handler) ∨ binding ∈ bindings := by
  induction bindings generalizing placed with
  | nil =>
      cases success
      simpa using isPlaced
  | cons first rest ih =>
      simp only [place] at success
      split at success
      · cases success
        simpa using isPlaced
      · split at success
        · simp at success
        · obtain ⟨tail, tailPlaced, rfl⟩ := Option.map_eq_some_iff.mp success
          rcases List.mem_cons.mp isPlaced with same | inTail
          · simp [same]
          · rcases ih tailPlaced inTail with added | old
            · exact .inl added
            · exact .inr (List.mem_cons_of_mem _ old)

theorem ordered_of_place {key : String} {handler : α} {bindings placed : List (String × α)}
    (ordered : bindings.Pairwise (fun first second => first.1 < second.1))
    (success : place key handler bindings = some placed) :
    placed.Pairwise (fun first second => first.1 < second.1) := by
  induction bindings generalizing placed with
  | nil =>
      cases success
      simp
  | cons first rest ih =>
      have ⟨below, restOrdered⟩ := List.pairwise_cons.mp ordered
      simp only [place] at success
      split at success
      · next smaller =>
          cases success
          refine List.pairwise_cons.mpr ⟨?_, ordered⟩
          intro binding isBinding
          rcases List.mem_cons.mp isBinding with same | inRest
          · exact same ▸ smaller
          · exact String.lt_trans smaller (below binding inRest)
      · next notSmaller =>
          split at success
          · simp at success
          · next different =>
              obtain ⟨tail, tailPlaced, rfl⟩ := Option.map_eq_some_iff.mp success
              refine List.pairwise_cons.mpr ⟨?_, ih restOrdered tailPlaced⟩
              intro binding isBinding
              rcases mem_of_place tailPlaced binding isBinding with added | old
              · have atLeast := String.not_lt.mp notSmaller
                exact added ▸ Std.lt_of_le_of_ne atLeast (fun same => different same.symm)
              · exact below binding old

/-- Binds a key to a handler.  A key that is bound stays as it is. -/
def register (registry : Registry α) (key : String) (handler : α) :
    Except RegistryFault (Registry α) :=
  match success : place key handler registry.bindings with
  | some placed => .ok ⟨placed, registry.fallback, ordered_of_place registry.ordered success⟩
  | none => .error (.duplicateKey key)

/-- The registry with these bindings, unless a key occurs twice. -/
def ofBindings (bindings : List (String × α)) (fallback : Fallback α) :
    Except RegistryFault (Registry α) :=
  bindings.foldlM (fun registry (key, handler) => registry.register key handler)
    (ofFallback fallback)

/-- The handler that a key is bound to. -/
def get? (registry : Registry α) (key : String) : Option α :=
  registry.bindings.lookup key

/-- The handler for a key, by its binding or else by the fallback. -/
def resolve (registry : Registry α) (key : String) : Except RegistryFault (Resolved α) :=
  match registry.get? key with
  | some handler => .ok ⟨handler, true⟩
  | none =>
      match registry.fallback with
      | .none => .error (.unsupportedKey key)
      | .fixed handler => .ok ⟨handler, true⟩
      | .factory make => .ok ⟨make key, false⟩

def contains (registry : Registry α) (key : String) : Bool :=
  (registry.get? key).isSome

/-- The bound keys, in the order of their characters' numbers. -/
def keys (registry : Registry α) : List String :=
  registry.bindings.map Prod.fst

def size (registry : Registry α) : Nat :=
  registry.bindings.length

def isEmpty (registry : Registry α) : Bool :=
  registry.bindings.isEmpty

/-- A registry on one line, given how a handler is shown. -/
def describe (showHandler : α → String) (registry : Registry α) : String :=
  let fallback := match registry.fallback with
    | .none => "None"
    | .fixed handler => "Fixed(" ++ showHandler handler ++ ")"
    | .factory _ => "Factory(..)"
  "KeyRegistry \x7b keys: [" ++ ", ".intercalate (registry.keys.map Quoted.encode) ++
    "], fallback: " ++ fallback ++ " \x7d"

/-- Indents the lines of a text behind its first line, as that is in a description. -/
def indent (text : String) : String :=
  "\n        ".intercalate (text.splitOn "\n")

/-- A registry over several lines, each part on a line of its own.  A handler
may be shown by several lines. -/
def describeLines (showHandler : α → String) (registry : Registry α) : String :=
  let keys :=
    if registry.isEmpty then "[]"
    else "[\n" ++ String.join (registry.keys.map fun key => "        " ++ Quoted.encode key ++ ",\n") ++
      "    ]"
  let fallback := match registry.fallback with
    | .none => "None"
    | .fixed handler => "Fixed(\n        " ++ indent (showHandler handler) ++ ",\n    )"
    | .factory _ => "Factory(..)"
  "KeyRegistry \x7b\n    keys: " ++ keys ++ ",\n    fallback: " ++ fallback ++ ",\n\x7d"

end Registry

end DomainRules
