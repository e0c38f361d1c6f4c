import ComponentTree.KeyCase
import ComponentTree.Fields
import ComponentTree.LogRecord

/-!
The registry: components by name, under keys in the spelling of a case policy. Of two entries with
one key the later counts; when their names are spelled differently the registry reports a
`Collision`.
-/

namespace ComponentTree

/-- Components under the keys of a case policy, in the order of the keys. -/
structure Registry (ρ : Type) where
  entries : Fields ρ := []
  keyCase : KeyCase := .preserve

/-- Two spellings that share a key; the later one counts. -/
structure Collision where
  previous : String
  name : String
  key : String
deriving DecidableEq, Repr

/-- The wording of a collision. -/
def Collision.message (c : Collision) : String :=
  "Registry keys [" ++ c.previous ++ "] and [" ++ c.name ++ "] both normalize to [" ++ c.key
    ++ "]; [" ++ c.name ++ "] is used."

/-- The log record of a collision. -/
def Collision.record (c : Collision) : LogRecord :=
  ⟨.warn, c.message⟩

namespace Registry

variable {ρ : Type}

/-- The registry of a list of entries. -/
def ofEntries (keyCase : KeyCase) (entries : List (String × ρ)) : Registry ρ where
  entries := Fields.ofList (entries.map fun entry => (keyCase.apply entry.1, entry.2))
  keyCase := keyCase

/-- The collisions of a list of names; `spelled` holds the latest spelling of each key so far. -/
def collisionsAfter (keyCase : KeyCase) (spelled : Fields String) : List String → List Collision
  | [] => []
  | name :: rest =>
    let key := keyCase.apply name
    let here :=
      match spelled.get? key with
      | none => []
      | some previous => if previous = name then [] else [⟨previous, name, key⟩]
    here ++ collisionsAfter keyCase (spelled.insert key name) rest

/-- The collisions of a list of names, in order. -/
def collisions (keyCase : KeyCase) (names : List String) : List Collision :=
  collisionsAfter keyCase [] names

/-- The component of a name: under the name as it is written, or else under its key. -/
def get? (r : Registry ρ) (name : String) : Option ρ :=
  match r.entries.get? name with
  | some component => some component
  | none => if r.keyCase.isActive then r.entries.get? (r.keyCase.apply name) else none

/-- Whether a name has a component. -/
def contains (r : Registry ρ) (name : String) : Bool :=
  (r.get? name).isSome

/-- The keys in order. -/
def names (r : Registry ρ) : List String :=
  r.entries.names

/-- Number of keys. -/
def size (r : Registry ρ) : Nat :=
  r.entries.length

/-- Whether there are no keys. -/
def isEmpty (r : Registry ρ) : Bool :=
  r.entries.isEmpty

end Registry

end ComponentTree
