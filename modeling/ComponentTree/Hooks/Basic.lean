import ComponentTree.Node.Basic
import ComponentTree.Instance.Basic

/-!
Hooks: functions that take part in a render. `format` changes an element before anything is made
of it, `decorateNode` replaces the instance of an element, and `decorateTree` replaces the list of
the topmost instances. Texts pass through no hook. A hook that is not given changes nothing.
-/

namespace ComponentTree

/-- The functions that take part in a render. -/
structure Hooks (ρ : Type) where
  /-- Changes the element at a position. -/
  format : (path : String) → (declared : Element) → Element := fun _ declared => declared
  /-- Replaces the instance made of a formatted element. -/
  decorateNode : Instance ρ → (node : Element) → Instance ρ := fun built _ => built
  /-- Replaces the topmost instances. -/
  decorateTree : List (Instance ρ) → List (Instance ρ) := fun top => top

/-- Hooks that change nothing. -/
def Hooks.none {ρ : Type} : Hooks ρ := {}

instance (ρ : Type) : Inhabited (Hooks ρ) := ⟨.none⟩

/-- Hooks of which each may be missing. -/
structure HookSet (ρ : Type) where
  format : Option (String → Element → Element) := .none
  decorateNode : Option (Instance ρ → Element → Instance ρ) := .none
  decorateTree : Option (List (Instance ρ) → List (Instance ρ)) := .none

namespace HookSet

/-- A missing hook changes nothing. -/
def toHooks {ρ : Type} (set : HookSet ρ) : Hooks ρ where
  format := set.format.getD fun _ declared => declared
  decorateNode := set.decorateNode.getD fun built _ => built
  decorateTree := set.decorateTree.getD fun top => top

/-- Says which hooks are present. -/
def describe {ρ : Type} (set : HookSet ρ) : String :=
  let word (b : Bool) : String := if b then "true" else "false"
  "HookSet \x7b formatter: " ++ word set.format.isSome
    ++ ", node_decorator: " ++ word set.decorateNode.isSome
    ++ ", tree_decorator: " ++ word set.decorateTree.isSome ++ " \x7d"

end HookSet

end ComponentTree
