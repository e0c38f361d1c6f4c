import ComponentTree.Json.Basic

/-!
The tree that a document renders to. An instance is a text, a fragment (a list of instances) or an
element, which carries what it renders with: a registered component, given by a reference of the
caller's own type, a tag, or nothing.
-/

namespace ComponentTree

/-- What an element renders with. -/
inductive Renderable (ρ : Type) where
  /-- A registered component. -/
  | component (reference : ρ)
  /-- A tag of the given name. -/
  | tag (name : String)
  /-- Nothing at all. -/
  | null
deriving DecidableEq, Inhabited

namespace Renderable

variable {ρ : Type}

/-- Whether the element renders nothing. -/
def isNull : Renderable ρ → Bool
  | null => true
  | _ => false

/-- The name of a tag. -/
def tagName? : Renderable ρ → Option String
  | tag name => some name
  | _ => none

/-- The reference to a registered component. -/
def reference? : Renderable ρ → Option ρ
  | component reference => some reference
  | _ => none

end Renderable

mutual

/-- A node of the rendered tree. -/
inductive Instance (ρ : Type) where
  | text (value : String)
  | element (element : RenderedElement ρ)
  | fragment (children : List (Instance ρ))

/-- An element of the rendered tree. -/
structure RenderedElement (ρ : Type) where
  component : String
  renderable : Renderable ρ
  key : String
  props : List (String × Json) := []
  slots : List (String × List (Instance ρ)) := []
  children : List (Instance ρ) := []

end

instance (ρ : Type) : Inhabited (Instance ρ) := ⟨.fragment []⟩

/-- An element that renders nothing and holds nothing. -/
def RenderedElement.empty {ρ : Type} (component key : String) : RenderedElement ρ :=
  { component, renderable := .null, key }

namespace Instance

variable {ρ : Type}

/-- The element of an instance that is one. -/
def element? : Instance ρ → Option (RenderedElement ρ)
  | element e => some e
  | _ => none

/-- The text of an instance that is one. -/
def text? : Instance ρ → Option String
  | text value => some value
  | _ => none

/-- The key of an element. -/
def key? (i : Instance ρ) : Option String :=
  i.element?.map (·.key)

/-- The children of an element or a fragment. -/
def children : Instance ρ → List (Instance ρ)
  | text _ => []
  | element e => e.children
  | fragment items => items

end Instance

/-! ### Size -/

mutual

/-- Number of instances in the tree, those in slots included. -/
def Instance.nodeCount {ρ : Type} : Instance ρ → Nat
  | .text _ => 1
  | .fragment children => 1 + Instance.nodeCounts children
  | .element { children, slots, .. } =>
    1 + (Instance.nodeCounts children + Instance.slotNodeCounts slots)

/-- Number of instances in a list of trees. -/
def Instance.nodeCounts {ρ : Type} : List (Instance ρ) → Nat
  | [] => 0
  | child :: rest => child.nodeCount + Instance.nodeCounts rest

/-- Number of instances in slots. -/
def Instance.slotNodeCounts {ρ : Type} : List (String × List (Instance ρ)) → Nat
  | [] => 0
  | (_, instances) :: rest => Instance.nodeCounts instances + Instance.slotNodeCounts rest

end

end ComponentTree
