import ComponentTree.Hooks.Basic
import ComponentTree.Node.Written

/-!
A spreader wraps every element that renders something in an element of its own. The wrapper keeps
the key and receives two props: the declared name of the component and the formatted element itself
as a value. With a group, the wrapped element renders with the group's component instead of its own.
-/

namespace ComponentTree

/-- What elements are wrapped in. -/
structure Spreader (ρ : Type) where
  /-- The declared name of the wrapper. -/
  name : String
  /-- The component of the wrapper. -/
  wrapper : ρ
  /-- The component that the wrapped element renders with. -/
  group : Option ρ := none

namespace Spreader

variable {ρ : Type}

/-- The element around an element that was made of `node`. -/
def around (s : Spreader ρ) (inner : RenderedElement ρ) (node : Element) : RenderedElement ρ where
  component := s.name
  renderable := .component s.wrapper
  key := inner.key
  props := [("component", .string inner.component), ("data", node.toJson .byName)]
  children :=
    [.element
      { inner with renderable := (s.group.map Renderable.component).getD inner.renderable }]

/-- Wraps an instance that was made of `node`. A text, a fragment and an element that renders
nothing stay as they are. -/
def wrap (s : Spreader ρ) (built : Instance ρ) (node : Element) : Instance ρ :=
  match built with
  | .element inner => if inner.renderable.isNull then built else .element (s.around inner node)
  | _ => built

/-- The hooks of a spreader. -/
def toHooks (s : Spreader ρ) : Hooks ρ where
  decorateNode := s.wrap

end Spreader

end ComponentTree
