import ComponentTree.Walk

/-!
Renderers. A `Setup` gathers a document, components, options and hooks; `Setup.build` checks the
options and puts the components under their keys. The `Renderer` that results can be used any number
of times.
-/

namespace ComponentTree

/-- A document with everything that is needed to render it. -/
structure Renderer (ρ : Type) extends Scene ρ where
  roots : List Node

/-- What a renderer is built of. -/
structure Setup (ρ : Type) where
  roots : List Node
  components : List (String × ρ) := []
  options : Options := {}
  hooks : Hooks ρ := .none

namespace Setup

variable {ρ : Type}

/-- Adds components after those that are there. -/
def addComponents (s : Setup ρ) (entries : List (String × ρ)) : Setup ρ :=
  { s with components := s.components ++ entries }

/-- Builds the renderer. -/
def build (s : Setup ρ) : Except OptionFault (Renderer ρ) :=
  s.options.resolve.map fun settings =>
    { registry := .ofEntries settings.componentKeyCase s.components
      settings := settings
      hooks := s.hooks
      roots := s.roots }

/-- The collisions that building the renderer meets; none when the options are at fault. -/
def collisions (s : Setup ρ) : List Collision :=
  match s.options.resolve with
  | .error _ => []
  | .ok settings => Registry.collisions settings.componentKeyCase (s.components.map (·.1))

end Setup

namespace Renderer

variable {ρ : Type}

/-- Renders the document. -/
def render (r : Renderer ρ) : Traced ρ (Instance ρ) :=
  r.toScene.renderRoots r.roots

/-- The tree that the document renders to. -/
def tree (r : Renderer ρ) : Instance ρ :=
  r.render.value

/-- The diagnostics of a render, in order. -/
def diagnostics (r : Renderer ρ) : List Diagnostic :=
  r.render.diagnostics

end Renderer

end ComponentTree
