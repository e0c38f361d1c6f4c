import ComponentTree.Event
import ComponentTree.Hooks.Basic
import ComponentTree.Node.Key

/-!
Rendering elements. An element is formatted, checked for anomalies, resolved, and given its slots
and children, which are rendered one level deeper; then it is decorated. The number of levels that
are left bounds the recursion, whatever the format hook adds: `renderElement` at level zero makes an
element that renders nothing and does not look into it.
-/

namespace ComponentTree

/-! ### Children -/

namespace Element

/-- The content that is rendered as children: declared children, or else the slot `children`, or
else the prop `children`. In legacy mode a prop is one text. -/
def chosenChildren (legacy : Bool) (e : Element) : Option Content :=
  match e.children with
  | some content => some content
  | none =>
    match e.slot? "children" with
    | some content => some content
    | none =>
      match e.prop? "children" with
      | none => none
      | some value =>
        if value.isNull then none
        else if legacy then some (.text value.literal)
        else Content.ofJson value

/-- The stray components met while the chosen children are loaded. -/
def strayInChildren (legacy : Bool) (e : Element) : List Json :=
  if e.children.isSome || (e.slot? "children").isSome || legacy then []
  else ((e.prop? "children").map Json.strayComponents).getD []

end Element

/-! ### Anomalies -/

/-- Children declared in several places, and keys declared where they have no effect. -/
def Element.anomalies (e : Element) : List Anomaly :=
  (if 1 < e.childrenSources.length then [.ambiguousChildren e.childrenSources] else [])
    ++ (match e.prop? "key" with
      | none => []
      | some value => if value.isNull then [] else [.ignoredKey .props value.literal])
    ++ (match e.slot? "key" with
      | none => []
      | some content => [.ignoredKey .renderProps content.describe])

/-- What surrounds nodes while they are rendered. -/
structure Scene (ρ : Type) where
  registry : Registry ρ
  settings : Settings
  hooks : Hooks ρ

namespace Scene

variable {ρ : Type}

/-- The diagnostics, unless messages are off. -/
def reports (scene : Scene ρ) (diagnostics : List Diagnostic) : List (Event ρ) :=
  if scene.settings.displayErrorMessage then diagnostics.map .report else []

/-! ### Lists of nodes -/

/-- Renders a node; `descend` renders elements. -/
def renderNode (descend : String → Element → Traced ρ (Instance ρ)) (path : String) :
    Node → Traced ρ (Instance ρ)
  | .text value => .silent (.text value)
  | .element e => descend path e

/-- Renders the siblings under a position. -/
def renderSiblings (descend : String → Element → Traced ρ (Instance ρ)) (parent : String)
    (nodes : List Node) : Traced ρ (List (Instance ρ)) :=
  .sequence (nodes.mapIdx fun index node => renderNode descend (childPath parent index) node)

/-- Renders the content of the element at a position. -/
def renderContent (descend : String → Element → Traced ρ (Instance ρ)) (path : String) :
    Content → Traced ρ (List (Instance ρ))
  | .text value => .silent [.text value]
  | .nodes items => renderSiblings descend path items

/-- Renders slots, in order. -/
def renderSlots (descend : String → Element → Traced ρ (Instance ρ)) (path : String)
    (slots : Fields Content) : Traced ρ (Fields (List (Instance ρ))) :=
  .sequence (slots.map fun slot =>
    let rendered := renderContent descend path slot.2
    ⟨(slot.1, rendered.value), rendered.events⟩)

/-- Renders the chosen children of an element, if there are any. -/
def renderChildren (descend : String → Element → Traced ρ (Instance ρ)) (path : String) :
    Option Content → Traced ρ (List (Instance ρ))
  | none => .silent []
  | some content => renderContent descend path content

/-! ### Elements -/

/-- The element past the last level: it renders nothing. -/
def truncate (scene : Scene ρ) (path : String) (declared : Element) : Traced ρ (Instance ρ) :=
  let node := scene.hooks.format path declared
  let built : Instance ρ := .element (.empty node.component (node.effectiveKey path))
  { value := scene.hooks.decorateNode built node
    events :=
      [.format path declared]
        ++ scene.reports [⟨node.component, path, .tooDeep scene.settings.maxDepth⟩]
        ++ [.decorate built node] }

/-- The element at a position; `descend` renders elements one level deeper. -/
def expand (scene : Scene ρ) (descend : String → Element → Traced ρ (Instance ρ)) (path : String)
    (declared : Element) : Traced ρ (Instance ρ) :=
  let node := scene.hooks.format path declared
  let legacy := scene.settings.legacyPropsChildren
  let resolution := resolve node.component scene.registry scene.settings
  let slots := renderSlots descend path node.openSlots
  let children := renderChildren descend path (node.chosenChildren legacy)
  let built : Instance ρ :=
    .element
      { component := node.component
        renderable := resolution.renderable
        key := node.effectiveKey path
        props := node.openProps
        slots := slots.value
        children := children.value }
  { value := scene.hooks.decorateNode built node
    events :=
      [.format path declared]
        ++ scene.reports (node.anomalies.map fun anomaly => ⟨node.component, path, anomaly⟩)
        ++ [.resolve path node.component resolution.kind]
        ++ scene.reports (resolution.diagnostic.toList.map (·.atPath path))
        ++ slots.events
        ++ (node.strayInChildren legacy).map .stray
        ++ children.events
        ++ [.decorate built node] }

/-- The element at a position, with a number of levels left for it and what is in it. -/
def renderElement (scene : Scene ρ) : Nat → String → Element → Traced ρ (Instance ρ)
  | 0 => scene.truncate
  | level + 1 => scene.expand (renderElement scene level)

/-- Renders the roots of a document into one fragment. -/
def renderRoots (scene : Scene ρ) (roots : List Node) : Traced ρ (Instance ρ) :=
  let top := renderSiblings (scene.renderElement scene.settings.maxDepth) "" roots
  { value := .fragment (scene.hooks.decorateTree top.value)
    events := top.events ++ [.finish top.value] }

end Scene

end ComponentTree
