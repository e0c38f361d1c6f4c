import Mathlib.Algebra.GroupWithZero.Nat
import Mathlib.Data.List.Forall2
import ComponentTree.Proofs.Node.Sources
import ComponentTree.Proofs.Render.Visits

/-!
The tree that a document renders to has the shape of what is read of the document. Nothing of it is
lost, and nothing is rendered twice.

* `Element.census` — the number of instances that an element comes to, counted on the document
  alone: itself, its slots and the first declared source of its children.
* `nodeCount_renderElement` — an element renders to as many instances.
* `Instance.StandsFor` — an instance and the node of a sibling list that it stands for;
  `forall₂_renderSiblings` — siblings stand for the nodes of their list, one for one.
* `tree_mirrors_roots` — both for the render of a document and for every list in it.
-/

namespace ComponentTree

variable {ρ : Type}

/-! ### Counting a document -/

/-- The number of instances that a node comes to: a text is one. -/
def Node.census (count : Element → Nat) : Node → Nat
  | .text _ => 1
  | .element e => count e

/-- The number of instances that content comes to: a literal is one. -/
def Content.census (count : Element → Nat) : Content → Nat
  | .text _ => 1
  | .nodes items => (items.map (Node.census count)).sum

namespace Element

/-- The number of instances that an element comes to when a number of levels are left below it.
With none left it is one, whatever it holds. -/
def census (legacy : Bool) : Nat → Element → Nat
  | 0, _ => 1
  | level + 1, e =>
    1 + ((e.firstChildren? legacy).elim 0 (Content.census (census legacy level))
      + (e.openSlots.map fun slot => slot.2.census (census legacy level)).sum)

end Element

/-! ### Counting a tree -/

theorem nodeCounts_eq_sum (list : List (Instance ρ)) :
    Instance.nodeCounts list = (list.map (·.nodeCount)).sum := by
  induction list with
  | nil => rfl
  | cons child rest ih => rw [Instance.nodeCounts, ih, List.map_cons, List.sum_cons]

theorem slotNodeCounts_eq_sum (slots : List (String × List (Instance ρ))) :
    Instance.slotNodeCounts slots = (slots.map fun slot => Instance.nodeCounts slot.2).sum := by
  induction slots with
  | nil => rfl
  | cons slot rest ih => rw [Instance.slotNodeCounts, ih, List.map_cons, List.sum_cons]

theorem nodeCount_element (e : RenderedElement ρ) :
    (Instance.element e).nodeCount
      = 1 + (Instance.nodeCounts e.children + Instance.slotNodeCounts e.slots) := by
  cases e
  rw [Instance.nodeCount]

namespace Scene

section Lists

variable {descend : String → Element → Traced ρ (Instance ρ)} {count : Element → Nat}
  (below : ∀ path e, (descend path e).value.nodeCount = count e)

include below

theorem nodeCount_renderNode (path : String) (node : Node) :
    (renderNode descend path node).value.nodeCount = node.census count := by
  cases node with
  | text value =>
      rw [renderNode, Traced.value_silent, Instance.nodeCount, Node.census]
  | element e => exact below path e

theorem nodeCounts_renderSiblings (path : String) (nodes : List Node) :
    Instance.nodeCounts (renderSiblings descend path nodes).value
      = (nodes.map (Node.census count)).sum := by
  rw [value_renderSiblings, nodeCounts_eq_sum, map_mapIdx]
  simp only [nodeCount_renderNode below]
  rw [List.mapIdx_eq_zipIdx_map]
  congr 1
  conv_rhs => rw [← List.zipIdx_map_fst 0 nodes, List.map_map]
  rfl

theorem nodeCounts_renderContent (path : String) (content : Content) :
    Instance.nodeCounts (renderContent descend path content).value = content.census count := by
  cases content with
  | text value => rfl
  | nodes items => exact nodeCounts_renderSiblings below path items

theorem nodeCounts_renderChildren (path : String) (content : Option Content) :
    Instance.nodeCounts (renderChildren descend path content).value
      = content.elim 0 (Content.census count) := by
  cases content with
  | none => rfl
  | some content => exact nodeCounts_renderContent below path content

theorem slotNodeCounts_renderSlots (path : String) (slots : Fields Content) :
    Instance.slotNodeCounts (renderSlots descend path slots).value
      = (slots.map fun slot => slot.2.census count).sum := by
  rw [value_renderSlots, slotNodeCounts_eq_sum, List.map_map]
  simp only [Function.comp_def, nodeCounts_renderContent below]

end Lists

variable {scene : Scene ρ}

/-- **An element renders to as many instances** as are counted on the document. The induction is on
the levels that are left. -/
theorem nodeCount_renderElement (identity : scene.hooks = .none) (level : Nat) (path : String)
    (e : Element) :
    (scene.renderElement level path e).value.nodeCount
      = e.census scene.settings.legacyPropsChildren level := by
  induction level generalizing path e with
  | zero =>
      rw [value_renderElement_zero identity, nodeCount_element, Element.census]
      rfl
  | succ level ih =>
      rw [value_renderElement_succ identity, nodeCount_element, assembled_children,
        assembled_slots, nodeCounts_renderChildren ih, slotNodeCounts_renderSlots ih,
        Element.chosenChildren_eq_firstChildren?, Element.census]

end Scene

/-! ### One instance for each node -/

/-- An instance stands for a node: a text for a text with the same content, an element for an
element with the same component. -/
def Instance.StandsFor : Instance ρ → Node → Prop
  | .text value, .text declared => value = declared
  | .element e, .element declared => e.component = declared.component
  | _, _ => False

namespace Scene

section Lists

variable {descend : String → Element → Traced ρ (Instance ρ)}
  (below : ∀ path e, (descend path e).value.StandsFor (.element e))

include below

theorem standsFor_renderNode (path : String) (node : Node) :
    (renderNode descend path node).value.StandsFor node := by
  cases node with
  | text value => exact rfl
  | element e => exact below path e

theorem forall₂_renderSiblings (path : String) (nodes : List Node) :
    List.Forall₂ Instance.StandsFor (renderSiblings descend path nodes).value nodes := by
  rw [value_renderSiblings, List.forall₂_iff_get]
  refine ⟨List.length_mapIdx, fun i h _ => ?_⟩
  simp only [List.get_eq_getElem, List.getElem_mapIdx]
  exact standsFor_renderNode below _ _

theorem forall₂_renderContent (path : String) (content : Content) :
    List.Forall₂ Instance.StandsFor (renderContent descend path content).value
      content.members := by
  cases content with
  | text value => exact .cons rfl .nil
  | nodes items => exact forall₂_renderSiblings below path items

theorem forall₂_renderChildren (path : String) (content : Option Content) :
    List.Forall₂ Instance.StandsFor (renderChildren descend path content).value
      (content.elim [] Content.members) := by
  cases content with
  | none => exact .nil
  | some content => exact forall₂_renderContent below path content

theorem forall₂_renderSlots (path : String) (slots : Fields Content) :
    List.Forall₂
      (fun rendered slot =>
        rendered.1 = slot.1 ∧ List.Forall₂ Instance.StandsFor rendered.2 slot.2.members)
      (renderSlots descend path slots).value slots := by
  rw [value_renderSlots, List.forall₂_map_left_iff, List.forall₂_same]
  exact fun slot _ => ⟨rfl, forall₂_renderContent below path slot.2⟩

end Lists

variable {scene : Scene ρ}

theorem standsFor_renderElement (identity : scene.hooks = .none) (level : Nat) (path : String)
    (e : Element) : (scene.renderElement level path e).value.StandsFor (.element e) := by
  cases level with
  | zero =>
      rw [value_renderElement_zero identity]
      exact rfl
  | succ level =>
      rw [value_renderElement_succ identity]
      exact rfl

end Scene

/-- The lists that an element of a visit holds stand for those that are read of its node: past the
greatest depth there are none; up to it, each slot stands for the slot of the same name, and the
children for the first declared source of children. -/
structure Visit.MirrorsNode (settings : Settings) (v : Visit ρ) : Prop where
  past : v.depth = settings.maxDepth + 1 → v.element.slots = [] ∧ v.element.children = []
  slots : v.depth ≤ settings.maxDepth →
    List.Forall₂
      (fun rendered slot =>
        rendered.1 = slot.1 ∧ List.Forall₂ Instance.StandsFor rendered.2 slot.2.members)
      v.element.slots v.node.openSlots
  children : v.depth ≤ settings.maxDepth →
    List.Forall₂ Instance.StandsFor v.element.children
      ((v.node.firstChildren? settings.legacyPropsChildren).elim [] Content.members)

theorem mirrorsNode_of_rendered {scene : Scene ρ} (identity : scene.hooks = .none) {v : Visit ρ}
    (rendered : scene.Rendered v) : v.MirrorsNode scene.settings where
  past deep := by
    rw [rendered.truncated identity deep]
    exact ⟨rfl, rfl⟩
  slots within := by
    obtain ⟨level, -, value⟩ := rendered.exists_level within
    rw [Scene.value_renderElement_succ identity] at value
    rw [← Instance.element.inj value, Scene.assembled_slots]
    exact Scene.forall₂_renderSlots (Scene.standsFor_renderElement identity level) _ _
  children within := by
    obtain ⟨level, -, value⟩ := rendered.exists_level within
    rw [Scene.value_renderElement_succ identity] at value
    rw [← Instance.element.inj value, Scene.assembled_children,
      ← Element.chosenChildren_eq_firstChildren?]
    exact Scene.forall₂_renderChildren (Scene.standsFor_renderElement identity level) _ _

/-- **The tree mirrors the document.** Without hooks, whatever the registry and the settings are:
the tree has one instance more than are counted on the roots, that of the fragment; the fragment
holds one instance for each root, and that stands for it; and for every element of the tree, with
the element of the document that it came from, the lists it holds stand for those that are read. -/
theorem tree_mirrors_roots (r : Renderer ρ) (identity : r.hooks = .none) :
    r.tree.nodeCount
        = 1 + (r.roots.map (Node.census
            (Element.census r.settings.legacyPropsChildren r.settings.maxDepth))).sum ∧
      (∃ top, r.tree = .fragment top ∧ List.Forall₂ Instance.StandsFor top r.roots) ∧
      r.visits.map (·.toPlace) = r.tree.places ∧
      ∀ v ∈ r.visits, v.MirrorsNode r.settings := by
  have plain : r.hooks.Undecorated := identity ▸ Hooks.undecorated_none
  have tree := Scene.value_renderRoots plain r.roots
  refine ⟨?_, ⟨_, tree, ?_⟩, visits_eq_places r identity, ?_⟩
  · rw [Renderer.tree, Renderer.render, tree, Instance.nodeCount,
      Scene.nodeCounts_renderSiblings (Scene.nodeCount_renderElement identity r.settings.maxDepth)]
  · exact Scene.forall₂_renderSiblings (Scene.standsFor_renderElement identity _) "" r.roots
  · intro v hv
    exact mirrorsNode_of_rendered identity (rendered_of_mem_visits r identity v hv)

/-- A list whose items are read out of a prop and nested in arrays, with children in a place that is
ignored, a slot, and an element past the greatest depth that holds two more. -/
theorem tree_mirrors_roots_late :
    let item : Json :=
      .object [("children", .array [.string "x", .string "y"]), ("component", .string "b"),
        ("key", .string "k")]
    let r : Renderer String :=
      { registry := {}
        settings := { allowAllElements := true, maxDepth := 2 }
        hooks := .none
        roots := [.text "a", .element
          { component := "ul"
            key := some "u"
            props := [("children", .array [.string "one", .array [.object
              [("component", .string "li"), ("key", .string "l"),
                ("renderProps", .object [("children", item), ("header", .string "h")])]]])]
            slots := [("footer", .nodes [.text "f", .text "g"]), ("key", .text "ignored")] }] }
    r.hooks = .none ∧ r.tree.nodeCount = 9 ∧
      r.tree.nodeCount
        = 1 + (r.roots.map (Node.census
            (Element.census r.settings.legacyPropsChildren r.settings.maxDepth))).sum :=
  ⟨rfl, by decide, (tree_mirrors_roots _ rfl).1⟩

end ComponentTree
