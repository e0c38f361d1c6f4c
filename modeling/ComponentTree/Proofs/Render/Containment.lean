import ComponentTree.Proofs.Node.DerivedKey
import ComponentTree.Proofs.Node.Gap
import ComponentTree.Proofs.Render.Visits

/-!
What is wrong with a node stays with the node. Without hooks, a document with one node left out
renders to a tree with one instance left out, whatever node fills it; the keys of the elements
around the node are all that depends on it besides the instance itself, unless they are declared.

* `Shell`, `Frame` — rendered elements, and rendered trees, with one instance left out, and without
  the keys of what is around it.
* `Surrounded` — a list that depends on a node in a part of it only; this is closed under putting
  more around it, which carries it through levels.
* `exists_shell`, `exists_shells` — what a gap renders to, and gaps one inside the other.
* `replacement_contained` — what this means for a document and any node that is part of it.
-/

namespace ComponentTree

variable {ρ : Type}

/-! ### Trees with one instance left out -/

/-- A rendered element with one instance left out of its children or a slot. Its key, and what
stands in the place of the list, are not looked at. -/
inductive Shell (ρ : Type) where
  | children (host : RenderedElement ρ) (row : Row (Instance ρ))
  | slot (host : RenderedElement ρ) (slots : Row (String × List (Instance ρ))) (name : String)
      (row : Row (Instance ρ))

namespace Shell

/-- The element with its key and an instance in place. -/
def fill (shell : Shell ρ) (key : String) (inner : Instance ρ) : Instance ρ :=
  match shell with
  | children host row => .element { host with key, children := row.fill inner }
  | slot host slots name row =>
    .element { host with key, slots := slots.fill (name, row.fill inner) }

/-- The step from the element to the instance. -/
def step : Shell ρ → Step
  | children _ row => .child row.index
  | slot _ _ name row => .slot name row.index

/-- Elements one inside the other, outermost first, each with its key, and an instance in the
innermost. -/
def nest : List (Shell ρ) → List String → Instance ρ → Instance ρ
  | shell :: shells, key :: keys, inner => shell.fill key (nest shells keys inner)
  | _, _, inner => inner

end Shell

/-- A rendered tree with one instance left out. -/
structure Frame (ρ : Type) where
  top : Row (Instance ρ)
  shells : List (Shell ρ)

namespace Frame

/-- The tree with the keys of the elements around the instance, outermost first, and the
instance. -/
def fill (frame : Frame ρ) (keys : List String) (inner : Instance ρ) : Instance ρ :=
  .fragment (frame.top.fill (Shell.nest frame.shells keys inner))

/-- The steps that lead to the instance. -/
def address (frame : Frame ρ) : List Step :=
  .child frame.top.index :: frame.shells.map Shell.step

end Frame

/-! ### Paths and keys around a gap -/

/-- The keys of elements with gaps, outermost first, at a path, when a node fills the innermost. -/
def Gap.keysAt (path : String) : List Gap → Node → List String
  | [], _ => []
  | gap :: gaps, node =>
    (gap.fill (Gap.nest gaps node)).effectiveKey path
      :: Gap.keysAt (childPath path gap.step.index) gaps node

/-- A declared key is the key, whatever node fills the gap. -/
theorem Gap.getElem?_keysAt_of_key {gaps : List Gap} {path : String} {node : Node} {m : Nat}
    {gap : Gap} {key : String} (here : gaps[m]? = some gap) (declared : gap.host.key = some key) :
    (Gap.keysAt path gaps node)[m]? = some key := by
  induction gaps generalizing path m with
  | nil => exact nomatch here
  | cons outer gaps ih =>
      cases m with
      | zero =>
          obtain rfl : outer = gap := Option.some.inj here
          have filled : (outer.fill (Gap.nest gaps node)).key = some key := by
            rw [Gap.key_fill, declared]
          rw [Gap.keysAt, List.getElem?_cons_zero, Element.effectiveKey, filled]
      | succ m =>
          rw [Gap.keysAt, List.getElem?_cons_succ]
          exact ih here

namespace Opening

/-- The path of the node. -/
def path (opening : Opening) : String :=
  pathOf (opening.address.map Step.index)

/-- The keys of the elements around the node, outermost first. -/
def keys (opening : Opening) (node : Node) : List String :=
  Gap.keysAt (childPath "" opening.top.index) opening.gaps node

end Opening

/-! ### Lists that depend on a part of them -/

/-- A list depends on something only in a part of it: what is before the part and after it is always
the same. -/
def Surrounded {α β : Type} (whole part : β → List α) : Prop :=
  ∃ before after, ∀ x, whole x = before ++ part x ++ after

namespace Surrounded

variable {α β : Type} {whole middle part : β → List α}

theorem refl (part : β → List α) : Surrounded part part :=
  ⟨[], [], fun x => by rw [List.nil_append, List.append_nil]⟩

theorem trans (outer : Surrounded whole middle) (inner : Surrounded middle part) :
    Surrounded whole part := by
  obtain ⟨before, after, outer⟩ := outer
  obtain ⟨before', after', inner⟩ := inner
  refine ⟨before ++ before', after' ++ after, fun x => ?_⟩
  rw [outer, inner]
  simp only [List.append_assoc]

theorem comp {γ : Type} (outer : Surrounded whole part) (f : γ → β) :
    Surrounded (fun x => whole (f x)) fun x => part (f x) := by
  obtain ⟨before, after, outer⟩ := outer
  exact ⟨before, after, fun x => outer (f x)⟩

end Surrounded

namespace Scene

/-! ### Lists of nodes -/

section Lists

variable (descend : String → Element → Traced ρ (Instance ρ)) (path : String) (row : Row Node)

/-- The instances around a node that is left out of a list of siblings. -/
def rowOf : Row (Instance ρ) :=
  row.mapIdx fun i node => (renderNode descend (childPath path i) node).value

theorem value_renderSiblings_fill (node : Node) :
    (renderSiblings descend path (row.fill node)).value
      = (rowOf descend path row).fill
          (renderNode descend (childPath path row.index) node).value := by
  rw [value_renderSiblings, Row.mapIdx_fill, rowOf]

theorem surrounded_renderSiblings :
    Surrounded (fun node => (renderSiblings descend path (row.fill node)).diagnostics)
      fun node => (renderNode descend (childPath path row.index) node).diagnostics := by
  let around : Row (List Diagnostic) :=
    row.mapIdx fun i node => (renderNode descend (childPath path i) node).diagnostics
  refine ⟨around.before.flatten, around.after.flatten, fun node => ?_⟩
  beta_reduce
  rw [diagnostics_renderSiblings, Row.mapIdx_fill, Row.flatten_fill]

variable (slots : Row (String × Content)) (name : String)

theorem value_renderSlots_fill (node : Node) :
    (renderSlots descend path (slots.fill (name, .nodes (row.fill node)))).value
      = (Row.mk (renderSlots descend path slots.before).value
            (renderSlots descend path slots.after).value).fill
          (name, (renderSiblings descend path (row.fill node)).value) := by
  simp only [value_renderSlots, Row.map_fill, renderContent]

theorem surrounded_renderSlots :
    Surrounded
      (fun node =>
        (renderSlots descend path (slots.fill (name, .nodes (row.fill node)))).diagnostics)
      fun node => (renderNode descend (childPath path row.index) node).diagnostics := by
  have outer : Surrounded
      (fun node =>
        (renderSlots descend path (slots.fill (name, .nodes (row.fill node)))).diagnostics)
      fun node => (renderSiblings descend path (row.fill node)).diagnostics := by
    refine ⟨(renderSlots descend path slots.before).diagnostics,
      (renderSlots descend path slots.after).diagnostics, fun node => ?_⟩
    simp only [diagnostics_renderSlots, List.flatMap_def, Row.map_fill, Row.flatten_fill,
      renderContent]
  exact outer.trans (surrounded_renderSiblings descend path row)

end Lists

/-! ### One level -/

section Level

/-- Of an element with a gap, only the key depends on the node in the gap. -/
theorem assembled_fill (scene : Scene ρ) (path : String) (gap : Gap) (node : Node)
    (slots : Fields (List (Instance ρ))) (children : List (Instance ρ)) :
    scene.assembled path (gap.fill node) slots children
      = { scene.assembled path gap.host slots children with
          key := (gap.fill node).effectiveKey path } := by
  cases gap <;> rfl

variable {scene : Scene ρ} (identity : scene.hooks = .none) (level : Nat) (path : String)

include identity

/-- What is reported about an element with a gap, apart from its slots and its children, does not
depend on the node in the gap. -/
theorem exists_diagnostics_fill (gap : Gap) :
    ∃ own, ∀ node, (scene.renderElement (level + 1) path (gap.fill node)).diagnostics
      = own
        ++ (renderSlots (scene.renderElement level) path (gap.fill node).openSlots).diagnostics
        ++ (renderChildren (scene.renderElement level) path ((gap.fill node).chosenChildren
            scene.settings.legacyPropsChildren)).diagnostics := by
  have anomalies := fun node => gap.anomalies_fill node (.text "")
  refine ⟨(if scene.settings.displayErrorMessage then
        (gap.fill (.text "")).anomalies.map fun anomaly => ⟨gap.host.component, path, anomaly⟩
      else [])
    ++ (if scene.settings.displayErrorMessage then
        (resolve gap.host.component scene.registry scene.settings).diagnostic.toList.map
          (·.atPath path)
      else []), fun node => ?_⟩
  rw [renderElement, diagnostics_expand, format_of_identity identity]
  simp only [Gap.component_fill, anomalies node]

/-- **An element with a gap renders to a shell**, which is filled with the key and with what the node
renders to one level deeper. The cases are the lists that the gap can be in. -/
theorem exists_shell (gap : Gap) :
    ∃ shell : Shell ρ, shell.step = gap.step ∧
      ∀ node, (scene.renderElement (level + 1) path (gap.fill node)).value
        = shell.fill ((gap.fill node).effectiveKey path)
            (renderNode (scene.renderElement level) (childPath path gap.step.index) node).value := by
  have assembled_fill := fun node slots children =>
    scene.assembled_fill path gap node slots children
  let descend := scene.renderElement level
  cases gap with
  | children host row =>
      let slots := renderSlots descend path host.openSlots
      refine ⟨.children (scene.assembled path host slots.value []) (rowOf descend path row),
        congrArg Step.child (Row.index_mapIdx _ _), fun node => ?_⟩
      rw [value_renderElement_succ identity, assembled_fill, Gap.chosenChildren_fill_children,
        Gap.openSlots_fill_children, renderChildren, renderContent, value_renderSiblings_fill]
      rfl
  | slot host slots name row isOpen =>
      let before := slots.before.filter fun slot => !Element.isReserved slot.1
      let after := slots.after.filter fun slot => !Element.isReserved slot.1
      let empty := (Gap.slot host slots name row isOpen).fill (.text "")
      let children := renderChildren descend path
        (empty.chosenChildren scene.settings.legacyPropsChildren)
      refine ⟨.slot (scene.assembled path host [] children.value)
        ⟨(renderSlots descend path before).value, (renderSlots descend path after).value⟩ name
        (rowOf descend path row), congrArg (Step.slot name) (Row.index_mapIdx _ _),
        fun node => ?_⟩
      rw [value_renderElement_succ identity, assembled_fill,
        Gap.chosenChildren_fill_slot _ node (.text ""), Gap.openSlots_fill_slot,
        value_renderSlots_fill, value_renderSiblings_fill]
      rfl
  | childrenSlot host slots row undeclared first =>
      let others := (slots.before ++ slots.after).filter fun slot => !Element.isReserved slot.1
      refine ⟨.children (scene.assembled path host (renderSlots descend path others).value [])
        (rowOf descend path row), congrArg Step.child (Row.index_mapIdx _ _), fun node => ?_⟩
      rw [value_renderElement_succ identity, assembled_fill,
        Gap.chosenChildren_fill_childrenSlot, Gap.openSlots_fill_childrenSlot, renderChildren,
        renderContent, value_renderSiblings_fill]
      rfl

/-- **What is reported about the node in a gap is part of what is reported about the element**, and
nothing else of it depends on the node. -/
theorem surrounded_fill (gap : Gap) :
    Surrounded (fun node => (scene.renderElement (level + 1) path (gap.fill node)).diagnostics)
      fun node =>
        (renderNode (scene.renderElement level) (childPath path gap.step.index) node).diagnostics
    := by
  obtain ⟨own, diagnostics⟩ := exists_diagnostics_fill identity level path gap
  let descend := scene.renderElement level
  cases gap with
  | children host row =>
      let slots := renderSlots descend path host.openSlots
      refine Surrounded.trans ⟨own ++ slots.diagnostics, [], fun node => ?_⟩
        (surrounded_renderSiblings descend path row)
      rw [List.append_nil]
      exact diagnostics node
  | slot host slots name row isOpen =>
      let before := slots.before.filter fun slot => !Element.isReserved slot.1
      let after := slots.after.filter fun slot => !Element.isReserved slot.1
      let empty := (Gap.slot host slots name row isOpen).fill (.text "")
      let children := renderChildren descend path
        (empty.chosenChildren scene.settings.legacyPropsChildren)
      refine Surrounded.trans ⟨own, children.diagnostics, fun node => ?_⟩
        (surrounded_renderSlots descend path row ⟨before, after⟩ name)
      beta_reduce
      rw [diagnostics, Gap.chosenChildren_fill_slot _ node (.text ""), Gap.openSlots_fill_slot]
  | childrenSlot host slots row undeclared first =>
      let others := (slots.before ++ slots.after).filter fun slot => !Element.isReserved slot.1
      let rendered := renderSlots descend path others
      refine Surrounded.trans ⟨own ++ rendered.diagnostics, [], fun node => ?_⟩
        (surrounded_renderSiblings descend path row)
      beta_reduce
      rw [List.append_nil, diagnostics, Gap.chosenChildren_fill_childrenSlot,
        Gap.openSlots_fill_childrenSlot]
      rfl

end Level

/-! ### Gaps one inside the other -/

section Levels

variable {scene : Scene ρ} (identity : scene.hooks = .none) (level : Nat)

include identity

/-- Elements with gaps, one inside the other, render to shells one inside the other. The induction
takes off the outermost. -/
theorem exists_shells (gaps : List Gap) (path : String) :
    ∃ shells : List (Shell ρ), shells.map Shell.step = gaps.map Gap.step ∧
      ∀ node,
        (renderNode (scene.renderElement (level + gaps.length)) path (Gap.nest gaps node)).value
          = Shell.nest shells (Gap.keysAt path gaps node)
              (renderNode (scene.renderElement level)
                ((gaps.map (·.step.index)).foldl childPath path) node).value := by
  induction gaps generalizing path with
  | nil => exact ⟨[], rfl, fun _ => rfl⟩
  | cons gap gaps ih =>
      obtain ⟨shell, step, value⟩ :=
        exists_shell identity (level + gaps.length) path gap
      obtain ⟨shells, steps, values⟩ := ih (childPath path gap.step.index)
      refine ⟨shell :: shells, by rw [List.map_cons, List.map_cons, step, steps], fun node => ?_⟩
      have outer := value (Gap.nest gaps node)
      rw [values node] at outer
      exact outer

theorem surrounded_nest (gaps : List Gap) (path : String) :
    Surrounded
      (fun node => (renderNode (scene.renderElement (level + gaps.length)) path
        (Gap.nest gaps node)).diagnostics)
      fun node => (renderNode (scene.renderElement level)
        ((gaps.map (·.step.index)).foldl childPath path) node).diagnostics := by
  induction gaps generalizing path with
  | nil => exact .refl _
  | cons gap gaps ih =>
      have outer := surrounded_fill identity (level + gaps.length) path gap
      exact (outer.comp (Gap.nest gaps)).trans (ih (childPath path gap.step.index))

end Levels

end Scene

/-! ### Documents -/

/-- **What is wrong with a node is contained.** Without hooks, whatever the settings are: every node
that occurs in the document is what fills an opening at its address. An opening within the greatest
depth renders to a frame that is open at the same address, and diagnostics that have the same before
and after: whatever node fills the opening, the tree is the frame filled with the instance of the
node and with the keys of the elements around it, of which the declared ones stay the same; and the
diagnostics are those of the node alone, with what is before and after. -/
theorem replacement_contained (r : Renderer ρ) (identity : r.hooks = .none) :
    (∀ address node, Node.Occurs r.roots address node →
        ∃ opening : Opening, opening.fill node = r.roots ∧ opening.address = address) ∧
      ∀ opening : Opening, opening.gaps.length ≤ r.settings.maxDepth →
        ∃ (frame : Frame ρ) (before after : List Diagnostic), frame.address = opening.address ∧
          ∀ node,
            let filled : Renderer ρ := { r with roots := opening.fill node }
            let own := Scene.renderNode
              (r.toScene.renderElement (r.settings.maxDepth - opening.gaps.length)) opening.path
              node
            filled.tree = frame.fill (opening.keys node) own.value ∧
              (∀ (m : Nat) gap key, opening.gaps[m]? = some gap → gap.host.key = some key →
                (opening.keys node)[m]? = some key) ∧
              filled.diagnostics = before ++ own.diagnostics ++ after := by
  refine ⟨fun _ _ => Opening.exists_of_occurs, fun opening visited => ?_⟩
  have plain : r.hooks.Undecorated := identity ▸ Hooks.undecorated_none
  let level := r.settings.maxDepth - opening.gaps.length
  let outermost := childPath "" opening.top.index
  have levels : level + opening.gaps.length = r.settings.maxDepth := Nat.sub_add_cancel visited
  have path : opening.path = (opening.gaps.map (·.step.index)).foldl childPath outermost := by
    rw [Opening.path, Opening.address, List.map_cons, List.map_map]
    rfl
  let descend := r.toScene.renderElement r.settings.maxDepth
  obtain ⟨shells, steps, values⟩ := Scene.exists_shells identity level opening.gaps outermost
  have siblings := Scene.surrounded_renderSiblings descend "" opening.top
  have nested := Scene.surrounded_nest identity level opening.gaps outermost
  rw [levels] at values nested
  obtain ⟨before, after, diagnostics⟩ := (siblings.comp (Gap.nest opening.gaps)).trans nested
  refine ⟨⟨Scene.rowOf descend "" opening.top, shells⟩, before, after, ?_, fun node => ⟨?_, ?_, ?_⟩⟩
  · rw [Frame.address, Opening.address, steps, Scene.rowOf, Row.index_mapIdx]
  · have value := Scene.value_renderSiblings_fill descend "" opening.top
      (Gap.nest opening.gaps node)
    rw [values node, ← path] at value
    rw [Renderer.tree, Renderer.render, Scene.value_renderRoots plain, Opening.fill, value]
    rfl
  · exact fun m gap key here declared => Gap.getElem?_keysAt_of_key here declared
  · rw [path, Renderer.diagnostics, Renderer.render, Scene.diagnostics_renderRoots]
    exact diagnostics node

/-- The children of an element with a declared key, in a slot of an element without one. What fills
the opening is past the greatest depth if it is an element. -/
theorem replacement_contained_nested :
    let item : Gap := .children { component := "li", key := some "first" } ⟨[], [.text "rest"]⟩
    let card : Gap := .slot { component := "card" } ⟨[], [("key", .text "ignored")]⟩ "body"
      ⟨[.text "intro"], []⟩ rfl
    let opening : Opening := ⟨⟨[.text "title"], []⟩, [card, item]⟩
    let r : Renderer String :=
      { registry := {}
        settings := { maxDepth := 2 }
        hooks := .none
        roots := opening.fill (.element { component := "old" }) }
    let address : List Step := [.child 1, .slot "body" 1, .child 0]
    opening.path = "1.1.0" ∧ Node.Occurs r.roots address (.element { component := "old" }) ∧
      ∃ (frame : Frame String) (before after : List Diagnostic), frame.address = address ∧
        ∀ node,
          let filled : Renderer String := { r with roots := opening.fill node }
          let own := Scene.renderNode (r.toScene.renderElement 0) opening.path node
          filled.tree = frame.fill (opening.keys node) own.value ∧
            (opening.keys node)[1]? = some "first" ∧
            filled.diagnostics = before ++ own.diagnostics ++ after := by
  intro item card opening r address
  have occurs : Node.Occurs r.roots address (.element { component := "old" }) :=
    ((Node.Occurs.root rfl).within (.slot List.mem_cons_self rfl)).within
      (.children rfl rfl)
  obtain ⟨frame, before, after, same, filled⟩ :=
    (replacement_contained r rfl).2 opening (by decide)
  refine ⟨by decide, occurs, frame, before, after, same, fun node => ?_⟩
  obtain ⟨tree, keys, diagnostics⟩ := filled node
  exact ⟨tree, keys 1 item "first" rfl rfl, diagnostics⟩

end ComponentTree
