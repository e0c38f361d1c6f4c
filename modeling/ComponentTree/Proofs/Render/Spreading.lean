import Mathlib.Data.List.Forall2
import ComponentTree.Spreader
import ComponentTree.Proofs.Node.Roundtrip
import ComponentTree.Proofs.Render.Visits
import ComponentTree.Proofs.Tree.Unwrap

/-!
A render with a spreader, beside the render of the same document without hooks. The spread tree has
wrappers at every level, also in the slots and children of what is wrapped. It is compared with the
plain tree once the wrappers are taken off, and the wrappers are compared with the visits of the
plain tree.

* `Spreader.Wraps` — what the wrapper of a visited element is.
* `Spreader.Spread`, `Spreader.SpreadSlots` — spread instances beside plain ones, with the visits of
  the latter; closed under joining lists, which carries it through slots, siblings and levels.
* `Spreader.spread_wrap` — one element, given what its slots and children hold in both trees.
* `unwrap_spread` — whole documents.
-/

namespace ComponentTree

variable {ρ : Type}

/-- The renderer with other hooks. -/
def Renderer.withHooks (r : Renderer ρ) (hooks : Hooks ρ) : Renderer ρ :=
  { r with hooks }

/-- Whether the element of a visit renders anything. -/
def Visit.renders (v : Visit ρ) : Bool :=
  !v.element.renderable.isNull

namespace Spreader

/-- The element that renders with the component of the group instead of its own, if there is a group
and if it renders anything. -/
def regroup (s : Spreader ρ) (e : RenderedElement ρ) : RenderedElement ρ :=
  match s.group with
  | none => e
  | some reference =>
    if e.renderable.isNull then e else { e with renderable := .component reference }

/-- What the wrapper of a visited element is. -/
structure Wraps (s : Spreader ρ) (w : RenderedElement ρ) (v : Visit ρ) : Prop where
  component : w.component = s.name
  renderable : w.renderable = .component s.wrapper
  key : w.key = v.element.key
  /-- One prop is the declared name, the other decodes to the node. -/
  props : ∃ fields,
    w.props = [("component", .string v.element.component), ("data", .object fields)] ∧
      Element.ofFields fields = v.node
  slots : w.slots = []
  only : ∃ inner, w.children = [.element inner]
  /-- It stands for the visited element. -/
  unwrap : (Instance.element w).unwrap
    = (Instance.element v.element).mapElements (fun _ => s.regroup) v.depth

/-- Spread instances beside the plain ones, which stand at a depth and have the given visits.
Without the wrappers they are the same up to the group, and the wrappers are those of the visited
elements that render anything, one for each of them, in order. -/
structure Spread (s : Spreader ρ) (depth : Nat) (visits : List (Visit ρ))
    (spread plain : List (Instance ρ)) : Prop where
  unwrap : spread.map Instance.unwrap = plain.map (·.mapElements (fun _ => s.regroup) depth)
  wrappers : List.Forall₂ s.Wraps (spread.flatMap Instance.wrappers) (visits.filter Visit.renders)

/-- Slots with spread instances beside the plain ones. -/
structure SpreadSlots (s : Spreader ρ) (depth : Nat) (visits : List (Visit ρ))
    (spread plain : Fields (List (Instance ρ))) : Prop where
  unwrap : spread.map (fun slot => (slot.1, slot.2.map Instance.unwrap))
    = plain.map fun slot => (slot.1, slot.2.map (·.mapElements (fun _ => s.regroup) depth))
  wrappers : List.Forall₂ s.Wraps (spread.flatMap fun slot => slot.2.flatMap Instance.wrappers)
    (visits.filter Visit.renders)

variable {s : Spreader ρ} {depth : Nat}

section Closure

variable {visits visits' : List (Visit ρ)}

namespace Spread

variable {spread spread' plain plain' : List (Instance ρ)}

theorem nil : s.Spread depth [] [] [] :=
  ⟨rfl, .nil⟩

theorem text (value : String) : s.Spread depth [] [.text value] [.text value] :=
  ⟨by simp [Instance.unwrap], by simp [Instance.wrappers]⟩

theorem append (h : s.Spread depth visits spread plain)
    (h' : s.Spread depth visits' spread' plain') :
    s.Spread depth (visits ++ visits') (spread ++ spread') (plain ++ plain') where
  unwrap := by rw [List.map_append, List.map_append, h.unwrap, h'.unwrap]
  wrappers := by
    rw [List.flatMap_append, List.filter_append]
    exact List.rel_append h.wrappers h'.wrappers

/-- Siblings are spread when each of them is. -/
theorem flatten_mapIdx {α : Type} {visits : Nat → α → List (Visit ρ)}
    {spread plain : Nat → α → Instance ρ}
    (each : ∀ i a, s.Spread depth (visits i a) [spread i a] [plain i a]) (list : List α) :
    s.Spread depth (list.mapIdx visits).flatten (list.mapIdx spread) (list.mapIdx plain) := by
  induction list generalizing visits spread plain with
  | nil => exact nil
  | cons a rest ih =>
      simp only [List.mapIdx_cons, List.flatten_cons]
      exact (each 0 a).append (ih fun i => each (i + 1))

end Spread

namespace SpreadSlots

variable {spread plain : Fields (List (Instance ρ))}

theorem nil : s.SpreadSlots depth [] [] [] :=
  ⟨rfl, .nil⟩

theorem cons (name : String) {instances instances' : List (Instance ρ)}
    (h : s.Spread depth visits instances instances')
    (h' : s.SpreadSlots depth visits' spread plain) :
    s.SpreadSlots depth (visits ++ visits') ((name, instances) :: spread)
      ((name, instances') :: plain) where
  unwrap := by rw [List.map_cons, List.map_cons, h.unwrap, h'.unwrap]
  wrappers := by
    rw [List.flatMap_cons, List.filter_append]
    exact List.rel_append h.wrappers h'.wrappers

end SpreadSlots

end Closure

/-! ### One element -/

section Element

variable {e : RenderedElement ρ}

theorem regroup_of_isNull (null : e.renderable.isNull = true) : s.regroup e = e := by
  unfold regroup
  cases s.group with
  | none => rfl
  | some reference => exact if_pos null

/-- With a group, what renders anything renders with its component. -/
theorem regroup_of_not_isNull (present : e.renderable.isNull = false) :
    s.regroup e
      = { e with renderable := (s.group.map Renderable.component).getD e.renderable } := by
  unfold regroup
  cases s.group with
  | none => cases e; rfl
  | some reference =>
      rw [present]
      rfl

variable {visits visits' : List (Visit ρ)} {slots : Fields (List (Instance ρ))}
  {children : List (Instance ρ)} (hslots : s.SpreadSlots (depth + 1) visits slots e.slots)
  (hchildren : s.Spread (depth + 1) visits' children e.children)

include hslots hchildren

/-- Without its wrapper, what was wrapped is the plain element with the component of the group. -/
theorem unwrap_around (present : e.renderable.isNull = false) (node : Element) :
    (Instance.element (s.around { e with slots, children } node)).unwrap
      = (Instance.element e).mapElements (fun _ => s.regroup) depth := by
  rw [unwrap_wrapper rfl rfl, mapElements_element, ← hslots.unwrap, ← hchildren.unwrap]
  refine congrArg Instance.element (Eq.symm ?_)
  exact regroup_of_not_isNull present

/-- What renders nothing is the plain element once the wrappers in it are taken off. -/
theorem unwrap_bare (null : e.renderable = .null) :
    (Instance.element { e with slots, children }).unwrap
      = (Instance.element e).mapElements (fun _ => s.regroup) depth := by
  have bare : ({ e with slots, children } : RenderedElement ρ).renderable = .null := null
  rw [unwrap_null bare, mapElements_element, ← hslots.unwrap, ← hchildren.unwrap]
  refine congrArg Instance.element (Eq.symm ?_)
  exact regroup_of_isNull (congrArg Renderable.isNull null)

/-- The wrappers in slots and children are those of the visits in them. -/
theorem wrappers_below :
    List.Forall₂ s.Wraps
      ((slots.flatMap fun slot => slot.2.flatMap Instance.wrappers)
        ++ children.flatMap Instance.wrappers) ((visits ++ visits').filter Visit.renders) := by
  rw [List.filter_append]
  exact List.rel_append hslots.wrappers hchildren.wrappers

/-- **One element.** It is wrapped if it renders anything and left as it is otherwise. Either way
its slots and children were spread before, and are compared with the plain ones. -/
theorem spread_wrap (path : String) (node : Element) :
    s.Spread depth (⟨⟨depth, path, e⟩, node⟩ :: (visits ++ visits'))
      [s.wrap (.element { e with slots, children }) node] [.element e] := by
  have below := wrappers_below hslots hchildren
  cases present : e.renderable.isNull with
  | true =>
      have null := Renderable.eq_null_of_isNull present
      have bare : ({ e with slots, children } : RenderedElement ρ).renderable = .null := null
      have left : s.wrap (.element { e with slots, children }) node
          = .element { e with slots, children } := if_pos present
      rw [left]
      constructor
      · rw [List.map_singleton, List.map_singleton, unwrap_bare hslots hchildren null]
      · rw [List.flatMap_singleton, wrappers_null bare,
          List.filter_cons_of_neg (by simp [Visit.renders, present])]
        exact below
  | false =>
      have unwrapped := unwrap_around hslots hchildren present node
      have wrapped : s.wrap (.element { e with slots, children }) node
          = .element (s.around { e with slots, children } node) :=
        if_neg (present ▸ Bool.false_ne_true)
      rw [wrapped]
      constructor
      · rw [List.map_singleton, List.map_singleton, unwrapped]
      · rw [List.flatMap_singleton, wrappers_wrapper rfl rfl,
          List.filter_cons_of_pos (by simp [Visit.renders, present])]
        refine .cons ⟨rfl, rfl, rfl, ?_, rfl, ⟨_, rfl⟩, unwrapped⟩ below
        obtain ⟨fields, written, read⟩ := node.exists_fields_toJson .byName
        exact ⟨fields, by rw [← written]; rfl, read⟩

end Element

/-! ### Whole documents -/

section Lists

open Scene

variable {legacy : Bool} {descend descend' : String → Element → Traced ρ (Instance ρ)}
  {path : String}
  (below : ∀ path e,
    s.Spread depth ((descend' path e).value.visitsAt legacy depth path (.element e))
      [(descend path e).value] [(descend' path e).value])

include below

theorem spread_renderNode (path : String) (node : Node) :
    s.Spread depth ((renderNode descend' path node).value.visitsAt legacy depth path node)
      [(renderNode descend path node).value] [(renderNode descend' path node).value] := by
  cases node with
  | text value =>
      rw [renderNode, Traced.value_silent, visitsAt_text]
      exact .text value
  | element e => exact below path e

theorem spread_renderSiblings (nodes : List Node) :
    s.Spread depth
      (Instance.visitsIn legacy depth path 0 (renderSiblings descend' path nodes).value nodes)
      (renderSiblings descend path nodes).value (renderSiblings descend' path nodes).value := by
  rw [visitsIn_renderSiblings, value_renderSiblings, value_renderSiblings]
  exact .flatten_mapIdx (fun i node => spread_renderNode below (childPath path i) node) nodes

theorem spread_renderContent (content : Content) :
    s.Spread depth
      (Instance.visitsIn legacy depth path 0 (renderContent descend' path content).value
        content.members)
      (renderContent descend path content).value (renderContent descend' path content).value := by
  cases content with
  | text value =>
      simp only [renderContent, Content.members, Traced.value_silent, Instance.visitsIn,
        visitsAt_text, List.nil_append]
      exact .text value
  | nodes items => exact spread_renderSiblings below items

theorem spread_renderChildren (content : Option Content) :
    s.Spread depth
      (Instance.visitsIn legacy depth path 0 (renderChildren descend' path content).value
        (content.elim [] Content.members))
      (renderChildren descend path content).value (renderChildren descend' path content).value := by
  cases content with
  | none => exact .nil
  | some content => exact spread_renderContent below content

theorem spread_renderSlots (slots : Fields Content) :
    s.SpreadSlots depth
      (Instance.slotVisits legacy depth path (renderSlots descend' path slots).value slots)
      (renderSlots descend path slots).value (renderSlots descend' path slots).value := by
  rw [slotVisits_renderSlots, value_renderSlots, value_renderSlots]
  induction slots with
  | nil => exact .nil
  | cons slot rest ih =>
      rw [List.flatMap_cons, List.map_cons, List.map_cons]
      exact .cons slot.1 (spread_renderContent below slot.2) ih

end Lists

/-- One element with everything in it. The induction is on the levels that are left. -/
theorem spread_renderElement (r : Renderer ρ) (level : Nat) (path : String) (e : Element) :
    s.Spread depth
      (((r.withHooks .none).renderElement level path e).value.visitsAt
        r.settings.legacyPropsChildren depth path (.element e))
      [((r.withHooks s.toHooks).renderElement level path e).value]
      [((r.withHooks .none).renderElement level path e).value] := by
  induction level generalizing depth path e with
  | zero =>
      have value :=
        @Scene.value_renderElement_zero ρ (r.withHooks .none).toScene rfl path e
      rw [value, visitsAt_element]
      exact spread_wrap .nil .nil path e
  | succ level ih =>
      have value :=
        @Scene.value_renderElement_succ ρ (r.withHooks .none).toScene rfl level path e
      rw [value, visitsAt_element]
      exact spread_wrap (spread_renderSlots ih e.openSlots)
        (spread_renderChildren ih (e.chosenChildren r.settings.legacyPropsChildren)) path e

/-- The roots of a document. -/
theorem spread_render (r : Renderer ρ) :
    s.Spread 1 (r.withHooks .none).visits (r.withHooks s.toHooks).tree.children
      (r.withHooks .none).tree.children :=
  spread_renderSiblings (spread_renderElement r r.settings.maxDepth) r.roots

end Spreader

/-- **Spreading only adds wrappers.** Render a document with a spreader and without hooks. The same
is reported. With every wrapper replaced by its only child, from the outside in, the spread tree is
the plain one; with a group it is the plain one in which every element that renders anything renders
with the component of the group. There is one wrapper for each visited element of the plain tree
that renders anything, in order, and the visited elements are all the elements of that tree. Those
past the greatest depth render nothing, so they have none. -/
theorem unwrap_spread (r : Renderer ρ) (s : Spreader ρ) :
    let plain := r.withHooks .none
    let spread := r.withHooks s.toHooks
    spread.diagnostics = plain.diagnostics ∧
      (s.group = none → spread.tree.unwrap = plain.tree) ∧
      spread.tree.unwrap = plain.tree.mapElements (fun _ => s.regroup) 1 ∧
      plain.visits.map (·.toPlace) = plain.tree.places ∧
      List.Forall₂ s.Wraps spread.tree.wrappers (plain.visits.filter Visit.renders) ∧
      ∀ v ∈ plain.visits, v.depth = r.settings.maxDepth + 1 → v.renders = false := by
  intro plain spread
  have roots := @Spreader.spread_render ρ s r
  have unwrap : spread.tree.unwrap = plain.tree.mapElements (fun _ => s.regroup) 1 := by
    change Instance.unwrap (.fragment spread.tree.children)
      = Instance.mapElements _ 1 (.fragment plain.tree.children)
    rw [Instance.unwrap, unwrapIn_eq_map, mapElements_fragment, roots.unwrap]
  refine ⟨@Scene.diagnostics_renderRoots_congr ρ spread.toScene plain.toScene rfl rfl rfl r.roots,
    fun ungrouped => ?_, unwrap, visits_eq_places plain rfl, ?_, fun v hv deep => ?_⟩
  · rw [unwrap]
    refine mapElements_of_fixed (fun _ e => ?_) _ _
    rw [Spreader.regroup, ungrouped]
  · change List.Forall₂ s.Wraps (Instance.wrappers (.fragment spread.tree.children)) _
    rw [Instance.wrappers, wrappersIn_eq_flatMap]
    exact roots.wrappers
  · have cut := (rendered_of_mem_visits plain rfl v hv).truncated rfl deep
    rw [Visit.renders, cut]
    rfl

/-- A component with a tag in a slot; among its children is an element that renders nothing, and in
that one an element past the greatest depth. Two of the four are wrapped. -/
theorem unwrap_spread_nested :
    let r : Renderer String :=
      { registry := .ofEntries .preserve [("Card", "card")]
        settings := { allowUnsecureHtmlElement := true, maxDepth := 2 }
        hooks := .none
        roots := [.element
          { component := "Card"
            key := some "c"
            children := some (.nodes
              [.text "body",
                .element
                  { component := "Missing"
                    key := some "m"
                    children := some (.nodes
                      [.element { component := "Card", key := some "d" }]) }])
            slots := [("header", .nodes [.element { component := "hr", key := some "h" }])] }] }
    let s : Spreader String := { name := "Spread", wrapper := "spread" }
    let spread := (r.withHooks s.toHooks).tree
    let plain := (r.withHooks .none).tree
    s.group = none ∧ spread.unwrap = plain ∧ plain.places.length = 4 ∧
      (spread.wrappers.map (·.key) = ["c", "h"]) ∧
      ∃ v ∈ (r.withHooks .none).visits, v.depth = 3 ∧ v.element.key = "d" ∧ v.renders = false := by
  intro r s spread plain
  have whole := unwrap_spread r s
  have member : ((r.withHooks .none).visits.getLast (by decide)) ∈ (r.withHooks .none).visits :=
    List.getLast_mem _
  exact ⟨rfl, whole.2.1 rfl, by decide, by decide, _, member, by decide, by decide,
    whole.2.2.2.2.2 _ member (by decide)⟩

end ComponentTree
