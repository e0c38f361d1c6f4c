import ComponentTree.Proofs.Render.Visits
import ComponentTree.Proofs.Node.Sources

/-!
Children that are written as text. In legacy mode a prop `children` is one text instead of nodes.
That makes a difference where the prop is the first declared source of children and holds an array
or an object, and nowhere else.

* `Element.structuredChildren?` — the array or object where it makes a difference;
  `chosenChildren_legacy` — and what is rendered as children then.
* `Instance.mapAlong` — a tree with every element replaced, with a look at the element of the
  document that it came from; `value_renderElement_legacy` — the tree in legacy mode is the other
  tree replaced so.
* `Trail` — a visit with the elements in whose children it stands; `accounts_trailsIn` — what is
  reported in legacy mode is what is reported outside of the children that are replaced.
* `render_legacy` — whole documents.
-/

namespace ComponentTree

variable {ρ : Type}

/-! ### Where it makes a difference -/

/-- Whether a value is an array or an object. -/
def Json.isStructured : Json → Bool
  | .array _ | .object _ => true
  | .null | .bool _ | .number _ | .string _ => false

namespace Element

/-- The array or object under `children` among the props, if that is the first declared source of
children. -/
def structuredChildren? (e : Element) : Option Json :=
  if e.childrenSources.head? = some .props then
    (e.prop? "children").filter Json.isStructured
  else none

/-- In legacy mode an array or object is one text, and everything else is rendered as it is
otherwise. -/
theorem chosenChildren_legacy (e : Element) :
    e.chosenChildren true
      = match e.structuredChildren? with
        | some value => some (.text value.text)
        | none => e.chosenChildren false := by
  rw [chosenChildren_eq_head?, chosenChildren_eq_head?, structuredChildren?]
  cases e.childrenSources.head? with
  | none => rfl
  | some source =>
      cases source with
      | root => rfl
      | renderProps => rfl
      | props =>
          rw [if_pos rfl, Option.bind_some, Option.bind_some, contentAt, contentAt]
          cases e.prop? "children" with
          | none => rfl
          | some value => cases value <;> rfl

end Element

/-! ### Replacing elements along a document -/

mutual

/-- The tree at a depth with every element replaced, those inside an element before it, given the
element of the document that it came from. Slots are paired in order, children with what is chosen
as children. -/
def Instance.mapAlong (legacy : Bool)
    (f : Nat → Element → RenderedElement ρ → RenderedElement ρ) (depth : Nat) :
    Instance ρ → Node → Instance ρ
  | .element ⟨component, renderable, key, props, slots, children⟩, .element node =>
    .element (f depth node
      ⟨component, renderable, key, props,
        Instance.mapSlotsAlong legacy f (depth + 1) slots node.openSlots,
        Instance.mapListAlong legacy f (depth + 1) children
          ((node.chosenChildren legacy).elim [] Content.members)⟩)
  | i, _ => i

/-- Siblings with every element replaced, along as many nodes. -/
def Instance.mapListAlong (legacy : Bool)
    (f : Nat → Element → RenderedElement ρ → RenderedElement ρ) (depth : Nat) :
    List (Instance ρ) → List Node → List (Instance ρ)
  | child :: rest, node :: nodes =>
    child.mapAlong legacy f depth node :: Instance.mapListAlong legacy f depth rest nodes
  | list, _ => list

/-- Slots with every element replaced, along as many slots. -/
def Instance.mapSlotsAlong (legacy : Bool)
    (f : Nat → Element → RenderedElement ρ → RenderedElement ρ) (depth : Nat) :
    List (String × List (Instance ρ)) → List (String × Content) →
      List (String × List (Instance ρ))
  | (name, instances) :: rest, (_, content) :: contents =>
    (name, Instance.mapListAlong legacy f depth instances content.members)
      :: Instance.mapSlotsAlong legacy f depth rest contents
  | slots, _ => slots

end

section Equations

variable {legacy : Bool} {f : Nat → Element → RenderedElement ρ → RenderedElement ρ} {depth : Nat}

@[simp] theorem mapAlong_text (value : String) (node : Node) :
    (Instance.text value : Instance ρ).mapAlong legacy f depth node = .text value := by
  rw [Instance.mapAlong]
  exact fun _ _ _ _ _ _ _ h => nomatch h

theorem mapAlong_element (e : RenderedElement ρ) (node : Element) :
    (Instance.element e).mapAlong legacy f depth (.element node)
      = .element (f depth node
          { e with
            slots := Instance.mapSlotsAlong legacy f (depth + 1) e.slots node.openSlots
            children := Instance.mapListAlong legacy f (depth + 1) e.children
              ((node.chosenChildren legacy).elim [] Content.members) }) := by
  cases e
  rw [Instance.mapAlong]

theorem mapListAlong_nil (nodes : List Node) :
    Instance.mapListAlong legacy f depth [] nodes = [] := by
  cases nodes <;> rfl

theorem mapSlotsAlong_nil (contents : Fields Content) :
    Instance.mapSlotsAlong legacy f depth [] contents = [] := by
  cases contents <;> rfl

/-- When the instances are made of the nodes one by one, they are replaced one by one. -/
theorem mapListAlong_mapIdx (make : Nat → Node → Instance ρ) (nodes : List Node) :
    Instance.mapListAlong legacy f depth (nodes.mapIdx make) nodes
      = nodes.mapIdx fun i node => (make i node).mapAlong legacy f depth node := by
  induction nodes generalizing make with
  | nil => rfl
  | cons node rest ih =>
      rw [List.mapIdx_cons, Instance.mapListAlong, ih, List.mapIdx_cons]

end Equations

/-! ### The tree -/

/-- An element on a level whose children are an array or object holds its text instead; nothing
else of it changes, and no other element does. -/
def RenderedElement.literalized (limit depth : Nat) (node : Element) (e : RenderedElement ρ) :
    RenderedElement ρ :=
  match node.structuredChildren? with
  | some value => if depth ≤ limit then { e with children := [.text value.text] } else e
  | none => e

section Literalized

variable {limit depth : Nat} {node : Element} (e : RenderedElement ρ)

theorem literalized_of_lt (deep : limit < depth) : e.literalized limit depth node = e := by
  unfold RenderedElement.literalized
  split
  · exact if_neg (by omega)
  · rfl

theorem literalized_of_some {value : Json} (structured : node.structuredChildren? = some value)
    (within : depth ≤ limit) :
    e.literalized limit depth node = { e with children := [.text value.text] } := by
  rw [RenderedElement.literalized, structured]
  exact if_pos within

theorem literalized_of_none (other : node.structuredChildren? = none) :
    e.literalized limit depth node = e := by
  rw [RenderedElement.literalized, other]

end Literalized

namespace Scene

section Lists

variable {f : Nat → Element → RenderedElement ρ → RenderedElement ρ} {legacy : Bool} {depth : Nat}
  {descend descend' : String → Element → Traced ρ (Instance ρ)}
  (below : ∀ path e, (descend path e).value
    = (descend' path e).value.mapAlong legacy f depth (.element e))

include below

theorem value_renderNode_along (path : String) (node : Node) :
    (renderNode descend path node).value
      = (renderNode descend' path node).value.mapAlong legacy f depth node := by
  cases node with
  | text value => exact (mapAlong_text value _).symm
  | element e => exact below path e

theorem value_renderSiblings_along (path : String) (nodes : List Node) :
    (renderSiblings descend path nodes).value
      = Instance.mapListAlong legacy f depth (renderSiblings descend' path nodes).value nodes := by
  rw [value_renderSiblings, value_renderSiblings, mapListAlong_mapIdx]
  simp only [value_renderNode_along below]

theorem value_renderContent_along (path : String) (content : Content) :
    (renderContent descend path content).value
      = Instance.mapListAlong legacy f depth (renderContent descend' path content).value
          content.members := by
  cases content with
  | text value => simp [renderContent, Content.members, Instance.mapListAlong]
  | nodes items => exact value_renderSiblings_along below path items

theorem value_renderChildren_along (path : String) (content : Option Content) :
    (renderChildren descend path content).value
      = Instance.mapListAlong legacy f depth (renderChildren descend' path content).value
          (content.elim [] Content.members) := by
  cases content with
  | none => rfl
  | some content => exact value_renderContent_along below path content

theorem value_renderSlots_along (path : String) (slots : Fields Content) :
    (renderSlots descend path slots).value
      = Instance.mapSlotsAlong legacy f depth (renderSlots descend' path slots).value slots := by
  rw [value_renderSlots, value_renderSlots]
  induction slots with
  | nil => rfl
  | cons slot rest ih =>
      rw [List.map_cons, List.map_cons, Instance.mapSlotsAlong, ih,
        value_renderContent_along below]

end Lists

/-- The scene in legacy mode or out of it. -/
def withLegacy (scene : Scene ρ) (legacy : Bool) : Scene ρ :=
  { scene with settings := { scene.settings with legacyPropsChildren := legacy } }

variable (scene : Scene ρ) (identity : scene.hooks = .none)

include identity

/-- **One element with everything in it.** The induction is on the levels that are left, which with
the depth of the element make up the greatest depth and one more. -/
theorem value_renderElement_legacy {level depth : Nat}
    (total : depth + level = scene.settings.maxDepth + 1) (path : String) (e : Element) :
    ((scene.withLegacy true).renderElement level path e).value
      = ((scene.withLegacy false).renderElement level path e).value.mapAlong false
          (RenderedElement.literalized scene.settings.maxDepth) depth (.element e) := by
  have identityOn : (scene.withLegacy true).hooks = .none := identity
  have identityOff : (scene.withLegacy false).hooks = .none := identity
  induction level generalizing depth path e with
  | zero =>
      rw [value_renderElement_zero identityOn, value_renderElement_zero identityOff,
        mapAlong_element, literalized_of_lt _ (by omega)]
      simp only [RenderedElement.empty, mapListAlong_nil, mapSlotsAlong_nil]
  | succ level ih =>
      have below := @ih (depth + 1) (by omega)
      have chosen := e.chosenChildren_legacy
      rw [value_renderElement_succ identityOn, value_renderElement_succ identityOff,
        mapAlong_element, value_renderSlots_along below]
      cases structured : e.structuredChildren? with
      | some value =>
          rw [structured] at chosen
          rw [literalized_of_some _ structured (by omega)]
          change Instance.element (scene.assembled path e _
            (renderChildren _ path (e.chosenChildren true)).value) = _
          rw [chosen]
          rfl
      | none =>
          rw [structured] at chosen
          rw [literalized_of_none _ structured]
          change Instance.element (scene.assembled path e _
            (renderChildren _ path (e.chosenChildren true)).value) = _
          rw [chosen, value_renderChildren_along below]
          rfl

end Scene

/-! ### What is reported inside of children -/

/-- A visit together with the elements of the document in whose children it stands, at any depth,
innermost first. An element that holds it in a slot is not among them. -/
structure Trail (ρ : Type) extends Visit ρ where
  through : List Element

mutual

/-- The visits of an instance that came from a node, each with the elements in whose children it
stands; those of the instance itself are given. -/
def Instance.trailsAt (legacy : Bool) (through : List Element) (depth : Nat) (path : String) :
    Instance ρ → Node → List (Trail ρ)
  | .element ⟨component, renderable, key, props, slots, children⟩, .element node =>
    ⟨⟨⟨depth, path, ⟨component, renderable, key, props, slots, children⟩⟩, node⟩, through⟩
      :: (Instance.slotTrails legacy through (depth + 1) path slots node.openSlots
        ++ Instance.trailsIn legacy (node :: through) (depth + 1) path 0 children
          ((node.chosenChildren legacy).elim [] Content.members))
  | _, _ => []

/-- The visits of siblings that came from as many nodes; the first has the given index. -/
def Instance.trailsIn (legacy : Bool) (through : List Element) (depth : Nat) (parent : String)
    (index : Nat) : List (Instance ρ) → List Node → List (Trail ρ)
  | child :: rest, node :: nodes =>
    child.trailsAt legacy through depth (childPath parent index) node
      ++ Instance.trailsIn legacy through depth parent (index + 1) rest nodes
  | _, _ => []

/-- The visits of slots that came from as many slots. -/
def Instance.slotTrails (legacy : Bool) (through : List Element) (depth : Nat) (parent : String) :
    List (String × List (Instance ρ)) → List (String × Content) → List (Trail ρ)
  | (_, instances) :: rest, (_, content) :: contents =>
    Instance.trailsIn legacy through depth parent 0 instances content.members
      ++ Instance.slotTrails legacy through depth parent rest contents
  | _, _ => []

end

/-- The visits of a render, each with the elements in whose children it stands. -/
def Renderer.trails (r : Renderer ρ) : List (Trail ρ) :=
  Instance.trailsIn r.settings.legacyPropsChildren [] 1 "" 0 r.tree.children r.roots

mutual

/-- Trails are the visits, in the same order. -/
theorem map_trailsAt {legacy : Bool} (through : List Element) (depth : Nat) (path : String) :
    (i : Instance ρ) → (node : Node) →
      (i.trailsAt legacy through depth path node).map (·.toVisit)
        = i.visitsAt legacy depth path node
  | .element ⟨component, renderable, key, props, slots, children⟩, .element node => by
      rw [Instance.trailsAt, Instance.visitsAt, List.map_cons, List.map_append,
        map_slotTrails, map_trailsIn]
  | .element ⟨_, _, _, _, _, _⟩, .text _ => rfl
  | .text _, .text _ | .text _, .element _ => rfl
  | .fragment _, .text _ | .fragment _, .element _ => rfl

theorem map_trailsIn {legacy : Bool} (through : List Element) (depth : Nat) (parent : String)
    (index : Nat) : (list : List (Instance ρ)) → (nodes : List Node) →
      (Instance.trailsIn legacy through depth parent index list nodes).map (·.toVisit)
        = Instance.visitsIn legacy depth parent index list nodes
  | [], _ => rfl
  | _ :: _, [] => rfl
  | child :: rest, node :: nodes => by
      rw [Instance.trailsIn, Instance.visitsIn, List.map_append, map_trailsAt, map_trailsIn]

theorem map_slotTrails {legacy : Bool} (through : List Element) (depth : Nat) (parent : String) :
    (slots : List (String × List (Instance ρ))) → (contents : Fields Content) →
      (Instance.slotTrails legacy through depth parent slots contents).map (·.toVisit)
        = Instance.slotVisits legacy depth parent slots contents
  | [], _ => rfl
  | _ :: _, [] => rfl
  | (_, instances) :: rest, (_, content) :: contents => by
      rw [Instance.slotTrails, Instance.slotVisits, List.map_append, map_trailsIn, map_slotTrails]

end

namespace Trail

/-- Whether a visit stands inside of children that legacy mode replaces. -/
def isReplaced (t : Trail ρ) : Bool :=
  t.through.any (·.structuredChildren?.isSome)

/-- What there is to report outside of the children that legacy mode replaces. -/
def accounts (limit : Nat) (trails : List (Trail ρ)) : List Diagnostic :=
  (trails.filter fun t => !t.isReplaced).flatMap (·.account limit)

theorem accounts_append (limit : Nat) (trails trails' : List (Trail ρ)) :
    accounts limit (trails ++ trails') = accounts limit trails ++ accounts limit trails' := by
  rw [accounts, List.filter_append, List.flatMap_append]
  rfl

theorem accounts_cons (limit : Nat) (t : Trail ρ) (trails : List (Trail ρ)) :
    accounts limit (t :: trails)
      = (if t.isReplaced then [] else t.account limit) ++ accounts limit trails := by
  rw [accounts, List.filter_cons]
  cases t.isReplaced <;> rfl

end Trail

/-- A text has no visits, whatever stands for it. -/
theorem visitsIn_text {legacy : Bool} {depth : Nat} {parent : String} {index : Nat}
    (list : List (Instance ρ)) (value : String) :
    Instance.visitsIn legacy depth parent index list [.text value] = [] := by
  cases list with
  | nil => rfl
  | cons child rest =>
      have none : child.visitsAt legacy depth (childPath parent index) (.text value) = [] := by
        rw [Instance.visitsAt]
        exact fun _ _ _ _ _ _ _ _ h => nomatch h
      rw [Instance.visitsIn, none]
      cases rest <;> rfl

/-- The visits in legacy mode of an element that is replaced, and of what is still in it. -/
theorem visitsAt_literalized {limit depth : Nat} {path : String} {node : Element}
    (e : RenderedElement ρ) :
    ((Instance.element (e.literalized limit depth node)).visitsAt true depth path
        (.element node)).flatMap (·.account limit)
      = (⟨⟨depth, path, e⟩, node⟩ : Visit ρ).account limit
        ++ ((Instance.slotVisits true (depth + 1) path e.slots node.openSlots).flatMap
            (·.account limit)
        ++ if node.structuredChildren?.isSome then []
          else (Instance.visitsIn true (depth + 1) path 0 e.children
            ((node.chosenChildren false).elim [] Content.members)).flatMap (·.account limit)) := by
  have chosen := node.chosenChildren_legacy
  rw [visitsAt_element, List.flatMap_cons, List.flatMap_append]
  cases structured : node.structuredChildren? with
  | none =>
      rw [structured] at chosen
      rw [literalized_of_none _ structured, chosen]
      rfl
  | some value =>
      rw [structured] at chosen
      rw [chosen, Option.elim_some, Content.members, visitsIn_text]
      by_cases within : depth ≤ limit
      · rw [literalized_of_some _ structured within]
        rfl
      · rw [literalized_of_lt _ (by omega)]
        rfl

mutual

/-- What is reported of a tree in legacy mode is what there is to report of the other tree outside
of the children that are replaced. Nothing is left if the tree itself stands in such children. -/
theorem accounts_trailsAt (limit : Nat) (through : List Element) (depth : Nat) (path : String) :
    (i : Instance ρ) → (node : Node) →
      Trail.accounts limit (i.trailsAt false through depth path node)
        = if through.any (·.structuredChildren?.isSome) then []
          else ((i.mapAlong false (RenderedElement.literalized limit) depth node).visitsAt true
            depth path node).flatMap (·.account limit)
  | .element ⟨component, renderable, key, props, slots, children⟩, .element node => by
      rw [Instance.trailsAt, Trail.accounts_cons, Trail.accounts_append, accounts_slotTrails,
        accounts_trailsIn, mapAlong_element, visitsAt_literalized, Trail.isReplaced, List.any_cons]
      cases through.any (·.structuredChildren?.isSome) with
      | true => rw [Bool.or_true]; rfl
      | false => rw [Bool.or_false]; rfl
  | .element ⟨_, _, _, _, _, _⟩, .text _ => by split <;> rfl
  | .text _, .text _ | .text _, .element _ => by split <;> rfl
  | .fragment _, .text _ | .fragment _, .element _ => by split <;> rfl

theorem accounts_trailsIn (limit : Nat) (through : List Element) (depth : Nat) (parent : String)
    (index : Nat) : (list : List (Instance ρ)) → (nodes : List Node) →
      Trail.accounts limit (Instance.trailsIn false through depth parent index list nodes)
        = if through.any (·.structuredChildren?.isSome) then []
          else (Instance.visitsIn true depth parent index
            (Instance.mapListAlong false (RenderedElement.literalized limit) depth list nodes)
            nodes).flatMap (·.account limit)
  | [], [] | [], _ :: _ | _ :: _, [] => by split <;> rfl
  | child :: rest, node :: nodes => by
      rw [Instance.trailsIn, Instance.mapListAlong, Instance.visitsIn, Trail.accounts_append,
        accounts_trailsAt, accounts_trailsIn, List.flatMap_append]
      split <;> rfl

theorem accounts_slotTrails (limit : Nat) (through : List Element) (depth : Nat)
    (parent : String) : (slots : List (String × List (Instance ρ))) → (contents : Fields Content) →
      Trail.accounts limit (Instance.slotTrails false through depth parent slots contents)
        = if through.any (·.structuredChildren?.isSome) then []
          else (Instance.slotVisits true depth parent
            (Instance.mapSlotsAlong false (RenderedElement.literalized limit) depth slots contents)
            contents).flatMap (·.account limit)
  | [], [] | [], _ :: _ | _ :: _, [] => by split <;> rfl
  | (_, instances) :: rest, (_, content) :: contents => by
      rw [Instance.slotTrails, Instance.mapSlotsAlong, Instance.slotVisits, Trail.accounts_append,
        accounts_trailsIn, accounts_slotTrails, List.flatMap_append]
      split <;> rfl

end

/-! ### Documents -/

/-- The renderer in legacy mode or out of it. -/
def Renderer.withLegacy (r : Renderer ρ) (legacy : Bool) : Renderer ρ :=
  { r with settings := { r.settings with legacyPropsChildren := legacy } }

/-- Everything there is to report about a visit, unless messages are off. -/
def Visit.reports (s : Settings) (v : Visit ρ) : List Diagnostic :=
  if s.displayErrorMessage then v.account s.maxDepth else []

theorem flatMap_reports {α : Type} (s : Settings) (visit : α → Visit ρ) (list : List α) :
    (list.flatMap fun a => (visit a).reports s)
      = if s.displayErrorMessage then list.flatMap fun a => (visit a).account s.maxDepth
        else [] := by
  unfold Visit.reports
  cases s.displayErrorMessage with
  | true => rfl
  | false => exact List.flatMap_eq_nil_iff.mpr fun _ _ => rfl

/-- The trails of a render are its visits. -/
theorem map_trails (r : Renderer ρ) : r.trails.map (·.toVisit) = r.visits :=
  map_trailsIn _ _ _ _ _ _

/-- Without hooks, what a render reports is what there is to report about its visits. -/
theorem diagnostics_eq_reports (r : Renderer ρ) (identity : r.hooks = .none) :
    r.diagnostics = r.visits.flatMap (·.reports r.settings) := by
  rw [flatMap_reports r.settings fun v => v]
  split
  · next messages => exact (accounted_render r identity messages).diagnostics_eq
  · next off =>
      exact Scene.diagnostics_renderRoots_eq_nil (Bool.eq_false_iff.mpr off) r.roots

/-- The tree in legacy mode is the tree out of it with every element replaced along the document. -/
theorem tree_legacy (r : Renderer ρ) (identity : r.hooks = .none) :
    (r.withLegacy true).tree
      = .fragment (Instance.mapListAlong false (RenderedElement.literalized r.settings.maxDepth) 1
          (r.withLegacy false).tree.children r.roots) := by
  have plain : r.hooks.Undecorated := identity ▸ Hooks.undecorated_none
  have one := @Scene.value_renderElement_legacy ρ r.toScene identity r.settings.maxDepth 1
    (Nat.add_comm 1 _)
  have tree : ∀ legacy, (r.withLegacy legacy).tree = .fragment
      (Scene.renderSiblings ((r.withLegacy legacy).renderElement r.settings.maxDepth) ""
        r.roots).value := fun legacy =>
    @Scene.value_renderRoots ρ (r.withLegacy legacy).toScene plain r.roots
  rw [tree, tree]
  exact congrArg Instance.fragment (Scene.value_renderSiblings_along one "" r.roots)

/-- **Legacy mode only writes out arrays and objects.** Without hooks, whatever the document, the
registry and the other settings are: the tree in legacy mode is the tree out of it, but that each
element which is not too deep, and whose first declared source of children is a prop that holds an
array or an object, has the compact text of that value as its only child. What is reported is what
is reported out of legacy mode, in the same order, less what is reported about the elements that
stand inside of the children of such an element. -/
theorem render_legacy (r : Renderer ρ) (identity : r.hooks = .none) :
    let plain := r.withLegacy false
    let legacy := r.withLegacy true
    legacy.tree
        = .fragment (Instance.mapListAlong false
            (RenderedElement.literalized r.settings.maxDepth) 1 plain.tree.children r.roots) ∧
      plain.trails.map (·.toPlace) = plain.tree.places ∧
      plain.diagnostics = plain.trails.flatMap (·.reports r.settings) ∧
      legacy.diagnostics
        = (plain.trails.filter fun t => !t.isReplaced).flatMap (·.reports r.settings) := by
  intro plain legacy
  refine ⟨tree_legacy r identity, ?_, ?_, ?_⟩
  · rw [← visits_eq_places plain identity, ← map_trails, List.map_map]
    rfl
  · rw [diagnostics_eq_reports plain identity, ← map_trails, List.flatMap_map]
    rfl
  · have visits : legacy.visits = Instance.visitsIn true 1 "" 0 legacy.tree.children r.roots := rfl
    have kept := accounts_trailsIn r.settings.maxDepth [] 1 "" 0 plain.tree.children r.roots
    rw [diagnostics_eq_reports legacy identity, flatMap_reports legacy.settings fun v => v,
      flatMap_reports r.settings Trail.toVisit, visits, tree_legacy r identity]
    exact ite_congr rfl (fun _ => kept.symm) fun _ => rfl

/-- An array with an element that holds an object itself, a slot whose element holds an object, a
number, and an array in an element that is too deep. -/
theorem render_legacy_nested :
    let leaf : Json := .object [("component", .string "i"), ("key", .string "i")]
    let list : Json := .array [.string "t", .object [("component", .string "b"),
      ("key", .string "b"), ("props", .object [("children", leaf)])]]
    let r : Renderer String :=
      { registry := {}
        settings := { maxDepth := 2 }
        hooks := .none
        roots := [.element
          { component := "card"
            key := some "c"
            props := [("children", list)]
            slots := [("header", .nodes [.element
              { component := "h", key := some "h", props := [("children", leaf)] }])] },
          .element
            { component := "ul"
              key := some "u"
              children := some (.nodes [.element
                { component := "li"
                  key := some "l"
                  children := some (.nodes [.element
                    { component := "p", key := some "p", props := [("children", .array [])] }])
                  props := [("children", .ofInt 1)] }]) },
          .element { component := "s", key := some "s", props := [("children", .ofInt 3)] }] }
    r.hooks = .none ∧
      (r.withLegacy false).diagnostics.map (fun d => (d.component, d.path))
        = [("card", "0"), ("h", "0.0"), ("i", "0.0.0"), ("b", "0.1"), ("i", "0.1.0"), ("ul", "1"),
          ("li", "1.0"), ("li", "1.0"), ("p", "1.0.0"), ("s", "2")] ∧
      (r.withLegacy true).diagnostics.map (fun d => (d.component, d.path))
        = [("card", "0"), ("h", "0.0"), ("ul", "1"), ("li", "1.0"), ("li", "1.0"), ("p", "1.0.0"),
          ("s", "2")] ∧
      (r.withLegacy true).tree.places.map (fun place => place.element.children.filterMap (·.text?))
        = [[list.text], [leaf.text], [], [], [], ["3"]] ∧
      (r.withLegacy true).tree
        = .fragment (Instance.mapListAlong false (RenderedElement.literalized 2) 1
            (r.withLegacy false).tree.children r.roots) ∧
      (r.withLegacy true).diagnostics
        = ((r.withLegacy false).trails.filter fun t => !t.isReplaced).flatMap
            (·.reports r.settings) :=
  ⟨rfl, by decide, by decide, by decide, (render_legacy _ rfl).1, (render_legacy _ rfl).2.2.2⟩

end ComponentTree
