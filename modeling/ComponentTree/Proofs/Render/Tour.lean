import ComponentTree.Proofs.Node.Sources
import ComponentTree.Proofs.Render.Nesting

/-!
The calls of hooks in a render go once around the tree of the elements that are visited. The format
hook is called when an element is entered and the node decorator when it is left; the tree decorator
is called at the end.

* `Element.contents` — the nodes that are rendered in a formatted element, in order, each with its
  path: its slots, then the first declared source of its children.
* `Scene.Calls` — the calls that nodes make and the instances they result in, spelled out as rules,
  for hooks that may change everything; `Calls.unique` — the rules leave no choice.
* `calls_renderElement` — the calls of an element are those, level by level.
* `calls_tour` — what this means for a document.
-/

namespace ComponentTree

variable {ρ : Type}

/-! ### What is visited -/

/-- Siblings under a position, each with its path. -/
def Node.placed (parent : String) (nodes : List Node) : List (String × Node) :=
  nodes.mapIdx fun i node => (childPath parent i, node)

/-- The nodes that are rendered in a formatted element at a path, in order: its slots, then the
first declared source of its children. Nothing that is ignored is among them. -/
def Element.contents (legacy : Bool) (path : String) (node : Element) : List (String × Node) :=
  (node.openSlots.flatMap fun slot => Node.placed path slot.2.members)
    ++ Node.placed path ((node.firstChildren? legacy).elim [] Content.members)

/-- Whether an event is the call of a hook. -/
def Event.isCall : Event ρ → Bool
  | format _ _ | decorate _ _ | finish _ => true
  | resolve _ _ _ | report _ | stray _ => false

/-- The path at which the format hook is called. -/
def Event.formatPath? : Event ρ → Option String
  | format path _ => some path
  | _ => none

namespace Scene

variable (scene : Scene ρ)

/-- Nodes at a depth make calls and result in instances. A text makes no call. An element makes one
of the format hook and one of the node decorator, with what the format hook answered; between them
stand the calls of what the answer holds, or nothing if the element is past the greatest depth. -/
inductive Calls : Nat → List (String × Node) → List (Event ρ) → List (Instance ρ) → Prop
  | nil {depth : Nat} : Calls depth [] [] []
  | text {depth : Nat} {path value : String} {nodes : List (String × Node)}
      {calls : List (Event ρ)} {results : List (Instance ρ)}
      (next : Calls depth nodes calls results) :
      Calls depth ((path, .text value) :: nodes) calls (.text value :: results)
  | past {depth : Nat} {path : String} {declared node : Element} {built : Instance ρ}
      {nodes : List (String × Node)} {calls : List (Event ρ)} {results : List (Instance ρ)}
      (deep : scene.settings.maxDepth < depth)
      (formatted : node = scene.hooks.format path declared)
      (cut : built = .element (.empty node.component (node.effectiveKey path)))
      (next : Calls depth nodes calls results) :
      Calls depth ((path, .element declared) :: nodes)
        (.format path declared :: .decorate built node :: calls)
        (scene.hooks.decorateNode built node :: results)
  | within {depth : Nat} {path : String} {declared node : Element} {built : Instance ρ}
      {slots : Fields (List (Instance ρ))} {children : List (Instance ρ)}
      {nodes : List (String × Node)} {inner calls : List (Event ρ)}
      {results : List (Instance ρ)}
      (shallow : depth ≤ scene.settings.maxDepth)
      (formatted : node = scene.hooks.format path declared)
      (inside : Calls (depth + 1) (node.contents scene.settings.legacyPropsChildren path) inner
        (slots.flatMap (·.2) ++ children))
      (filled : slots.map (fun slot => (slot.1, slot.2.length))
        = node.openSlots.map fun slot => (slot.1, slot.2.members.length))
      (made : built = .element (scene.assembled path node slots children))
      (next : Calls depth nodes calls results) :
      Calls depth ((path, .element declared) :: nodes)
        (.format path declared :: (inner ++ .decorate built node :: calls))
        (scene.hooks.decorateNode built node :: results)

/-! ### The rules -/

/-- Slots of given lengths are cut out of a list in one way only. -/
theorem slots_children_inj {slots slots' : Fields (List (Instance ρ))}
    {children children' : List (Instance ρ)}
    (lengths : slots.map (fun slot => (slot.1, slot.2.length))
      = slots'.map fun slot => (slot.1, slot.2.length))
    (same : slots.flatMap (·.2) ++ children = slots'.flatMap (·.2) ++ children') :
    slots = slots' ∧ children = children' := by
  induction slots generalizing slots' with
  | nil =>
      obtain rfl : slots' = [] := by simpa using lengths.symm
      exact ⟨rfl, same⟩
  | cons slot slots ih =>
      cases slots' with
      | nil => simp at lengths
      | cons slot' slots' =>
          obtain ⟨name, instances⟩ := slot
          obtain ⟨name', instances'⟩ := slot'
          simp only [List.map_cons, List.cons.injEq, Prod.mk.injEq] at lengths
          obtain ⟨⟨rfl, length⟩, lengths⟩ := lengths
          simp only [List.flatMap_cons, List.append_assoc] at same
          obtain ⟨rfl, rest⟩ := List.append_inj same length
          obtain ⟨rfl, rfl⟩ := ih lengths rest
          exact ⟨rfl, rfl⟩

namespace Calls

variable {scene} {depth : Nat} {nodes nodes' : List (String × Node)}
  {calls calls' : List (Event ρ)} {results results' : List (Instance ρ)}

theorem append (first : scene.Calls depth nodes calls results)
    (second : scene.Calls depth nodes' calls' results') :
    scene.Calls depth (nodes ++ nodes') (calls ++ calls') (results ++ results') := by
  induction first with
  | nil => exact second
  | text _ ih => exact .text (ih second)
  | past deep formatted cut _ ih => exact .past deep formatted cut (ih second)
  | within shallow formatted inside filled made _ _ ih =>
      simp only [List.cons_append, List.append_assoc]
      exact .within shallow formatted inside filled made (ih second)

/-- Siblings make the calls of each of them, one after another. -/
theorem flatten_mapIdx {α : Type} {node : Nat → α → String × Node}
    {called : Nat → α → List (Event ρ)} {result : Nat → α → Instance ρ}
    (each : ∀ i a, scene.Calls depth [node i a] (called i a) [result i a]) (list : List α) :
    scene.Calls depth (list.mapIdx node) (list.mapIdx called).flatten (list.mapIdx result) := by
  induction list generalizing node called result with
  | nil => exact .nil
  | cons a rest ih =>
      simp only [List.mapIdx_cons, List.flatten_cons]
      exact (each 0 a).append (ih fun i => each (i + 1))

/-- The calls and the results are determined by the nodes. -/
theorem unique (first : scene.Calls depth nodes calls results)
    (second : scene.Calls depth nodes calls' results') :
    calls' = calls ∧ results' = results := by
  induction first generalizing calls' results' with
  | nil =>
      cases second
      exact ⟨rfl, rfl⟩
  | text _ ih =>
      cases second with
      | text next =>
          obtain ⟨rfl, rfl⟩ := ih next
          exact ⟨rfl, rfl⟩
  | past deep formatted cut _ ih =>
      cases second with
      | past _ formatted' cut' next =>
          obtain ⟨rfl, rfl⟩ := ih next
          subst formatted formatted' cut cut'
          exact ⟨rfl, rfl⟩
      | within shallow => exact absurd deep (Nat.not_lt_of_le shallow)
  | within shallow formatted inside filled made _ ihInside ih =>
      cases second with
      | past deep => exact absurd deep (Nat.not_lt_of_le shallow)
      | within _ formatted' inside' filled' made' next =>
          subst formatted formatted'
          obtain ⟨rfl, rfl⟩ := ih next
          obtain ⟨rfl, held⟩ := ihInside inside'
          obtain ⟨rfl, rfl⟩ := slots_children_inj (filled'.trans filled.symm) held
          subst made made'
          exact ⟨rfl, rfl⟩

/-- Each of the calls is for an element. -/
theorem isBracket (made : scene.Calls depth nodes calls results) :
    ∀ event ∈ calls, event.isBracket = true := by
  induction made with
  | nil => exact fun _ hevent => absurd hevent List.not_mem_nil
  | text _ ih => exact ih
  | past _ _ _ _ ih => exact List.forall_mem_cons.mpr ⟨rfl, List.forall_mem_cons.mpr ⟨rfl, ih⟩⟩
  | within _ _ _ _ _ _ ihInside ih =>
      refine List.forall_mem_cons.mpr ⟨rfl, List.forall_mem_append.mpr ⟨ihInside, ?_⟩⟩
      exact List.forall_mem_cons.mpr ⟨rfl, ih⟩

/-- The calls nest, no more elements deep than there are levels. -/
theorem nested (made : scene.Calls depth nodes calls results) {level : Nat}
    (total : depth + level = scene.settings.maxDepth + 1) : Nested (level + 1) calls := by
  induction made generalizing level with
  | nil => exact .nil
  | text _ ih => exact ih total
  | past deep formatted cut _ ih => exact .element .nil (ih total)
  | within shallow formatted _ _ _ _ ihInside ih =>
      obtain ⟨below, rfl⟩ : ∃ below, level = below + 1 := ⟨level - 1, by omega⟩
      exact .element (ihInside (by omega)) (ih total)

end Calls

/-! ### Renders follow the rules -/

section Lists

variable {scene} {descend : String → Element → Traced ρ (Instance ρ)} {depth : Nat}
  (below : ∀ path e, scene.Calls depth [(path, .element e)]
    ((descend path e).events.filter Event.isCall) [(descend path e).value])

include below

theorem calls_renderNode (path : String) (node : Node) :
    scene.Calls depth [(path, node)] ((renderNode descend path node).events.filter Event.isCall)
      [(renderNode descend path node).value] := by
  cases node with
  | text value => exact .text .nil
  | element e => exact below path e

theorem calls_renderSiblings (path : String) (nodes : List Node) :
    scene.Calls depth (Node.placed path nodes)
      ((renderSiblings descend path nodes).events.filter Event.isCall)
      (renderSiblings descend path nodes).value := by
  rw [events_renderSiblings, value_renderSiblings, List.filter_flatten, map_mapIdx]
  exact .flatten_mapIdx (fun i node => calls_renderNode below (childPath path i) node) nodes

theorem calls_renderContent (path : String) (content : Content) :
    scene.Calls depth (Node.placed path content.members)
      ((renderContent descend path content).events.filter Event.isCall)
      (renderContent descend path content).value := by
  cases content with
  | text value => exact .text .nil
  | nodes items => exact calls_renderSiblings below path items

theorem calls_renderChildren (path : String) (content : Option Content) :
    scene.Calls depth (Node.placed path (content.elim [] Content.members))
      ((renderChildren descend path content).events.filter Event.isCall)
      (renderChildren descend path content).value := by
  cases content with
  | none => exact .nil
  | some content => exact calls_renderContent below path content

theorem calls_renderSlots (path : String) (slots : Fields Content) :
    scene.Calls depth (slots.flatMap fun slot => Node.placed path slot.2.members)
      ((renderSlots descend path slots).events.filter Event.isCall)
      ((renderSlots descend path slots).value.flatMap (·.2)) := by
  rw [events_renderSlots, value_renderSlots, List.filter_flatten, List.map_map, List.flatMap_map]
  induction slots with
  | nil => exact .nil
  | cons slot rest ih =>
      rw [List.flatMap_cons, List.map_cons, List.flatten_cons, List.flatMap_cons]
      exact (calls_renderContent below path slot.2).append ih

end Lists

section Level

variable {scene}

/-- Rendered content holds one instance for each of its members. -/
theorem length_renderContent (descend : String → Element → Traced ρ (Instance ρ)) (path : String)
    (content : Content) :
    (renderContent descend path content).value.length = content.members.length := by
  cases content with
  | text value => rfl
  | nodes items =>
      rw [renderContent, value_renderSiblings, List.length_mapIdx]
      rfl

/-- Reports are no calls. -/
theorem filter_isCall_reports (diagnostics : List Diagnostic) :
    (scene.reports diagnostics).filter Event.isCall = [] := by
  rw [List.filter_eq_nil_iff]
  intro event hevent
  obtain ⟨diagnostic, -, rfl⟩ := exists_of_mem_reports hevent
  exact Bool.false_ne_true

/-- Inside an element calls are made for its slots and its children, and for nothing else. -/
theorem filter_isCall_inside (descend : String → Element → Traced ρ (Instance ρ)) (path : String)
    (node : Element) :
    (scene.inside descend path node).filter Event.isCall
      = (renderSlots descend path node.openSlots).events.filter Event.isCall
        ++ (renderChildren descend path
            (node.chosenChildren scene.settings.legacyPropsChildren)).events.filter
              Event.isCall := by
  have strays : ∀ values : List Json,
      (values.map (Event.stray (ρ := ρ))).filter Event.isCall = [] := by
    intro values
    rw [List.filter_map, List.map_eq_nil_iff, List.filter_eq_nil_iff]
    exact fun _ _ => Bool.false_ne_true
  simp only [inside, List.filter_append, filter_isCall_reports, strays, List.nil_append]
  rfl

/-- **The calls of an element.** With the levels that its depth leaves, an element makes the calls
that the rules say. The induction is on the levels. -/
theorem calls_renderElement {level depth : Nat}
    (total : depth + level = scene.settings.maxDepth + 1) (path : String) (declared : Element) :
    scene.Calls depth [(path, .element declared)]
      ((scene.renderElement level path declared).events.filter Event.isCall)
      [(scene.renderElement level path declared).value] := by
  induction level generalizing depth path declared with
  | zero =>
      have cut : (scene.renderElement 0 path declared).events.filter Event.isCall
          = [.format path declared, .decorate
              (.element (.empty (scene.hooks.format path declared).component
                ((scene.hooks.format path declared).effectiveKey path)))
              (scene.hooks.format path declared)] := by
        rw [renderElement, events_truncate, List.filter_cons_of_pos rfl, List.filter_append,
          filter_isCall_reports]
        rfl
      rw [cut]
      exact .past (by omega) rfl rfl .nil
  | succ level ih =>
      have below := @ih (depth + 1) (by omega)
      generalize hnode : scene.hooks.format path declared = node
      have calls : (scene.renderElement (level + 1) path declared).events.filter Event.isCall
          = .format path declared
            :: ((scene.inside (scene.renderElement level) path node).filter Event.isCall
              ++ [.decorate (scene.builtOf (scene.renderElement level) path node) node]) := by
        rw [renderElement, events_expand, hnode, List.filter_cons_of_pos rfl, List.filter_append]
        rfl
      have filled : ((renderSlots (scene.renderElement level) path node.openSlots).value.map
          fun slot => (slot.1, slot.2.length))
            = node.openSlots.map fun slot => (slot.1, slot.2.members.length) := by
        rw [value_renderSlots, List.map_map]
        exact List.map_congr_left fun slot _ =>
          congrArg (Prod.mk slot.1) (length_renderContent _ path slot.2)
      have slots := calls_renderSlots below path node.openSlots
      have children := calls_renderChildren below path
        (node.chosenChildren scene.settings.legacyPropsChildren)
      have value : (scene.renderElement (level + 1) path declared).value
          = scene.hooks.decorateNode (scene.builtOf (scene.renderElement level) path node)
              node := by
        subst hnode
        rfl
      have inside := slots.append children
      rw [Element.chosenChildren_eq_firstChildren?] at inside
      rw [calls, value, filter_isCall_inside, Element.chosenChildren_eq_firstChildren?]
      refine .within (by omega) hnode.symm inside filled ?_ .nil
      rw [builtOf, Element.chosenChildren_eq_firstChildren?]

end Level

end Scene

/-! ### The calls of a document -/

/-- The elements that are opened are opened by the calls of the format hook. -/
theorem map_snd_opened (events : List (Event ρ)) :
    (Event.read Event.opened? [] events).map Prod.snd = events.filterMap Event.formatPath? := by
  have same : ∀ s : List String × Event ρ, (Event.opened? s).map Prod.snd = s.2.formatPath? := by
    intro s
    obtain ⟨within, event⟩ := s
    cases event <;> rfl
  rw [← read_snd Event.formatPath? [], Event.read, Event.read, List.map_filterMap]
  simp only [same]

/-- **The calls of a render go once around the tree**, whatever the document, the registry, the
settings and the hooks are: the roots make the calls that the rules say, which nest, and result in
the topmost instances; the tree decorator is called for these, after all of them and only then. The
slots of an element are taken in the order of their names. When nothing is decorated, the format
hook is called at the paths of the elements of the tree, in order. -/
theorem calls_tour (r : Renderer ρ) :
    (∃ calls top,
      r.toScene.Calls 1 (Node.placed "" r.roots) calls top ∧
      (∀ calls' top', r.toScene.Calls 1 (Node.placed "" r.roots) calls' top' →
        calls' = calls ∧ top' = top) ∧
      (∀ event ∈ calls, event.isBracket = true) ∧
      Nested (r.settings.maxDepth + 1) calls ∧
      r.render.events.filter Event.isCall = calls ++ [.finish top] ∧
      r.tree = .fragment (r.hooks.decorateTree top)) ∧
    (∀ e : Element, Fields.Sorted e.slots → Fields.Sorted e.openSlots) ∧
    (r.hooks.Undecorated →
      r.render.events.filterMap Event.formatPath? = r.tree.places.map (·.path)) := by
  refine ⟨?_, ?_, ?_⟩
  · have made := Scene.calls_renderSiblings (@Scene.calls_renderElement ρ r.toScene
      r.settings.maxDepth 1 (Nat.add_comm 1 r.settings.maxDepth)) "" r.roots
    refine ⟨_, _, made, fun _ _ => made.unique, made.isBracket, made.nested (Nat.add_comm _ _),
      ?_, rfl⟩
    rw [Renderer.render, Scene.renderRoots, List.filter_append]
    rfl
  · intro e sorted
    exact sorted.sublist List.filter_sublist
  · intro plain
    rw [← map_snd_opened, Renderer.render, Scene.opened_renderRoots plain, List.map_map]
    rfl

/-- A format hook that puts slots and other children in place of what is declared, down to an
element past the greatest depth. -/
theorem calls_tour_reformatted :
    let leaf (name : String) : Node := .element { component := name, key := some name }
    let card : Element :=
      { component := "card"
        key := some "c"
        children := some (.nodes [.text "t", leaf "p"])
        props := [("children", .array [.object [("component", .string "ignored")]])]
        slots := [("footer", .nodes [leaf "f"]), ("header", .text "h"),
          ("key", .nodes [leaf "ignored"])] }
    let r : Renderer String :=
      { registry := {}
        settings := { allowAllElements := true, maxDepth := 2 }
        hooks :=
          { format := fun _ e =>
              if e.component = "declared" then card
              else if e.component = "p" then { e with children := some (.nodes [leaf "deep"]) }
              else e }
        roots := [.text "a", .element
          { component := "declared", children := some (.nodes [leaf "replaced"]) }] }
    r.render.events.filterMap Event.formatPath? = ["1", "1.0", "1.1", "1.1.0"] ∧
      Fields.Sorted card.slots ∧ Fields.Sorted card.openSlots ∧
      r.hooks.Undecorated ∧
      r.render.events.filterMap Event.formatPath? = r.tree.places.map (·.path) := by
  intro leaf card r
  have sorted : Fields.Sorted card.slots := by
    simp only [Fields.Sorted, card]
    decide
  have plain : r.hooks.Undecorated := ⟨fun _ _ => rfl, fun _ => rfl⟩
  exact ⟨by decide, sorted, (calls_tour r).2.1 card sorted, plain, (calls_tour r).2.2 plain⟩

end ComponentTree
