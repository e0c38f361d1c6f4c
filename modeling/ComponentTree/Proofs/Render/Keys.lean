import ComponentTree.Proofs.Node.DerivedKey
import ComponentTree.Proofs.Render.Nesting

/-!
The keys that a render gives to siblings. A list of siblings is the roots of the document, a slot or
the chosen children of an element that was rendered; the indexes that lead to it make up the path of
its parent.

* `Scene.Siblings` — the lists of siblings of a render, whatever the format hook answers.
* `Siblings.decorate_mem`, `exists_siblings_of_decorate_mem` — every element of such a list is
  built with its effective key, and nothing else is built; `Siblings.exists_place` — without
  decorators it stands in the tree with that key.
* `derivedKeys_separate` — siblings without a key of their own never have the same hash input, so
  their keys are the same only if the hash collides.
-/

namespace ComponentTree

variable {ρ : Type}

/-- An element holds a list of nodes that is rendered: in a slot, or as its children. -/
inductive Element.Lists (legacy : Bool) (node : Element) (items : List Node) : Prop
  | slot {name : String} (filled : (name, .nodes items) ∈ node.openSlots)
  | children (chosen : node.chosenChildren legacy = some (.nodes items))

namespace Scene

/-- The lists of siblings of a render, each with the indexes that lead to it. An element holds more
of them as long as it is not past the greatest depth; what it holds is up to the format hook. -/
inductive Siblings (scene : Scene ρ) (roots : List Node) : List Nat → List Node → Prop
  | roots : Siblings scene roots [] roots
  | within {parent : List Nat} {nodes items : List Node} {i : Nat} {declared : Element}
      (siblings : Siblings scene roots parent nodes)
      (member : nodes[i]? = some (.element declared))
      (shallow : parent.length < scene.settings.maxDepth)
      (held : (scene.hooks.format (pathOf (parent ++ [i])) declared).Lists
        scene.settings.legacyPropsChildren items) :
      Siblings scene roots (parent ++ [i]) items

/-! ### What is built among siblings -/

section Lists

variable {descend : String → Element → Traced ρ (Instance ρ)} {path : String}

/-- What happens among siblings happens to one of them, which is an element. -/
theorem mem_events_renderSiblings {nodes : List Node} {event : Event ρ} :
    event ∈ (renderSiblings descend path nodes).events ↔
      ∃ i e, nodes[i]? = some (.element e) ∧ event ∈ (descend (childPath path i) e).events := by
  rw [events_renderSiblings, List.mem_flatten]
  constructor
  · rintro ⟨_, listed, hevent⟩
    obtain ⟨i, h, rfl⟩ := List.mem_mapIdx.mp listed
    cases hnode : nodes[i] with
    | text value =>
        rw [hnode] at hevent
        exact absurd hevent List.not_mem_nil
    | element e =>
        rw [hnode] at hevent
        exact ⟨i, e, by rw [List.getElem?_eq_getElem h, hnode], hevent⟩
  · rintro ⟨i, e, member, hevent⟩
    obtain ⟨h, hnode⟩ := List.getElem?_eq_some_iff.mp member
    refine ⟨_, List.mem_mapIdx.mpr ⟨i, h, rfl⟩, ?_⟩
    rw [hnode]
    exact hevent

theorem mem_events_renderContent {content : Content} {event : Event ρ} :
    event ∈ (renderContent descend path content).events ↔
      ∃ items, content = .nodes items ∧ event ∈ (renderSiblings descend path items).events := by
  cases content with
  | text value => simp [renderContent]
  | nodes items => simp [renderContent]

theorem mem_events_renderChildren {content : Option Content} {event : Event ρ} :
    event ∈ (renderChildren descend path content).events ↔
      ∃ items, content = some (.nodes items) ∧
        event ∈ (renderSiblings descend path items).events := by
  cases content with
  | none => simp [renderChildren]
  | some content => simp [renderChildren, mem_events_renderContent]

/-- The places among siblings are those of the elements among them. -/
theorem mem_placesIn_renderSiblings {depth : Nat} {nodes : List Node} {place : Place ρ} :
    place ∈ Instance.placesIn depth path 0 (renderSiblings descend path nodes).value ↔
      ∃ i e, nodes[i]? = some (.element e) ∧
        place ∈ (descend (childPath path i) e).value.placesAt depth (childPath path i) := by
  rw [value_renderSiblings, mem_placesIn]
  constructor
  · rintro ⟨i, h, hplace⟩
    rw [List.length_mapIdx] at h
    rw [List.getElem_mapIdx] at hplace
    cases hnode : nodes[i] with
    | text value =>
        rw [hnode, renderNode, Traced.value_silent, placesAt_text] at hplace
        exact absurd hplace List.not_mem_nil
    | element e =>
        rw [hnode] at hplace
        exact ⟨i, e, by rw [List.getElem?_eq_getElem h, hnode], hplace⟩
  · rintro ⟨i, e, member, hplace⟩
    obtain ⟨h, hnode⟩ := List.getElem?_eq_some_iff.mp member
    refine ⟨i, by rwa [List.length_mapIdx], ?_⟩
    rw [List.getElem_mapIdx, hnode]
    exact hplace

end Lists

/-! ### What is built of one element -/

section Level

variable {scene : Scene ρ} {descend : String → Element → Traced ρ (Instance ρ)} {path : String}
  {declared node : Element} {built : Instance ρ}

theorem decorate_not_mem_reports (diagnostics : List Diagnostic) :
    .decorate built node ∉ scene.reports diagnostics := by
  intro member
  exact absurd (scene.not_isBracket_of_mem_reports _ _ member) (by simp [Event.isBracket])

/-- An element past the last level is the only one that is built of it. -/
theorem decorate_mem_truncate :
    .decorate built node ∈ (scene.truncate path declared).events ↔
      node = scene.hooks.format path declared ∧
        built = .element (.empty node.component (node.effectiveKey path)) := by
  rw [events_truncate]
  simp only [List.mem_cons, List.mem_append, decorate_not_mem_reports, reduceCtorEq, false_or,
    List.not_mem_nil, or_false, Event.decorate.injEq]
  constructor
  · rintro ⟨rfl, rfl⟩
    exact ⟨rfl, rfl⟩
  · rintro ⟨rfl, rfl⟩
    exact ⟨rfl, rfl⟩

/-- What is built of an element on a level is the element itself, and what is built among the
siblings in its slots and children. -/
theorem decorate_mem_expand :
    .decorate built node ∈ (scene.expand descend path declared).events ↔
      (node = scene.hooks.format path declared ∧ built = scene.builtOf descend path node) ∨
        ∃ items, (scene.hooks.format path declared).Lists scene.settings.legacyPropsChildren items ∧
          .decorate built node ∈ (renderSiblings descend path items).events := by
  have inSlots : .decorate built node
        ∈ (renderSlots descend path (scene.hooks.format path declared).openSlots).events ↔
      ∃ name items, (name, .nodes items) ∈ (scene.hooks.format path declared).openSlots ∧
        .decorate built node ∈ (renderSiblings descend path items).events := by
    rw [events_renderSlots, ← List.flatMap_def, List.mem_flatMap]
    constructor
    · rintro ⟨⟨name, content⟩, filled, member⟩
      obtain ⟨items, rfl, inside⟩ := mem_events_renderContent.mp member
      exact ⟨name, items, filled, inside⟩
    · rintro ⟨name, items, filled, inside⟩
      exact ⟨(name, .nodes items), filled, mem_events_renderContent.mpr ⟨items, rfl, inside⟩⟩
  simp only [events_expand, inside, List.mem_cons, List.mem_append, decorate_not_mem_reports,
    inSlots, mem_events_renderChildren, List.mem_map, reduceCtorEq, and_false, exists_false,
    false_or, List.not_mem_nil, or_false, Event.decorate.injEq]
  constructor
  · rintro ((⟨name, items, filled, member⟩ | ⟨items, chosen, member⟩) | ⟨rfl, rfl⟩)
    · exact .inr ⟨items, .slot filled, member⟩
    · exact .inr ⟨items, .children chosen, member⟩
    · exact .inl ⟨rfl, rfl⟩
  · rintro (⟨rfl, rfl⟩ | ⟨items, filled | chosen, member⟩)
    · exact .inr ⟨rfl, rfl⟩
    · exact .inl (.inl ⟨_, items, filled, member⟩)
    · exact .inl (.inr ⟨items, chosen, member⟩)

variable (scene path declared)

/-- However many levels are left, an element is built with its effective key. -/
theorem exists_decorate_mem_renderElement (level : Nat) :
    let node := scene.hooks.format path declared
    ∃ built, .decorate built node ∈ (scene.renderElement level path declared).events ∧
      built.key? = some (node.effectiveKey path) := by
  cases level with
  | zero => exact ⟨_, decorate_mem_truncate.mpr ⟨rfl, rfl⟩, rfl⟩
  | succ level => exact ⟨_, decorate_mem_expand.mpr (.inl ⟨rfl, rfl⟩), rfl⟩

/-- Without decorators, it stands in the tree with that key. -/
theorem exists_mem_placesAt_renderElement (plain : scene.hooks.Undecorated) (level depth : Nat) :
    ∃ place ∈ (scene.renderElement level path declared).value.placesAt depth path,
      place.path = path ∧
        place.element.key = (scene.hooks.format path declared).effectiveKey path := by
  cases level with
  | zero =>
      rw [renderElement, value_truncate path declared plain, placesAt_element]
      exact ⟨_, List.mem_cons_self, rfl, rfl⟩
  | succ level =>
      rw [renderElement, value_expand _ path declared plain, placesAt_element]
      exact ⟨_, List.mem_cons_self, rfl, rfl⟩

variable {scene path declared}

/-- Without decorators, the places in what an element holds are places of the element. -/
theorem mem_placesAt_expand (plain : scene.hooks.Undecorated) {depth : Nat} {items : List Node}
    (held : (scene.hooks.format path declared).Lists scene.settings.legacyPropsChildren items)
    {place : Place ρ} (member : place ∈ Instance.placesIn (depth + 1) path 0
      (renderSiblings descend path items).value) :
    place ∈ (scene.expand descend path declared).value.placesAt depth path := by
  rw [value_expand descend path declared plain, mem_placesAt_element]
  cases held with
  | @slot name filled =>
      refine .inr (.inl ⟨(name, (renderSiblings descend path items).value), ?_, member⟩)
      rw [assembled_slots, value_renderSlots]
      exact List.mem_map_of_mem filled
  | children chosen =>
      refine .inr (.inr ?_)
      rw [assembled_children, chosen]
      exact member

end Level

/-! ### Lists of siblings -/

/-- A list of siblings, rendered with the levels that are left for it. -/
def listed (scene : Scene ρ) (parent : List Nat) (nodes : List Node) :
    Traced ρ (List (Instance ρ)) :=
  renderSiblings (scene.renderElement (scene.settings.maxDepth - parent.length)) (pathOf parent)
    nodes

/-- What an element holds is rendered with one level less. -/
theorem renderElement_of_shallow {scene : Scene ρ} {parent : List Nat}
    (shallow : parent.length < scene.settings.maxDepth) (i : Nat) :
    scene.renderElement (scene.settings.maxDepth - parent.length)
      = scene.expand
          (scene.renderElement (scene.settings.maxDepth - (parent ++ [i]).length)) := by
  have left : scene.settings.maxDepth - parent.length
      = scene.settings.maxDepth - (parent ++ [i]).length + 1 := by
    rw [List.length_append, List.length_singleton]
    omega
  rw [left, renderElement]

namespace Siblings

variable {scene : Scene ρ} {roots nodes : List Node} {parent : List Nat}

/-- What is built among siblings is built in the render. The induction follows the lists from the
roots; every list is part of what happens to the list before. -/
theorem decorate_mem (siblings : scene.Siblings roots parent nodes) {built : Instance ρ}
    {node : Element} (member : .decorate built node ∈ (scene.listed parent nodes).events) :
    .decorate built node ∈ (scene.renderRoots roots).events := by
  induction siblings with
  | roots => exact List.mem_append_left _ member
  | @within parent nodes items i declared _ here shallow held ih =>
      refine ih (mem_events_renderSiblings.mpr ⟨i, declared, here, ?_⟩)
      rw [listed, pathOf_concat] at member
      rw [pathOf_concat] at held
      rw [renderElement_of_shallow shallow i]
      exact decorate_mem_expand.mpr (.inr ⟨items, held, member⟩)

/-- Without decorators, the places among siblings are places of the tree. -/
theorem mem_places (plain : scene.hooks.Undecorated)
    (siblings : scene.Siblings roots parent nodes) {place : Place ρ}
    (member : place ∈ Instance.placesIn (parent.length + 1) (pathOf parent) 0
      (scene.listed parent nodes).value) :
    place ∈ (scene.renderRoots roots).value.places := by
  induction siblings with
  | roots =>
      rw [value_renderRoots plain, Instance.places, placesAt_fragment]
      exact member
  | @within parent nodes items i declared _ here shallow held ih =>
      refine ih (mem_placesIn_renderSiblings.mpr ⟨i, declared, here, ?_⟩)
      have deeper : (parent ++ [i]).length + 1 = parent.length + 1 + 1 := by
        rw [List.length_append, List.length_singleton]
      rw [listed, pathOf_concat, deeper] at member
      rw [pathOf_concat] at held
      rw [renderElement_of_shallow shallow i]
      exact mem_placesAt_expand plain held member

/-- Every element among siblings is built with its effective key. -/
theorem exists_decorate_mem (siblings : scene.Siblings roots parent nodes) {i : Nat}
    {declared : Element} (member : nodes[i]? = some (.element declared)) :
    let path := pathOf (parent ++ [i])
    let node := scene.hooks.format path declared
    ∃ built, .decorate built node ∈ (scene.renderRoots roots).events ∧
      built.key? = some (node.effectiveKey path) := by
  rw [pathOf_concat]
  obtain ⟨built, made, key⟩ := scene.exists_decorate_mem_renderElement
    (childPath (pathOf parent) i) declared (scene.settings.maxDepth - parent.length)
  exact ⟨built,
    siblings.decorate_mem (mem_events_renderSiblings.mpr ⟨i, declared, member, made⟩), key⟩

/-- Without decorators, every element among siblings stands in the tree with its effective key. -/
theorem exists_place (plain : scene.hooks.Undecorated)
    (siblings : scene.Siblings roots parent nodes) {i : Nat} {declared : Element}
    (member : nodes[i]? = some (.element declared)) :
    let path := pathOf (parent ++ [i])
    ∃ place ∈ (scene.renderRoots roots).value.places, place.path = path ∧
      place.element.key = (scene.hooks.format path declared).effectiveKey path := by
  rw [pathOf_concat]
  obtain ⟨place, here, key⟩ := scene.exists_mem_placesAt_renderElement
    (childPath (pathOf parent) i) declared plain (scene.settings.maxDepth - parent.length)
    (parent.length + 1)
  exact ⟨place,
    siblings.mem_places plain (mem_placesIn_renderSiblings.mpr ⟨i, declared, member, here⟩), key⟩

/-- Nothing else is built among siblings and below them. The induction is on the levels that are
left. -/
theorem exists_of_decorate_mem (siblings : scene.Siblings roots parent nodes)
    {built : Instance ρ} {node : Element}
    (made : .decorate built node ∈ (scene.listed parent nodes).events) :
    ∃ parent nodes i declared, scene.Siblings roots parent nodes ∧
      nodes[i]? = some (.element declared) ∧
        let path := pathOf (parent ++ [i])
        node = scene.hooks.format path declared ∧ built.key? = some (node.effectiveKey path) := by
  induction level : scene.settings.maxDepth - parent.length generalizing parent nodes with
  | zero =>
      rw [listed, level] at made
      obtain ⟨i, declared, member, made⟩ := mem_events_renderSiblings.mp made
      rw [← pathOf_concat] at made
      obtain ⟨rfl, rfl⟩ := decorate_mem_truncate.mp made
      exact ⟨parent, nodes, i, declared, siblings, member, rfl, rfl⟩
  | succ level ih =>
      have shallow : parent.length < scene.settings.maxDepth := by omega
      obtain ⟨i, declared, member, made⟩ := mem_events_renderSiblings.mp made
      rw [renderElement_of_shallow shallow i, ← pathOf_concat] at made
      rcases decorate_mem_expand.mp made with ⟨rfl, rfl⟩ | ⟨items, held, made⟩
      · exact ⟨parent, nodes, i, declared, siblings, member, rfl, rfl⟩
      · refine ih (siblings.within member shallow held) made ?_
        rw [List.length_append, List.length_singleton]
        omega

end Siblings

/-- Whatever a render builds is a formatted element of a list of siblings, with its effective
key. -/
theorem exists_siblings_of_decorate_mem {scene : Scene ρ} {roots : List Node}
    {built : Instance ρ} {node : Element}
    (made : .decorate built node ∈ (scene.renderRoots roots).events) :
    ∃ parent nodes i declared, scene.Siblings roots parent nodes ∧
      nodes[i]? = some (.element declared) ∧
        let path := pathOf (parent ++ [i])
        node = scene.hooks.format path declared ∧ built.key? = some (node.effectiveKey path) := by
  rw [renderRoots, List.mem_append, List.mem_singleton] at made
  rcases made with among | finished
  · exact Siblings.roots.exists_of_decorate_mem among
  · cases finished

end Scene

/-! ### Keys of siblings -/

/-- What is hashed for two positions under one parent is never the same. -/
theorem hashInput_ne_of_index_ne {parent : List Nat} {i j : Nat} (differ : i ≠ j)
    (a b : Element) :
    a.hashInput (pathOf (parent ++ [i])) ≠ b.hashInput (pathOf (parent ++ [j])) := by
  intro same
  have paths := pathOf_injective (Element.hashInput_inj same).2
  exact differ (List.singleton_injective (List.append_cancel_left paths))

/-- Without keys of their own, two elements have the same key exactly if the hashes agree in their
first 64 bits. -/
theorem effectiveKey_eq_iff {a b : Element} (keyless : a.key = none) (keyless' : b.key = none)
    {p q : String} :
    a.effectiveKey p = b.effectiveKey q
      ↔ Sha256.first64 (a.hashInput p) = Sha256.first64 (b.hashInput q) := by
  rw [Element.effectiveKey, Element.effectiveKey, keyless, keyless']
  exact Element.derivedKey_eq_iff

/-- **Derived keys separate what they hash.** What is hashed for an element at a position determines
both. In every render, whatever the hooks do, every element of a list of siblings is built with the
effective key of what it is formatted to, and nothing else is built; without decorators it stands in
the tree with that key. For two elements of one list that have no key once they are formatted,
identical ones included, what is hashed differs, so their keys are the same only if two different
inputs have hashes that agree in their first 64 bits. -/
theorem derivedKeys_separate (r : Renderer ρ) :
    (∀ (a b : Element) (s t : List Nat),
      a.hashInput (pathOf s) = b.hashInput (pathOf t) → a = b ∧ s = t) ∧
      (∀ built node, .decorate built node ∈ r.render.events →
        ∃ parent nodes i declared, r.toScene.Siblings r.roots parent nodes ∧
          nodes[i]? = some (.element declared) ∧
            let path := pathOf (parent ++ [i])
            node = r.hooks.format path declared ∧
              built.key? = some (node.effectiveKey path)) ∧
      ∀ parent nodes, r.toScene.Siblings r.roots parent nodes →
        (∀ i declared, nodes[i]? = some (.element declared) →
          let path := pathOf (parent ++ [i])
          let node := r.hooks.format path declared
          (∃ built, .decorate built node ∈ r.render.events ∧
              built.key? = some (node.effectiveKey path)) ∧
            (r.hooks.Undecorated → ∃ place ∈ r.tree.places,
              place.path = path ∧ place.element.key = node.effectiveKey path)) ∧
        ∀ i j declared declared', i ≠ j → nodes[i]? = some (.element declared) →
          nodes[j]? = some (.element declared') →
            let path := pathOf (parent ++ [i])
            let path' := pathOf (parent ++ [j])
            let node := r.hooks.format path declared
            let node' := r.hooks.format path' declared'
            node.key = none → node'.key = none →
              node.hashInput path ≠ node'.hashInput path' ∧
                (node.effectiveKey path = node'.effectiveKey path' →
                  Sha256.first64 (node.hashInput path)
                    = Sha256.first64 (node'.hashInput path')) := by
  refine ⟨?_, fun _ _ => Scene.exists_siblings_of_decorate_mem, ?_⟩
  · intro a b s t same
    obtain ⟨elements, paths⟩ := Element.hashInput_inj same
    exact ⟨elements, pathOf_injective paths⟩
  · intro parent nodes siblings
    constructor
    · intro i declared member
      exact ⟨siblings.exists_decorate_mem member, fun plain => siblings.exists_place plain member⟩
    · intro i j declared declared' differ _ _ path path' node node' keyless keyless'
      exact ⟨hashInput_ne_of_index_ne differ node node',
        (effectiveKey_eq_iff keyless keyless').mp⟩

/-- Two identical items in the children of a list, whose keys the format hook takes away. -/
theorem derivedKeys_separate_identical :
    let item : Element := { component := "li", key := some "same" }
    let keyless : Element := { component := "li" }
    let list : Element :=
      { component := "ul", children := some (.nodes [.element item, .element item]) }
    let r : Renderer String :=
      { registry := {}
        settings := { allowAllElements := true }
        hooks := { format := fun _ e => { e with key := none } }
        roots := [.text "", .element list] }
    r.toScene.Siblings r.roots [1] [.element item, .element item] ∧
      keyless.hashInput "1.0" ≠ keyless.hashInput "1.1" ∧
      (keyless.effectiveKey "1.0" = keyless.effectiveKey "1.1" →
        Sha256.first64 (keyless.hashInput "1.0") = Sha256.first64 (keyless.hashInput "1.1")) := by
  intro item keyless list r
  have siblings : r.toScene.Siblings r.roots [1] [.element item, .element item] :=
    Scene.Siblings.roots.within (i := 1) rfl (by decide) (.children rfl)
  have separate := ((derivedKeys_separate r).2.2 [1] _ siblings).2 0 1 item item (by decide) rfl rfl
  exact ⟨siblings, separate rfl rfl⟩

end ComponentTree
