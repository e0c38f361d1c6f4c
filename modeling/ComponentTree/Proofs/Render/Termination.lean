import ComponentTree.Proofs.Render.Nesting

/-!
Renders come to an end, whatever the format hook adds. The recursion does not follow the document:
it goes on with what the hook answers and with nodes read out of a prop. Only the check of the depth
bounds it.

* `Scene.Leads` — where the recursion can go from an element, whatever the hook answers;
  `levels_lt_of_leads`, `wellFounded_leads` — every such step uses up a level, so that no series of
  them goes on forever.
* `Scene.Renders` — the walk with nothing but the check of the depth to stop it, as a relation;
  `renders_iff` — every element has exactly one result, which is that of `renderElement` with the
  levels that its depth leaves.
* `render_ends` — what this means for a document: its calls of the format hook and its tree.
-/

namespace ComponentTree

variable {ρ : Type}

/-! ### Where the recursion goes -/

/-- An element that is to be rendered, with its depth and its path. -/
structure Task where
  depth : Nat
  path : String
  declared : Element

/-- An element is one of the siblings under a position, and stands at a path. -/
def Node.Among (parent : String) (nodes : List Node) (path : String) (e : Element) : Prop :=
  ∃ i, nodes[i]? = some (.element e) ∧ path = childPath parent i

/-- An element is one of those that content holds, and stands at a path. -/
def Content.Holds (parent : String) (path : String) (e : Element) : Content → Prop
  | .text _ => False
  | .nodes items => Node.Among parent items path e

namespace Scene

variable (scene : Scene ρ)

/-- An element is rendered as part of a formatted element: it is in a slot or among the children. -/
inductive Descends (parent : String) (node : Element) (path : String) (e : Element) : Prop
  | slot {name : String} {content : Content} (filled : (name, content) ∈ node.openSlots)
      (held : content.Holds parent path e)
  | child {content : Content}
      (chosen : node.chosenChildren scene.settings.legacyPropsChildren = some content)
      (held : content.Holds parent path e)

/-- The recursion can go from one element to another. Whatever the format hook answers for the
former, it is only looked into up to the greatest depth. -/
structure Leads (task next : Task) : Prop where
  within : task.depth ≤ scene.settings.maxDepth
  deeper : next.depth = task.depth + 1
  descends : ∃ answer, scene.Descends task.path answer next.path next.declared

variable {scene}

/-- Every step of the recursion uses up a level. -/
theorem levels_lt_of_leads {task next : Task} (leads : scene.Leads task next) :
    scene.settings.maxDepth + 1 - next.depth < scene.settings.maxDepth + 1 - task.depth := by
  have within := leads.within
  have deeper := leads.deeper
  omega

/-- The recursion does not go on forever. -/
theorem wellFounded_leads : WellFounded fun next task => scene.Leads task next :=
  Subrelation.wf levels_lt_of_leads
    (measure fun task : Task => scene.settings.maxDepth + 1 - task.depth).wf

/-! ### One level looks at nothing else -/

section Congruence

variable {descend descend' : String → Element → Traced ρ (Instance ρ)} {parent : String}

theorem renderSiblings_congr {nodes : List Node}
    (same : ∀ path e, Node.Among parent nodes path e → descend path e = descend' path e) :
    renderSiblings descend parent nodes = renderSiblings descend' parent nodes := by
  have each : (nodes.mapIdx fun i node => renderNode descend (childPath parent i) node)
      = nodes.mapIdx fun i node => renderNode descend' (childPath parent i) node := by
    refine List.ext_getElem (by simp only [List.length_mapIdx]) fun i h _ => ?_
    rw [List.length_mapIdx] at h
    rw [List.getElem_mapIdx, List.getElem_mapIdx]
    cases hnode : nodes[i] with
    | text value => rfl
    | element e =>
        exact same _ e ⟨i, by rw [List.getElem?_eq_getElem h, hnode], rfl⟩
  rw [renderSiblings, each, renderSiblings]

theorem renderContent_congr {content : Content}
    (same : ∀ path e, content.Holds parent path e → descend path e = descend' path e) :
    renderContent descend parent content = renderContent descend' parent content := by
  cases content with
  | text value => rfl
  | nodes items => exact renderSiblings_congr same

theorem renderChildren_congr {content : Option Content}
    (same : ∀ c path e, content = some c → c.Holds parent path e →
      descend path e = descend' path e) :
    renderChildren descend parent content = renderChildren descend' parent content := by
  cases content with
  | none => rfl
  | some content => exact renderContent_congr fun path e => same content path e rfl

theorem renderSlots_congr {slots : Fields Content}
    (same : ∀ name content path e, (name, content) ∈ slots → content.Holds parent path e →
      descend path e = descend' path e) :
    renderSlots descend parent slots = renderSlots descend' parent slots := by
  unfold renderSlots
  congr 1
  refine List.map_congr_left fun slot hslot => ?_
  rw [renderContent_congr fun path e => same slot.1 slot.2 path e hslot]

/-- An element is made of nothing but what its slots and its children are rendered to. -/
theorem expand_congr {declared : Element}
    (same : ∀ path e, scene.Descends parent (scene.hooks.format parent declared) path e →
      descend path e = descend' path e) :
    scene.expand descend parent declared = scene.expand descend' parent declared := by
  have slots := renderSlots_congr fun _ _ path e filled held => same path e (.slot filled held)
  have children := renderChildren_congr fun _ path e chosen held =>
    same path e (.child chosen held)
  simp only [expand, slots, children]

end Congruence

/-! ### The walk -/

variable (scene)

/-- An element is rendered with a result. The walk stops past the greatest depth, and else goes on
with everything that is rendered as part of the formatted element. -/
inductive Renders : Task → Traced ρ (Instance ρ) → Prop
  | past {task : Task} (deep : scene.settings.maxDepth < task.depth) :
      Renders task (scene.truncate task.path task.declared)
  | within {task : Task} (shallow : task.depth ≤ scene.settings.maxDepth)
      {descend : String → Element → Traced ρ (Instance ρ)}
      (below : ∀ path e,
        scene.Descends task.path (scene.hooks.format task.path task.declared) path e →
          Renders ⟨task.depth + 1, path, e⟩ (descend path e)) :
      Renders task (scene.expand descend task.path task.declared)

variable {scene}

/-- The walk comes to an end. The induction is on the levels that the depth leaves. -/
theorem renders_renderElement {level : Nat} {task : Task}
    (left : scene.settings.maxDepth + 1 - task.depth = level) :
    scene.Renders task (scene.renderElement level task.path task.declared) := by
  induction level generalizing task with
  | zero => exact .past (by omega)
  | succ level ih =>
      refine .within (by omega) fun path e _ => ?_
      exact @ih ⟨task.depth + 1, path, e⟩ (by dsimp only; omega)

/-- It comes to one end only. -/
theorem eq_renderElement_of_renders {task : Task} {t : Traced ρ (Instance ρ)}
    (renders : scene.Renders task t) :
    t = scene.renderElement (scene.settings.maxDepth + 1 - task.depth) task.path
      task.declared := by
  induction renders with
  | @past task deep =>
      have none : scene.settings.maxDepth + 1 - task.depth = 0 := by omega
      rw [none, renderElement]
  | @within task shallow descend _ ih =>
      have one : scene.settings.maxDepth + 1 - task.depth
          = scene.settings.maxDepth + 1 - (task.depth + 1) + 1 := by omega
      rw [one, renderElement]
      exact expand_congr ih

theorem renders_iff {task : Task} {t : Traced ρ (Instance ρ)} :
    scene.Renders task t ↔
      t = scene.renderElement (scene.settings.maxDepth + 1 - task.depth) task.path
        task.declared := by
  constructor
  · exact eq_renderElement_of_renders
  · rintro rfl
    exact renders_renderElement rfl

/-- No more elements are being rendered at any event than there are levels. -/
theorem length_le_of_mem_situated (scene : Scene ρ) (roots : List Node) :
    ∀ s ∈ Event.situated [] (scene.renderRoots roots).events,
      s.1.length ≤ scene.settings.maxDepth + 1 := by
  intro s hs
  have nested := scene.nested_renderSiblings scene.settings.maxDepth "" roots
  rw [renderRoots, nested.situated_append, List.mem_append] at hs
  rcases hs with inside | finished
  · have := nested.length_le [] s inside
    rwa [List.length_nil, Nat.zero_add] at this
  · obtain rfl := List.mem_singleton.mp finished
    exact Nat.zero_le _

end Scene

/-! ### Documents -/

/-- **Every render ends.** Whatever the format hook answers: every step of the recursion uses up one
of the levels up to the greatest depth and one more, so no series of steps goes on forever; the walk
that nothing but the check of the depth stops has exactly one result for every element; and the hook
is called for no element deeper than one past the greatest depth. If no decorator replaces what was
built, no element of the tree is deeper than that either, and those that are as deep render nothing
and hold nothing. -/
theorem render_ends (r : Renderer ρ) :
    (∀ task next, r.toScene.Leads task next →
        r.settings.maxDepth + 1 - next.depth < r.settings.maxDepth + 1 - task.depth) ∧
      (WellFounded fun next task => r.toScene.Leads task next) ∧
      (∀ task t, r.toScene.Renders task t ↔
        t = r.toScene.renderElement (r.settings.maxDepth + 1 - task.depth) task.path
          task.declared) ∧
      (∀ within path declared,
        (within, .format path declared) ∈ Event.situated [] r.render.events →
          within.length ≤ r.settings.maxDepth + 1) ∧
      (r.hooks.Undecorated → ∀ place ∈ r.tree.places,
        place.depth ≤ r.settings.maxDepth + 1 ∧
          (place.depth = r.settings.maxDepth + 1 →
            ∃ component key, place.element = .empty component key)) := by
  refine ⟨fun _ _ => Scene.levels_lt_of_leads, Scene.wellFounded_leads,
    fun _ _ => Scene.renders_iff, ?_, ?_⟩
  · intro within path declared called
    exact r.toScene.length_le_of_mem_situated r.roots _ called
  · intro plain place hplace
    exact (Scene.made_of_mem_places plain r.roots place hplace).depth_le

/-- A format hook that puts every element it is given inside itself. -/
theorem render_ends_growing :
    let r : Renderer String :=
      { registry := {}
        settings := { allowAllElements := true, maxDepth := 2 }
        hooks :=
          { format := fun path e =>
              { e with key := some path, children := some (.nodes [.element e]) } }
        roots := [.element { component := "a" }] }
    r.hooks.Undecorated ∧
      r.tree.places.map Place.spot = [(1, "0"), (2, "0.0"), (3, "0.0.0")] ∧
      ∀ place ∈ r.tree.places, place.depth ≤ 3 ∧
        (place.depth = 3 → ∃ component key, place.element = .empty component key) :=
  have plain : Hooks.Undecorated _ := ⟨fun _ _ => rfl, fun _ => rfl⟩
  ⟨plain, by decide, (render_ends _).2.2.2.2 plain⟩

end ComponentTree
