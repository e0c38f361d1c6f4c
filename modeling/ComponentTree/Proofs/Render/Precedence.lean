import ComponentTree.Proofs.Node.Sources
import ComponentTree.Proofs.Render.Nesting
import ComponentTree.Proofs.Render.Visits

/-!
Which children are rendered. Of several sources the first one counts; what stands in the others, and
in keys among props and slots, has no influence on anything that is rendered and is not visited.

* `work_of_readsAlike`, `assembled_of_readsAlike` — one level: elements that read alike go through
  the same events, their own reports apart, and are built alike, their derived keys apart.
* `Scene.Precedes` — what this means for a visit and for the same element without everything that
  is ignored; `Rendered.precedes` — every visit up to the greatest depth.
* `visits_precede` — whole documents.
-/

namespace ComponentTree

variable {ρ : Type}

namespace Scene

/-! ### One level -/

section Level

variable (scene : Scene ρ) (descend : String → Element → Traced ρ (Instance ρ)) (path : String)

/-- What happens between the two calls for an element once it was reported for its anomalies: its
name is resolved, and its slots and children are rendered. -/
def work (node : Element) : List (Event ρ) :=
  let resolution := resolve node.component scene.registry scene.settings
  [.resolve path node.component resolution.kind]
    ++ (scene.reports (resolution.diagnostic.toList.map (·.atPath path))
    ++ ((renderSlots descend path node.openSlots).events
    ++ ((node.strayInChildren scene.settings.legacyPropsChildren).map .stray
    ++ (renderChildren descend path
      (node.chosenChildren scene.settings.legacyPropsChildren)).events)))

theorem inside_eq (node : Element) :
    scene.inside descend path node
      = scene.reports (node.anomalies.map fun anomaly => ⟨node.component, path, anomaly⟩)
        ++ scene.work descend path node := rfl

variable {scene} {e e' : Element}
  (alike : e.ReadsAlike scene.settings.legacyPropsChildren e')

include alike

/-- Elements that read alike go through the same events, apart from what is reported about them. -/
theorem work_of_readsAlike : scene.work descend path e' = scene.work descend path e := by
  rw [work, alike.component, alike.slots, alike.stray, alike.children, work]

/-- Elements that read alike are built alike, apart from their keys. -/
theorem assembled_of_readsAlike (slots : Fields (List (Instance ρ)))
    (children : List (Instance ρ)) :
    scene.assembled path e' slots children
      = { scene.assembled path e slots children with key := e'.effectiveKey path } := by
  simp only [assembled, alike.component, alike.props]

end Level

/-! ### One visit -/

/-- What precedence means for a visit with a number of levels left for what is in it: the children
of its first source are rendered, and with the element trimmed of everything that is ignored nothing
else changes. -/
structure Precedes (scene : Scene ρ) (level : Nat) (v : Visit ρ) : Prop where
  /-- The element of the visit is rendered from its node. -/
  rendered : (scene.renderElement (level + 1) v.path v.node).value = .element v.element
  /-- Without a source there are no children. -/
  childless : v.node.childrenSources = [] → v.element.children = []
  /-- The source that is named first is the one that is rendered. -/
  first : ∀ source ignored, v.node.childrenSources = source :: ignored →
    ∃ content, v.node.contentAt scene.settings.legacyPropsChildren source = some content ∧
      v.element.children
        = (renderContent (scene.renderElement level) v.path content).value
  /-- The trimmed element renders to the same instance with everything in it, apart from its key. -/
  value : (scene.renderElement (level + 1) v.path v.node.trimmed).value
    = .element { v.element with key := v.node.trimmed.effectiveKey v.path }
  /-- The key is the same, too, if it is declared. -/
  key : v.node.key.isSome = true → v.node.trimmed.effectiveKey v.path = v.element.key
  /-- The reports about the element itself come first; those of the trimmed element are the rest. -/
  diagnostics : (scene.renderElement (level + 1) v.path v.node).diagnostics
    = (if scene.settings.displayErrorMessage then v.node.anomalies.map v.diagnostic else [])
      ++ (scene.renderElement (level + 1) v.path v.node.trimmed).diagnostics
  /-- Its own reports name the sources, or a key that has no effect. -/
  anomalies : ∀ anomaly ∈ v.node.anomalies, anomaly = .ambiguousChildren v.node.childrenSources ∨
    ∃ place value, anomaly = .ignoredKey place value
  /-- Everything else that happens, all visits of elements below included, happens for the trimmed
  element as well. -/
  events : ∃ work built,
    (scene.renderElement (level + 1) v.path v.node).events
      = .format v.path v.node
        :: (scene.reports (v.node.anomalies.map v.diagnostic)
          ++ (work ++ [.decorate (.element v.element) v.node])) ∧
    (scene.renderElement (level + 1) v.path v.node.trimmed).events
      = .format v.path v.node.trimmed :: (work ++ [.decorate built v.node.trimmed])

variable {scene : Scene ρ}

/-- An element on a level is reported for its anomalies, goes through its work, and is handed to the
node decorator as it was built. -/
theorem events_renderElement_succ (identity : scene.hooks = .none) (level : Nat) (path : String)
    (e : Element) :
    (scene.renderElement (level + 1) path e).events
      = .format path e
        :: (scene.reports (e.anomalies.map fun anomaly => ⟨e.component, path, anomaly⟩)
          ++ (scene.work (scene.renderElement level) path e
            ++ [.decorate (scene.renderElement (level + 1) path e).value e])) := by
  rw [value_renderElement_succ identity, renderElement, events_expand,
    format_of_identity identity]
  simp only [inside_eq, List.append_assoc, builtOf]

/-- The diagnostics of an element on a level are its own reports, then those of its work. -/
theorem diagnostics_renderElement_succ (identity : scene.hooks = .none) (level : Nat)
    (path : String) (e : Element) :
    (scene.renderElement (level + 1) path e).diagnostics
      = (if scene.settings.displayErrorMessage then
            e.anomalies.map fun anomaly => ⟨e.component, path, anomaly⟩
          else [])
        ++ (scene.work (scene.renderElement level) path e).filterMap Event.diagnostic? := by
  rw [Traced.diagnostics, events_renderElement_succ identity, List.filterMap_cons,
    List.filterMap_append, List.filterMap_append, diagnostics_reports]
  exact congrArg _ (List.append_nil _)

/-- What is rendered as children of an element is the content of its first source. -/
theorem value_renderChildren_of_sources (descend : String → Element → Traced ρ (Instance ρ))
    (path : String) {legacy : Bool} {e : Element} {source : ChildrenSource}
    {ignored : List ChildrenSource} (sources : e.childrenSources = source :: ignored) :
    ∃ content, e.contentAt legacy source = some content ∧
      (renderChildren descend path (e.chosenChildren legacy)).value
        = (renderContent descend path content).value := by
  have declared : e.declares source = true := by
    have member : source ∈ e.childrenSources := sources ▸ List.mem_cons_self
    rw [childrenSources_eq_filter] at member
    exact (List.mem_filter.mp member).2
  rw [← Element.isSome_contentAt legacy] at declared
  obtain ⟨content, hcontent⟩ := Option.isSome_iff_exists.mp declared
  refine ⟨content, hcontent, ?_⟩
  rw [Element.chosenChildren_eq_head?, sources, List.head?_cons, Option.bind_some, hcontent]
  rfl

section Trimmed

variable (identity : scene.hooks = .none) (level : Nat) (path : String) (e : Element)

include identity

/-- The trimmed element renders to the same instance, apart from its key. -/
theorem value_renderElement_trimmed :
    (scene.renderElement (level + 1) path e.trimmed).value
      = .element { scene.assembled path e
          (renderSlots (scene.renderElement level) path e.openSlots).value
          (renderChildren (scene.renderElement level) path
            (e.chosenChildren scene.settings.legacyPropsChildren)).value with
          key := e.trimmed.effectiveKey path } := by
  have alike := e.readsAlike_trimmed scene.settings.legacyPropsChildren
  rw [value_renderElement_succ identity, assembled_of_readsAlike _ alike, alike.slots,
    alike.children]

/-- The trimmed element goes through the work of the element, and nothing else is reported of it. -/
theorem events_renderElement_trimmed :
    (scene.renderElement (level + 1) path e.trimmed).events
      = .format path e.trimmed
        :: (scene.work (scene.renderElement level) path e
          ++ [.decorate (scene.renderElement (level + 1) path e.trimmed).value e.trimmed]) := by
  have alike := e.readsAlike_trimmed scene.settings.legacyPropsChildren
  have quiet : scene.reports [] = [] := ite_self _
  rw [events_renderElement_succ identity, work_of_readsAlike _ _ alike, e.anomalies_trimmed,
    List.map_nil, quiet, List.nil_append]

/-- The diagnostics of an element are its own reports, then those of the trimmed element. -/
theorem diagnostics_renderElement_trimmed :
    (scene.renderElement (level + 1) path e).diagnostics
      = (if scene.settings.displayErrorMessage then
            e.anomalies.map fun anomaly => ⟨e.component, path, anomaly⟩
          else [])
        ++ (scene.renderElement (level + 1) path e.trimmed).diagnostics := by
  have alike := e.readsAlike_trimmed scene.settings.legacyPropsChildren
  rw [diagnostics_renderElement_succ identity,
    diagnostics_renderElement_succ identity _ _ e.trimmed, work_of_readsAlike _ _ alike,
    e.anomalies_trimmed, List.map_nil, ite_self, List.nil_append]

end Trimmed

/-- Every visit up to the greatest depth is rendered from its first source, as if nothing that is
ignored were there. -/
theorem Rendered.precedes (identity : scene.hooks = .none) {v : Visit ρ}
    (rendered : scene.Rendered v) (within : v.depth ≤ scene.settings.maxDepth) :
    ∃ level, v.depth + level = scene.settings.maxDepth ∧ scene.Precedes level v := by
  obtain ⟨level, total, value⟩ := rendered.exists_level within
  have element := Instance.element.inj
    (value.symm.trans (value_renderElement_succ identity level v.path v.node))
  have component : v.element.component = v.node.component := by rw [element]; rfl
  have key : v.element.key = v.node.effectiveKey v.path := by rw [element]; rfl
  have own : v.diagnostic = fun anomaly => ⟨v.node.component, v.path, anomaly⟩ := by
    unfold Visit.diagnostic
    rw [component]
  refine ⟨level, total, ?_⟩
  exact
    { rendered := value
      childless := fun none => by
        rw [element, assembled_children, Element.chosenChildren_eq_head?, none]
        rfl
      first := fun source ignored sources => by
        rw [element, assembled_children]
        exact value_renderChildren_of_sources _ _ sources
      value := by rw [value_renderElement_trimmed identity, ← element]
      key := fun declared => by rw [key, v.node.effectiveKey_trimmed v.path declared]
      diagnostics := by rw [diagnostics_renderElement_trimmed identity, own]
      anomalies := fun anomaly => v.node.mem_anomalies
      events := by
        refine ⟨_, _, ?_, events_renderElement_trimmed identity level v.path v.node⟩
        rw [events_renderElement_succ identity, value, own] }

end Scene

/-! ### Documents -/

/-- **The first source of children counts.** Without hooks, for every element of a document that is
rendered and not too deep, whatever the registry and the settings are: its children are those of the
first of its declared sources; and without the other sources and without keys among its props and
slots it renders to the same instance, apart from a derived key of its own, through the same events,
apart from the reports that name what was ignored. So nothing that is ignored is visited. -/
theorem visits_precede (r : Renderer ρ) (identity : r.hooks = .none) :
    ∀ v ∈ r.visits, v.depth ≤ r.settings.maxDepth →
      ∃ level, v.depth + level = r.settings.maxDepth ∧ r.toScene.Precedes level v := by
  intro v hv within
  exact (rendered_of_mem_visits r identity v hv).precedes identity within

/-- An element inside another one, with children declared in three places, of which two hold an
element that nothing else mentions, and with two keys that have no effect. -/
theorem visits_precede_nested :
    let node : Element :=
      { component := "p"
        key := some "p"
        children := some (.text "shown")
        props := [("children", .object [("component", .string "b")]), ("key", .string "x")]
        slots := [("children", .nodes [.element { component := "i" }]), ("key", .text "y")] }
    let r : Renderer String :=
      { registry := {}
        settings := { allowUnsecureHtmlElement := true }
        hooks := .none
        roots := [.element
          { component := "div"
            key := some "d"
            slots := [("aside", .nodes [.element node])] }] }
    ∃ v ∈ r.visits, v.depth = 2 ∧ v.node.component = "p" ∧
      v.node.childrenSources = [.root, .renderProps, .props] ∧
      v.node.anomalies.length = 3 ∧
      ∃ level, 2 + level = 256 ∧ r.toScene.Precedes level v := by
  intro node r
  have member : (r.visits.getLast (by decide)) ∈ r.visits := List.getLast_mem _
  refine ⟨_, member, by decide, by decide, by decide, by decide, ?_⟩
  exact visits_precede r rfl _ member (by decide)

end ComponentTree
