import ComponentTree.Proofs.Tree.MapElements
import ComponentTree.Proofs.Render.Nesting

/-!
Two renders of a document, compared. `Mirrors` says that one render can be read off another: its
tree is the other tree with every element replaced, and its diagnostics are read off the other's
events. It carries over from elements to whole documents once it is known of single elements.

* `mirrors_expand` — one level: what has to be known is how the element itself is replaced, and what
  becomes of its own reports.
* `mirrors_renderRoots` — whole documents.
-/

namespace ComponentTree

variable {ρ : Type}

/-- The first traced instance can be read off the second, when they stand inside the elements at
the given paths. -/
structure Mirrors (f : Nat → RenderedElement ρ → RenderedElement ρ)
    (reading : List String × Event ρ → Option Diagnostic) (within : List String)
    (t t' : Traced ρ (Instance ρ)) : Prop where
  value : t.value = t'.value.mapElements f (within.length + 1)
  diagnostics : t.diagnostics = Event.read reading within t'.events

namespace Scene

section Lists

variable {f : Nat → RenderedElement ρ → RenderedElement ρ}
  {reading : List String × Event ρ → Option Diagnostic} {within : List String} {levels : Nat}
  {descend descend' : String → Element → Traced ρ (Instance ρ)}
  (nested : ∀ path e, Nested levels (descend' path e).events)
  (below : ∀ path e, Mirrors f reading within (descend path e) (descend' path e))

include below

theorem mirrors_renderNode (path : String) (node : Node) :
    Mirrors f reading within (renderNode descend path node) (renderNode descend' path node) := by
  cases node with
  | text value => exact ⟨(mapElements_text value).symm, rfl⟩
  | element e => exact below path e

theorem value_renderSiblings_mirrors (path : String) (nodes : List Node) :
    (renderSiblings descend path nodes).value
      = (renderSiblings descend' path nodes).value.map (·.mapElements f (within.length + 1)) := by
  rw [value_renderSiblings, value_renderSiblings, map_mapIdx]
  simp only [(mirrors_renderNode below _ _).value]

theorem value_renderContent_mirrors (path : String) (content : Content) :
    (renderContent descend path content).value
      = (renderContent descend' path content).value.map (·.mapElements f (within.length + 1)) := by
  cases content with
  | text value => simp [renderContent]
  | nodes items => exact value_renderSiblings_mirrors below path items

theorem value_renderChildren_mirrors (path : String) (content : Option Content) :
    (renderChildren descend path content).value
      = (renderChildren descend' path content).value.map (·.mapElements f (within.length + 1)) := by
  cases content with
  | none => rfl
  | some content => exact value_renderContent_mirrors below path content

theorem value_renderSlots_mirrors (path : String) (slots : Fields Content) :
    (renderSlots descend path slots).value
      = (renderSlots descend' path slots).value.map fun slot =>
          (slot.1, slot.2.map (·.mapElements f (within.length + 1))) := by
  rw [value_renderSlots, value_renderSlots, List.map_map]
  simp only [value_renderContent_mirrors below, Function.comp_def]

include nested

theorem diagnostics_renderSiblings_mirrors (path : String) (nodes : List Node) :
    (renderSiblings descend path nodes).diagnostics
      = Event.read reading within (renderSiblings descend' path nodes).events := by
  rw [diagnostics_renderSiblings, read_renderSiblings nested]
  simp only [(mirrors_renderNode below _ _).diagnostics]

theorem diagnostics_renderContent_mirrors (path : String) (content : Content) :
    (renderContent descend path content).diagnostics
      = Event.read reading within (renderContent descend' path content).events := by
  cases content with
  | text value => rfl
  | nodes items => exact diagnostics_renderSiblings_mirrors nested below path items

theorem diagnostics_renderChildren_mirrors (path : String) (content : Option Content) :
    (renderChildren descend path content).diagnostics
      = Event.read reading within (renderChildren descend' path content).events := by
  cases content with
  | none => rfl
  | some content => exact diagnostics_renderContent_mirrors nested below path content

theorem diagnostics_renderSlots_mirrors (path : String) (slots : Fields Content) :
    (renderSlots descend path slots).diagnostics
      = Event.read reading within (renderSlots descend' path slots).events := by
  rw [diagnostics_renderSlots, read_renderSlots nested]
  simp only [diagnostics_renderContent_mirrors nested below]

end Lists

/-! ### One level -/

/-- Two scenes in which elements are formatted alike and have the same children, and in which
messages are both on or both off. -/
structure Alike (scene scene' : Scene ρ) : Prop where
  format : scene.hooks.format = scene'.hooks.format
  legacy : scene.settings.legacyPropsChildren = scene'.settings.legacyPropsChildren
  messages : scene.settings.displayErrorMessage = scene'.settings.displayErrorMessage
  plain : scene.hooks.Undecorated
  plain' : scene'.hooks.Undecorated

variable {scene scene' : Scene ρ} {f : Nat → RenderedElement ρ → RenderedElement ρ}
  {reading : List String × Event ρ → Option Diagnostic} {within : List String}

/-- What is read off reports. -/
theorem filterMap_reports (diagnostics : List Diagnostic) :
    (scene.reports diagnostics).filterMap (fun event => reading (within, event))
      = if scene.settings.displayErrorMessage then
          diagnostics.filterMap fun diagnostic => reading (within, .report diagnostic)
        else [] := by
  unfold reports
  split
  · rw [List.filterMap_map]
    rfl
  · rfl

/-- **One level of a comparison.** The element itself is replaced as here; of the other render its
reports are read alone, and those of the element are read as they are made here. -/
theorem mirrors_expand (alike : scene.Alike scene') {levels : Nat}
    {descend descend' : String → Element → Traced ρ (Instance ρ)} {path : String}
    (nested : ∀ path e, Nested levels (descend' path e).events)
    (below : ∀ inner e, Mirrors f reading (path :: within) (descend inner e) (descend' inner e))
    (element : ∀ node slots children,
      f (within.length + 1) (scene'.assembled path node slots children)
        = scene.assembled path node slots children)
    (silent : ∀ event : Event ρ, event.diagnostic? = none → reading (path :: within, event) = none)
    (anomalies : ∀ node : Element,
      (node.anomalies.map fun anomaly => ⟨node.component, path, anomaly⟩).filterMap
          (fun diagnostic => reading (path :: within, .report diagnostic))
        = node.anomalies.map fun anomaly => ⟨node.component, path, anomaly⟩)
    (name : ∀ component,
      ((resolve component scene'.registry scene'.settings).diagnostic.toList.map
          (·.atPath path)).filterMap
          (fun diagnostic => reading (path :: within, .report diagnostic))
        = (resolve component scene.registry scene.settings).diagnostic.toList.map (·.atPath path))
    (declared : Element) :
    Mirrors f reading within (scene.expand descend path declared)
      (scene'.expand descend' path declared) where
  value := by
    rw [value_expand _ _ _ alike.plain, value_expand _ _ _ alike.plain', mapElements_element]
    simp only [alike.format, alike.legacy, value_renderSlots_mirrors below,
      value_renderChildren_mirrors below, List.length_cons]
    exact congrArg Instance.element (element _ _ _).symm
  diagnostics := by
    have strays : ∀ values : List Json, (values.map (Event.stray (ρ := ρ))).filterMap
        (fun event => reading (path :: within, event)) = [] := by
      intro values
      rw [List.filterMap_map]
      exact List.filterMap_eq_nil_iff.mpr fun _ _ => silent _ rfl
    rw [diagnostics_expand, events_expand, (scene'.nested_inside path nested _).read_bracket,
      scene'.read_inside path nested, filterMap_reports, filterMap_reports, anomalies, name, strays,
      silent (.format _ _) rfl, silent (.resolve _ _ _) rfl, silent (.decorate _ _) rfl]
    simp only [alike.format, alike.legacy, alike.messages,
      diagnostics_renderSlots_mirrors nested below, diagnostics_renderChildren_mirrors nested below,
      Option.toList_none, read_nil, List.nil_append, List.append_nil, List.append_assoc]

/-! ### Whole documents -/

theorem mirrors_renderRoots (scene scene' : Scene ρ) (plain : scene.hooks.Undecorated)
    (plain' : scene'.hooks.Undecorated)
    (below : ∀ path e, Mirrors f reading [] (scene.renderElement scene.settings.maxDepth path e)
      (scene'.renderElement scene'.settings.maxDepth path e))
    (silent : ∀ top, reading ([], .finish top) = none) (roots : List Node) :
    Mirrors f reading [] (scene.renderRoots roots) (scene'.renderRoots roots) where
  value := by
    rw [value_renderRoots plain, value_renderRoots plain', mapElements_fragment,
      value_renderSiblings_mirrors below]
  diagnostics := by
    rw [diagnostics_renderRoots, renderRoots,
      (scene'.nested_renderSiblings _ "" roots).read_append,
      diagnostics_renderSiblings_mirrors (scene'.nested_renderElement _) below,
      read_quiet _ _ (List.forall_mem_singleton.mpr rfl), List.filterMap_cons, silent]
    exact (List.append_nil _).symm

end Scene

end ComponentTree
