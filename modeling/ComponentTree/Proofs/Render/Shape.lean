import ComponentTree.Renderer.Basic
import ComponentTree.Proofs.Tree.Place

/-!
What a render builds and reports, level by level, when no decorator replaces what was built. The
format hook is arbitrary throughout, so `node` is always the formatted element.

* `value_truncate`, `value_expand` — the element that one level makes of a declared element.
* `diagnostics_truncate`, `diagnostics_expand` — the diagnostics of one level, in order.
* `Scene.Made`, `made_of_mem_places` — every element of a rendered tree was cut off right past the
  last level or expanded on a level before, with whatever its slots and children then hold;
  `Made.depth_le` — so none is deeper, and those that are as deep hold nothing.
* `diagnostics_renderRoots_eq_nil` — with messages off nothing is reported.
* `diagnostics_renderRoots_congr` — whatever decorators do, the same is reported.
-/

namespace ComponentTree

variable {ρ α : Type}

/-- No decorator changes what it is given. The format hook may do anything. -/
structure Hooks.Undecorated (hooks : Hooks ρ) : Prop where
  node : ∀ built node, hooks.decorateNode built node = built
  tree : ∀ top, hooks.decorateTree top = top

theorem Hooks.undecorated_none : (Hooks.none : Hooks ρ).Undecorated :=
  ⟨fun _ _ => rfl, fun _ => rfl⟩

/-- Mapping after an indexed map is one indexed map. -/
theorem map_mapIdx {β γ : Type} (f : Nat → α → β) (g : β → γ) (list : List α) :
    (list.mapIdx f).map g = list.mapIdx fun i a => g (f i a) := by
  rw [List.mapIdx_eq_zipIdx_map, List.mapIdx_eq_zipIdx_map, List.map_map]
  rfl

/-! ### Diagnostics of traced values -/

namespace Traced

@[simp] theorem diagnostics_silent (value : α) : (silent value : Traced ρ α).diagnostics = [] := rfl

@[simp] theorem diagnostics_sequence (steps : List (Traced ρ α)) :
    (sequence steps).diagnostics = steps.flatMap diagnostics := by
  rw [diagnostics, events_sequence, List.filterMap_flatMap]
  rfl

end Traced

namespace Scene

/-- Whatever is reported, nothing but reports is made of it. -/
theorem exists_of_mem_reports {scene : Scene ρ} {diagnostics : List Diagnostic} {event : Event ρ}
    (h : event ∈ scene.reports diagnostics) : ∃ d ∈ diagnostics, .report d = event := by
  unfold reports at h
  split at h
  · exact List.mem_map.mp h
  · exact absurd h List.not_mem_nil

/-- What is reported is what there is to report, unless messages are off. -/
theorem diagnostics_reports (scene : Scene ρ) (diagnostics : List Diagnostic) :
    (scene.reports diagnostics).filterMap Event.diagnostic?
      = if scene.settings.displayErrorMessage then diagnostics else [] := by
  unfold reports
  split
  · rw [List.filterMap_map]
    exact List.filterMap_some
  · rfl

/-! ### Lists of nodes -/

section Lists

variable (descend : String → Element → Traced ρ (Instance ρ)) (path : String)

theorem value_renderSiblings (nodes : List Node) :
    (renderSiblings descend path nodes).value
      = nodes.mapIdx fun i node => (renderNode descend (childPath path i) node).value := by
  rw [renderSiblings, Traced.value_sequence, map_mapIdx]

theorem diagnostics_renderSiblings (nodes : List Node) :
    (renderSiblings descend path nodes).diagnostics
      = (nodes.mapIdx fun i node =>
          (renderNode descend (childPath path i) node).diagnostics).flatten := by
  rw [renderSiblings, Traced.diagnostics_sequence, List.flatMap_def, map_mapIdx]

theorem value_renderSlots (slots : Fields Content) :
    (renderSlots descend path slots).value
      = slots.map fun slot => (slot.1, (renderContent descend path slot.2).value) := by
  rw [renderSlots, Traced.value_sequence, List.map_map]
  rfl

theorem diagnostics_renderSlots (slots : Fields Content) :
    (renderSlots descend path slots).diagnostics
      = slots.flatMap fun slot => (renderContent descend path slot.2).diagnostics := by
  rw [renderSlots, Traced.diagnostics_sequence, List.flatMap_map]
  rfl

variable {descend path} {depth : Nat} {Q : Place ρ → Prop}

/-- What holds of every place in the elements below holds of every place among siblings. -/
theorem forall_placesIn_renderSiblings
    (below : ∀ path e, ∀ place ∈ (descend path e).value.placesAt depth path, Q place)
    (nodes : List Node) :
    ∀ place ∈ Instance.placesIn depth path 0 (renderSiblings descend path nodes).value,
      Q place := by
  intro place hplace
  rw [value_renderSiblings, mem_placesIn] at hplace
  obtain ⟨i, h, hplace⟩ := hplace
  rw [List.length_mapIdx] at h
  rw [List.getElem_mapIdx] at hplace
  cases hnode : nodes[i] with
  | text value =>
      rw [hnode] at hplace
      exact absurd hplace (by simp [renderNode])
  | element e =>
      rw [hnode] at hplace
      exact below _ e place hplace

theorem forall_placesIn_renderContent
    (below : ∀ path e, ∀ place ∈ (descend path e).value.placesAt depth path, Q place)
    (content : Content) :
    ∀ place ∈ Instance.placesIn depth path 0 (renderContent descend path content).value,
      Q place := by
  cases content with
  | text value =>
      intro place hplace
      exact absurd hplace (by simp [renderContent, Instance.placesIn])
  | nodes items => exact forall_placesIn_renderSiblings below items

end Lists

/-! ### One level -/

/-- The element that is built of a formatted element, given what its slots and children hold. -/
def assembled (scene : Scene ρ) (path : String) (node : Element)
    (slots : Fields (List (Instance ρ))) (children : List (Instance ρ)) : RenderedElement ρ where
  component := node.component
  renderable := (resolve node.component scene.registry scene.settings).renderable
  key := node.effectiveKey path
  props := node.openProps
  slots := slots
  children := children

section Assembled

variable {scene : Scene ρ} {path : String} {node : Element}
  {slots : Fields (List (Instance ρ))} {children : List (Instance ρ)}

@[simp] theorem assembled_renderable : (scene.assembled path node slots children).renderable
    = (resolve node.component scene.registry scene.settings).renderable := rfl

@[simp] theorem assembled_slots : (scene.assembled path node slots children).slots = slots := rfl

@[simp] theorem assembled_children :
    (scene.assembled path node slots children).children = children := rfl

end Assembled

section Level

variable {scene : Scene ρ} (descend : String → Element → Traced ρ (Instance ρ)) (path : String)
  (declared : Element)

theorem value_truncate (plain : scene.hooks.Undecorated) :
    (scene.truncate path declared).value
      = let node := scene.hooks.format path declared
        .element (.empty node.component (node.effectiveKey path)) := by
  rw [truncate, plain.node]

theorem value_expand (plain : scene.hooks.Undecorated) :
    (scene.expand descend path declared).value
      = let node := scene.hooks.format path declared
        .element (scene.assembled path node (renderSlots descend path node.openSlots).value
          (renderChildren descend path
            (node.chosenChildren scene.settings.legacyPropsChildren)).value) := by
  rw [expand, plain.node]
  rfl

variable (scene)

/-- An element past the last level is reported for its depth, and for nothing else. -/
theorem diagnostics_truncate :
    (scene.truncate path declared).diagnostics
      = if scene.settings.displayErrorMessage then
          [⟨(scene.hooks.format path declared).component, path, .tooDeep scene.settings.maxDepth⟩]
        else [] := by
  unfold truncate Traced.diagnostics
  simp only [List.filterMap_append, diagnostics_reports]
  exact List.append_nil _

/-- An element on a level is reported for its anomalies, then for its name; the diagnostics of its
slots follow, then those of its children. -/
theorem diagnostics_expand :
    (scene.expand descend path declared).diagnostics
      = let node := scene.hooks.format path declared
        (if scene.settings.displayErrorMessage then
            node.anomalies.map fun anomaly => ⟨node.component, path, anomaly⟩
          else [])
          ++ (if scene.settings.displayErrorMessage then
              (resolve node.component scene.registry scene.settings).diagnostic.toList.map
                (·.atPath path)
            else [])
          ++ (renderSlots descend path node.openSlots).diagnostics
          ++ (renderChildren descend path
              (node.chosenChildren scene.settings.legacyPropsChildren)).diagnostics := by
  have stray : ∀ values : List Json,
      (values.map (Event.stray (ρ := ρ))).filterMap Event.diagnostic? = [] := by
    intro values
    rw [List.filterMap_map]
    exact List.filterMap_eq_nil_iff.mpr fun _ _ => rfl
  unfold expand Traced.diagnostics
  simp only [List.filterMap_append, diagnostics_reports, stray, List.filterMap_cons,
    List.filterMap_nil, Event.diagnostic?, List.nil_append, List.append_nil]

end Level

/-! ### Messages off -/

section Silenced

variable {descend : String → Element → Traced ρ (Instance ρ)}
  (below : ∀ path e, (descend path e).diagnostics = [])

include below

theorem diagnostics_renderSiblings_eq_nil (path : String) (nodes : List Node) :
    (renderSiblings descend path nodes).diagnostics = [] := by
  rw [diagnostics_renderSiblings, List.flatten_eq_nil_iff]
  intro diagnostics h
  obtain ⟨i, hi, rfl⟩ := List.mem_mapIdx.mp h
  cases nodes[i] with
  | text value => rfl
  | element e => exact below _ e

theorem diagnostics_renderContent_eq_nil (path : String) (content : Content) :
    (renderContent descend path content).diagnostics = [] := by
  cases content with
  | text value => rfl
  | nodes items => exact diagnostics_renderSiblings_eq_nil below path items

theorem diagnostics_renderChildren_eq_nil (path : String) (content : Option Content) :
    (renderChildren descend path content).diagnostics = [] := by
  cases content with
  | none => rfl
  | some content => exact diagnostics_renderContent_eq_nil below path content

theorem diagnostics_renderSlots_eq_nil (path : String) (slots : Fields Content) :
    (renderSlots descend path slots).diagnostics = [] := by
  rw [diagnostics_renderSlots, List.flatMap_eq_nil_iff]
  exact fun slot _ => diagnostics_renderContent_eq_nil below path slot.2

end Silenced

/-- With messages off, nothing is handed over about an element or about anything in it. -/
theorem diagnostics_renderElement_eq_nil (scene : Scene ρ)
    (off : scene.settings.displayErrorMessage = false) (level : Nat) (path : String)
    (declared : Element) : (scene.renderElement level path declared).diagnostics = [] := by
  induction level generalizing path declared with
  | zero => rw [renderElement, diagnostics_truncate, off]; rfl
  | succ level ih =>
      rw [renderElement, diagnostics_expand, off]
      simp only [diagnostics_renderSlots_eq_nil ih, diagnostics_renderChildren_eq_nil ih]
      rfl

/-! ### Decorators -/

section Decorated

variable {descend descend' : String → Element → Traced ρ (Instance ρ)}
  (below : ∀ path e, (descend path e).diagnostics = (descend' path e).diagnostics)

include below

theorem diagnostics_renderSiblings_congr (path : String) (nodes : List Node) :
    (renderSiblings descend path nodes).diagnostics
      = (renderSiblings descend' path nodes).diagnostics := by
  have each : ∀ path node,
      (renderNode descend path node).diagnostics = (renderNode descend' path node).diagnostics := by
    intro path node
    cases node with
    | text value => rfl
    | element e => exact below path e
  rw [diagnostics_renderSiblings, diagnostics_renderSiblings]
  simp only [each]

theorem diagnostics_renderContent_congr (path : String) (content : Content) :
    (renderContent descend path content).diagnostics
      = (renderContent descend' path content).diagnostics := by
  cases content with
  | text value => rfl
  | nodes items => exact diagnostics_renderSiblings_congr below path items

theorem diagnostics_renderChildren_congr (path : String) (content : Option Content) :
    (renderChildren descend path content).diagnostics
      = (renderChildren descend' path content).diagnostics := by
  cases content with
  | none => rfl
  | some content => exact diagnostics_renderContent_congr below path content

theorem diagnostics_renderSlots_congr (path : String) (slots : Fields Content) :
    (renderSlots descend path slots).diagnostics
      = (renderSlots descend' path slots).diagnostics := by
  rw [diagnostics_renderSlots, diagnostics_renderSlots]
  simp only [diagnostics_renderContent_congr below]

end Decorated

/-- Decorators do not change what is reported about an element and about everything in it. -/
theorem diagnostics_renderElement_congr {scene scene' : Scene ρ}
    (registry : scene.registry = scene'.registry) (settings : scene.settings = scene'.settings)
    (format : scene.hooks.format = scene'.hooks.format) (level : Nat) (path : String)
    (declared : Element) :
    (scene.renderElement level path declared).diagnostics
      = (scene'.renderElement level path declared).diagnostics := by
  induction level generalizing path declared with
  | zero =>
      rw [renderElement, renderElement, diagnostics_truncate, diagnostics_truncate, settings,
        format]
  | succ level ih =>
      rw [renderElement, renderElement, diagnostics_expand, diagnostics_expand, registry, settings,
        format]
      simp only [diagnostics_renderSlots_congr ih, diagnostics_renderChildren_congr ih]

/-! ### Whole renders -/

/-- How an element of an undecorated tree comes about. -/
inductive Made (scene : Scene ρ) : Place ρ → Prop where
  /-- Right past the last level it is cut off. -/
  | truncated (path : String) (node : Element) :
      Made scene
        ⟨scene.settings.maxDepth + 1, path, .empty node.component (node.effectiveKey path)⟩
  /-- On any level before it is expanded. -/
  | expanded {depth : Nat} (within : depth ≤ scene.settings.maxDepth) (path : String)
      (node : Element) (slots : Fields (List (Instance ρ))) (children : List (Instance ρ)) :
      Made scene ⟨depth, path, scene.assembled path node slots children⟩

variable {scene : Scene ρ}

/-- What is past the last level renders nothing. -/
theorem Made.isNull_of_deep {place : Place ρ} (made : scene.Made place)
    (deep : place.depth = scene.settings.maxDepth + 1) :
    place.element.renderable.isNull = true := by
  cases made with
  | truncated path node => rfl
  | @expanded depth within path node slots children =>
      have past : depth = scene.settings.maxDepth + 1 := deep
      omega

/-- No element of an undecorated tree is deeper than one past the greatest depth, and one that is as
deep renders nothing and holds nothing. -/
theorem Made.depth_le {place : Place ρ} (made : scene.Made place) :
    place.depth ≤ scene.settings.maxDepth + 1 ∧
      (place.depth = scene.settings.maxDepth + 1 →
        ∃ component key, place.element = .empty component key) := by
  cases made with
  | truncated path node => exact ⟨Nat.le_refl _, fun _ => ⟨_, _, rfl⟩⟩
  | @expanded depth within path node slots children =>
      refine ⟨Nat.le_succ_of_le within, fun deep => ?_⟩
      have past : depth = scene.settings.maxDepth + 1 := deep
      omega

/-- One element with everything in it. The induction is on the levels that are left; together with
the depth of the element they make up the greatest depth and one more. -/
theorem made_of_mem_renderElement (plain : scene.hooks.Undecorated) {level depth : Nat}
    (total : depth + level = scene.settings.maxDepth + 1) (path : String) (declared : Element) :
    ∀ place ∈ (scene.renderElement level path declared).value.placesAt depth path,
      scene.Made place := by
  induction level generalizing depth path declared with
  | zero =>
      intro place hplace
      obtain rfl : depth = scene.settings.maxDepth + 1 := total
      rw [renderElement, value_truncate path declared plain, mem_placesAt_element] at hplace
      rcases hplace with rfl | ⟨slot, hslot, -⟩ | hchild
      · exact .truncated path _
      · exact absurd hslot List.not_mem_nil
      · exact absurd hchild List.not_mem_nil
  | succ level ih =>
      intro place hplace
      have below := ih (show depth + 1 + level = scene.settings.maxDepth + 1 by omega)
      rw [renderElement, value_expand _ path declared plain, mem_placesAt_element] at hplace
      rcases hplace with rfl | ⟨slot, hslot, hplace⟩ | hplace
      · exact .expanded (by omega) path _ _ _
      · rw [assembled_slots, value_renderSlots, List.mem_map] at hslot
        obtain ⟨declaredSlot, -, rfl⟩ := hslot
        exact forall_placesIn_renderContent below declaredSlot.2 place hplace
      · rw [assembled_children] at hplace
        cases hchosen : (scene.hooks.format path declared).chosenChildren
            scene.settings.legacyPropsChildren with
        | none =>
            rw [hchosen] at hplace
            exact absurd hplace List.not_mem_nil
        | some content =>
            rw [hchosen] at hplace
            exact forall_placesIn_renderContent below content place hplace

theorem value_renderRoots (plain : scene.hooks.Undecorated) (roots : List Node) :
    (scene.renderRoots roots).value = .fragment
      (renderSiblings (scene.renderElement scene.settings.maxDepth) "" roots).value := by
  rw [renderRoots, plain.tree]

theorem diagnostics_renderRoots (roots : List Node) :
    (scene.renderRoots roots).diagnostics
      = (renderSiblings (scene.renderElement scene.settings.maxDepth) "" roots).diagnostics := by
  rw [renderRoots, Traced.diagnostics, List.filterMap_append]
  exact List.append_nil _

/-- Decorators, that of the whole tree included, do not change what is reported. -/
theorem diagnostics_renderRoots_congr {scene scene' : Scene ρ}
    (registry : scene.registry = scene'.registry) (settings : scene.settings = scene'.settings)
    (format : scene.hooks.format = scene'.hooks.format) (roots : List Node) :
    (scene.renderRoots roots).diagnostics = (scene'.renderRoots roots).diagnostics := by
  rw [diagnostics_renderRoots, diagnostics_renderRoots, settings]
  exact diagnostics_renderSiblings_congr
    (diagnostics_renderElement_congr registry settings format _) "" roots

/-- With messages off, nothing is handed over at all. -/
theorem diagnostics_renderRoots_eq_nil (off : scene.settings.displayErrorMessage = false)
    (roots : List Node) : (scene.renderRoots roots).diagnostics = [] := by
  rw [diagnostics_renderRoots]
  exact diagnostics_renderSiblings_eq_nil (scene.diagnostics_renderElement_eq_nil off _) "" roots

/-- **Every element of a rendered tree** is past the last level and cut off, or on a level before
and expanded. -/
theorem made_of_mem_places (plain : scene.hooks.Undecorated) (roots : List Node) :
    ∀ place ∈ (scene.renderRoots roots).value.places, scene.Made place := by
  rw [value_renderRoots plain, Instance.places, placesAt_fragment]
  exact forall_placesIn_renderSiblings
    (fun path e => made_of_mem_renderElement plain (Nat.add_comm _ _) path e) roots

end Scene

end ComponentTree
