import ComponentTree.Proofs.Render.Accounting

/-!
The visits of a render, one by one. A visit pairs an element of the rendered tree with the element
of the document that it came from. Without hooks, whatever the settings are, the visits are the
places of the tree, and the element of a visit is what its node renders to at its path with the
levels that its depth leaves.

* `Toured` — visits list exactly the given places, and each is rendered from its node; this stays
  true of lists that are joined.
* `Rendered.truncated`, `Rendered.renderable` — what a visit is past the greatest depth, and what it
  renders with up to there.
* `visits_eq_places`, `rendered_of_mem_visits` — the two halves for the render of a document.
-/

namespace ComponentTree

variable {ρ : Type}

namespace Scene

variable {scene : Scene ρ}

/-- The element of a visit is what its node renders to at its path, with the levels that are left
at its depth. -/
def Rendered (scene : Scene ρ) (v : Visit ρ) : Prop :=
  ∃ level, v.depth + level = scene.settings.maxDepth + 1 ∧
    (scene.renderElement level v.path v.node).value = .element v.element

theorem format_of_identity (identity : scene.hooks = .none) (path : String) (e : Element) :
    scene.hooks.format path e = e := by
  rw [identity]
  rfl

theorem value_renderElement_zero (identity : scene.hooks = .none) (path : String) (e : Element) :
    (scene.renderElement 0 path e).value
      = .element (.empty e.component (e.effectiveKey path)) := by
  rw [renderElement, value_truncate _ _ (identity ▸ Hooks.undecorated_none),
    format_of_identity identity]

theorem value_renderElement_succ (identity : scene.hooks = .none) (level : Nat) (path : String)
    (e : Element) :
    (scene.renderElement (level + 1) path e).value
      = .element (scene.assembled path e
          (renderSlots (scene.renderElement level) path e.openSlots).value
          (renderChildren (scene.renderElement level) path
            (e.chosenChildren scene.settings.legacyPropsChildren)).value) := by
  rw [renderElement, value_expand _ _ _ (identity ▸ Hooks.undecorated_none),
    format_of_identity identity]

namespace Rendered

variable {v : Visit ρ} (rendered : scene.Rendered v)

include rendered

/-- Up to the greatest depth a visit leaves a level for what is in it. -/
theorem exists_level (within : v.depth ≤ scene.settings.maxDepth) :
    ∃ level, v.depth + level = scene.settings.maxDepth ∧
      (scene.renderElement (level + 1) v.path v.node).value = .element v.element := by
  obtain ⟨left, total, value⟩ := rendered
  obtain ⟨level, rfl⟩ : ∃ level, left = level + 1 := ⟨left - 1, by omega⟩
  exact ⟨level, by omega, value⟩

/-- Past the greatest depth a visit is cut off. -/
theorem truncated (identity : scene.hooks = .none)
    (deep : v.depth = scene.settings.maxDepth + 1) :
    v.element = .empty v.node.component (v.node.effectiveKey v.path) := by
  obtain ⟨level, total, value⟩ := rendered
  obtain rfl : level = 0 := by omega
  rw [value_renderElement_zero identity] at value
  exact (Instance.element.inj value).symm

/-- Up to the greatest depth a visit renders with what its name resolves to. -/
theorem renderable (identity : scene.hooks = .none)
    (within : v.depth ≤ scene.settings.maxDepth) :
    v.element.renderable
      = (resolve v.node.component scene.registry scene.settings).renderable := by
  obtain ⟨level, -, value⟩ := rendered.exists_level within
  rw [value_renderElement_succ identity] at value
  rw [← Instance.element.inj value, assembled_renderable]

/-- A visit has the declared name of its node, and its key. -/
theorem component_key (identity : scene.hooks = .none) :
    v.element.component = v.node.component ∧ v.element.key = v.node.effectiveKey v.path := by
  obtain ⟨level, -, value⟩ := rendered
  cases level with
  | zero =>
      rw [value_renderElement_zero identity] at value
      rw [← Instance.element.inj value]
      exact ⟨rfl, rfl⟩
  | succ level =>
      rw [value_renderElement_succ identity] at value
      rw [← Instance.element.inj value]
      exact ⟨rfl, rfl⟩

end Rendered

/-- Visits list exactly the given places, and each of them is rendered from its node. -/
structure Toured (scene : Scene ρ) (visits : List (Visit ρ)) (places : List (Place ρ)) : Prop where
  places_eq : visits.map (·.toPlace) = places
  rendered : ∀ v ∈ visits, scene.Rendered v

namespace Toured

variable {visits visits' : List (Visit ρ)} {places places' : List (Place ρ)}

theorem nil : scene.Toured [] [] :=
  ⟨rfl, List.forall_mem_nil _⟩

theorem append (h : scene.Toured visits places) (h' : scene.Toured visits' places') :
    scene.Toured (visits ++ visits') (places ++ places') where
  places_eq := by rw [List.map_append, h.places_eq, h'.places_eq]
  rendered v hv := (List.mem_append.mp hv).elim (h.rendered v) (h'.rendered v)

theorem cons {v : Visit ρ} (here : scene.Rendered v) (h : scene.Toured visits places) :
    scene.Toured (v :: visits) (v.toPlace :: places) where
  places_eq := by rw [List.map_cons, h.places_eq]
  rendered := List.forall_mem_cons.mpr ⟨here, h.rendered⟩

theorem joins : Joins fun visits places _ => scene.Toured visits places :=
  ⟨nil, append⟩

end Toured

/-- One element with everything in it is toured. The induction is on the levels that are left. -/
theorem toured_renderElement (identity : scene.hooks = .none) {level depth : Nat}
    (total : depth + level = scene.settings.maxDepth + 1) (path : String) (e : Element) :
    scene.Toured
      ((scene.renderElement level path e).value.visitsAt scene.settings.legacyPropsChildren depth
        path (.element e))
      ((scene.renderElement level path e).value.placesAt depth path) := by
  induction level generalizing depth path e with
  | zero =>
      have value := value_renderElement_zero identity path e
      rw [value, visitsAt_element, placesAt_element]
      exact .cons ⟨0, total, value⟩ .nil
  | succ level ih =>
      have value := value_renderElement_succ identity level path e
      have below := @ih (depth + 1) (by omega)
      rw [value, visitsAt_element, placesAt_element]
      exact .cons ⟨level + 1, total, value⟩
        (.append (joined_renderSlots Toured.joins below _)
          (joined_renderChildren Toured.joins below _))

end Scene

/-- The render of a document is toured. -/
theorem toured_render (r : Renderer ρ) (identity : r.hooks = .none) :
    r.toScene.Toured r.visits r.tree.places := by
  have plain : r.hooks.Undecorated := identity ▸ Hooks.undecorated_none
  rw [Renderer.visits, Renderer.tree, Renderer.render, Scene.value_renderRoots plain,
    Instance.places, placesAt_fragment]
  exact Scene.joined_renderSiblings Scene.Toured.joins
    (Scene.toured_renderElement identity (Nat.add_comm 1 _)) r.roots

/-- The visits of a render are the places of its tree. -/
theorem visits_eq_places (r : Renderer ρ) (identity : r.hooks = .none) :
    r.visits.map (·.toPlace) = r.tree.places :=
  (toured_render r identity).places_eq

/-- Every visit of a render is rendered from its node. -/
theorem rendered_of_mem_visits (r : Renderer ρ) (identity : r.hooks = .none) :
    ∀ v ∈ r.visits, r.toScene.Rendered v :=
  (toured_render r identity).rendered

end ComponentTree
