import ComponentTree.Proofs.Render.Shape

/-!
The policy over whole trees. What an element renders with is decided by its declared name, and by
nothing else that the document says.

* `Settings.Permits` — the rules by which options let a name be a tag, spelled out.
* `resolve_component_iff`, `resolve_tag_iff`, `resolve_null_iff` — exactly when a name resolves to
  a component, to a tag, and to nothing; `diagnostic_resolve` — and when that is reported.
* `Scene.FollowsPolicy` — what the policy asks of one element of a tree; `followsPolicy_of_made` —
  every way in which an element comes about meets it.
* `places_followPolicy` — in a tree that no decorator touched, every element meets it.
-/

namespace ComponentTree

variable {ρ : Type}

/-! ### Names that may be tags -/

/-- The options let a name be a tag: every name may be one, or the name is listed, or it has a
hyphen and custom elements are let through, or it has neither a hyphen nor a capital from A to Z
and HTML elements are. The empty name needs a guard of its own. -/
def Settings.Permits (s : Settings) (name : String) : Prop :=
  (s.allowAllElements = true ∨ name ∈ s.allowedElements) ∨
    ('-' ∈ name.toList ∧ s.allowUnsecureCustomElement = true) ∨
    ((∀ c ∈ name.toList, c ≠ '-' ∧ ¬('A' ≤ c ∧ c ≤ 'Z')) ∧ s.allowUnsecureHtmlElement = true)

theorem isAllowListed_iff {s : Settings} {name : String} :
    s.isAllowListed name = true ↔ s.allowAllElements = true ∨ name ∈ s.allowedElements := by
  rw [Settings.isAllowListed, Bool.or_eq_true, List.contains_iff_mem]

theorem isCustomElementLike_iff {name : String} :
    isCustomElementLike name = true ↔ '-' ∈ name.toList := by
  rw [isCustomElementLike, List.contains_iff_mem]

theorem isHtmlLike_iff {name : String} :
    isHtmlLike name = true ↔ ∀ c ∈ name.toList, c ≠ '-' ∧ ¬('A' ≤ c ∧ c ≤ 'Z') := by
  have capital : ∀ c : Char, c.isUpper = true ↔ 'A' ≤ c ∧ c ≤ 'Z' :=
    fun _ => decide_eq_true_iff
  simp only [isHtmlLike, Bool.not_eq_true', List.any_eq_false, Bool.or_eq_true, beq_iff_eq,
    not_or, capital]
  exact forall₂_congr fun c _ => and_comm

theorem permits_iff {s : Settings} {name : String} :
    s.Permits name ↔
      (s.isAllowListed name || (isCustomElementLike name && s.allowUnsecureCustomElement
        || isHtmlLike name && s.allowUnsecureHtmlElement)) = true := by
  rw [Settings.Permits, ← isAllowListed_iff, ← isCustomElementLike_iff, ← isHtmlLike_iff]
  simp only [Bool.or_eq_true, Bool.and_eq_true]

instance (s : Settings) (name : String) : Decidable (s.Permits name) :=
  decidable_of_iff' _ permits_iff

/-- No rule makes a tag of a name exactly when it is empty or the options do not permit it. -/
theorem tagRule?_eq_none_iff {s : Settings} {name : String} :
    s.tagRule? name = none ↔ ¬(name ≠ "" ∧ s.Permits name) := by
  unfold Settings.tagRule?
  rw [permits_iff, ne_eq, ← String.isEmpty_iff]
  split
  · simp [*]
  · split
    · simp [*]
    · split
      · simp_all
      · split <;> simp_all

/-! ### Resolving a name -/

section Resolve

variable {name : String} {registry : Registry ρ} {settings : Settings}

/-- A name resolves to exactly the component that the registry has for it. -/
theorem resolve_component_iff {reference : ρ} :
    (resolve name registry settings).renderable = .component reference ↔
      registry.get? name = some reference := by
  unfold resolve
  cases registry.get? name with
  | some found => simp
  | none => cases settings.tagRule? name <;> simp

/-- A name resolves to a tag exactly when it has no component and may be one, and then the tag is
the name itself. -/
theorem resolve_tag_iff {tag : String} :
    (resolve name registry settings).renderable = .tag tag ↔
      tag = name ∧ registry.get? name = none ∧ name ≠ "" ∧ settings.Permits name := by
  rw [← Classical.not_not (a := name ≠ "" ∧ settings.Permits name), ← tagRule?_eq_none_iff]
  unfold resolve
  cases registry.get? name with
  | some found => simp
  | none => cases settings.tagRule? name <;> simp [eq_comm]

/-- A name resolves to nothing exactly when it has no component and may not be a tag. -/
theorem resolve_null_iff :
    (resolve name registry settings).renderable = .null ↔
      registry.get? name = none ∧ ¬(name ≠ "" ∧ settings.Permits name) := by
  rw [← tagRule?_eq_none_iff]
  unfold resolve
  cases registry.get? name with
  | some found => simp
  | none => cases settings.tagRule? name <;> simp

/-- There is something to report about a name exactly when it resolves to nothing. -/
theorem diagnostic_resolve :
    (resolve name registry settings).diagnostic
      = if (resolve name registry settings).renderable.isNull && settings.displayErrorMessage then
          some (.ofUnavailable name)
        else none := by
  unfold resolve
  cases registry.get? name with
  | some found => rfl
  | none =>
      cases settings.tagRule? name with
      | some kind => rfl
      | none => simp [Renderable.isNull]

end Resolve

/-! ### Whole trees -/

/-- What the policy asks of an element that stands in a tree. -/
structure Scene.FollowsPolicy (scene : Scene ρ) (place : Place ρ) : Prop where
  /-- A component is the one that is registered for the declared name. -/
  component : ∀ reference, place.element.renderable = .component reference →
    scene.registry.get? place.element.component = some reference
  /-- A tag is the declared name, which is not empty, has no component, and is permitted. -/
  tag : ∀ name, place.element.renderable = .tag name →
    name = place.element.component ∧ name ≠ "" ∧ scene.registry.get? name = none ∧
      scene.settings.Permits name
  /-- What renders nothing is past the greatest depth, or no rule admits its name: it has no
  component, and it is empty or not permitted. -/
  null : place.element.renderable = .null →
    place.depth = scene.settings.maxDepth + 1 ∨
      (scene.registry.get? place.element.component = none ∧
        ¬(place.element.component ≠ "" ∧ scene.settings.Permits place.element.component))

/-- However an element comes about, it follows the policy. -/
theorem followsPolicy_of_made {scene : Scene ρ} {place : Place ρ} (made : scene.Made place) :
    scene.FollowsPolicy place := by
  cases made with
  | truncated path node =>
      exact
        { component := fun _ h => nomatch h
          tag := fun _ h => nomatch h
          null := fun _ => .inl rfl }
  | expanded within path node slots children =>
      refine
        { component := fun _ h => resolve_component_iff.mp h
          tag := fun name h => ?_
          null := fun h => .inr (resolve_null_iff.mp h) }
      obtain ⟨rfl, unregistered, nonempty, permitted⟩ := resolve_tag_iff.mp h
      exact ⟨rfl, nonempty, unregistered, permitted⟩

/-- **The policy holds everywhere.** Whatever the document, the registry, the options and the format
hook are, as long as no decorator replaces what was built: every element of the tree, at the top, in
children, in slots and in nodes read out of a prop, at any depth, follows the policy. -/
theorem places_followPolicy (r : Renderer ρ) (plain : r.hooks.Undecorated) :
    ∀ place ∈ r.tree.places, r.toScene.FollowsPolicy place := by
  intro place hplace
  exact followsPolicy_of_made (Scene.made_of_mem_places plain r.roots place hplace)

/-- A registered component with an unknown name in a slot and a tag in a prop, and a format hook
that renames that tag. -/
theorem places_followPolicy_nested :
    let r : Renderer String :=
      { registry := .ofEntries .preserve [("Card", "card")]
        settings := { allowUnsecureHtmlElement := true }
        hooks :=
          { format := fun _ e => if e.component = "b" then { e with component := "p" } else e }
        roots := [.element
          { component := "Card"
            props := [("children", .object [("component", .string "b")])]
            slots := [("header", .nodes [.element { component := "my-widget" }])] }] }
    r.hooks.Undecorated ∧
      r.tree.places.map (·.element.renderable) = [.component "card", .null, .tag "p"] ∧
      ∀ place ∈ r.tree.places, r.toScene.FollowsPolicy place :=
  ⟨⟨fun _ _ => rfl, fun _ => rfl⟩, by decide,
    places_followPolicy _ ⟨fun _ _ => rfl, fun _ => rfl⟩⟩

end ComponentTree
