import ComponentTree.Proofs.Render.Comparison

/-!
The greatest depth cuts trees off, and does nothing else. A render with a smaller greatest depth can
be read off one with a greater.

* `RenderedElement.cutOff` — the first elements that are too deep stay, with their names and keys
  alone; `Event.cutOffReport?` — they are reported for their depth, and for nothing else.
* `Nested.cutOff_eq_nil` — nothing is kept of what is reported inside them.
* `mirrors_renderElement_limited` — one element with everything in it.
* `render_limited` — whole documents.
-/

namespace ComponentTree

variable {ρ : Type}

/-- The scene with another greatest depth. -/
def Scene.limited (scene : Scene ρ) (limit : Nat) : Scene ρ :=
  { scene with settings := { scene.settings with maxDepth := limit } }

/-- The renderer with another greatest depth. -/
def Renderer.limited (r : Renderer ρ) (limit : Nat) : Renderer ρ :=
  { r with settings := { r.settings with maxDepth := limit } }

/-- An element right past the limit renders nothing and holds nothing; its name and key stay. -/
def RenderedElement.cutOff (limit depth : Nat) (e : RenderedElement ρ) : RenderedElement ρ :=
  if depth = limit + 1 then .empty e.component e.key else e

/-- What is handed over at an event when everything past the limit is cut off: a report made while
no more elements are being rendered than the limit allows is kept, and at the end of an element
right past the limit it is reported as too deep, unless messages are off. -/
def Event.cutOffReport? (messages : Bool) (limit : Nat) :
    List String × Event ρ → Option Diagnostic
  | (within, .report diagnostic) => if within.length ≤ limit then some diagnostic else none
  | (path :: outer, .decorate _ node) =>
    if messages = true ∧ outer.length = limit then
      some ⟨node.component, path, .tooDeep limit⟩
    else none
  | _ => none

section Readings

variable {messages : Bool} {limit : Nat} {within : List String} {path : String}
  {declared node : Element} {built : Instance ρ}

theorem cutOffReport?_format :
    Event.cutOffReport? messages limit (within, .format (ρ := ρ) path declared) = none := by
  cases within <;> rfl

theorem cutOffReport?_decorate_of_ne (apart : within.length ≠ limit) :
    Event.cutOffReport? messages limit (path :: within, .decorate built node) = none :=
  if_neg fun h => apart h.2

theorem cutOffReport?_decorate (past : within.length = limit) :
    (Event.cutOffReport? messages limit (path :: within, .decorate built node)).toList
      = if messages then [⟨node.component, path, .tooDeep limit⟩] else [] := by
  rw [Event.cutOffReport?]
  cases messages
  · rfl
  · rw [if_pos ⟨rfl, past⟩]
    rfl

/-- Above the limit, reports are kept and nothing else is handed over. -/
theorem cutOffReport?_of_le (above : within.length < limit) (event : Event ρ) :
    Event.cutOffReport? messages limit (path :: within, event) = event.diagnostic? := by
  cases event with
  | report diagnostic => exact if_pos above
  | decorate built node => exact cutOffReport?_decorate_of_ne (Nat.ne_of_lt above)
  | format | resolve | stray | finish => rfl

end Readings

/-- Nothing is kept of what happens inside an element past the limit. -/
theorem Nested.cutOff_eq_nil {messages : Bool} {levels limit : Nat} {events : List (Event ρ)}
    (nested : Nested levels events) {within : List String} (past : limit < within.length) :
    Event.read (Event.cutOffReport? messages limit) within events = [] := by
  induction nested generalizing within with
  | nil => rfl
  | @quiet levels event rest quiet next ih =>
      have here : Event.cutOffReport? messages limit (within, event) = none := by
        cases event with
        | report diagnostic => exact if_neg (by omega)
        | format | decorate => exact nomatch quiet
        | resolve | stray | finish => cases within <;> rfl
      rw [Event.read, Event.situated, Event.during_of_not_isBracket quiet,
        Event.after_of_not_isBracket quiet, List.filterMap_cons, here]
      exact ih past
  | @element levels path declared node built inner rest inside next ihInside ihNext =>
      have deeper : limit < (path :: within).length := Nat.lt_succ_of_lt past
      rw [inside.read_bracket, cutOffReport?_format, cutOffReport?_decorate_of_ne (by omega),
        ihInside deeper, ihNext past]
      rfl

namespace Scene

/-- Whatever levels are left, an element keeps its declared name and its key. -/
theorem exists_value_renderElement (scene : Scene ρ) (plain : scene.hooks.Undecorated)
    (level : Nat) (path : String) (declared : Element) :
    let node := scene.hooks.format path declared
    ∃ e, (scene.renderElement level path declared).value = .element e ∧
      e.component = node.component ∧ e.key = node.effectiveKey path := by
  cases level with
  | zero => exact ⟨_, value_truncate path declared plain, rfl, rfl⟩
  | succ level => exact ⟨_, value_expand _ path declared plain, rfl, rfl⟩

variable (scene : Scene ρ) (plain : scene.hooks.Undecorated) {limit : Nat} (greater : Nat)

include plain

/-- An element right past the smaller limit is what the limit makes of the element that the greater
one lets through. -/
theorem mirrors_truncate_limited {within : List String} (past : within.length = limit)
    (level : Nat) (path : String) (declared : Element) :
    Mirrors (RenderedElement.cutOff limit)
      (Event.cutOffReport? scene.settings.displayErrorMessage limit) within
      ((scene.limited limit).truncate path declared)
      ((scene.limited greater).renderElement level path declared) where
  value := by
    obtain ⟨e, hvalue, hcomponent, hkey⟩ :=
      (scene.limited greater).exists_value_renderElement plain level path declared
    have hcut := @value_truncate ρ (scene.limited limit) path declared plain
    rw [hcut, hvalue, mapElements_element, RenderedElement.cutOff, if_pos (by omega), hcomponent,
      hkey]
    rfl
  diagnostics := by
    obtain ⟨inner, built, nested, hevents⟩ :=
      (scene.limited greater).exists_events_renderElement level path declared
    have deeper : limit < (path :: within).length := by rw [List.length_cons]; omega
    rw [hevents, nested.read_bracket, cutOffReport?_format, cutOffReport?_decorate past,
      nested.cutOff_eq_nil deeper, diagnostics_truncate]
    exact (List.append_nil _).symm

/-- **One element with everything in it**, rendered with the levels that the smaller limit leaves
and with more. The induction is on the former; the elements around the element make up the rest of
the limit. -/
theorem mirrors_renderElement_limited (extra : Nat) {level : Nat} {within : List String}
    (total : within.length + level = limit) (path : String) (declared : Element) :
    Mirrors (RenderedElement.cutOff limit)
      (Event.cutOffReport? scene.settings.displayErrorMessage limit) within
      ((scene.limited limit).renderElement level path declared)
      ((scene.limited greater).renderElement (level + extra) path declared) := by
  induction level generalizing within path declared with
  | zero => exact scene.mirrors_truncate_limited plain greater total _ path declared
  | succ level ih =>
      have above : within.length < limit := by omega
      have kept : ∀ diagnostics : List Diagnostic, diagnostics.filterMap (fun diagnostic =>
          Event.cutOffReport? (ρ := ρ) scene.settings.displayErrorMessage limit
            (path :: within, .report diagnostic)) = diagnostics := by
        intro diagnostics
        simp only [cutOffReport?_of_le above]
        exact List.filterMap_some
      rw [Nat.add_right_comm]
      exact mirrors_expand ⟨rfl, rfl, rfl, plain, plain⟩
        ((scene.limited greater).nested_renderElement _)
        (fun inner e => ih (by rw [List.length_cons]; omega) inner e)
        (fun node slots children => if_neg (by omega))
        (fun event quiet => (cutOffReport?_of_le above event).trans quiet)
        (fun node => kept _) (fun name => kept _) declared

end Scene

/-- **The greatest depth only cuts off.** Take two renders of a document that differ in the greatest
depth alone, with any format hook and no decorators. The tree of the smaller depth is that of the
greater one with each element right past the smaller depth left with its name and key alone. Its
diagnostics are those of the greater one, but that whatever is handed over between the two calls for
such an element is replaced by one report that it is too deep, or by nothing if messages are off.
The elements for which calls are made are those of the tree of the greater depth. -/
theorem render_limited (r : Renderer ρ) (plain : r.hooks.Undecorated) {limit greater : Nat}
    (le : limit ≤ greater) :
    (r.limited limit).tree
        = (r.limited greater).tree.mapElements (RenderedElement.cutOff limit) 1 ∧
      (r.limited limit).diagnostics
        = Event.read (Event.cutOffReport? r.settings.displayErrorMessage limit) []
            (r.limited greater).render.events ∧
      Event.read Event.opened? [] (r.limited greater).render.events
        = (r.limited greater).tree.places.map Place.spot := by
  have mirrors : Mirrors (RenderedElement.cutOff limit)
      (Event.cutOffReport? r.settings.displayErrorMessage limit) []
      (r.limited limit).render (r.limited greater).render := by
    refine (r.limited limit).mirrors_renderRoots (r.limited greater).toScene plain plain
      (fun path e => ?_) (fun top => rfl) r.roots
    have total : ([] : List String).length + limit = limit := Nat.zero_add limit
    have one := r.toScene.mirrors_renderElement_limited plain greater (greater - limit) total path e
    rw [Nat.add_sub_cancel' le] at one
    exact one
  have opened := @Scene.opened_renderRoots ρ (r.limited greater).toScene plain r.roots
  exact ⟨mirrors.value, mirrors.diagnostics, opened⟩

/-- A format hook that fills a slot of the outermost element; what the slot and the prop `children`
hold stands right past a depth of one. -/
theorem render_limited_nested :
    let r : Renderer String :=
      { registry := .ofEntries .preserve [("Card", "card")]
        settings := { allowUnsecureHtmlElement := true }
        hooks :=
          { format := fun _ e =>
              if e.component = "Card" then
                e.withSlot "header" (.nodes [.element { component := "Aside", key := some "a" }])
              else e }
        roots := [.element
          { component := "Card"
            key := some "c"
            props := [("children", .array
              [.object [("component", .string "b"), ("key", .string "b"),
                ("props", .object [("key", .string "k")])], .string "text"])] }] }
    r.hooks.Undecorated ∧ 1 ≤ 2 ∧
      (r.limited 2).diagnostics
        = [⟨"Aside", "0.0", .unavailable false false⟩, ⟨"b", "0.0", .ignoredKey .props "k"⟩] ∧
      (r.limited 1).diagnostics = [⟨"Aside", "0.0", .tooDeep 1⟩, ⟨"b", "0.0", .tooDeep 1⟩] ∧
      (r.limited 1).tree = (r.limited 2).tree.mapElements (RenderedElement.cutOff 1) 1 ∧
      (r.limited 1).diagnostics
        = Event.read (Event.cutOffReport? true 1) [] (r.limited 2).render.events :=
  have plain : Hooks.Undecorated _ := ⟨fun _ _ => rfl, fun _ => rfl⟩
  ⟨plain, by decide, by decide, by decide, (render_limited _ plain (by decide)).1,
    (render_limited _ plain (by decide)).2.1⟩

/-- With messages off, an element that is too deep is not reported, so that there is no report to
take the place of what is handed over for it. -/
theorem limited_unreported :
    let r : Renderer String :=
      { registry := {}
        settings := { allowUnsecureHtmlElement := true, displayErrorMessage := false }
        hooks := .none
        roots := [.element
          { component := "div"
            key := some "a"
            children := some (.nodes [.element { component := "p", key := some "b" }]) }] }
    r.hooks.Undecorated ∧
      Event.read (Event.cutOffReport? true 1) [] (r.limited 2).render.events
        = [⟨"p", "0.0", .tooDeep 1⟩] ∧
      (r.limited 1).diagnostics = [] ∧
      ¬(r.limited 1).diagnostics
        = Event.read (Event.cutOffReport? true 1) [] (r.limited 2).render.events :=
  ⟨⟨fun _ _ => rfl, fun _ => rfl⟩, by decide, by decide, by decide⟩

end ComponentTree
