import ComponentTree.Proofs.Tree.MapElements

/-!
Trees in which elements are wrapped. A wrapper is an element that renders with a component and whose
only child is the element that it stands for. Wrappers are told by where they stand, not by what
they are called: taking them off goes on below the only child, which may well look like a wrapper.

* `unwrap_wrapper`, `unwrap_null` — what becomes of the two kinds of elements on the outside.
* `wrappers_wrapper`, `wrappers_null` — what is counted as a wrapper.
-/

namespace ComponentTree

variable {ρ : Type}

mutual

/-- The tree in which, from the outside in, every wrapper is replaced by its only child. An element
that renders with a component stands for its only child; below that one the replacement goes on, so
that an element inside a wrapper is never taken for a wrapper itself. -/
def Instance.unwrap : Instance ρ → Instance ρ
  | .text value => .text value
  | .fragment children => .fragment (Instance.unwrapIn children)
  | .element ⟨component, .null, key, props, slots, children⟩ =>
    .element ⟨component, .null, key, props, Instance.unwrapInSlots slots,
      Instance.unwrapIn children⟩
  | .element ⟨_, .component _, _, _, _,
      [.element ⟨component, renderable, key, props, slots, children⟩]⟩ =>
    .element ⟨component, renderable, key, props, Instance.unwrapInSlots slots,
      Instance.unwrapIn children⟩
  | .element e => .element e

/-- Siblings without wrappers. -/
def Instance.unwrapIn : List (Instance ρ) → List (Instance ρ)
  | [] => []
  | child :: rest => child.unwrap :: Instance.unwrapIn rest

/-- Slots without wrappers. -/
def Instance.unwrapInSlots :
    List (String × List (Instance ρ)) → List (String × List (Instance ρ))
  | [] => []
  | (name, instances) :: rest => (name, Instance.unwrapIn instances) :: Instance.unwrapInSlots rest

end

mutual

/-- What `unwrap` replaces, in the order of a walk. Any other element that renders something is
listed as well, with nothing below it. -/
def Instance.wrappers : Instance ρ → List (RenderedElement ρ)
  | .text _ => []
  | .fragment children => Instance.wrappersIn children
  | .element ⟨_, .null, _, _, slots, children⟩ =>
    Instance.wrappersInSlots slots ++ Instance.wrappersIn children
  | .element ⟨outer, .component reference, outerKey, outerProps, outerSlots,
      [.element ⟨component, renderable, key, props, slots, children⟩]⟩ =>
    ⟨outer, .component reference, outerKey, outerProps, outerSlots,
        [.element ⟨component, renderable, key, props, slots, children⟩]⟩
      :: (Instance.wrappersInSlots slots ++ Instance.wrappersIn children)
  | .element e => [e]

/-- What is replaced in siblings. -/
def Instance.wrappersIn : List (Instance ρ) → List (RenderedElement ρ)
  | [] => []
  | child :: rest => child.wrappers ++ Instance.wrappersIn rest

/-- What is replaced in slots. -/
def Instance.wrappersInSlots : List (String × List (Instance ρ)) → List (RenderedElement ρ)
  | [] => []
  | (_, instances) :: rest => Instance.wrappersIn instances ++ Instance.wrappersInSlots rest

end

theorem Renderable.eq_null_of_isNull {renderable : Renderable ρ} (null : renderable.isNull = true) :
    renderable = .null := by
  cases renderable with
  | component reference => nomatch null
  | tag name => nomatch null
  | null => rfl

section Equations

theorem unwrapIn_eq_map (list : List (Instance ρ)) :
    Instance.unwrapIn list = list.map Instance.unwrap := by
  induction list with
  | nil => rfl
  | cons child rest ih => rw [Instance.unwrapIn, ih, List.map_cons]

theorem unwrapInSlots_eq_map (slots : List (String × List (Instance ρ))) :
    Instance.unwrapInSlots slots = slots.map fun slot => (slot.1, slot.2.map Instance.unwrap) := by
  induction slots with
  | nil => rfl
  | cons slot rest ih => rw [Instance.unwrapInSlots, ih, List.map_cons, unwrapIn_eq_map]

theorem wrappersIn_eq_flatMap (list : List (Instance ρ)) :
    Instance.wrappersIn list = list.flatMap Instance.wrappers := by
  induction list with
  | nil => rfl
  | cons child rest ih => rw [Instance.wrappersIn, ih, List.flatMap_cons]

theorem wrappersInSlots_eq_flatMap (slots : List (String × List (Instance ρ))) :
    Instance.wrappersInSlots slots
      = slots.flatMap fun slot => slot.2.flatMap Instance.wrappers := by
  induction slots with
  | nil => rfl
  | cons slot rest ih =>
      rw [Instance.wrappersInSlots, ih, List.flatMap_cons, wrappersIn_eq_flatMap]

variable {e inner : RenderedElement ρ}

/-- What renders nothing is no wrapper. -/
theorem unwrap_null (null : e.renderable = .null) :
    (Instance.element e).unwrap
      = .element { e with
          slots := e.slots.map fun slot => (slot.1, slot.2.map Instance.unwrap)
          children := e.children.map Instance.unwrap } := by
  obtain ⟨component, renderable, key, props, slots, children⟩ := e
  cases null
  rw [Instance.unwrap, unwrapInSlots_eq_map, unwrapIn_eq_map]

theorem wrappers_null (null : e.renderable = .null) :
    (Instance.element e).wrappers
      = (e.slots.flatMap fun slot => slot.2.flatMap Instance.wrappers)
        ++ e.children.flatMap Instance.wrappers := by
  obtain ⟨component, renderable, key, props, slots, children⟩ := e
  cases null
  rw [Instance.wrappers, wrappersInSlots_eq_flatMap, wrappersIn_eq_flatMap]

/-- A wrapper stands for its only child. -/
theorem unwrap_wrapper {reference : ρ} (wraps : e.renderable = .component reference)
    (only : e.children = [.element inner]) :
    (Instance.element e).unwrap
      = .element { inner with
          slots := inner.slots.map fun slot => (slot.1, slot.2.map Instance.unwrap)
          children := inner.children.map Instance.unwrap } := by
  obtain ⟨component, renderable, key, props, slots, children⟩ := e
  obtain ⟨_, _, _, _, _, _⟩ := inner
  cases wraps
  cases only
  rw [Instance.unwrap, unwrapInSlots_eq_map, unwrapIn_eq_map]

theorem wrappers_wrapper {reference : ρ} (wraps : e.renderable = .component reference)
    (only : e.children = [.element inner]) :
    (Instance.element e).wrappers
      = e :: ((inner.slots.flatMap fun slot => slot.2.flatMap Instance.wrappers)
        ++ inner.children.flatMap Instance.wrappers) := by
  obtain ⟨component, renderable, key, props, slots, children⟩ := e
  obtain ⟨_, _, _, _, _, _⟩ := inner
  cases wraps
  cases only
  rw [Instance.wrappers, wrappersInSlots_eq_flatMap, wrappersIn_eq_flatMap]

end Equations

end ComponentTree
