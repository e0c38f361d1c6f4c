import ComponentTree.Proofs.Tree.Place

/-!
Trees with every element replaced. `Instance.mapElements` hands each element of a tree to a
function, together with its depth, once everything in its slots and children has been replaced.
What a setting changes about a rendered tree is said as such a function on single elements.

* `mapElements_element` — an element is replaced after what is in it, one level deeper.
* `mapElements_of_fixed` — nothing changes if every element is replaced by itself.
-/

namespace ComponentTree

variable {ρ : Type}

mutual

/-- The tree at a depth with every element replaced, those inside an element before it. A fragment
adds no level. -/
def Instance.mapElements (f : Nat → RenderedElement ρ → RenderedElement ρ) (depth : Nat) :
    Instance ρ → Instance ρ
  | .text value => .text value
  | .fragment children => .fragment (Instance.mapElementsIn f depth children)
  | .element ⟨component, renderable, key, props, slots, children⟩ =>
    .element (f depth
      ⟨component, renderable, key, props, Instance.mapElementsInSlots f (depth + 1) slots,
        Instance.mapElementsIn f (depth + 1) children⟩)

/-- Siblings with every element replaced. -/
def Instance.mapElementsIn (f : Nat → RenderedElement ρ → RenderedElement ρ) (depth : Nat) :
    List (Instance ρ) → List (Instance ρ)
  | [] => []
  | child :: rest => child.mapElements f depth :: Instance.mapElementsIn f depth rest

/-- Slots with every element replaced. -/
def Instance.mapElementsInSlots (f : Nat → RenderedElement ρ → RenderedElement ρ) (depth : Nat) :
    List (String × List (Instance ρ)) → List (String × List (Instance ρ))
  | [] => []
  | (name, instances) :: rest =>
    (name, Instance.mapElementsIn f depth instances) :: Instance.mapElementsInSlots f depth rest

end

section Equations

variable {f : Nat → RenderedElement ρ → RenderedElement ρ} {depth : Nat}

@[simp] theorem mapElements_text (value : String) :
    (Instance.text value : Instance ρ).mapElements f depth = .text value := by
  rw [Instance.mapElements]

theorem mapElementsIn_eq_map (list : List (Instance ρ)) :
    Instance.mapElementsIn f depth list = list.map (·.mapElements f depth) := by
  induction list with
  | nil => rfl
  | cons child rest ih => rw [Instance.mapElementsIn, ih, List.map_cons]

theorem mapElementsInSlots_eq_map (slots : List (String × List (Instance ρ))) :
    Instance.mapElementsInSlots f depth slots
      = slots.map fun slot => (slot.1, slot.2.map (·.mapElements f depth)) := by
  induction slots with
  | nil => rfl
  | cons slot rest ih =>
      rw [Instance.mapElementsInSlots, ih, List.map_cons, mapElementsIn_eq_map]

theorem mapElements_fragment (children : List (Instance ρ)) :
    (Instance.fragment children).mapElements f depth
      = .fragment (children.map (·.mapElements f depth)) := by
  rw [Instance.mapElements, mapElementsIn_eq_map]

theorem mapElements_element (e : RenderedElement ρ) :
    (Instance.element e).mapElements f depth
      = .element (f depth
          { e with
            slots := e.slots.map fun slot => (slot.1, slot.2.map (·.mapElements f (depth + 1)))
            children := e.children.map (·.mapElements f (depth + 1)) }) := by
  cases e
  rw [Instance.mapElements, mapElementsIn_eq_map, mapElementsInSlots_eq_map]

end Equations

/-- Replacing every element by itself changes nothing. -/
theorem mapElements_of_fixed {f : Nat → RenderedElement ρ → RenderedElement ρ}
    (fixed : ∀ depth e, f depth e = e) (i : Instance ρ) (depth : Nat) :
    i.mapElements f depth = i := by
  induction i using Instance.induct generalizing depth with
  | text value => exact mapElements_text value
  | fragment children ih =>
      rw [mapElements_fragment,
        (List.map_congr_left fun child h => ih child h _).trans (List.map_id _)]
  | element e ihSlots ihChildren =>
      have children : e.children.map (·.mapElements f (depth + 1)) = e.children :=
        (List.map_congr_left fun child h => ihChildren child h _).trans (List.map_id _)
      have slots : e.slots.map (fun slot => (slot.1, slot.2.map (·.mapElements f (depth + 1))))
          = e.slots := by
        refine (List.map_congr_left fun slot h => ?_).trans (List.map_id _)
        exact Prod.ext rfl
          ((List.map_congr_left fun child h' => ihSlots slot h child h' _).trans (List.map_id _))
      rw [mapElements_element, fixed, slots, children]
      cases e
      rfl

end ComponentTree
