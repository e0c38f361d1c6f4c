import Mathlib.Data.List.Basic
import ComponentTree.Proofs.Tree.Place

/-!
The elements of an instance tree, each with the elements that it stands in.

* `RenderedElement.held` — everything that an element holds, and `Instance.induct_held`, the
  induction over instance trees that takes it together.
* `Instance.lineages` — the elements in the order of a walk, each with its ancestors.
* `lineages_eq_map_under` — further ancestors of a tree come after those inside it, and change
  nothing else.
-/

namespace ComponentTree

variable {ρ : Type}

/-! ### What an element holds -/

/-- Everything that an element holds: what is in its slots, in their order, then its children. -/
def RenderedElement.held (e : RenderedElement ρ) : List (Instance ρ) :=
  e.slots.flatMap (·.2) ++ e.children

theorem RenderedElement.mem_held {e : RenderedElement ρ} {child : Instance ρ} :
    child ∈ e.held ↔ (∃ slot ∈ e.slots, child ∈ slot.2) ∨ child ∈ e.children := by
  rw [held, List.mem_append, List.mem_flatMap]

/-- Reading everything an element holds is reading its slots and then its children. -/
theorem RenderedElement.flatMap_held {α : Type} (e : RenderedElement ρ)
    (f : Instance ρ → List α) :
    e.held.flatMap f = e.slots.flatMap (fun slot => slot.2.flatMap f) ++ e.children.flatMap f := by
  rw [held, List.flatMap_append, List.flatMap_assoc]

/-- Induction over instance trees, with everything that an element holds taken together. -/
theorem Instance.induct_held {P : Instance ρ → Prop} (text : ∀ value, P (.text value))
    (fragment : ∀ children, (∀ child ∈ children, P child) → P (.fragment children))
    (element : ∀ e : RenderedElement ρ, (∀ child ∈ e.held, P child) → P (.element e))
    (i : Instance ρ) : P i := by
  refine Instance.induct text fragment (fun e inSlots inChildren => element e ?_) i
  intro child hchild
  rcases RenderedElement.mem_held.mp hchild with ⟨slot, hslot, hchild⟩ | hchild
  · exact inSlots slot hslot child hchild
  · exact inChildren child hchild

/-! ### Lineages -/

/-- An element of a tree with the elements that it stands in, the innermost first. -/
structure Lineage (ρ : Type) where
  ancestors : List (RenderedElement ρ)
  element : RenderedElement ρ

/-- The same element inside further ones. -/
def Lineage.under (above : List (RenderedElement ρ)) (l : Lineage ρ) : Lineage ρ :=
  { l with ancestors := l.ancestors ++ above }

mutual

/-- The elements of an instance that stands in the given ones, in the order of a walk: an element
before its slots, slots in their order, slots before children. A fragment is no ancestor. -/
def Instance.lineages (above : List (RenderedElement ρ)) : Instance ρ → List (Lineage ρ)
  | .text _ => []
  | .fragment children => Instance.lineagesIn above children
  | .element ⟨component, renderable, key, props, slots, children⟩ =>
    let e := ⟨component, renderable, key, props, slots, children⟩
    ⟨above, e⟩ :: (Instance.slotLineages (e :: above) slots
      ++ Instance.lineagesIn (e :: above) children)

/-- The elements of a list of siblings. -/
def Instance.lineagesIn (above : List (RenderedElement ρ)) :
    List (Instance ρ) → List (Lineage ρ)
  | [] => []
  | child :: rest => child.lineages above ++ Instance.lineagesIn above rest

/-- The elements in slots. -/
def Instance.slotLineages (above : List (RenderedElement ρ)) :
    List (String × List (Instance ρ)) → List (Lineage ρ)
  | [] => []
  | (_, instances) :: rest =>
    Instance.lineagesIn above instances ++ Instance.slotLineages above rest

end

section Equations

variable (above : List (RenderedElement ρ))

@[simp] theorem lineages_text (value : String) :
    (Instance.text value : Instance ρ).lineages above = [] := by
  rw [Instance.lineages]

theorem lineagesIn_eq_flatMap (list : List (Instance ρ)) :
    Instance.lineagesIn above list = list.flatMap (·.lineages above) := by
  induction list with
  | nil => rfl
  | cons child rest ih => rw [Instance.lineagesIn, ih, List.flatMap_cons]

theorem slotLineages_eq_flatMap (slots : List (String × List (Instance ρ))) :
    Instance.slotLineages above slots
      = slots.flatMap fun slot => slot.2.flatMap (·.lineages above) := by
  induction slots with
  | nil => rfl
  | cons slot rest ih =>
      rw [Instance.slotLineages, ih, lineagesIn_eq_flatMap, List.flatMap_cons]

@[simp] theorem lineages_fragment (children : List (Instance ρ)) :
    (Instance.fragment children).lineages above = children.flatMap (·.lineages above) := by
  rw [Instance.lineages, lineagesIn_eq_flatMap]

theorem lineages_element (e : RenderedElement ρ) :
    (Instance.element e).lineages above
      = ⟨above, e⟩ :: e.held.flatMap (·.lineages (e :: above)) := by
  cases e
  rw [Instance.lineages, slotLineages_eq_flatMap, lineagesIn_eq_flatMap,
    RenderedElement.flatMap_held]

end Equations

/-- Further ancestors come after those inside the tree. -/
theorem lineages_eq_map_under (i : Instance ρ) (above : List (RenderedElement ρ)) :
    i.lineages above = (i.lineages []).map (Lineage.under above) := by
  induction i using Instance.induct_held generalizing above with
  | text value => simp
  | fragment children ih =>
      rw [lineages_fragment, lineages_fragment, List.map_flatMap]
      exact List.flatMap_congr fun child hchild => ih child hchild above
  | element e ih =>
      have inside : ∀ child ∈ e.held, child.lineages (e :: above)
          = (child.lineages [e]).map (Lineage.under above) := by
        intro child hchild
        rw [ih child hchild (e :: above), ih child hchild [e], List.map_map]
        refine List.map_congr_left fun l _ => ?_
        simp [Lineage.under]
      rw [lineages_element, lineages_element, List.map_cons, List.map_flatMap,
        List.flatMap_congr inside]
      rfl

end ComponentTree
