import ComponentTree.Node.Key
import ComponentTree.Instance.Basic

/-!
The elements of an instance tree, each with its place. A `Place` is an element together with its
depth and its path; `Instance.places` lists the places of a tree in the order of a walk: an element
before its slots, slots in their order, slots before children.

* `Instance.induct` — what holds of texts, of a fragment when it holds of its children, and of an
  element when it holds of everything in its slots and children, holds of every instance.
* `placesIn_eq_flatten` — the places of a list of siblings are those of each sibling, which stands
  at the path of its index.
* `mem_placesIn`, `mem_placesAt_element` — where a place among siblings or of an element can be.
-/

namespace ComponentTree

variable {ρ : Type}

/-! ### Induction over instance trees -/

/-- Everything in a slot is smaller than what holds the slots. -/
theorem sizeOf_lt_of_mem_slot {slots : List (String × List (Instance ρ))}
    {slot : String × List (Instance ρ)} {child : Instance ρ} (hslot : slot ∈ slots)
    (hchild : child ∈ slot.2) : sizeOf child < sizeOf slots := by
  obtain ⟨name, list⟩ := slot
  have hlist : sizeOf child < sizeOf list := List.sizeOf_lt_of_mem hchild
  have hslots := List.sizeOf_lt_of_mem hslot
  simp only [Prod.mk.sizeOf_spec] at hslots
  omega

/-- **Induction over instance trees.** The lists that an instance holds are reached by
membership. -/
theorem Instance.induct {P : Instance ρ → Prop} (text : ∀ value, P (.text value))
    (fragment : ∀ children, (∀ child ∈ children, P child) → P (.fragment children))
    (element : ∀ e : RenderedElement ρ, (∀ slot ∈ e.slots, ∀ child ∈ slot.2, P child) →
      (∀ child ∈ e.children, P child) → P (.element e)) : ∀ i : Instance ρ, P i
  | .text value => text value
  | .fragment children =>
      fragment children fun child _ => Instance.induct text fragment element child
  | .element ⟨component, renderable, key, props, slots, children⟩ =>
      element ⟨component, renderable, key, props, slots, children⟩
        (fun _ _ child _ => Instance.induct text fragment element child)
        (fun child _ => Instance.induct text fragment element child)
termination_by i => sizeOf i
decreasing_by
  · have := List.sizeOf_lt_of_mem ‹child ∈ children›
    simp only [Instance.fragment.sizeOf_spec]
    omega
  · have := sizeOf_lt_of_mem_slot ‹_ ∈ slots› ‹child ∈ _›
    simp only [Instance.element.sizeOf_spec, RenderedElement.mk.sizeOf_spec]
    omega
  · have := List.sizeOf_lt_of_mem ‹child ∈ children›
    simp only [Instance.element.sizeOf_spec, RenderedElement.mk.sizeOf_spec]
    omega

/-! ### Places -/

/-- An element of a tree with its depth, outermost elements being at depth one, and its path. -/
structure Place (ρ : Type) where
  depth : Nat
  path : String
  element : RenderedElement ρ

mutual

/-- The places of a tree that stands at a depth and a path itself, in the order of a walk. A
fragment adds no level: its children stand at the depth that it is given. -/
def Instance.placesAt (depth : Nat) (path : String) : Instance ρ → List (Place ρ)
  | .text _ => []
  | .fragment children => Instance.placesIn depth path 0 children
  | .element ⟨component, renderable, key, props, slots, children⟩ =>
    ⟨depth, path, ⟨component, renderable, key, props, slots, children⟩⟩
      :: (Instance.slotPlaces (depth + 1) path slots
        ++ Instance.placesIn (depth + 1) path 0 children)

/-- The places of siblings at a depth, of which the first has the given index. -/
def Instance.placesIn (depth : Nat) (parent : String) (index : Nat) :
    List (Instance ρ) → List (Place ρ)
  | [] => []
  | child :: rest =>
    child.placesAt depth (childPath parent index) ++ Instance.placesIn depth parent (index + 1) rest

/-- The places in slots. -/
def Instance.slotPlaces (depth : Nat) (parent : String) :
    List (String × List (Instance ρ)) → List (Place ρ)
  | [] => []
  | (_, instances) :: rest =>
    Instance.placesIn depth parent 0 instances ++ Instance.slotPlaces depth parent rest

end

/-- The places of a rendered tree, in the order of a walk. -/
def Instance.places (i : Instance ρ) : List (Place ρ) :=
  i.placesAt 1 ""

section Listing

variable {depth : Nat} {parent path : String}

@[simp] theorem placesAt_text (value : String) :
    (Instance.text value : Instance ρ).placesAt depth path = [] := by
  rw [Instance.placesAt]

/-- The places of siblings are those of each sibling, which stands at the path of its index. -/
theorem placesIn_eq_flatten (list : List (Instance ρ)) (index : Nat) :
    Instance.placesIn depth parent index list
      = (list.mapIdx fun i child =>
          child.placesAt depth (childPath parent (index + i))).flatten := by
  induction list generalizing index with
  | nil => rfl
  | cons child rest ih =>
      rw [Instance.placesIn, ih (index + 1), List.mapIdx_cons, List.flatten_cons]
      simp only [Nat.add_zero, Nat.add_right_comm index, Nat.add_assoc]

theorem slotPlaces_eq_flatMap (slots : List (String × List (Instance ρ))) :
    Instance.slotPlaces depth parent slots
      = slots.flatMap fun slot => Instance.placesIn depth parent 0 slot.2 := by
  induction slots with
  | nil => rfl
  | cons slot rest ih => rw [Instance.slotPlaces, ih, List.flatMap_cons]

theorem placesAt_fragment (children : List (Instance ρ)) :
    (Instance.fragment children).placesAt depth path
      = Instance.placesIn depth path 0 children := by
  rw [Instance.placesAt]

theorem placesAt_element (e : RenderedElement ρ) :
    (Instance.element e).placesAt depth path
      = ⟨depth, path, e⟩ :: (Instance.slotPlaces (depth + 1) path e.slots
        ++ Instance.placesIn (depth + 1) path 0 e.children) := by
  cases e
  rw [Instance.placesAt]

/-- A place among siblings is a place of one of them. -/
theorem mem_placesIn {list : List (Instance ρ)} {place : Place ρ} :
    place ∈ Instance.placesIn depth parent 0 list ↔
      ∃ i, ∃ h : i < list.length, place ∈ list[i].placesAt depth (childPath parent i) := by
  rw [placesIn_eq_flatten, List.mem_flatten]
  simp only [Nat.zero_add, List.mem_mapIdx]
  constructor
  · rintro ⟨_, ⟨i, h, rfl⟩, hplace⟩
    exact ⟨i, h, hplace⟩
  · rintro ⟨i, h, hplace⟩
    exact ⟨_, ⟨i, h, rfl⟩, hplace⟩

/-- A place of an element is the element itself, or it is in one of the slots, or among the
children. -/
theorem mem_placesAt_element {e : RenderedElement ρ} {place : Place ρ} :
    place ∈ (Instance.element e).placesAt depth path ↔
      place = ⟨depth, path, e⟩ ∨
        (∃ slot ∈ e.slots, place ∈ Instance.placesIn (depth + 1) path 0 slot.2) ∨
        place ∈ Instance.placesIn (depth + 1) path 0 e.children := by
  rw [placesAt_element, List.mem_cons, List.mem_append, slotPlaces_eq_flatMap, List.mem_flatMap]

end Listing

end ComponentTree
