import ComponentTree.Proofs.Markup.Parts
import ComponentTree.Proofs.Tree.Lineage

/-!
How far markup is written. An element is written if it renders something under a markup name, and
reached if everything that it stands in is written.

* `Instance.reachedIn` — the elements among siblings that are reached, by their ancestors alone.
* `reached_element` — one level: the elements in one that is not written are passed over.
* `reachedIn_of_written` — if everything that is reached is written, everything is reached.
* `toList_listMarkup` — the markup of siblings in parts.
* `parts_of_name`, `parts_of_not_isWritten` — the parts of an element, according to whether it is
  written.
-/

namespace ComponentTree

variable {ρ : Type}

/-! ### What is reached -/

/-- Only what renders nothing has no name to be written under. -/
theorem writtenName?_eq_none_iff {r : Renderable ρ} {component : String} :
    r.writtenName? component = none ↔ r.isNull = true := by
  cases r <;> simp [Renderable.writtenName?, Renderable.isNull]

/-- Whether markup has a tag for an element: it renders something, under a markup name. -/
def RenderedElement.isWritten (e : RenderedElement ρ) : Bool :=
  (e.renderable.writtenName? e.component).any isMarkupName

/-- Whether markup is written up to an element: everything it stands in is written. -/
def Lineage.isReached (l : Lineage ρ) : Bool :=
  l.ancestors.all (·.isWritten)

/-- The elements of an instance that markup is written up to, in the order of a walk. -/
def Instance.reached (i : Instance ρ) : List (RenderedElement ρ) :=
  ((i.lineages []).filter (·.isReached)).map (·.element)

/-- The elements among siblings that markup is written up to, in the order of a walk. -/
def Instance.reachedIn (list : List (Instance ρ)) : List (RenderedElement ρ) :=
  ((Instance.lineagesIn [] list).filter (·.isReached)).map (·.element)

theorem reachedIn_eq_flatMap (list : List (Instance ρ)) :
    Instance.reachedIn list = list.flatMap (·.reached) := by
  rw [Instance.reachedIn, lineagesIn_eq_flatMap, List.filter_flatMap, List.map_flatMap]
  rfl

/-- Inside a further element, either everything is reached that was reached before, or nothing. -/
theorem reached_under (e : RenderedElement ρ) (i : Instance ρ) :
    ((i.lineages [e]).filter (·.isReached)).map (·.element)
      = if e.isWritten then i.reached else [] := by
  have reached : ∀ l : Lineage ρ,
      (l.under [e]).isReached = (e.isWritten && l.isReached) := by
    intro l
    simp [Lineage.under, Lineage.isReached, Bool.and_comm]
  have element : (fun l : Lineage ρ => l.element) ∘ Lineage.under [e] = (·.element) := rfl
  have filter : (fun l : Lineage ρ => l.isReached) ∘ Lineage.under [e]
      = fun l => e.isWritten && l.isReached := funext reached
  rw [lineages_eq_map_under, List.filter_map, List.map_map, element, filter]
  cases e.isWritten <;> simp [Instance.reached]

@[simp] theorem reached_text (value : String) :
    (Instance.text value : Instance ρ).reached = [] := by
  simp [Instance.reached]

@[simp] theorem reached_fragment (children : List (Instance ρ)) :
    (Instance.fragment children).reached = children.flatMap (·.reached) := by
  rw [Instance.reached, lineages_fragment, List.filter_flatMap, List.map_flatMap]
  rfl

/-- An element is reached, and so is what is reached in it if it is written. -/
theorem reached_element (e : RenderedElement ρ) :
    (Instance.element e).reached
      = e :: if e.isWritten then e.held.flatMap (·.reached) else [] := by
  have top : (⟨[], e⟩ : Lineage ρ).isReached = true := rfl
  rw [Instance.reached, lineages_element, List.filter_cons_of_pos top, List.map_cons,
    List.filter_flatMap, List.map_flatMap]
  simp only [reached_under]
  split <;> simp

/-- If everything that is reached is written, then everything is reached. -/
theorem reached_of_written (i : Instance ρ) (written : ∀ e ∈ i.reached, e.isWritten = true) :
    i.reached = (i.lineages []).map (·.element) := by
  induction i using Instance.induct_held with
  | text value => simp
  | fragment children ih =>
      rw [reached_fragment] at written ⊢
      rw [lineages_fragment, List.map_flatMap]
      refine List.flatMap_congr fun child hchild => ih child hchild fun e he => ?_
      exact written e (List.mem_flatMap_of_mem hchild he)
  | element e ih =>
      rw [reached_element] at written ⊢
      obtain ⟨here, inside⟩ := List.forall_mem_cons.mp written
      rw [if_pos here] at inside ⊢
      rw [lineages_element, List.map_cons, List.map_flatMap]
      congr 1
      refine List.flatMap_congr fun child hchild => ?_
      rw [ih child hchild fun e he => inside e (List.mem_flatMap_of_mem hchild he),
        lineages_eq_map_under child [e], List.map_map]
      rfl

theorem reachedIn_of_written {list : List (Instance ρ)}
    (written : ∀ e ∈ Instance.reachedIn list, e.isWritten = true) :
    Instance.reachedIn list = (Instance.lineagesIn [] list).map (·.element) := by
  rw [reachedIn_eq_flatMap] at written ⊢
  rw [lineagesIn_eq_flatMap, List.map_flatMap]
  exact List.flatMap_congr fun child hchild => reached_of_written child fun e he =>
    written e (List.mem_flatMap_of_mem hchild he)

/-! ### The parts of markup -/

theorem toList_listMarkup (list : List (Instance ρ)) :
    (Instance.listMarkup list).toList = (Instance.listParts list).flatMap Part.chars := by
  rw [Instance.listMarkup, String.toList_ofList,
    writeList_eq (fun child (_ : child ∈ list) => write_eq child), List.append_nil]

theorem lessThan_not_mem_body_listParts (list : List (Instance ρ)) :
    ∀ part ∈ Instance.listParts list, '<' ∉ part.body := fun part hpart =>
  lessThan_not_mem_body
    (from_of_mem_listParts (fun child _ => from_of_mem_parts child) 1 "" 0 part hpart)

theorem exists_name_of_isWritten {e : RenderedElement ρ} (written : e.isWritten = true) :
    ∃ name, e.renderable.writtenName? e.component = some name ∧ isMarkupName name = true := by
  rwa [RenderedElement.isWritten, Option.any_eq_true] at written

theorem isWritten_of_name {e : RenderedElement ρ} {name : String}
    (hname : e.renderable.writtenName? e.component = some name)
    (valid : isMarkupName name = true) : e.isWritten = true := by
  rw [RenderedElement.isWritten, hname, Option.any_some, valid]

/-- An element that is written has a start tag, and an end tag with its slots and its children in
between unless it is void and holds nothing. -/
theorem parts_of_name {e : RenderedElement ρ} {name : String}
    (hname : e.renderable.writtenName? e.component = some name)
    (valid : isMarkupName name = true) :
    (Instance.element e).parts
      = if e.renderable.isVoid && e.children.isEmpty && e.slots.isEmpty then
          [.startTag name (shownAttributes e.props) true]
        else
          .startTag name (shownAttributes e.props) false
            :: (Instance.slotParts e.slots
              ++ (Instance.listParts e.children ++ [.endTag name])) := by
  obtain ⟨component, renderable, key, props, slots, children⟩ := e
  dsimp only at hname ⊢
  rw [Instance.parts, hname]
  dsimp only
  rw [if_pos valid]

/-- An element that is not written has no parts, whatever it holds. -/
theorem parts_of_not_isWritten {e : RenderedElement ρ} (unwritten : e.isWritten = false) :
    (Instance.element e).parts = [] := by
  obtain ⟨component, renderable, key, props, slots, children⟩ := e
  rw [RenderedElement.isWritten] at unwritten
  rw [Instance.parts]
  cases hname : renderable.writtenName? component with
  | none => rfl
  | some name =>
      rw [hname, Option.any_some] at unwritten
      simp [unwritten]

end ComponentTree
