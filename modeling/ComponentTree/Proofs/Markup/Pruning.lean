import ComponentTree.Proofs.Markup.Reach

/-!
Markup without what renders nothing. An element that renders nothing has no markup of its own, but
it is a child of the element that it stands in, and a void tag is closed in itself only if it has no
children at all.

* `Instance.prunedIn` — a list of instances without any element that renders nothing.
* `RenderedElement.isHollow` — a void tag that holds something, and nothing that renders anything.
* `Part.Collapses` — a start tag with the end tag right behind it becomes a tag closed in itself, at
  a number of places; `collapses_prunedIn` — this is all that pruning does to markup, once for every
  hollow tag that is reached.
* `listMarkup_prunedIn_iff` — so markup stays as it is exactly when no hollow tag is reached.
-/

namespace ComponentTree

variable {ρ : Type}

/-! ### Pruning -/

/-- Whether an instance is an element that renders nothing. -/
def Instance.isNull : Instance ρ → Bool
  | .element e => e.renderable.isNull
  | .text _ | .fragment _ => false

mutual

/-- An instance without the elements inside it that render nothing. -/
def Instance.pruned : Instance ρ → Instance ρ
  | .text value => .text value
  | .fragment children => .fragment (Instance.prunedIn children)
  | .element ⟨component, renderable, key, props, slots, children⟩ =>
    .element ⟨component, renderable, key, props, Instance.prunedInSlots slots,
      Instance.prunedIn children⟩

/-- Siblings without the elements that render nothing, at any depth. -/
def Instance.prunedIn : List (Instance ρ) → List (Instance ρ)
  | [] => []
  | child :: rest =>
    if child.isNull then Instance.prunedIn rest else child.pruned :: Instance.prunedIn rest

/-- Slots without the elements that render nothing, at any depth. A slot of which nothing is left
stays as an empty one. -/
def Instance.prunedInSlots :
    List (String × List (Instance ρ)) → List (String × List (Instance ρ))
  | [] => []
  | (name, instances) :: rest =>
    (name, Instance.prunedIn instances) :: Instance.prunedInSlots rest

end

theorem pruned_element (e : RenderedElement ρ) :
    (Instance.element e).pruned
      = .element
          { e with
            slots := Instance.prunedInSlots e.slots
            children := Instance.prunedIn e.children } := by
  cases e
  rw [Instance.pruned]

theorem prunedIn_eq_map (list : List (Instance ρ)) :
    Instance.prunedIn list = (list.filter (!·.isNull)).map (·.pruned) := by
  induction list with
  | nil => rfl
  | cons child rest ih =>
      rw [Instance.prunedIn, ih]
      cases null : child.isNull <;> simp [null]

theorem prunedInSlots_eq_map (slots : List (String × List (Instance ρ))) :
    Instance.prunedInSlots slots = slots.map fun slot => (slot.1, Instance.prunedIn slot.2) := by
  induction slots with
  | nil => rfl
  | cons slot rest ih => rw [Instance.prunedInSlots, ih, List.map_cons]

@[simp] theorem isEmpty_prunedInSlots (slots : List (String × List (Instance ρ))) :
    (Instance.prunedInSlots slots).isEmpty = slots.isEmpty := by
  rw [prunedInSlots_eq_map, List.isEmpty_map]

/-- Nothing is left of siblings exactly when all of them render nothing. -/
@[simp] theorem isEmpty_prunedIn (list : List (Instance ρ)) :
    (Instance.prunedIn list).isEmpty = list.all (·.isNull) := by
  induction list with
  | nil => rfl
  | cons child rest ih =>
      rw [Instance.prunedIn, List.all_cons]
      cases null : child.isNull <;> simp [ih]

/-- No element of an instance renders nothing. -/
def Instance.IsPruned (i : Instance ρ) : Prop :=
  ∀ l ∈ i.lineages [], l.element.renderable.isNull = false

theorem isNull_of_mem_lineages {i : Instance ρ} (renders : i.IsPruned)
    {above : List (RenderedElement ρ)} {l : Lineage ρ} (hl : l ∈ i.lineages above) :
    l.element.renderable.isNull = false := by
  rw [lineages_eq_map_under, List.mem_map] at hl
  obtain ⟨inner, hinner, rfl⟩ := hl
  exact renders inner hinner

/-- Pruning leaves no element that renders nothing, below the instance itself. -/
theorem isPruned_pruned (i : Instance ρ) : i.isNull = false → i.pruned.IsPruned := by
  have siblings : ∀ list : List (Instance ρ),
      (∀ child ∈ list, child.isNull = false → child.pruned.IsPruned) →
        ∀ child ∈ Instance.prunedIn list, child.IsPruned := by
    intro list each child hchild
    rw [prunedIn_eq_map, List.mem_map] at hchild
    obtain ⟨child, hkept, rfl⟩ := hchild
    rw [List.mem_filter] at hkept
    exact each child hkept.1 (by simpa using hkept.2)
  induction i using Instance.induct with
  | text value =>
      intro _ l hl
      rw [Instance.pruned, lineages_text] at hl
      exact absurd hl List.not_mem_nil
  | fragment children ih =>
      intro _ l hl
      rw [Instance.pruned, lineages_fragment, List.mem_flatMap] at hl
      obtain ⟨child, hchild, hl⟩ := hl
      exact siblings children ih child hchild l hl
  | element e inSlots inChildren =>
      intro here l hl
      obtain ⟨component, renderable, key, props, slots, children⟩ := e
      rw [Instance.pruned, lineages_element, List.mem_cons, List.mem_flatMap] at hl
      rcases hl with rfl | ⟨child, hchild, hl⟩
      · exact here
      · refine isNull_of_mem_lineages ?_ hl
        rw [RenderedElement.mem_held] at hchild
        rcases hchild with ⟨slot, hslot, hchild⟩ | hchild
        · rw [prunedInSlots_eq_map, List.mem_map] at hslot
          obtain ⟨slot, hslot, rfl⟩ := hslot
          exact siblings slot.2 (inSlots slot hslot) child hchild
        · exact siblings children inChildren child hchild

/-- Pruning leaves no element that renders nothing among siblings, at any depth. -/
theorem not_isNull_of_mem_prunedIn (list : List (Instance ρ)) :
    ∀ l ∈ Instance.lineagesIn [] (Instance.prunedIn list),
      l.element.renderable.isNull = false := by
  intro l hl
  have renders := isPruned_pruned (.fragment list) rfl
  rw [Instance.pruned] at renders
  exact renders l (by rwa [lineages_fragment, ← lineagesIn_eq_flatMap])

/-! ### What pruning does to markup -/

/-- Whether an element is a void tag without slots that has children, none of which renders
anything. -/
def RenderedElement.isHollow (e : RenderedElement ρ) : Bool :=
  e.renderable.isVoid && e.slots.isEmpty && !e.children.isEmpty && e.children.all (·.isNull)

/-- Parts become other parts: at a number of places a start tag and the end tag right behind it
become one tag that is closed in itself. -/
inductive Part.Collapses : Nat → List Part → List Part → Prop
  | nil : Collapses 0 [] []
  | keep {count : Nat} (part : Part) {parts parts' : List Part}
      (next : Collapses count parts parts') : Collapses count (part :: parts) (part :: parts')
  | collapse {count : Nat} (name : String) (attributes : List (String × Option String))
      {parts parts' : List Part} (next : Collapses count parts parts') :
      Collapses (count + 1) (.startTag name attributes false :: .endTag name :: parts)
        (.startTag name attributes true :: parts')

namespace Part.Collapses

variable {count count' : Nat} {parts parts' more more' : List Part}

theorem refl (parts : List Part) : Collapses 0 parts parts := by
  induction parts with
  | nil => exact .nil
  | cons part parts ih => exact .keep part ih

theorem append (first : Collapses count parts parts') (second : Collapses count' more more') :
    Collapses (count + count') (parts ++ more) (parts' ++ more') := by
  induction first with
  | nil => rwa [Nat.zero_add]
  | keep part _ ih => exact .keep part ih
  | collapse name attributes _ ih =>
      rw [Nat.add_right_comm]
      exact .collapse name attributes ih

/-- If there is no such place, nothing changes. -/
theorem eq_of_zero (none : Collapses 0 parts parts') : parts = parts' := by
  generalize hcount : 0 = count at none
  induction none with
  | nil => rfl
  | keep part _ ih => rw [ih hcount]
  | collapse => exact absurd hcount (Nat.zero_ne_add_one _)

/-- Every such place takes one tag. -/
theorem countP_isTag (collapses : Collapses count parts parts') :
    parts.countP isTag = parts'.countP isTag + count := by
  induction collapses with
  | nil => rfl
  | keep part _ ih =>
      simp only [List.countP_cons, ih]
      omega
  | collapse name attributes _ ih =>
      simp only [List.countP_cons, isTag, if_true, ih]
      omega

end Part.Collapses

/-- Pruning collapses every hollow tag that is reached, and changes nothing else. -/
def Instance.CollapsesWhenPruned (i : Instance ρ) : Prop :=
  Part.Collapses (i.reached.countP (·.isHollow)) i.parts i.pruned.parts

theorem isWritten_of_isNull {e : RenderedElement ρ} (null : e.renderable.isNull = true) :
    e.isWritten = false := by
  rw [RenderedElement.isWritten, writtenName?_eq_none_iff.mpr null, Option.any_none]

theorem isVoid_of_isNull {r : Renderable ρ} (null : r.isNull = true) : r.isVoid = false := by
  cases r with
  | null => rfl
  | tag name => cases null
  | component reference => cases null

theorem parts_of_isNull {i : Instance ρ} (null : i.isNull = true) : i.parts = [] := by
  cases i with
  | text value => cases null
  | fragment children => cases null
  | element e => exact parts_of_not_isWritten (isWritten_of_isNull null)

/-- No hollow tag is reached in elements that render nothing. -/
theorem countP_isHollow_of_all_isNull {list : List (Instance ρ)}
    (null : list.all (·.isNull) = true) :
    (list.flatMap (·.reached)).countP (·.isHollow) = 0 := by
  rw [List.countP_eq_zero]
  intro e he
  obtain ⟨child, hchild, he⟩ := List.mem_flatMap.mp he
  have nullChild := List.all_eq_true.mp null child hchild
  cases child with
  | text value => cases nullChild
  | fragment children => cases nullChild
  | element top =>
      rw [reached_element, isWritten_of_isNull nullChild, List.mem_cons] at he
      rcases he with rfl | he
      · simp [RenderedElement.isHollow, isVoid_of_isNull nullChild]
      · exact absurd he List.not_mem_nil

theorem collapses_listParts {list : List (Instance ρ)}
    (each : ∀ child ∈ list, child.CollapsesWhenPruned) :
    Part.Collapses ((list.flatMap (·.reached)).countP (·.isHollow)) (Instance.listParts list)
      (Instance.listParts (Instance.prunedIn list)) := by
  induction list with
  | nil => exact .nil
  | cons child list ih =>
      obtain ⟨first, others⟩ := List.forall_mem_cons.mp each
      rw [List.flatMap_cons, List.countP_append, Instance.listParts, Instance.prunedIn]
      cases null : child.isNull with
      | true =>
          have none := @countP_isHollow_of_all_isNull ρ [child] (by simp [null])
          rw [List.flatMap_singleton] at none
          rw [none, parts_of_isNull null, Nat.zero_add]
          exact ih others
      | false => exact first.append (ih others)

theorem collapses_slotParts {slots : List (String × List (Instance ρ))}
    (each : ∀ slot ∈ slots, ∀ child ∈ slot.2, child.CollapsesWhenPruned) :
    Part.Collapses
      ((slots.flatMap fun slot => slot.2.flatMap (·.reached)).countP (·.isHollow))
      (Instance.slotParts slots) (Instance.slotParts (Instance.prunedInSlots slots)) := by
  induction slots with
  | nil => exact .nil
  | cons slot slots ih =>
      obtain ⟨name, instances⟩ := slot
      obtain ⟨first, others⟩ := List.forall_mem_cons.mp each
      rw [List.flatMap_cons, List.countP_append, Instance.slotParts, Instance.prunedInSlots,
        Instance.slotParts]
      exact .keep _ ((collapses_listParts first).append (.keep _ (ih others)))

/-- If nothing of a list renders anything, its markup is empty. -/
theorem listParts_of_all_isNull {list : List (Instance ρ)} (null : list.all (·.isNull) = true) :
    Instance.listParts list = [] := by
  induction list with
  | nil => rfl
  | cons child list ih =>
      rw [List.all_cons, Bool.and_eq_true] at null
      rw [Instance.listParts, parts_of_isNull null.1, ih null.2, List.nil_append]

/-- An element that is not hollow is closed in its start tag exactly when it still is once it is
pruned. -/
theorem isVoid_of_not_isHollow {e : RenderedElement ρ} (full : e.isHollow = false) :
    (e.renderable.isVoid && e.children.all (·.isNull) && e.slots.isEmpty)
      = (e.renderable.isVoid && e.children.isEmpty && e.slots.isEmpty) := by
  unfold RenderedElement.isHollow at full
  cases hchildren : e.children with
  | nil => rfl
  | cons child rest =>
      rw [hchildren] at full
      cases hvoid : e.renderable.isVoid with
      | false => rfl
      | true =>
          cases hslots : e.slots.isEmpty with
          | false => simp
          | true => simpa [hvoid, hslots] using full

section Written

variable {e : RenderedElement ρ} {name : String}
  (hname : e.renderable.writtenName? e.component = some name) (valid : isMarkupName name = true)

include hname valid

/-- Once it is pruned, a hollow tag is closed in itself. -/
theorem collapses_hollow (hollow : e.isHollow = true) :
    (Instance.element e).CollapsesWhenPruned := by
  have here := List.countP_cons_of_pos (p := (·.isHollow))
    (l := (e.slots.flatMap fun slot => slot.2.flatMap (·.reached))
      ++ e.children.flatMap (·.reached)) hollow
  rw [RenderedElement.isHollow, Bool.and_eq_true, Bool.and_eq_true, Bool.and_eq_true,
    Bool.not_eq_true', List.isEmpty_iff] at hollow
  obtain ⟨⟨⟨void, noSlots⟩, someChildren⟩, nullChildren⟩ := hollow
  have nothingLeft : Instance.prunedIn e.children = [] := by
    rw [← List.isEmpty_iff, isEmpty_prunedIn, nullChildren]
  have pruned := @parts_of_name ρ
    { e with slots := Instance.prunedInSlots e.slots, children := Instance.prunedIn e.children }
    name hname valid
  dsimp only at pruned
  rw [noSlots, nothingLeft, void] at pruned
  rw [noSlots, List.flatMap_nil, List.nil_append,
    countP_isHollow_of_all_isNull nullChildren] at here
  rw [Instance.CollapsesWhenPruned, pruned_element, noSlots, nothingLeft,
    parts_of_name hname valid, pruned, reached_element, if_pos (isWritten_of_name hname valid),
    RenderedElement.flatMap_held, noSlots, List.flatMap_nil, List.nil_append, here, someChildren,
    listParts_of_all_isNull nullChildren]
  simp only [List.isEmpty_nil, isEmpty_prunedInSlots, Bool.and_true, Bool.and_false,
    Bool.false_eq_true, if_false, if_true, List.nil_append, Nat.zero_add]
  exact .collapse name _ .nil

/-- An element that is not hollow collapses where what is in it does. -/
theorem collapses_full (full : e.isHollow = false)
    (inSlots : ∀ slot ∈ e.slots, ∀ child ∈ slot.2, child.CollapsesWhenPruned)
    (inChildren : ∀ child ∈ e.children, child.CollapsesWhenPruned) :
    (Instance.element e).CollapsesWhenPruned := by
  have inside := (collapses_slotParts inSlots).append (collapses_listParts inChildren)
  have pruned := @parts_of_name ρ
    { e with slots := Instance.prunedInSlots e.slots, children := Instance.prunedIn e.children }
    name hname valid
  dsimp only at pruned
  rw [isEmpty_prunedIn, isEmpty_prunedInSlots, isVoid_of_not_isHollow full] at pruned
  rw [Instance.CollapsesWhenPruned, pruned_element, parts_of_name hname valid, pruned,
    reached_element, if_pos (isWritten_of_name hname valid),
    List.countP_cons_of_neg (by simp [full]), RenderedElement.flatMap_held, List.countP_append]
  split
  · next closed =>
      simp only [Bool.and_eq_true, List.isEmpty_iff] at closed
      rw [closed.1.2, closed.2]
      exact .refl _
  · refine .keep _ ?_
    rw [← List.append_assoc, ← List.append_assoc]
    exact inside.append (.refl _)

end Written

/-- What is not written is neither written nor hollow once it is pruned. -/
theorem collapses_unwritten {e : RenderedElement ρ} (unwritten : e.isWritten = false)
    (full : e.isHollow = false) : (Instance.element e).CollapsesWhenPruned := by
  have pruned := @parts_of_not_isWritten ρ
    { e with slots := Instance.prunedInSlots e.slots, children := Instance.prunedIn e.children }
    unwritten
  rw [Instance.CollapsesWhenPruned, pruned_element, parts_of_not_isWritten unwritten, pruned,
    reached_element, unwritten]
  simp [full, Part.Collapses.nil]

/-- A void tag is written: its name is a markup name. -/
theorem isWritten_of_isVoid {e : RenderedElement ρ} (void : e.renderable.isVoid = true) :
    e.isWritten = true := by
  have names : ∀ name ∈ voidTags, isMarkupName name = true := by decide
  obtain ⟨component, renderable, key, props, slots, children⟩ := e
  cases renderable with
  | null => cases void
  | component reference => cases void
  | tag name => exact names name (List.contains_iff_mem.mp void)

/-- **What pruning does to an instance.** -/
theorem collapsesWhenPruned (i : Instance ρ) : i.CollapsesWhenPruned := by
  induction i using Instance.induct with
  | text value =>
      rw [Instance.CollapsesWhenPruned, reached_text, Instance.pruned]
      exact .refl _
  | fragment children ih =>
      rw [Instance.CollapsesWhenPruned, reached_fragment, Instance.pruned, Instance.parts,
        Instance.parts]
      exact collapses_listParts ih
  | element e inSlots inChildren =>
      cases hollow : e.isHollow with
      | true =>
          have void : e.renderable.isVoid = true := by
            simp only [RenderedElement.isHollow, Bool.and_eq_true] at hollow
            exact hollow.1.1.1
          obtain ⟨name, hname, valid⟩ := exists_name_of_isWritten (isWritten_of_isVoid void)
          exact collapses_hollow hname valid hollow
      | false =>
          by_cases written : e.isWritten = true
          · obtain ⟨name, hname, valid⟩ := exists_name_of_isWritten written
            exact collapses_full hname valid hollow inSlots inChildren
          · exact collapses_unwritten (Bool.eq_false_iff.mpr written) hollow

/-- What pruning does to siblings. -/
theorem collapses_prunedIn (list : List (Instance ρ)) :
    Part.Collapses ((Instance.reachedIn list).countP (·.isHollow)) (Instance.listParts list)
      (Instance.listParts (Instance.prunedIn list)) := by
  rw [reachedIn_eq_flatMap]
  exact collapses_listParts fun child _ => collapsesWhenPruned child

/-! ### When markup stays as it is -/

/-- There are as many less-than signs in parts as there are tags. -/
theorem count_lessThan_flatMap {parts : List Part} (absent : ∀ part ∈ parts, '<' ∉ part.body) :
    (parts.flatMap Part.chars).count '<' = parts.countP Part.isTag := by
  induction parts with
  | nil => rfl
  | cons part parts ih =>
      obtain ⟨here, others⟩ := List.forall_mem_cons.mp absent
      have none : part.body.count '<' = 0 := List.count_eq_zero.mpr here
      rw [List.flatMap_cons, List.count_append, ih others, List.countP_cons, Part.chars]
      split
      · rw [List.count_cons_self, none]
        omega
      · rw [none]
        omega

theorem count_lessThan_listMarkup (list : List (Instance ρ)) :
    (Instance.listMarkup list).toList.count '<' = (Instance.listParts list).countP Part.isTag := by
  rw [toList_listMarkup, count_lessThan_flatMap (lessThan_not_mem_body_listParts list)]

/-- **When what renders nothing leaves no trace.** Pruning a list of instances leaves no element in
it that renders nothing, at any depth. The markup of the list stays as it is exactly when no hollow
tag is reached in it: no void tag without slots that has children of which none renders anything. -/
theorem listMarkup_prunedIn_iff (list : List (Instance ρ)) :
    (∀ l ∈ Instance.lineagesIn [] (Instance.prunedIn list),
        l.element.renderable.isNull = false) ∧
      (Instance.listMarkup (Instance.prunedIn list) = Instance.listMarkup list ↔
        ∀ e ∈ Instance.reachedIn list, e.isHollow = false) := by
  have collapses := collapses_prunedIn list
  refine ⟨not_isNull_of_mem_prunedIn list, ?_⟩
  constructor
  · intro same e he
    -- Every hollow tag that is reached takes a less-than sign with it.
    have tags := collapses.countP_isTag
    rw [← count_lessThan_listMarkup, ← count_lessThan_listMarkup, same] at tags
    have none : (Instance.reachedIn list).countP (·.isHollow) = 0 := by omega
    exact Bool.eq_false_iff.mpr (List.countP_eq_zero.mp none e he)
  · intro full
    have none : (Instance.reachedIn list).countP (·.isHollow) = 0 :=
      List.countP_eq_zero.mpr fun e he => by simp [full e he]
    rw [none] at collapses
    rw [← String.toList_inj, toList_listMarkup, toList_listMarkup, collapses.eq_of_zero]

/-- A line break with a child that renders nothing is closed by an end tag of its own; without that
child it is closed in itself. -/
theorem listMarkup_hollow :
    let list : List (Instance String) :=
      [.element
        { component := "br", renderable := .tag "br", key := "a"
          children := [.element (.empty "Missing" "b")] }]
    Instance.listMarkup list = "<br></br>" ∧
      Instance.listMarkup (Instance.prunedIn list) = "<br />" ∧
      Instance.listMarkup (Instance.prunedIn list) ≠ Instance.listMarkup list := by
  decide

end ComponentTree
