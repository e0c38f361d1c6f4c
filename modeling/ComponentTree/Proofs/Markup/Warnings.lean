import Mathlib.Algebra.GroupWithZero.Nat
import ComponentTree.Proofs.Markup.Reach

/-!
What markup leaves out, and what is logged for it. An element under a bad name is left out with
everything in it, an attribute under a bad name by itself, and each of them has its record; what
renders nothing is left out without one.

* `RenderedElement.records` — the records about one element; `records_listWarnings` — the log of
  siblings is that of the elements that are reached, in the order of a walk.
* `Markup.startTags` — the number of start tags in markup, counted on its characters.
* `startTags_listMarkup` — every element that is reached and written has a start tag, and so has
  each of its slots.
* `warnings_account` — both together: without a record and without anything that renders nothing,
  markup has a start tag for every element and every slot there is.
-/

namespace ComponentTree

variable {ρ : Type}

/-! ### Records -/

/-- The records about an element that is reached: one if it renders something under a bad name, else
one for each attribute under a bad name, whatever its value. -/
def RenderedElement.records (e : RenderedElement ρ) : List LogRecord :=
  match e.renderable.writtenName? e.component with
  | none => []
  | some name =>
    if isMarkupName name then
      (e.props.filter fun prop => !isMarkupName prop.1).map fun prop =>
        ⟨.warn, "[" ++ prop.1 ++ "] is not a valid attribute name; attribute skipped"⟩
    else [⟨.warn, "[" ++ name ++ "] is not a valid markup name; element skipped"⟩]

/-- The log of an instance is that of the elements that are reached in it. -/
def Instance.Logged (i : Instance ρ) : Prop :=
  i.warnings.map MarkupWarning.record = i.reached.flatMap (·.records)

theorem records_listWarnings_of_logged {list : List (Instance ρ)}
    (each : ∀ child ∈ list, child.Logged) :
    (Instance.listWarnings list).map MarkupWarning.record
      = (list.flatMap (·.reached)).flatMap (·.records) := by
  induction list with
  | nil => rfl
  | cons child list ih =>
      obtain ⟨first, others⟩ := List.forall_mem_cons.mp each
      rw [Instance.listWarnings, List.map_append, first, ih others, List.flatMap_cons,
        List.flatMap_append]

theorem records_slotWarnings_of_logged {slots : List (String × List (Instance ρ))}
    (each : ∀ slot ∈ slots, ∀ child ∈ slot.2, child.Logged) :
    (Instance.slotWarnings slots).map MarkupWarning.record
      = (slots.flatMap fun slot => slot.2.flatMap (·.reached)).flatMap (·.records) := by
  induction slots with
  | nil => rfl
  | cons slot slots ih =>
      obtain ⟨first, others⟩ := List.forall_mem_cons.mp each
      rw [Instance.slotWarnings, List.map_append, records_listWarnings_of_logged first, ih others,
        List.flatMap_cons, List.flatMap_append]

theorem records_attributeWarnings (props : Fields Json) :
    (attributeWarnings props).map MarkupWarning.record
      = (props.filter fun prop => !isMarkupName prop.1).map fun prop =>
        ⟨.warn, "[" ++ prop.1 ++ "] is not a valid attribute name; attribute skipped"⟩ := by
  rw [attributeWarnings, List.map_map]
  rfl

theorem warnings_element (e : RenderedElement ρ) :
    (Instance.element e).warnings
      = match e.renderable.writtenName? e.component with
        | none => []
        | some name =>
          if isMarkupName name then
            attributeWarnings e.props ++ Instance.slotWarnings e.slots
              ++ Instance.listWarnings e.children
          else [.elementName name] := by
  cases e
  unfold Instance.warnings
  rfl

theorem logged (i : Instance ρ) : i.Logged := by
  induction i using Instance.induct with
  | text value =>
      rw [Instance.Logged, reached_text, Instance.warnings]
      rfl
  | fragment children ih =>
      rw [Instance.Logged, reached_fragment, Instance.warnings]
      exact records_listWarnings_of_logged ih
  | element e inSlots inChildren =>
      rw [Instance.Logged, warnings_element, reached_element, List.flatMap_cons]
      cases hname : e.renderable.writtenName? e.component with
      | none =>
          have unwritten : e.isWritten = false := by simp [RenderedElement.isWritten, hname]
          simp [RenderedElement.records, hname, unwritten]
      | some name =>
          cases valid : isMarkupName name with
          | false =>
              have unwritten : e.isWritten = false := by
                simp [RenderedElement.isWritten, hname, valid]
              simp [RenderedElement.records, hname, valid, unwritten, MarkupWarning.record,
                MarkupWarning.message]
          | true =>
              have written := isWritten_of_name hname valid
              rw [if_pos written, RenderedElement.flatMap_held, List.flatMap_append,
                ← records_slotWarnings_of_logged inSlots,
                ← records_listWarnings_of_logged inChildren]
              simp [RenderedElement.records, hname, valid, records_attributeWarnings]

/-- **The log of markup** is the records about the elements that are reached, in the order of a
walk. -/
theorem records_listWarnings (list : List (Instance ρ)) :
    (Instance.listWarnings list).map MarkupWarning.record
      = (Instance.reachedIn list).flatMap (·.records) := by
  rw [reachedIn_eq_flatMap]
  exact records_listWarnings_of_logged fun child _ => logged child

/-- Where there is no record about an element that renders something, it is written. -/
theorem isWritten_of_records {e : RenderedElement ρ} (silent : e.records = [])
    (renders : e.renderable.isNull = false) : e.isWritten = true := by
  cases hname : e.renderable.writtenName? e.component with
  | none =>
      rw [writtenName?_eq_none_iff.mp hname] at renders
      cases renders
  | some name =>
      cases valid : isMarkupName name with
      | true => exact isWritten_of_name hname valid
      | false => simp [RenderedElement.records, hname, valid] at silent

/-! ### Start tags -/

/-- The number of less-than signs that no slash follows. -/
def Markup.tagStarts : List Char → Nat
  | [] => 0
  | c :: rest =>
    (if c = '<' ∧ rest.head? ≠ some '/' then 1 else 0) + Markup.tagStarts rest

/-- The number of start tags in markup, those that are closed in themselves included. -/
def Markup.startTags (markup : String) : Nat :=
  Markup.tagStarts markup.toList

/-- Whether a part is a start tag. -/
def Part.isStart : Part → Bool
  | .startTag _ _ _ | .slotStart _ => true
  | .text _ | .endTag _ | .slotEnd => false

theorem tagStarts_append_of_not_mem {body : List Char} (absent : '<' ∉ body)
    (rest : List Char) : Markup.tagStarts (body ++ rest) = Markup.tagStarts rest := by
  induction body with
  | nil => rfl
  | cons c body ih =>
      rw [List.mem_cons, not_or] at absent
      rw [List.cons_append, Markup.tagStarts, ih absent.2, if_neg fun h => absent.1 h.1.symm,
        Nat.zero_add]

/-- A tag starts with a slash exactly if it is no start tag. -/
theorem head?_body_of_isTag {places : List (Place ρ)} {part : Part} (made : part.From places)
    (tag : part.isTag = true) :
    ∃ c body, part.body = c :: body ∧ (part.isStart = true ↔ c ≠ '/') := by
  cases made with
  | text value => cases tag
  | @startTag place _ name _ valid closed =>
      obtain ⟨first, more, hname, alpha, -⟩ := exists_of_isMarkupName valid
      refine ⟨first, _, by rw [Part.body, hname]; rfl, ?_⟩
      have notSlash : first ≠ '/' := by
        rintro rfl
        exact absurd alpha (by decide)
      simp [Part.isStart, notSlash]
  | endTag _ _ valid => exact ⟨'/', _, rfl, by simp [Part.isStart]⟩
  | slotStart slot =>
      refine ⟨'t', _, rfl, by simp [Part.isStart]⟩
  | slotEnd => exact ⟨'/', _, rfl, by simp [Part.isStart]⟩

theorem tagStarts_flatMap {places : List (Place ρ)} {parts : List Part}
    (made : ∀ part ∈ parts, part.From places) :
    Markup.tagStarts (parts.flatMap Part.chars) = parts.countP Part.isStart := by
  induction parts with
  | nil => rfl
  | cons part parts ih =>
      obtain ⟨here, others⟩ := List.forall_mem_cons.mp made
      have absent := lessThan_not_mem_body here
      rw [List.flatMap_cons, List.countP_cons, ← ih others, Part.chars]
      by_cases tag : part.isTag = true
      · obtain ⟨c, body, hbody, start⟩ := head?_body_of_isTag here tag
        rw [if_pos tag, List.cons_append, Markup.tagStarts, tagStarts_append_of_not_mem absent,
          hbody, List.cons_append, List.head?_cons, Nat.add_comm]
        simp [start]
      · have noStart : part.isStart = false := by
          cases part <;> first | rfl | exact absurd rfl tag
        rw [if_neg tag, tagStarts_append_of_not_mem absent, noStart]
        rfl

/-- The start tags that an element brings in by itself: its own and one for each slot. -/
def RenderedElement.tagCount (e : RenderedElement ρ) : Nat :=
  if e.isWritten then 1 + e.slots.length else 0

/-- The start tags of an instance are those of the elements that are reached in it. -/
def Instance.TagsCounted (i : Instance ρ) : Prop :=
  i.parts.countP Part.isStart = (i.reached.map (·.tagCount)).sum

theorem countP_isStart_listParts {list : List (Instance ρ)}
    (each : ∀ child ∈ list, child.TagsCounted) :
    (Instance.listParts list).countP Part.isStart
      = ((list.flatMap (·.reached)).map (·.tagCount)).sum := by
  induction list with
  | nil => rfl
  | cons child list ih =>
      obtain ⟨first, others⟩ := List.forall_mem_cons.mp each
      rw [Instance.listParts, List.countP_append, first, ih others, List.flatMap_cons,
        List.map_append, List.sum_append]

theorem countP_isStart_slotParts {slots : List (String × List (Instance ρ))}
    (each : ∀ slot ∈ slots, ∀ child ∈ slot.2, child.TagsCounted) :
    (Instance.slotParts slots).countP Part.isStart
      = slots.length
        + ((slots.flatMap fun slot => slot.2.flatMap (·.reached)).map (·.tagCount)).sum := by
  induction slots with
  | nil => rfl
  | cons slot slots ih =>
      obtain ⟨name, instances⟩ := slot
      obtain ⟨first, others⟩ := List.forall_mem_cons.mp each
      rw [Instance.slotParts, List.countP_cons_of_pos (by rfl), List.countP_append,
        countP_isStart_listParts first, List.countP_cons_of_neg (by simp [Part.isStart]),
        ih others, List.flatMap_cons, List.map_append, List.sum_append, List.length_cons]
      dsimp only
      omega

theorem tagsCounted (i : Instance ρ) : i.TagsCounted := by
  induction i using Instance.induct with
  | text value =>
      rw [Instance.TagsCounted, reached_text, Instance.parts]
      rfl
  | fragment children ih =>
      rw [Instance.TagsCounted, reached_fragment, Instance.parts]
      exact countP_isStart_listParts ih
  | element e inSlots inChildren =>
      have slots := countP_isStart_slotParts inSlots
      have children := countP_isStart_listParts inChildren
      rw [Instance.TagsCounted, reached_element, List.map_cons, List.sum_cons,
        RenderedElement.tagCount]
      cases written : e.isWritten with
      | false =>
          rw [parts_of_not_isWritten written]
          rfl
      | true =>
          obtain ⟨name, hname, valid⟩ := exists_name_of_isWritten written
          simp only [if_true]
          rw [parts_of_name hname valid, RenderedElement.flatMap_held, List.map_append,
            List.sum_append]
          split
          · next closed =>
              simp only [Bool.and_eq_true, List.isEmpty_iff] at closed
              rw [closed.1.2, closed.2]
              rfl
          · rw [List.countP_cons_of_pos (by rfl), List.countP_append, List.countP_append, slots,
              children]
            have noStart : [Part.endTag name].countP Part.isStart = 0 := rfl
            rw [noStart]
            omega

/-- **Start tags of markup.** There is one for each element that is reached and written, and one for
each of its slots. -/
theorem startTags_listMarkup (list : List (Instance ρ)) :
    Markup.startTags (Instance.listMarkup list)
      = ((Instance.reachedIn list).map (·.tagCount)).sum := by
  rw [Markup.startTags, toList_listMarkup, tagStarts_flatMap
    (from_of_mem_listParts (fun child _ => from_of_mem_parts child) 1 "" 0), reachedIn_eq_flatMap]
  exact countP_isStart_listParts fun child _ => tagsCounted child

/-! ### Nothing is left out silently -/

/-- Without a record and without anything that renders nothing, what is reached is written. -/
theorem isWritten_of_silent {list : List (Instance ρ)} (silent : Instance.listWarnings list = [])
    (renders : ∀ e ∈ Instance.reachedIn list, e.renderable.isNull = false) :
    ∀ e ∈ Instance.reachedIn list, e.isWritten = true := by
  intro e he
  have records := records_listWarnings list
  rw [silent, List.map_nil, eq_comm, List.flatMap_eq_nil_iff] at records
  exact isWritten_of_records (records e he) (renders e he)

/-- **Markup leaves nothing out silently.** The log of siblings is, in the order of a walk, the
records about the elements that are reached: one for each that renders something under a bad name,
and one for each attribute under a bad name of one that is written. If there is no record, and every
element that is reached renders something, markup has as many start tags as there are elements and
slots, at any depth. -/
theorem warnings_account (list : List (Instance ρ)) :
    (Instance.listWarnings list).map MarkupWarning.record
        = (Instance.reachedIn list).flatMap (·.records) ∧
      (Instance.listWarnings list = [] →
        (∀ e ∈ Instance.reachedIn list, e.renderable.isNull = false) →
          Markup.startTags (Instance.listMarkup list)
            = (Instance.lineagesIn [] list).length
              + ((Instance.lineagesIn [] list).map (·.element.slots.length)).sum) := by
  refine ⟨records_listWarnings list, ?_⟩
  intro silent renders
  have written := isWritten_of_silent silent renders
  have counts : (Instance.reachedIn list).map (·.tagCount)
      = (Instance.reachedIn list).map fun e => 1 + e.slots.length := by
    refine List.map_congr_left fun e he => ?_
    rw [RenderedElement.tagCount, if_pos (written e he)]
  have split : ∀ lineages : List (Lineage ρ),
      (lineages.map fun l => 1 + l.element.slots.length).sum
        = lineages.length + (lineages.map (·.element.slots.length)).sum := by
    intro lineages
    induction lineages with
    | nil => rfl
    | cons l lineages ih =>
        simp only [List.map_cons, List.sum_cons, List.length_cons, ih]
        omega
  rw [startTags_listMarkup, counts, reachedIn_of_written written, List.map_map, ← split]
  rfl

/-- A component with two slots, one of them empty, beside a line break in a fragment. -/
theorem warnings_account_slots :
    let list : List (Instance String) :=
      [.element
        { component := "Card", renderable := .component "card", key := "a"
          props := [("title", .string "x < y")]
          slots := [("footer", []), ("header", [.element
            { component := "b", renderable := .tag "b", key := "b", children := [.text "t"] }])] },
        .fragment [.text "<i>",
          .element { component := "br", renderable := .tag "br", key := "c" }]]
    Instance.listWarnings list = [] ∧
      (∀ e ∈ Instance.reachedIn list, e.renderable.isNull = false) ∧
      Markup.startTags (Instance.listMarkup list) = 5 ∧
      Markup.startTags (Instance.listMarkup list)
        = (Instance.lineagesIn [] list).length
          + ((Instance.lineagesIn [] list).map (·.element.slots.length)).sum :=
  ⟨rfl, by decide, (startTags_listMarkup _).trans (by decide),
    (warnings_account _).2 rfl (by decide)⟩

end ComponentTree
