import ComponentTree.Markup
import ComponentTree.Proofs.Tree.Place

/-!
Markup in parts. A part is a text or a tag, and a tag is a less-than sign and a body that has no
other. Names stand in a part as they are, and so have to be markup names; everything else in it is
escaped.

* `shownAttributes`, `writeAttributes_eq` — the attributes that props show, and how they are
  written.
* `Instance.parts`, `write_eq` — the parts of an instance; its markup is their characters.
* `Part.From`, `from_of_mem_parts` — what a part of an instance is made of.
* `lessThan_not_mem_body` — there is no less-than sign in a body.
* `exists_split_of_lessThan`, `split_unique` — each less-than sign is the first character of one
  part, and of one only.
-/

namespace ComponentTree

variable {ρ : Type}

/-! ### Names -/

/-- A markup name is a letter and then characters that may follow one. -/
theorem exists_of_isMarkupName {name : String} (h : isMarkupName name = true) :
    ∃ first more, name.toList = first :: more ∧ first.isAlpha = true ∧
      ∀ c ∈ more, isMarkupNameChar c = true := by
  unfold isMarkupName at h
  split at h
  · cases h
  · next first more hname =>
      rw [Bool.and_eq_true, List.all_eq_true] at h
      exact ⟨first, more, hname, h⟩

/-- What may not follow a letter in a markup name is nowhere in one. -/
theorem not_mem_of_isMarkupName {name : String} (h : isMarkupName name = true) {c : Char}
    (hc : isMarkupNameChar c = false) : c ∉ name.toList := by
  obtain ⟨first, more, hname, hfirst, hmore⟩ := exists_of_isMarkupName h
  intro hmem
  rw [hname, List.mem_cons] at hmem
  rcases hmem with rfl | hmem
  · rw [isMarkupNameChar, Char.isAlphanum, hfirst] at hc
    exact absurd hc (by simp)
  · exact absurd (hmore c hmem) (by simp [hc])

/-! ### Escapes -/

/-- The characters of a text in markup. -/
def escapedText (s : String) : List Char :=
  s.toList.flatMap escapeTextChar

/-- The characters of a value or a slot name between its double quotes. -/
def escapedValue (s : String) : List Char :=
  s.toList.flatMap escapeAttributeChar

theorem writeText_eq (s : String) (rest : List Char) :
    writeText s rest = escapedText s ++ rest := by
  rw [writeText, List.foldr_append_eq_append, escapedText, List.flatMap_def]

theorem writeQuoted_eq (s : String) (rest : List Char) :
    writeQuoted s rest = '"' :: (escapedValue s ++ '"' :: rest) := by
  rw [writeQuoted, List.foldr_append_eq_append, escapedValue, List.flatMap_def]

theorem lessThan_not_mem_escapeTextChar (c : Char) : '<' ∉ escapeTextChar c := by
  unfold escapeTextChar
  split
  · decide
  · split
    · decide
    · split
      · decide
      · next hlt _ => exact fun hmem => hlt (List.mem_singleton.mp hmem).symm

theorem lessThan_not_mem_escapedText (s : String) : '<' ∉ escapedText s := by
  intro hmem
  obtain ⟨c, -, hc⟩ := List.mem_flatMap.mp hmem
  exact lessThan_not_mem_escapeTextChar c hc

theorem lessThan_not_mem_escapedValue (s : String) : '<' ∉ escapedValue s := by
  intro hmem
  obtain ⟨c, -, hc⟩ := List.mem_flatMap.mp hmem
  unfold escapeAttributeChar at hc
  split at hc
  · exact absurd hc (by decide)
  · exact lessThan_not_mem_escapeTextChar c hc

theorem quote_not_mem_escapedValue (s : String) : '"' ∉ escapedValue s := by
  intro hmem
  obtain ⟨c, -, hc⟩ := List.mem_flatMap.mp hmem
  unfold escapeAttributeChar escapeTextChar at hc
  split at hc
  · exact absurd hc (by decide)
  · next hquote =>
      split at hc
      · exact absurd hc (by decide)
      · split at hc
        · exact absurd hc (by decide)
        · split at hc
          · exact absurd hc (by decide)
          · exact hquote (List.mem_singleton.mp hc).symm

/-! ### Attributes -/

/-- What an attribute shows for a value: nothing at all for `null` and `false`, its bare name for
`true`, a string as it is, and any other value as JSON text. -/
def Json.shown : Json → Option (Option String)
  | .null | .bool false => none
  | .bool true => some none
  | .string value => some (some value)
  | value => some (some value.text)

/-- The attributes that props show, in order; those whose name is no markup name are left out. -/
def shownAttributes (props : Fields Json) : List (String × Option String) :=
  props.filterMap fun prop =>
    if isMarkupName prop.1 then prop.2.shown.map fun value => (prop.1, value) else none

/-- A prop shows what its attribute form says. -/
theorem shown_eq (value : Json) :
    value.shown = match value.attributeForm with
      | .absent => none
      | .bare => some none
      | .quoted text => some (some text) := by
  cases value with
  | bool b => cases b <;> rfl
  | _ => rfl

theorem shownAttributes_cons (prop : String × Json) (props : Fields Json) :
    shownAttributes (prop :: props) = shownAttributes [prop] ++ shownAttributes props := by
  rw [shownAttributes, ← List.singleton_append, List.filterMap_append]
  rfl

theorem shownAttributes_singleton (name : String) (value : Json) :
    shownAttributes [(name, value)]
      = if isMarkupName name then (value.shown.map fun shown => (name, shown)).toList else [] := by
  rw [shownAttributes, List.filterMap_cons]
  by_cases valid : isMarkupName name = true
  · cases hshown : value.shown with
    | none => simp [valid]
    | some shown => simp [valid]
  · simp [valid]

/-- Only markup names are shown. -/
theorem isMarkupName_of_mem_shownAttributes {props : Fields Json} {a : String × Option String}
    (ha : a ∈ shownAttributes props) : isMarkupName a.1 = true := by
  obtain ⟨prop, -, hprop⟩ := List.mem_filterMap.mp ha
  split at hprop
  · next h =>
      obtain ⟨value, -, rfl⟩ := Option.map_eq_some_iff.mp hprop
      exact h
  · cases hprop

/-- An attribute, after a space. -/
def attributeChars : String × Option String → List Char
  | (name, none) => ' ' :: name.toList
  | (name, some value) => ' ' :: (name.toList ++ '=' :: '"' :: (escapedValue value ++ ['"']))

theorem writeAttribute_eq (name : String) (value : Json) (rest : List Char) :
    writeAttribute name value rest
      = (shownAttributes [(name, value)]).flatMap attributeChars ++ rest := by
  rw [shownAttributes_singleton, shown_eq, writeAttribute]
  by_cases valid : isMarkupName name = true
  · simp only [valid, if_true]
    cases value.attributeForm with
    | absent => rfl
    | bare => simp [attributeChars]
    | quoted text => simp [attributeChars, writeQuoted_eq]
  · simp [valid]

/-- Attributes are written as what they show. -/
theorem writeAttributes_eq (props : Fields Json) (rest : List Char) :
    writeAttributes props rest = (shownAttributes props).flatMap attributeChars ++ rest := by
  induction props with
  | nil => rfl
  | cons prop props ih =>
      rw [shownAttributes_cons, List.flatMap_append, List.append_assoc, ← ih, ← writeAttribute_eq]
      rfl

/-! ### Parts -/

/-- A text or a tag. -/
inductive Part where
  | text (value : String)
  /-- The start tag of an element, closed in itself or not. -/
  | startTag (name : String) (attributes : List (String × Option String)) (closed : Bool)
  | endTag (name : String)
  /-- The start tag of the element that a slot is written as. -/
  | slotStart (slot : String)
  | slotEnd
deriving DecidableEq, Repr

namespace Part

def isTag : Part → Bool
  | text _ => false
  | _ => true

/-- The characters of a part, less the less-than sign of a tag. -/
def body : Part → List Char
  | text value => escapedText value
  | startTag name attributes closed =>
    name.toList ++ (attributes.flatMap attributeChars ++ if closed then [' ', '/', '>'] else ['>'])
  | endTag name => '/' :: (name.toList ++ ['>'])
  | slotStart slot => slotOpening.tail ++ '"' :: (escapedValue slot ++ ['"', '>'])
  | slotEnd => slotClosing.tail

/-- The characters of a part. -/
def chars (part : Part) : List Char :=
  if part.isTag then '<' :: part.body else part.body

end Part

mutual

/-- The parts of the markup of an instance. -/
def Instance.parts : Instance ρ → List Part
  | .text value => [.text value]
  | .fragment children => Instance.listParts children
  | .element { component, renderable, props, slots, children, .. } =>
    match renderable.writtenName? component with
    | none => []
    | some name =>
      if isMarkupName name then
        if renderable.isVoid && children.isEmpty && slots.isEmpty then
          [.startTag name (shownAttributes props) true]
        else
          .startTag name (shownAttributes props) false
            :: (Instance.slotParts slots ++ (Instance.listParts children ++ [.endTag name]))
      else []

/-- The parts of the markup of instances. -/
def Instance.listParts : List (Instance ρ) → List Part
  | [] => []
  | child :: rest => child.parts ++ Instance.listParts rest

/-- The parts of the markup of slots. -/
def Instance.slotParts : List (String × List (Instance ρ)) → List Part
  | [] => []
  | (name, instances) :: rest =>
    .slotStart name :: (Instance.listParts instances ++ .slotEnd :: Instance.slotParts rest)

end

/-! ### Writing in parts -/

theorem chars_slotStart (slot : String) :
    (Part.slotStart slot).chars = slotOpening ++ '"' :: (escapedValue slot ++ ['"', '>']) := by
  have opening : slotOpening = '<' :: slotOpening.tail := by decide
  rw [opening]
  rfl

theorem chars_slotEnd : Part.slotEnd.chars = slotClosing := by
  decide

/-- What is written for an instance is its parts. -/
def Instance.InParts (i : Instance ρ) : Prop :=
  ∀ rest, i.write rest = i.parts.flatMap Part.chars ++ rest

theorem writeList_eq {list : List (Instance ρ)} (each : ∀ child ∈ list, child.InParts) :
    ∀ rest, Instance.writeList list rest
      = (Instance.listParts list).flatMap Part.chars ++ rest := by
  induction list with
  | nil =>
      intro rest
      rw [Instance.writeList, Instance.listParts, List.flatMap_nil, List.nil_append]
  | cons child list ih =>
      intro rest
      obtain ⟨first, others⟩ := List.forall_mem_cons.mp each
      rw [Instance.writeList, first, ih others, Instance.listParts, List.flatMap_append,
        List.append_assoc]

theorem writeSlots_eq {slots : List (String × List (Instance ρ))}
    (each : ∀ slot ∈ slots, ∀ child ∈ slot.2, child.InParts) :
    ∀ rest, Instance.writeSlots slots rest
      = (Instance.slotParts slots).flatMap Part.chars ++ rest := by
  induction slots with
  | nil =>
      intro rest
      rw [Instance.writeSlots, Instance.slotParts, List.flatMap_nil, List.nil_append]
  | cons slot slots ih =>
      intro rest
      obtain ⟨name, instances⟩ := slot
      obtain ⟨first, others⟩ := List.forall_mem_cons.mp each
      rw [Instance.writeSlots, writeQuoted_eq, writeList_eq first, ih others, Instance.slotParts,
        List.flatMap_cons, List.flatMap_append, List.flatMap_cons, chars_slotStart, chars_slotEnd]
      simp only [List.append_assoc, List.cons_append, List.nil_append]

/-- **Markup is its parts.** -/
theorem write_eq (i : Instance ρ) : i.InParts := by
  induction i using Instance.induct with
  | text value =>
      intro rest
      rw [Instance.write, writeText_eq, Instance.parts, List.flatMap_singleton]
      rfl
  | fragment children ih =>
      intro rest
      rw [Instance.write, Instance.parts, writeList_eq ih]
  | element e inSlots inChildren =>
      intro rest
      obtain ⟨component, renderable, key, props, slots, children⟩ := e
      rw [Instance.write, Instance.parts]
      cases renderable.writtenName? component with
      | none => rfl
      | some name =>
          by_cases h : isMarkupName name = true
          · simp only [h, if_true]
            rw [writeAttributes_eq]
            split
            · simp [Part.chars, Part.body, Part.isTag]
            · rw [writeSlots_eq inSlots, writeList_eq inChildren]
              simp [Part.chars, Part.body, Part.isTag]
          · simp [h]

/-! ### Where parts come from -/

/-- What a part of the markup of a tree is made of. Only what an element at one of the places is
written under, and what its props show, stands in a tag as a name. -/
inductive Part.From (places : List (Place ρ)) : Part → Prop where
  | text (value : String) : From places (.text value)
  | startTag {place : Place ρ} (hplace : place ∈ places) {name : String}
      (written : place.element.renderable.writtenName? place.element.component = some name)
      (valid : isMarkupName name = true) (closed : Bool) :
      From places (.startTag name (shownAttributes place.element.props) closed)
  | endTag {place : Place ρ} (hplace : place ∈ places) {name : String}
      (written : place.element.renderable.writtenName? place.element.component = some name)
      (valid : isMarkupName name = true) : From places (.endTag name)
  | slotStart (slot : String) : From places (.slotStart slot)
  | slotEnd : From places .slotEnd

theorem Part.From.mono {places more : List (Place ρ)} (h : ∀ place ∈ places, place ∈ more)
    {part : Part} (made : part.From places) : part.From more := by
  cases made with
  | text value => exact .text value
  | startTag hplace written valid closed => exact .startTag (h _ hplace) written valid closed
  | endTag hplace written valid => exact .endTag (h _ hplace) written valid
  | slotStart slot => exact .slotStart slot
  | slotEnd => exact .slotEnd

/-- Every part of an instance is made of what is at its places. -/
def Instance.PartsFromPlaces (i : Instance ρ) : Prop :=
  ∀ depth path, ∀ part ∈ i.parts, part.From (i.placesAt depth path)

theorem from_of_mem_listParts {list : List (Instance ρ)}
    (each : ∀ child ∈ list, child.PartsFromPlaces) (depth : Nat) (parent : String) (index : Nat) :
    ∀ part ∈ Instance.listParts list, part.From (Instance.placesIn depth parent index list) := by
  induction list generalizing index with
  | nil => exact fun part hpart => absurd hpart List.not_mem_nil
  | cons child list ih =>
      intro part hpart
      obtain ⟨first, others⟩ := List.forall_mem_cons.mp each
      rw [Instance.listParts, List.mem_append] at hpart
      rw [Instance.placesIn]
      rcases hpart with hpart | hpart
      · exact (first _ _ part hpart).mono fun _ => List.mem_append_left _
      · exact (ih others (index + 1) part hpart).mono fun _ => List.mem_append_right _

theorem from_of_mem_slotParts {slots : List (String × List (Instance ρ))}
    (each : ∀ slot ∈ slots, ∀ child ∈ slot.2, child.PartsFromPlaces) (depth : Nat)
    (parent : String) :
    ∀ part ∈ Instance.slotParts slots, part.From (Instance.slotPlaces depth parent slots) := by
  induction slots with
  | nil => exact fun part hpart => absurd hpart List.not_mem_nil
  | cons slot slots ih =>
      intro part hpart
      obtain ⟨name, instances⟩ := slot
      obtain ⟨first, others⟩ := List.forall_mem_cons.mp each
      rw [Instance.slotParts, List.mem_cons, List.mem_append, List.mem_cons] at hpart
      rw [Instance.slotPlaces]
      rcases hpart with rfl | hpart | rfl | hpart
      · exact .slotStart name
      · exact (from_of_mem_listParts first depth parent 0 part hpart).mono
          fun _ => List.mem_append_left _
      · exact .slotEnd
      · exact (ih others part hpart).mono fun _ => List.mem_append_right _

/-- **Every part of an instance** is made of what is at its places. -/
theorem from_of_mem_parts (i : Instance ρ) : i.PartsFromPlaces := by
  induction i using Instance.induct with
  | text value =>
      intro depth path part hpart
      rw [Instance.parts, List.mem_singleton] at hpart
      exact hpart ▸ .text value
  | fragment children ih =>
      intro depth path part hpart
      rw [Instance.parts] at hpart
      rw [placesAt_fragment]
      exact from_of_mem_listParts ih depth path 0 part hpart
  | element e inSlots inChildren =>
      intro depth path part hpart
      obtain ⟨component, renderable, key, props, slots, children⟩ := e
      rw [Instance.parts] at hpart
      rw [placesAt_element]
      cases hwritten : renderable.writtenName? component with
      | none =>
          rw [hwritten] at hpart
          exact absurd hpart List.not_mem_nil
      | some name =>
          rw [hwritten] at hpart
          by_cases valid : isMarkupName name = true
          · simp only [valid, if_true] at hpart
            split at hpart
            · rw [List.mem_singleton] at hpart
              exact hpart ▸ .startTag List.mem_cons_self hwritten valid true
            · rw [List.mem_cons, List.mem_append, List.mem_append, List.mem_singleton] at hpart
              rcases hpart with rfl | hpart | hpart | rfl
              · exact .startTag List.mem_cons_self hwritten valid false
              · exact (from_of_mem_slotParts inSlots (depth + 1) path part hpart).mono
                  fun _ hplace => List.mem_cons_of_mem _ (List.mem_append_left _ hplace)
              · exact (from_of_mem_listParts inChildren (depth + 1) path 0 part hpart).mono
                  fun _ hplace => List.mem_cons_of_mem _ (List.mem_append_right _ hplace)
              · exact .endTag List.mem_cons_self hwritten valid
          · simp only [valid] at hpart
            exact absurd hpart List.not_mem_nil

/-! ### Less-than signs -/

theorem lessThan_not_mem_name {name : String} (valid : isMarkupName name = true) :
    '<' ∉ name.toList :=
  not_mem_of_isMarkupName valid (by decide)

/-- Neither the name of an attribute nor its value brings in a less-than sign. -/
theorem lessThan_not_mem_attributeChars {a : String × Option String}
    (valid : isMarkupName a.1 = true) : '<' ∉ attributeChars a := by
  obtain ⟨name, value⟩ := a
  have hname := lessThan_not_mem_name valid
  cases value with
  | none => simp [attributeChars, hname]
  | some value => simp [attributeChars, hname, lessThan_not_mem_escapedValue value]

/-- The body of a part has no less-than sign: one stands at the start of a tag only. -/
theorem lessThan_not_mem_body {places : List (Place ρ)} {part : Part} (made : part.From places) :
    '<' ∉ part.body := by
  cases made with
  | text value => exact lessThan_not_mem_escapedText value
  | @startTag place _ name _ valid closed =>
      have hattributes : '<' ∉ (shownAttributes place.element.props).flatMap attributeChars := by
        intro hmem
        obtain ⟨a, ha, hmem⟩ := List.mem_flatMap.mp hmem
        exact lessThan_not_mem_attributeChars (isMarkupName_of_mem_shownAttributes ha) hmem
      have hclose : '<' ∉ (if closed then [' ', '/', '>'] else ['>']) := by cases closed <;> decide
      simp only [Part.body, List.mem_append, not_or]
      exact ⟨lessThan_not_mem_name valid, hattributes, hclose⟩
  | endTag _ _ valid => simp [Part.body, lessThan_not_mem_name valid]
  | slotStart slot =>
      have hopening : '<' ∉ slotOpening.tail := by decide
      simp [Part.body, hopening, lessThan_not_mem_escapedValue slot]
  | slotEnd => exact (by decide : '<' ∉ slotClosing.tail)

/-! ### One part for each less-than sign -/

theorem chars_of_isTag {part : Part} (tag : part.isTag = true) : part.chars = '<' :: part.body := by
  rw [Part.chars, if_pos tag]

/-- A less-than sign that is not in the text in front stands behind it. -/
theorem exists_of_append_eq {body rest before after : List Char} (absent : '<' ∉ body)
    (h : body ++ rest = before ++ '<' :: after) :
    ∃ more, before = body ++ more ∧ rest = more ++ '<' :: after := by
  rcases List.append_eq_append_iff.mp h with ⟨more, hbefore, hrest⟩ | ⟨tail, hbody, hafter⟩
  · exact ⟨more, hbefore, hrest⟩
  · cases tail with
    | nil => exact ⟨[], by simpa using hbody.symm, by simpa using hafter.symm⟩
    | cons c tail =>
        obtain ⟨rfl, -⟩ := List.cons.inj hafter
        exact absurd (hbody ▸ List.mem_append_right before List.mem_cons_self) absent

/-- A less-than sign in a list of parts is the first character of a tag. -/
theorem exists_split_of_lessThan {parts : List Part} (absent : ∀ part ∈ parts, '<' ∉ part.body)
    {before after : List Char} (h : parts.flatMap Part.chars = before ++ '<' :: after) :
    ∃ front part back, parts = front ++ part :: back ∧ before = front.flatMap Part.chars ∧
      part.isTag = true ∧ after = part.body ++ back.flatMap Part.chars := by
  induction parts generalizing before with
  | nil => exact absurd h (by simp)
  | cons part parts ih =>
      obtain ⟨absentHere, absentRest⟩ := List.forall_mem_cons.mp absent
      -- Past the first part the sign is in the others; `head` is what the first part adds in front.
      have past : ∀ head more, part.chars = head ++ part.body → before = head ++ part.body ++ more →
          parts.flatMap Part.chars = more ++ '<' :: after →
          ∃ front tag back, part :: parts = front ++ tag :: back ∧
            before = front.flatMap Part.chars ∧ tag.isTag = true ∧
            after = tag.body ++ back.flatMap Part.chars := by
        intro head more hchars hbefore hrest
        obtain ⟨front, tag, back, rfl, rfl, htag, hafter⟩ := ih absentRest hrest
        refine ⟨part :: front, tag, back, rfl, ?_, htag, hafter⟩
        rw [List.flatMap_cons, hchars, hbefore]
      rw [List.flatMap_cons] at h
      by_cases tag : part.isTag = true
      · rw [chars_of_isTag tag, List.cons_append] at h
        cases before with
        | nil =>
            obtain ⟨-, hafter⟩ := List.cons.inj h
            exact ⟨[], part, parts, rfl, rfl, tag, hafter.symm⟩
        | cons c before =>
            obtain ⟨rfl, hpast⟩ := List.cons.inj h
            obtain ⟨more, rfl, hrest⟩ := exists_of_append_eq absentHere hpast
            exact past ['<'] more (chars_of_isTag tag) rfl hrest
      · have hchars : part.chars = part.body := by rw [Part.chars, if_neg tag]
        rw [hchars] at h
        obtain ⟨more, rfl, hrest⟩ := exists_of_append_eq absentHere h
        exact past [] more hchars rfl hrest

/-- Parts are split in front of a tag in one way only, for given characters in front of it. -/
theorem split_unique {front front' back back' : List Part} {part part' : Part}
    (tag : part.isTag = true) (tag' : part'.isTag = true)
    (same : front.flatMap Part.chars = front'.flatMap Part.chars)
    (h : front ++ part :: back = front' ++ part' :: back') : front = front' := by
  induction front generalizing front' with
  | nil =>
      cases front' with
      | nil => rfl
      | cons first front' =>
          obtain ⟨rfl, -⟩ := List.cons.inj h
          rw [List.flatMap_cons, chars_of_isTag tag] at same
          cases same
  | cons first front ih =>
      cases front' with
      | nil =>
          obtain ⟨rfl, -⟩ := List.cons.inj h
          rw [List.flatMap_cons, chars_of_isTag tag'] at same
          cases same
      | cons first' front' =>
          obtain ⟨rfl, hrest⟩ := List.cons.inj h
          rw [List.flatMap_cons, List.flatMap_cons, List.append_cancel_left_eq] at same
          rw [ih same hrest]

/-! ### Keys -/

mutual

/-- An instance with other keys. -/
def Instance.rekey (f : String → String) : Instance ρ → Instance ρ
  | .text value => .text value
  | .fragment children => .fragment (Instance.rekeyList f children)
  | .element { component, renderable, key, props, slots, children } =>
    .element
      { component, renderable, key := f key, props
        slots := Instance.rekeySlots f slots
        children := Instance.rekeyList f children }

/-- Instances with other keys. -/
def Instance.rekeyList (f : String → String) : List (Instance ρ) → List (Instance ρ)
  | [] => []
  | child :: rest => child.rekey f :: Instance.rekeyList f rest

/-- Slots with other keys in them. -/
def Instance.rekeySlots (f : String → String) :
    List (String × List (Instance ρ)) → List (String × List (Instance ρ))
  | [] => []
  | (name, instances) :: rest =>
    (name, Instance.rekeyList f instances) :: Instance.rekeySlots f rest

end

section Keys

variable {f : String → String}

theorem isEmpty_rekeyList (list : List (Instance ρ)) :
    (Instance.rekeyList f list).isEmpty = list.isEmpty := by
  cases list <;> rfl

theorem isEmpty_rekeySlots (slots : List (String × List (Instance ρ))) :
    (Instance.rekeySlots f slots).isEmpty = slots.isEmpty := by
  cases slots <;> rfl

theorem listParts_rekeyList {list : List (Instance ρ)}
    (each : ∀ child ∈ list, (child.rekey f).parts = child.parts) :
    Instance.listParts (Instance.rekeyList f list) = Instance.listParts list := by
  induction list with
  | nil => rfl
  | cons child list ih =>
      obtain ⟨first, others⟩ := List.forall_mem_cons.mp each
      rw [Instance.rekeyList, Instance.listParts, first, ih others, Instance.listParts]

theorem slotParts_rekeySlots {slots : List (String × List (Instance ρ))}
    (each : ∀ slot ∈ slots, ∀ child ∈ slot.2, (child.rekey f).parts = child.parts) :
    Instance.slotParts (Instance.rekeySlots f slots) = Instance.slotParts slots := by
  induction slots with
  | nil => rfl
  | cons slot slots ih =>
      obtain ⟨name, instances⟩ := slot
      obtain ⟨first, others⟩ := List.forall_mem_cons.mp each
      rw [Instance.rekeySlots, Instance.slotParts, listParts_rekeyList first, ih others,
        Instance.slotParts]

/-- Keys leave no trace in markup. -/
theorem parts_rekey (i : Instance ρ) : (i.rekey f).parts = i.parts := by
  induction i using Instance.induct with
  | text value => rw [Instance.rekey]
  | fragment children ih =>
      rw [Instance.rekey, Instance.parts, listParts_rekeyList ih, Instance.parts]
  | element e inSlots inChildren =>
      obtain ⟨component, renderable, key, props, slots, children⟩ := e
      rw [Instance.rekey, Instance.parts, listParts_rekeyList inChildren,
        slotParts_rekeySlots inSlots, isEmpty_rekeyList, isEmpty_rekeySlots, Instance.parts]

end Keys

end ComponentTree
