import Mathlib.Logic.ExistsUnique
import ComponentTree.Proofs.Markup.Parts
import ComponentTree.Proofs.Policy.Enforcement

/-!
No document brings tags of its own into markup. The statement spans the walk, the policy and the
writer: a less-than sign in the markup of a rendered tree begins a tag, the tag is that of a slot or
of an element that the registry or the options let through, and nothing else that a document says
ends up in markup as anything but its escaped characters.

* `Mark`, `Mark.Begins` — the tags that markup may have, and how they begin.
* `Renderer.Renders`, `Renderer.Admits` — what stands in the tree under a name, and the marks that a
  renderer lets through.
* `mark_of_isTag` — the tag of a part is a mark that is let through.
* `Renderer.Ambiguous`, `ambiguous_iff` — where two such marks begin alike: slots are written as
  templates, and so may an element be. `not_existsUnique_mark_template` — this does come about.
* `Renderer.SealedMarkup`, `sealedMarkup_of_undecorated` — all of it, for a render that no decorator
  touched.
-/

namespace ComponentTree

variable {ρ : Type}

/-! ### Marks -/

/-- What a less-than sign begins. -/
inductive Mark where
  | opening (name : String)
  | closing (name : String)
  | slotOpening
  | slotClosing
deriving DecidableEq, Repr

namespace Mark

/-- How a mark goes on after its less-than sign. -/
def Begins : Mark → List Char → Prop
  | opening name, after => ∃ c rest, after = name.toList ++ c :: rest ∧ (c = ' ' ∨ c = '>')
  | closing name, after => ∃ rest, after = '/' :: (name.toList ++ '>' :: rest)
  | slotOpening, after => ∃ rest, after = "template slot=\"".toList ++ rest
  | slotClosing, after => ∃ rest, after = "/template>".toList ++ rest

/-- The name in a mark. -/
def name : Mark → String
  | opening name | closing name => name
  | slotOpening | slotClosing => "template"

def isClosing : Mark → Bool
  | opening _ | slotOpening => false
  | closing _ | slotClosing => true

/-- The characters of a mark up to what ends its name. -/
def word (mark : Mark) : List Char :=
  if mark.isClosing then '/' :: mark.name.toList else mark.name.toList

variable {mark mark' : Mark} {after : List Char}

/-- A name in a mark ends at a space or a greater-than sign. -/
theorem Begins.exists_end (h : mark.Begins after) :
    ∃ c rest, after = mark.word ++ c :: rest ∧ (c = ' ' ∨ c = '>') := by
  cases mark with
  | opening name => exact h
  | closing name =>
      obtain ⟨rest, rfl⟩ := h
      exact ⟨'>', rest, rfl, .inr rfl⟩
  | slotOpening =>
      obtain ⟨rest, rfl⟩ := h
      exact ⟨' ', "slot=\"".toList ++ rest, rfl, .inl rfl⟩
  | slotClosing =>
      obtain ⟨rest, rfl⟩ := h
      exact ⟨'>', rest, rfl, .inr rfl⟩

/-- Whether a character leaves a name of a mark open. -/
def continues (c : Char) : Bool :=
  c != ' ' && c != '>'

/-- The word of a mark is read off the characters that it begins. -/
theorem Begins.word_eq (valid : isMarkupName mark.name = true) (h : mark.Begins after) :
    mark.word = after.takeWhile continues := by
  obtain ⟨c, rest, rfl, hc⟩ := h.exists_end
  have inside : ∀ d ∈ mark.word, continues d = true := by
    intro d hd
    have noSpace : ' ' ∉ mark.name.toList := not_mem_of_isMarkupName valid (by decide)
    have noEnd : '>' ∉ mark.name.toList := not_mem_of_isMarkupName valid (by decide)
    have hname : d = '/' ∨ d ∈ mark.name.toList := by
      unfold word at hd
      split at hd
      · exact List.mem_cons.mp hd
      · exact .inr hd
    rcases hname with rfl | hname
    · decide
    · rw [continues, Bool.and_eq_true, bne_iff_ne, bne_iff_ne]
      exact ⟨fun h => noSpace (h ▸ hname), fun h => noEnd (h ▸ hname)⟩
  have outside : ¬continues c = true := by
    rcases hc with rfl | rfl <;> decide
  rw [List.takeWhile_append_of_pos inside, List.takeWhile_cons_of_neg outside, List.append_nil]

/-- A word says whether its mark closes, and the name. -/
theorem eq_of_word_eq (valid : isMarkupName mark.name = true)
    (valid' : isMarkupName mark'.name = true) (h : mark.word = mark'.word) :
    mark.isClosing = mark'.isClosing ∧ mark.name = mark'.name := by
  have noSlash : '/' ∉ mark.name.toList := not_mem_of_isMarkupName valid (by decide)
  have noSlash' : '/' ∉ mark'.name.toList := not_mem_of_isMarkupName valid' (by decide)
  unfold word at h
  cases hclosing : mark.isClosing <;> cases hclosing' : mark'.isClosing <;>
    simp only [hclosing, hclosing', if_true, Bool.false_eq_true, if_false] at h
  · exact ⟨rfl, String.toList_inj.mp h⟩
  · exact absurd (h ▸ List.mem_cons_self) noSlash
  · exact absurd (h ▸ List.mem_cons_self) noSlash'
  · exact ⟨rfl, String.toList_inj.mp (List.cons.inj h).2⟩

/-- Two marks that begin alike are of one kind and name. -/
theorem eq_of_begins (valid : isMarkupName mark.name = true)
    (valid' : isMarkupName mark'.name = true) (h : mark.Begins after) (h' : mark'.Begins after) :
    mark.isClosing = mark'.isClosing ∧ mark.name = mark'.name :=
  eq_of_word_eq valid valid' ((h.word_eq valid).trans (h'.word_eq valid').symm)

/-- The start of a slot may be taken for that of an element. -/
theorem begins_opening_template (h : slotOpening.Begins after) :
    (opening "template").Begins after := by
  obtain ⟨rest, rfl⟩ := h
  exact ⟨' ', "slot=\"".toList ++ rest, rfl, .inl rfl⟩

/-- The end of a slot may be taken for that of an element. -/
theorem begins_closing_template (h : slotClosing.Begins after) :
    (closing "template").Begins after := by
  obtain ⟨rest, rfl⟩ := h
  exact ⟨rest, rfl⟩

end Mark

/-- The mark that a part begins, if it is a tag. -/
def Part.mark? : Part → Option Mark
  | .text _ => none
  | .startTag name _ _ => some (.opening name)
  | .endTag name => some (.closing name)
  | .slotStart _ => some .slotOpening
  | .slotEnd => some .slotClosing

theorem isTag_of_mark? {part : Part} {mark : Mark} (h : part.mark? = some mark) :
    part.isTag = true := by
  cases part with
  | text value => cases h
  | startTag name attributes closed => rfl
  | endTag name => rfl
  | slotStart slot => rfl
  | slotEnd => rfl

/-! ### Marks that are let through -/

/-- An element that is declared under the name stands in the tree, and renders something. -/
def Renderer.Renders (r : Renderer ρ) (name : String) : Prop :=
  ∃ place ∈ r.tree.places,
    place.element.component = name ∧ place.element.renderable.isNull = false

/-- The marks of slots are let through, and those of elements that render something under their
declared name, which is a markup name and is registered or permitted. -/
def Renderer.Admits (r : Renderer ρ) : Mark → Prop
  | .opening name | .closing name =>
    isMarkupName name = true ∧ r.Renders name ∧
      ((∃ reference, r.registry.get? name = some reference) ∨ r.settings.Permits name)
  | .slotOpening | .slotClosing => True

theorem isMarkupName_of_admits {r : Renderer ρ} {mark : Mark} (h : r.Admits mark) :
    isMarkupName mark.name = true := by
  cases mark with
  | opening name => exact h.1
  | closing name => exact h.1
  | slotOpening => decide
  | slotClosing => decide

/-- Two marks that are let through and begin alike are of one kind and name. -/
theorem agree_of_admits {r : Renderer ρ} {mark mark' : Mark} {after : List Char}
    (h : r.Admits mark) (h' : r.Admits mark') (begins : mark.Begins after)
    (begins' : mark'.Begins after) :
    mark.isClosing = mark'.isClosing ∧ mark.name = mark'.name :=
  Mark.eq_of_begins (isMarkupName_of_admits h) (isMarkupName_of_admits h') begins begins'

/-- An element is written under its declared name, and only if it renders something. -/
theorem declared_of_writtenName? {scene : Scene ρ} {place : Place ρ}
    (follows : scene.FollowsPolicy place) {name : String}
    (written : place.element.renderable.writtenName? place.element.component = some name) :
    place.element.component = name ∧ place.element.renderable.isNull = false := by
  cases hrenderable : place.element.renderable with
  | null =>
      rw [hrenderable] at written
      cases written
  | component reference =>
      rw [hrenderable] at written
      exact ⟨Option.some.inj written, rfl⟩
  | tag tag =>
      rw [hrenderable] at written
      obtain rfl : tag = name := Option.some.inj written
      exact ⟨(follows.tag tag hrenderable).1.symm, rfl⟩

/-- The declared name of an element that renders something is registered or permitted. -/
theorem allowed_of_followsPolicy {scene : Scene ρ} {place : Place ρ}
    (follows : scene.FollowsPolicy place) (shown : place.element.renderable.isNull = false) :
    (∃ reference, scene.registry.get? place.element.component = some reference) ∨
      scene.settings.Permits place.element.component := by
  cases hrenderable : place.element.renderable with
  | null =>
      rw [hrenderable] at shown
      cases shown
  | component reference => exact .inl ⟨reference, follows.component reference hrenderable⟩
  | tag tag =>
      obtain ⟨rfl, -, -, permitted⟩ := follows.tag tag hrenderable
      exact .inr permitted

/-- The tags of an element that renders something are let through. -/
theorem admits_of_renders {r : Renderer ρ} (plain : r.hooks.Undecorated) {name : String}
    (valid : isMarkupName name = true) (renders : r.Renders name) :
    r.Admits (.opening name) ∧ r.Admits (.closing name) := by
  have allowed : (∃ reference, r.registry.get? name = some reference) ∨
      r.settings.Permits name := by
    obtain ⟨place, hplace, rfl, shown⟩ := renders
    exact allowed_of_followsPolicy (places_followPolicy r plain place hplace) shown
  exact ⟨⟨valid, renders, allowed⟩, ⟨valid, renders, allowed⟩⟩

/-- After the name in a start tag stands a space, before an attribute or a slash, or what ends the
tag. -/
theorem exists_body_startTag (name : String) (attributes : List (String × Option String))
    (closed : Bool) :
    ∃ c more, (Part.startTag name attributes closed).body = name.toList ++ c :: more ∧
      (c = ' ' ∨ c = '>') := by
  cases attributes with
  | nil =>
      cases closed with
      | true => exact ⟨' ', ['/', '>'], rfl, .inl rfl⟩
      | false => exact ⟨'>', [], rfl, .inr rfl⟩
  | cons a attributes =>
      obtain ⟨label, value⟩ := a
      cases value with
      | none => exact ⟨' ', _, rfl, .inl rfl⟩
      | some value => exact ⟨' ', _, rfl, .inl rfl⟩

/-- A tag in the markup of a tree is a mark that is let through. -/
theorem mark_of_isTag {r : Renderer ρ} (plain : r.hooks.Undecorated) {part : Part}
    (made : part.From r.tree.places) (tag : part.isTag = true) (rest : List Char) :
    ∃ mark, part.mark? = some mark ∧ mark.Begins (part.body ++ rest) ∧ r.Admits mark := by
  have renders : ∀ place ∈ r.tree.places, ∀ name,
      place.element.renderable.writtenName? place.element.component = some name →
      r.Renders name := fun place hplace name written =>
    ⟨place, hplace, declared_of_writtenName? (places_followPolicy r plain place hplace) written⟩
  cases made with
  | text value => cases tag
  | @startTag place hplace name written valid closed =>
      refine ⟨.opening name, rfl, ?_,
        (admits_of_renders plain valid (renders place hplace name written)).1⟩
      obtain ⟨c, more, hbody, hc⟩ :=
        exists_body_startTag name (shownAttributes place.element.props) closed
      refine ⟨c, more ++ rest, ?_, hc⟩
      rw [hbody, List.append_assoc, List.cons_append]
  | @endTag place hplace name written valid =>
      refine ⟨.closing name, rfl, ⟨rest, ?_⟩,
        (admits_of_renders plain valid (renders place hplace name written)).2⟩
      rw [Part.body, List.cons_append, List.append_assoc]
      rfl
  | slotStart slot =>
      refine ⟨.slotOpening, rfl, ⟨escapedValue slot ++ '"' :: '>' :: rest, ?_⟩, trivial⟩
      have opening : "template slot=\"".toList = slotOpening.tail ++ ['"'] := by decide
      rw [opening, Part.body]
      simp only [List.append_assoc, List.cons_append, List.nil_append]
  | slotEnd => exact ⟨.slotClosing, rfl, ⟨rest, rfl⟩, trivial⟩

/-! ### Marks that begin alike -/

/-- What comes after a less-than sign goes on as the tag of a slot, while an element that is
declared as a template renders something. -/
def Renderer.Ambiguous (r : Renderer ρ) (after : List Char) : Prop :=
  r.Renders "template" ∧ (Mark.slotOpening.Begins after ∨ Mark.slotClosing.Begins after)

/-- Two different marks that are let through begin alike just where a slot may be taken for an
element. -/
theorem ambiguous_iff {r : Renderer ρ} (plain : r.hooks.Undecorated) {after : List Char} :
    r.Ambiguous after ↔ ∃ mark mark', mark ≠ mark' ∧ (r.Admits mark ∧ mark.Begins after) ∧
      (r.Admits mark' ∧ mark'.Begins after) := by
  constructor
  · rintro ⟨renders, begins⟩
    obtain ⟨opening, closing⟩ := admits_of_renders plain (by decide) renders
    rcases begins with begins | begins
    · exact ⟨.slotOpening, .opening "template", nofun, ⟨trivial, begins⟩, opening,
        Mark.begins_opening_template begins⟩
    · exact ⟨.slotClosing, .closing "template", nofun, ⟨trivial, begins⟩, closing,
        Mark.begins_closing_template begins⟩
  · rintro ⟨mark, mark', different, ⟨h, begins⟩, h', begins'⟩
    obtain ⟨hclosing, hname⟩ := agree_of_admits h h' begins begins'
    -- marks of one kind and name differ only if one of them is a slot's
    match mark, mark', h, h', hclosing, hname with
    | .opening _, .opening _, _, _, _, rfl => exact absurd rfl different
    | .closing _, .closing _, _, _, _, rfl => exact absurd rfl different
    | .slotOpening, .slotOpening, _, _, _, _ => exact absurd rfl different
    | .slotClosing, .slotClosing, _, _, _, _ => exact absurd rfl different
    | .opening _, .slotOpening, ⟨_, renders, _⟩, _, _, rfl => exact ⟨renders, .inl begins'⟩
    | .closing _, .slotClosing, ⟨_, renders, _⟩, _, _, rfl => exact ⟨renders, .inr begins'⟩
    | .slotOpening, .opening _, _, ⟨_, renders, _⟩, _, rfl => exact ⟨renders, .inl begins⟩
    | .slotClosing, .closing _, _, ⟨_, renders, _⟩, _, rfl => exact ⟨renders, .inr begins⟩

/-! ### Whole renders -/

theorem toList_markup (i : Instance ρ) : i.markup.toList = i.parts.flatMap Part.chars := by
  rw [Instance.markup, String.toList_ofList, write_eq, List.append_nil]

section LessThan

variable {r : Renderer ρ} {before after : List Char}

/-- A less-than sign in the markup of a tree begins exactly one of its parts, which is a tag and a
mark that is let through. -/
theorem existsUnique_front (plain : r.hooks.Undecorated)
    (h : r.tree.markup.toList = before ++ '<' :: after) :
    ∃! front, ∃ part mark back, r.tree.parts = front ++ part :: back ∧
      before = front.flatMap Part.chars ∧ part.mark? = some mark ∧ mark.Begins after ∧
      r.Admits mark := by
  have made : ∀ part ∈ r.tree.parts, part.From r.tree.places := from_of_mem_parts r.tree 1 ""
  rw [toList_markup] at h
  obtain ⟨front, part, back, hparts, hbefore, tag, hafter⟩ :=
    exists_split_of_lessThan (fun part hpart => lessThan_not_mem_body (made part hpart)) h
  have hpart : part ∈ r.tree.parts := hparts ▸ List.mem_append_right front List.mem_cons_self
  obtain ⟨mark, hmark, hbegins, admitted⟩ :=
    mark_of_isTag plain (made part hpart) tag (back.flatMap Part.chars)
  refine ⟨front, ⟨part, mark, back, hparts, hbefore, hmark, hafter ▸ hbegins, admitted⟩, ?_⟩
  rintro front' ⟨part', mark', back', hparts', hbefore', hmark', -, -⟩
  exact split_unique (isTag_of_mark? hmark') tag (hbefore'.symm.trans hbefore)
    (hparts'.symm.trans hparts)

/-- A less-than sign begins exactly one mark that is let through, unless a slot may be taken for an
element there. -/
theorem existsUnique_mark_iff (plain : r.hooks.Undecorated)
    (h : r.tree.markup.toList = before ++ '<' :: after) :
    (∃! mark, r.Admits mark ∧ mark.Begins after) ↔ ¬r.Ambiguous after := by
  obtain ⟨front, ⟨part, mark, back, -, -, -, begins, admitted⟩, -⟩ := existsUnique_front plain h
  constructor
  · rintro ⟨only, -, unique⟩ ambiguous
    obtain ⟨one, other, different, hone, hother⟩ := (ambiguous_iff plain).mp ambiguous
    exact different ((unique one hone).trans (unique other hother).symm)
  · intro unambiguous
    refine ⟨mark, ⟨admitted, begins⟩, fun other hother => ?_⟩
    refine Decidable.byContradiction fun different => ?_
    exact unambiguous
      ((ambiguous_iff plain).mpr ⟨other, mark, different, hother, admitted, begins⟩)

end LessThan

/-- What keeps the markup of a document to the tags that it may have. -/
structure Renderer.SealedMarkup (r : Renderer ρ) : Prop where
  /-- The markup is its parts. -/
  parts : r.tree.markup.toList = r.tree.parts.flatMap Part.chars
  /-- Every less-than sign begins exactly one of the parts, which is a tag and a mark that is let
  through. -/
  begins : ∀ before after, r.tree.markup.toList = before ++ '<' :: after →
    ∃! front, ∃ part mark back, r.tree.parts = front ++ part :: back ∧
      before = front.flatMap Part.chars ∧ part.mark? = some mark ∧ mark.Begins after ∧
      r.Admits mark
  /-- Two marks that are let through and begin alike both open or both close, and have the same
  name. -/
  agree : ∀ after mark mark', r.Admits mark → r.Admits mark' → mark.Begins after →
    mark'.Begins after → mark.isClosing = mark'.isClosing ∧ mark.name = mark'.name
  /-- A less-than sign begins exactly one mark that is let through, except where the tag of a slot
  may be that of an element: slots are written under a name that elements may have. -/
  single : ∀ before after, r.tree.markup.toList = before ++ '<' :: after →
    ((∃! mark, r.Admits mark ∧ mark.Begins after) ↔ ¬r.Ambiguous after)
  /-- A text brings in no less-than sign. -/
  texts : ∀ value, Part.text value ∈ r.tree.parts → '<' ∉ escapedText value
  /-- Neither the name of an attribute nor its value brings in a less-than sign, and the value
  brings in no double quote. -/
  attributes : ∀ name attributes closed, Part.startTag name attributes closed ∈ r.tree.parts →
    ∀ a ∈ attributes,
      '<' ∉ attributeChars a ∧ ∀ value, a.2 = some value → '"' ∉ escapedValue value
  /-- The name of a slot brings in neither. -/
  slots : ∀ slot, Part.slotStart slot ∈ r.tree.parts →
    '<' ∉ escapedValue slot ∧ '"' ∉ escapedValue slot
  /-- Keys bring in nothing. -/
  keys : ∀ f, (r.tree.rekey f).markup = r.tree.markup

/-- **No document brings in a tag.** Whatever the document, the registry, the options and the
format hook are, as long as no decorator replaces what was built: each less-than sign in the markup
of a render begins one tag, that of a slot or of an element whose declared name is registered or
permitted, and texts, props, slot names and keys bring in none. Which of the two it is can be told
from the characters of the tag, unless an element has the name that slots are written under. -/
theorem sealedMarkup_of_undecorated (r : Renderer ρ) (plain : r.hooks.Undecorated) :
    r.SealedMarkup := by
  have made : ∀ part ∈ r.tree.parts, part.From r.tree.places := from_of_mem_parts r.tree 1 ""
  refine
    { parts := toList_markup r.tree
      begins := fun _ _ => existsUnique_front plain
      agree := fun _ _ _ => agree_of_admits
      single := fun _ _ => existsUnique_mark_iff plain
      texts := fun value _ => lessThan_not_mem_escapedText value
      attributes := fun name attributes closed hpart a ha => ?_
      slots := fun slot _ =>
        ⟨lessThan_not_mem_escapedValue slot, quote_not_mem_escapedValue slot⟩
      keys := fun f => ?_ }
  · cases made _ hpart with
    | startTag _ _ _ _ =>
        exact ⟨lessThan_not_mem_attributeChars (isMarkupName_of_mem_shownAttributes ha),
          fun value _ => quote_not_mem_escapedValue value⟩
  · rw [← String.toList_inj, toList_markup, toList_markup, parts_rekey]

/-- Hostile names, values, slots and texts, with every name permitted. -/
theorem sealedMarkup_of_undecorated_hostile :
    let r : Renderer String :=
      { registry := .ofEntries .preserve []
        settings := { allowAllElements := true }
        hooks := .none
        roots := [.element
          { component := "div"
            key := some "<k>"
            props := [("a<b", .string "x"), ("title", .string "\"><i>")]
            slots := [("s\"<", .text "<u>")]
            children := some (.nodes [.element { component := "script><b" }, .text "<b>"]) }] }
    r.hooks.Undecorated ∧
      r.tree.markup = "<div title=\"&quot;&gt;&lt;i&gt;\"><template slot=\"s&quot;&lt;\">"
        ++ "&lt;u&gt;</template>&lt;b&gt;</div>" ∧
      r.SealedMarkup :=
  ⟨Hooks.undecorated_none, by decide, sealedMarkup_of_undecorated _ Hooks.undecorated_none⟩

/-- The end tag of an element that is declared as a template is that of a slot as well, so that it
is not one mark only that begins at its less-than sign. -/
theorem not_existsUnique_mark_template :
    let r : Renderer String :=
      { registry := .ofEntries .preserve []
        settings := { allowUnsecureHtmlElement := true }
        hooks := .none
        roots := [.element { component := "template", key := some "a" }] }
    r.hooks.Undecorated ∧
      r.tree.markup = "<template></template>" ∧
      (r.Admits (.closing "template") ∧ (Mark.closing "template").Begins "/template>".toList) ∧
      (r.Admits .slotClosing ∧ Mark.slotClosing.Begins "/template>".toList) ∧
      ¬∀ before after, r.tree.markup.toList = before ++ '<' :: after →
        ∃! mark, r.Admits mark ∧ mark.Begins after := by
  intro r
  have markup : r.tree.markup = "<template></template>" := by decide
  have renders : r.Renders "template" := by
    unfold Renderer.Renders
    decide
  have permitted : r.settings.Permits "template" := by decide
  have element : r.Admits (.closing "template") ∧
      (Mark.closing "template").Begins "/template>".toList :=
    ⟨⟨by decide, renders, .inr permitted⟩, [], rfl⟩
  have slot : r.Admits .slotClosing ∧ Mark.slotClosing.Begins "/template>".toList :=
    ⟨trivial, [], rfl⟩
  refine ⟨Hooks.undecorated_none, markup, element, slot, fun exactlyOne => ?_⟩
  obtain ⟨mark, -, unique⟩ :=
    exactlyOne "<template>".toList "/template>".toList (congrArg String.toList markup)
  cases (unique _ element).trans (unique _ slot).symm

end ComponentTree
