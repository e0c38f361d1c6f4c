import ComponentTree.Proofs.Markup.Parts

/-!
Reading markup back. `Instance.visibleForest` is what a list of instances shows: names, attributes
and texts, without what renders nothing. `Markup.read` reads markup one character at a time, and
knows nothing of how it was written.

* `Visible.merged` — siblings with adjacent texts merged and empty texts removed.
* `Reader.step` — one character, in one of the modes that a reader of markup can be in.
* `run_writeText`, `run_writeQuoted`, `run_attributes` — the reader undoes each escape and
  collects each name.
* `run_write` — reading what was written for an instance adds what the instance shows.
* `read_listMarkup` — the markup of a list of instances reads back as what the list shows.
-/

namespace ComponentTree

variable {ρ : Type}

/-! ### What instances show -/

/-- A tree as markup shows it. A bare attribute has no value. -/
inductive Visible where
  | text (value : String)
  | element (name : String) (attributes : List (String × Option String)) (children : List Visible)

namespace Visible

/-- A tree in front of its siblings. A text joins a text that follows, and an empty one is gone. -/
def join : Visible → List Visible → List Visible
  | .text value, rest =>
    if value.isEmpty then rest
    else
      match rest with
      | .text next :: rest => .text (value ++ next) :: rest
      | rest => .text value :: rest
  | tree, rest => tree :: rest

/-- Siblings with adjacent texts merged and empty texts removed. -/
def merged (list : List Visible) : List Visible :=
  list.foldr join []

end Visible

mutual

/-- What an instance shows. -/
def Instance.visible : Instance ρ → List Visible
  | .text value => [.text value]
  | .fragment children => Instance.visibleList children
  | .element { component, renderable, props, slots, children, .. } =>
    match renderable.writtenName? component with
    | none => []
    | some name =>
      if isMarkupName name then
        [.element name (shownAttributes props)
          (Visible.merged (Instance.visibleSlots slots ++ Instance.visibleList children))]
      else []

/-- What instances show, one after another. -/
def Instance.visibleList : List (Instance ρ) → List Visible
  | [] => []
  | child :: rest => child.visible ++ Instance.visibleList rest

/-- What slots show: a `template` element each, with the name of the slot. -/
def Instance.visibleSlots : List (String × List (Instance ρ)) → List Visible
  | [] => []
  | (name, instances) :: rest =>
    .element "template" [("slot", some name)] (Visible.merged (Instance.visibleList instances))
      :: Instance.visibleSlots rest

end

/-- What a list of siblings shows. -/
def Instance.visibleForest (list : List (Instance ρ)) : List Visible :=
  Visible.merged (Instance.visibleList list)

/-! ### A reader of markup -/

/-- A start tag, as far as it has been read. -/
structure StartTag where
  name : String
  attributes : List (String × Option String) := []

/-- More attributes at the end. -/
def StartTag.extend (tag : StartTag) (attributes : List (String × Option String)) : StartTag :=
  { tag with attributes := tag.attributes ++ attributes }

@[simp] theorem StartTag.extend_nil (tag : StartTag) : tag.extend [] = tag := by
  rw [extend, List.append_nil]

@[simp] theorem StartTag.extend_extend (tag : StartTag)
    (attributes more : List (String × Option String)) :
    (tag.extend attributes).extend more = tag.extend (attributes ++ more) := by
  simp only [extend, List.append_assoc]

/-- Where in markup a reader is. Letters are those read so far, in their order. -/
inductive ReadMode where
  /-- Between tags. -/
  | content
  /-- Between tags, after an ampersand. -/
  | reference (letters : List Char)
  /-- After a less-than sign. -/
  | tagOpen
  | startName (letters : List Char)
  | endName (letters : List Char)
  /-- In a start tag, after a space. -/
  | gap (tag : StartTag)
  | attributeName (tag : StartTag) (letters : List Char)
  /-- In a start tag, after an equals sign. -/
  | valueStart (tag : StartTag) (name : String)
  | value (tag : StartTag) (name : String) (letters : List Char)
  /-- In the value of an attribute, after an ampersand. -/
  | valueReference (tag : StartTag) (name : String) (before letters : List Char)
  /-- In a start tag, after the closing quote of a value. -/
  | valueEnd (tag : StartTag)
  /-- In a start tag, after a slash. -/
  | selfClosing (tag : StartTag)

/-- A reader of markup. `above` holds the open elements, the innermost first, each with the siblings
before it. Texts are kept character by character until an element ends. -/
structure Reader where
  mode : ReadMode := .content
  above : List (StartTag × List Visible) := []
  siblings : List Visible := []

/-- The character that a reference stands for. -/
def referenced (letters : List Char) : Option Char :=
  if letters = ['a', 'm', 'p'] then some '&'
  else if letters = ['l', 't'] then some '<'
  else if letters = ['g', 't'] then some '>'
  else if letters = ['q', 'u', 'o', 't'] then some '"'
  else none

namespace Reader

/-- Adds a sibling; what follows is content. -/
def add (r : Reader) (tree : Visible) : Reader :=
  { r with mode := .content, siblings := r.siblings ++ [tree] }

/-- Opens an element. -/
def enter (r : Reader) (tag : StartTag) : Reader where
  above := (tag, r.siblings) :: r.above

/-- Closes the innermost element, which must have the given name. -/
def leave (r : Reader) (name : String) : Option Reader :=
  match r.above with
  | [] => none
  | (tag, before) :: above =>
    if tag.name = name then
      let element := .element name tag.attributes (Visible.merged r.siblings)
      some { above, siblings := before ++ [element] }
    else none

/-- What may follow a name or a value in a start tag. -/
def afterPart (r : Reader) (tag : StartTag) (c : Char) : Option Reader :=
  if c = ' ' then some { r with mode := .gap tag }
  else if c = '>' then some (r.enter tag)
  else none

/-- Reads one character. -/
def step (r : Reader) (c : Char) : Option Reader :=
  match r.mode with
  | .content =>
    if c = '<' then some { r with mode := .tagOpen }
    else if c = '&' then some { r with mode := .reference [] }
    else some (r.add (.text (String.singleton c)))
  | .reference letters =>
    if c = ';' then (referenced letters).map fun d => r.add (.text (String.singleton d))
    else some { r with mode := .reference (letters ++ [c]) }
  | .tagOpen =>
    if c = '/' then some { r with mode := .endName [] }
    else if c.isAlpha then some { r with mode := .startName [c] }
    else none
  | .startName letters =>
    if isMarkupNameChar c then some { r with mode := .startName (letters ++ [c]) }
    else r.afterPart { name := String.ofList letters } c
  | .endName letters =>
    if c = '>' then r.leave (String.ofList letters)
    else some { r with mode := .endName (letters ++ [c]) }
  | .gap tag =>
    if c = '/' then some { r with mode := .selfClosing tag }
    else if c.isAlpha then some { r with mode := .attributeName tag [c] }
    else none
  | .attributeName tag letters =>
    if isMarkupNameChar c then some { r with mode := .attributeName tag (letters ++ [c]) }
    else if c = '=' then some { r with mode := .valueStart tag (String.ofList letters) }
    else r.afterPart (tag.extend [(String.ofList letters, none)]) c
  | .valueStart tag name =>
    if c = '"' then some { r with mode := .value tag name [] } else none
  | .value tag name letters =>
    if c = '"' then
      some { r with mode := .valueEnd (tag.extend [(name, some (String.ofList letters))]) }
    else if c = '&' then some { r with mode := .valueReference tag name letters [] }
    else some { r with mode := .value tag name (letters ++ [c]) }
  | .valueReference tag name before letters =>
    if c = ';' then
      (referenced letters).map fun d => { r with mode := .value tag name (before ++ [d]) }
    else some { r with mode := .valueReference tag name before (letters ++ [c]) }
  | .valueEnd tag => r.afterPart tag c
  | .selfClosing tag =>
    if c = '>' then some (r.add (.element tag.name tag.attributes [])) else none

/-- Reads characters one after another. -/
def run (r : Reader) : List Char → Option Reader
  | [] => some r
  | c :: rest => (r.step c).bind fun next => next.run rest

end Reader

/-- Reads markup. There is no result unless every element is closed at the end. -/
def Markup.read (markup : String) : Option (List Visible) :=
  match Reader.run {} markup.toList with
  | some ⟨.content, [], siblings⟩ => some (Visible.merged siblings)
  | _ => none

/-! ### Texts in pieces

The reader keeps a text as one text per character. Merging does not see the difference. -/

namespace Visible

/-- A text as one text per character; an element as it is. -/
def spelled : Visible → List Visible
  | .text value => value.toList.map fun c => .text (String.singleton c)
  | tree => [tree]

@[simp] theorem spelled_text (value : String) :
    (text value).spelled = value.toList.map fun c => .text (String.singleton c) := rfl

@[simp] theorem spelled_element (name : String) (attributes : List (String × Option String))
    (children : List Visible) :
    (element name attributes children).spelled = [.element name attributes children] := rfl

@[simp] theorem merged_nil : merged [] = [] := rfl

/-- A character in front of a text is a longer text. -/
theorem join_singleton (c : Char) (letters : List Char) (rest : List Visible) :
    join (.text (String.singleton c)) (join (.text (String.ofList letters)) rest)
      = join (.text (String.ofList (c :: letters))) rest := by
  have split : String.ofList (c :: letters) = String.singleton c ++ String.ofList letters := by
    rw [String.singleton_eq_ofList, ← String.ofList_append]
    rfl
  rw [split]
  cases letters with
  | nil => simp [join]
  | cons d letters =>
      cases rest with
      | nil => simp [join]
      | cons tree rest => cases tree <;> simp [join, String.append_assoc]

theorem foldr_join_spelled (tree : Visible) (rest : List Visible) :
    tree.spelled.foldr join rest = join tree rest := by
  cases tree with
  | element name attributes children => rfl
  | text value =>
      rw [← String.ofList_toList (s := value)]
      generalize value.toList = letters
      rw [spelled, String.toList_ofList]
      induction letters with
      | nil => rfl
      | cons c letters ih => rw [List.map_cons, List.foldr_cons, ih, join_singleton]

/-- Spelling texts out does not change what siblings merge to. -/
theorem merged_spelled (list : List Visible) : merged (list.flatMap spelled) = merged list := by
  induction list with
  | nil => rfl
  | cons tree rest ih =>
      rw [List.flatMap_cons, merged, List.foldr_append]
      exact (foldr_join_spelled tree _).trans (congrArg (join tree) ih)

end Visible

/-! ### Reading what was written -/

namespace Reader

variable {above : List (StartTag × List Visible)} {siblings : List Visible} {rest : List Char}

theorem run_cons {r next : Reader} {c : Char} (h : r.step c = some next) :
    r.run (c :: rest) = next.run rest := by
  rw [run, h]
  rfl

/-- An escaped character of a text reads as that character. -/
theorem run_escapeTextChar (c : Char) :
    run ⟨.content, above, siblings⟩ (escapeTextChar c ++ rest)
      = run ⟨.content, above, siblings ++ [.text (String.singleton c)]⟩ rest := by
  unfold escapeTextChar
  split
  · next h => subst h; rfl
  · split
    · next h => subst h; rfl
    · split
      · next h => subst h; rfl
      · next hamp hlt hgt =>
          refine run_cons ?_
          simp only [step, if_neg hamp, if_neg hlt]
          rfl

theorem run_writeText (s : String) :
    run ⟨.content, above, siblings⟩ (writeText s rest)
      = run ⟨.content, above, siblings ++ (Visible.text s).spelled⟩ rest := by
  rw [writeText, Visible.spelled_text]
  generalize s.toList = letters
  induction letters generalizing siblings with
  | nil => rw [List.foldr_nil, List.map_nil, List.append_nil]
  | cons c letters ih =>
      rw [List.foldr_cons, run_escapeTextChar, ih, List.append_assoc, List.map_cons]
      rfl

/-- An escaped character of an attribute value reads as that character. -/
theorem run_escapeAttributeChar {tag : StartTag} {name : String} {letters : List Char} (c : Char) :
    run ⟨.value tag name letters, above, siblings⟩ (escapeAttributeChar c ++ rest)
      = run ⟨.value tag name (letters ++ [c]), above, siblings⟩ rest := by
  unfold escapeAttributeChar escapeTextChar
  split
  · next h => subst h; rfl
  · split
    · next h => subst h; rfl
    · split
      · next h => subst h; rfl
      · split
        · next h => subst h; rfl
        · next hquote hamp hlt hgt =>
            refine run_cons ?_
            simp only [step, if_neg hquote, if_neg hamp]

/-- A quoted value is added to its tag as it was. -/
theorem run_writeQuoted {tag : StartTag} {name : String} (s : String) :
    run ⟨.valueStart tag name, above, siblings⟩ (writeQuoted s rest)
      = run ⟨.valueEnd (tag.extend [(name, some s)]), above, siblings⟩ rest := by
  have value : ∀ letters before : List Char,
      run ⟨.value tag name before, above, siblings⟩
          (letters.foldr (fun c tail => escapeAttributeChar c ++ tail) ('"' :: rest))
        = run ⟨.valueEnd (tag.extend [(name, some (String.ofList (before ++ letters)))]), above,
            siblings⟩ rest := by
    intro letters
    induction letters with
    | nil =>
        intro before
        rw [List.append_nil]
        exact run_cons rfl
    | cons c letters ih =>
        intro before
        rw [List.foldr_cons, run_escapeAttributeChar, ih, List.append_assoc]
        rfl
  refine (run_cons rfl).trans ((value s.toList []).trans ?_)
  rw [List.nil_append, String.ofList_toList]

/-- A reader is past a part of a start tag: what comes next decides about the tag as a whole. -/
def Past (mode : ReadMode) (tag : StartTag) : Prop :=
  ∀ above siblings c, c = ' ' ∨ c = '>' →
    step ⟨mode, above, siblings⟩ c = afterPart ⟨mode, above, siblings⟩ tag c

theorem not_isMarkupNameChar {c : Char} (h : c = ' ' ∨ c = '>') : isMarkupNameChar c = false := by
  rcases h with rfl | rfl <;> decide

theorem past_startName (letters : List Char) :
    Past (.startName letters) { name := String.ofList letters } := by
  intro above siblings c h
  simp only [step, not_isMarkupNameChar h]
  rfl

theorem past_attributeName (tag : StartTag) (letters : List Char) :
    Past (.attributeName tag letters) (tag.extend [(String.ofList letters, none)]) := by
  intro above siblings c h
  have notEquals : c ≠ '=' := by rcases h with rfl | rfl <;> decide
  simp only [step, not_isMarkupNameChar h, if_neg notEquals]
  rfl

theorem past_valueEnd (tag : StartTag) : Past (.valueEnd tag) tag :=
  fun _ _ _ _ => rfl

/-- A name is collected letter by letter, in a mode that takes its first letter from `start` and
then whatever may follow in a name. -/
theorem run_name {start : ReadMode} {m : List Char → ReadMode}
    (first : ∀ c, c.isAlpha = true →
      step ⟨start, above, siblings⟩ c = some ⟨m [c], above, siblings⟩)
    (next : ∀ letters c, isMarkupNameChar c = true →
      step ⟨m letters, above, siblings⟩ c = some ⟨m (letters ++ [c]), above, siblings⟩)
    {name : String} (h : isMarkupName name = true) :
    run ⟨start, above, siblings⟩ (name.toList ++ rest)
      = run ⟨m name.toList, above, siblings⟩ rest := by
  have collect : ∀ more letters : List Char, (∀ c ∈ more, isMarkupNameChar c = true) →
      run ⟨m letters, above, siblings⟩ (more ++ rest)
        = run ⟨m (letters ++ more), above, siblings⟩ rest := by
    intro more
    induction more with
    | nil =>
        intro letters _
        rw [List.nil_append, List.append_nil]
    | cons c more ih =>
        intro letters hmore
        obtain ⟨hc, hmore⟩ := List.forall_mem_cons.mp hmore
        rw [List.cons_append, run_cons (next letters c hc), ih _ hmore, List.append_assoc]
        rfl
  obtain ⟨c, more, hname, hc, hmore⟩ := exists_of_isMarkupName h
  rw [hname, List.cons_append, run_cons (first c hc), collect more [c] hmore]
  rfl

theorem run_startName {name : String} (h : isMarkupName name = true) :
    run ⟨.tagOpen, above, siblings⟩ (name.toList ++ rest)
      = run ⟨.startName name.toList, above, siblings⟩ rest := by
  refine run_name (fun c hc => ?_) (fun letters c hc => ?_) h
  · have notSlash : c ≠ '/' := by rintro rfl; exact absurd hc (by decide)
    simp only [step, if_neg notSlash, hc, if_true]
  · simp only [step, hc, if_true]

theorem run_attributeName {tag : StartTag} {name : String} (h : isMarkupName name = true) :
    run ⟨.gap tag, above, siblings⟩ (name.toList ++ rest)
      = run ⟨.attributeName tag name.toList, above, siblings⟩ rest := by
  refine run_name (fun c hc => ?_) (fun letters c hc => ?_) h
  · have notSlash : c ≠ '/' := by rintro rfl; exact absurd hc (by decide)
    simp only [step, if_neg notSlash, hc, if_true]
  · simp only [step, hc, if_true]

theorem run_endName {name : String} (h : isMarkupName name = true) :
    run ⟨.endName [], above, siblings⟩ (name.toList ++ rest)
      = run ⟨.endName name.toList, above, siblings⟩ rest := by
  refine run_name (fun c hc => ?_) (fun letters c hc => ?_) h
  · have notEnd : c ≠ '>' := by rintro rfl; exact absurd hc (by decide)
    simp only [step, if_neg notEnd]
    rfl
  · have notEnd : c ≠ '>' := by rintro rfl; exact absurd hc (by decide)
    simp only [step, if_neg notEnd]

/-! ### Tags -/

/-- An attribute is added to its tag. -/
theorem run_attributeChars {mode : ReadMode} {tag : StartTag} (past : Past mode tag)
    (a : String × Option String) (valid : isMarkupName a.1 = true) :
    ∃ mode', Past mode' (tag.extend [a]) ∧
      ∀ above siblings rest, run ⟨mode, above, siblings⟩ (attributeChars a ++ rest)
        = run ⟨mode', above, siblings⟩ rest := by
  obtain ⟨name, value⟩ := a
  have space : ∀ above siblings rest, run ⟨mode, above, siblings⟩ (' ' :: (name.toList ++ rest))
      = run ⟨.attributeName tag name.toList, above, siblings⟩ rest := by
    intro above siblings rest
    rw [run_cons (past above siblings ' ' (.inl rfl)), run_attributeName valid]
  cases value with
  | none =>
      refine ⟨.attributeName tag name.toList, ?_, space⟩
      have past' := past_attributeName tag name.toList
      rwa [String.ofList_toList] at past'
  | some value =>
      refine ⟨.valueEnd (tag.extend [(name, some value)]), past_valueEnd _, ?_⟩
      intro above siblings rest
      have written : attributeChars (name, some value) ++ rest
          = ' ' :: (name.toList ++ '=' :: writeQuoted value rest) := by
        rw [writeQuoted_eq]
        simp [attributeChars]
      rw [written, space]
      refine (run_cons rfl).trans ?_
      rw [String.ofList_toList]
      exact run_writeQuoted value

/-- Attributes are added to their tag, in order. -/
theorem run_attributes {mode : ReadMode} {tag : StartTag} (past : Past mode tag)
    {attributes : List (String × Option String)}
    (valid : ∀ a ∈ attributes, isMarkupName a.1 = true) :
    ∃ mode', Past mode' (tag.extend attributes) ∧
      ∀ above siblings rest,
        run ⟨mode, above, siblings⟩ (attributes.flatMap attributeChars ++ rest)
          = run ⟨mode', above, siblings⟩ rest := by
  induction attributes generalizing mode tag with
  | nil => exact ⟨mode, by rwa [StartTag.extend_nil], fun _ _ _ => rfl⟩
  | cons a attributes ih =>
      obtain ⟨validHere, validRest⟩ := List.forall_mem_cons.mp valid
      obtain ⟨mode₁, past₁, run₁⟩ := run_attributeChars past a validHere
      obtain ⟨mode₂, past₂, run₂⟩ := ih past₁ validRest
      refine ⟨mode₂, ?_, ?_⟩
      · rwa [StartTag.extend_extend] at past₂
      · intro above siblings rest
        rw [List.flatMap_cons, List.append_assoc, run₁, run₂]

/-- A start tag, up to what closes it. -/
theorem run_startTag {name : String} (h : isMarkupName name = true) (props : Fields Json) :
    ∃ mode, Past mode ⟨name, shownAttributes props⟩ ∧
      ∀ above siblings rest,
        run ⟨.content, above, siblings⟩ ('<' :: (name.toList ++ writeAttributes props rest))
          = run ⟨mode, above, siblings⟩ rest := by
  obtain ⟨mode, past, collect⟩ := run_attributes (past_startName name.toList)
    fun (a : String × Option String) (ha : a ∈ shownAttributes props) =>
      isMarkupName_of_mem_shownAttributes ha
  rw [String.ofList_toList] at past
  refine ⟨mode, past, fun above siblings rest => ?_⟩
  rw [writeAttributes_eq, ← collect above siblings rest, ← run_startName h]
  exact run_cons rfl

/-- A start tag that ends as such opens its element. -/
theorem run_opened {mode : ReadMode} {tag : StartTag} (past : Past mode tag) :
    run ⟨mode, above, siblings⟩ ('>' :: rest)
      = run ⟨.content, (tag, siblings) :: above, []⟩ rest :=
  run_cons (past above siblings '>' (.inr rfl))

/-- A start tag that closes itself is an element without children. -/
theorem run_selfClosing {mode : ReadMode} {tag : StartTag} (past : Past mode tag) :
    run ⟨mode, above, siblings⟩ (' ' :: '/' :: '>' :: rest)
      = run ⟨.content, above, siblings ++ [.element tag.name tag.attributes []]⟩ rest := by
  refine (run_cons (past above siblings ' ' (.inl rfl))).trans ?_
  exact (run_cons rfl).trans (run_cons rfl)

/-- An end tag closes the innermost element, if it has its name. -/
theorem run_endTag {tag : StartTag} (h : isMarkupName tag.name = true) (before : List Visible) :
    run ⟨.content, (tag, before) :: above, siblings⟩
        ('<' :: '/' :: (tag.name.toList ++ '>' :: rest))
      = run ⟨.content, above,
          before ++ [.element tag.name tag.attributes (Visible.merged siblings)]⟩ rest := by
  refine (run_cons rfl).trans ((run_cons rfl).trans ?_)
  rw [run_endName h]
  refine run_cons ?_
  simp only [step, if_true, String.ofList_toList, leave]

/-- A slot opens as an element whose only attribute is the name of the slot. -/
theorem run_slotOpening (slot : String) :
    run ⟨.content, above, siblings⟩ (slotOpening ++ writeQuoted slot ('>' :: rest))
      = run ⟨.content, (⟨"template", [("slot", some slot)]⟩, siblings) :: above, []⟩ rest := by
  have start : run ⟨.content, above, siblings⟩ (slotOpening ++ writeQuoted slot ('>' :: rest))
      = run ⟨.valueStart ⟨"template", []⟩ "slot", above, siblings⟩ (writeQuoted slot ('>' :: rest))
    := rfl
  rw [start, run_writeQuoted]
  exact run_cons rfl

/-! ### Instances -/

/-- Reading what was written for an instance adds what the instance shows. -/
def Reads (i : Instance ρ) : Prop :=
  ∀ above siblings rest, run ⟨.content, above, siblings⟩ (i.write rest)
    = run ⟨.content, above, siblings ++ i.visible.flatMap Visible.spelled⟩ rest

/-- A slot closes as that element does. -/
theorem run_slotClosing (slot : String) (before : List Visible) :
    run ⟨.content, (⟨"template", [("slot", some slot)]⟩, before) :: above, siblings⟩
        (slotClosing ++ rest)
      = run ⟨.content, above,
          before ++ [.element "template" [("slot", some slot)] (Visible.merged siblings)]⟩
          rest := by
  have closing : slotClosing ++ rest = '<' :: '/' :: ("template".toList ++ '>' :: rest) := rfl
  rw [closing]
  exact @run_endTag _ _ _ ⟨"template", _⟩ (show isMarkupName "template" = true by decide) before

theorem run_writeList {list : List (Instance ρ)} (each : ∀ child ∈ list, Reads child) :
    ∀ above siblings rest, run ⟨.content, above, siblings⟩ (Instance.writeList list rest)
      = run ⟨.content, above, siblings ++ (Instance.visibleList list).flatMap Visible.spelled⟩
          rest := by
  induction list with
  | nil =>
      intro above siblings rest
      rw [Instance.visibleList, List.flatMap_nil, List.append_nil, Instance.writeList]
  | cons child list ih =>
      intro above siblings rest
      obtain ⟨first, others⟩ := List.forall_mem_cons.mp each
      rw [Instance.writeList, first, ih others, Instance.visibleList, List.flatMap_append,
        List.append_assoc]

theorem run_writeSlots {slots : List (String × List (Instance ρ))}
    (each : ∀ slot ∈ slots, ∀ child ∈ slot.2, Reads child) :
    ∀ above siblings rest, run ⟨.content, above, siblings⟩ (Instance.writeSlots slots rest)
      = run ⟨.content, above, siblings ++ (Instance.visibleSlots slots).flatMap Visible.spelled⟩
          rest := by
  induction slots with
  | nil =>
      intro above siblings rest
      rw [Instance.visibleSlots, List.flatMap_nil, List.append_nil, Instance.writeSlots]
  | cons slot slots ih =>
      intro above siblings rest
      obtain ⟨name, instances⟩ := slot
      obtain ⟨first, others⟩ := List.forall_mem_cons.mp each
      rw [Instance.writeSlots, run_slotOpening, run_writeList first, run_slotClosing,
        List.nil_append, Visible.merged_spelled, ih others, Instance.visibleSlots,
        List.flatMap_cons, Visible.spelled_element, List.append_assoc]

/-- **Reading undoes writing.** -/
theorem run_write (i : Instance ρ) : Reads i := by
  induction i using Instance.induct with
  | text value =>
      intro above siblings rest
      rw [Instance.write, Instance.visible, run_writeText, List.flatMap_singleton]
  | fragment children ih =>
      intro above siblings rest
      rw [Instance.write, Instance.visible]
      exact run_writeList ih above siblings rest
  | element e slots children =>
      intro above siblings rest
      obtain ⟨component, renderable, key, props, slotLists, childList⟩ := e
      rw [Instance.write, Instance.visible]
      cases renderable.writtenName? component with
      | none => rw [List.flatMap_nil, List.append_nil]
      | some name =>
          by_cases h : isMarkupName name = true
          · obtain ⟨mode, past, start⟩ := run_startTag h props
            simp only [h, if_true, List.flatMap_singleton, Visible.spelled_element]
            rw [start]
            split
            · next hvoid =>
              rw [Bool.and_eq_true, Bool.and_eq_true, List.isEmpty_iff, List.isEmpty_iff] at hvoid
              obtain ⟨⟨-, hchildren⟩, hslots⟩ := hvoid
              rw [run_selfClosing past, hchildren, hslots, Instance.visibleSlots,
                Instance.visibleList, List.nil_append, Visible.merged_nil]
            · rw [run_opened past, run_writeSlots slots, run_writeList children,
                @run_endTag _ _ _ ⟨name, shownAttributes props⟩ h, List.nil_append,
                ← List.flatMap_append, Visible.merged_spelled]
          · simp only [h]
            simp

end Reader

/-- **Markup reads back.** For every list of instances, reading its markup yields the visible
forest of the list. -/
theorem read_listMarkup (list : List (Instance ρ)) :
    Markup.read (Instance.listMarkup list) = some (Instance.visibleForest list) := by
  have reads := Reader.run_writeList (fun i (_ : i ∈ list) => Reader.run_write i) [] [] []
  rw [Markup.read, Instance.listMarkup, String.toList_ofList, reads, List.nil_append]
  exact congrArg some (Visible.merged_spelled _)

end ComponentTree
