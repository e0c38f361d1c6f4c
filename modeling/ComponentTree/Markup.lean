import ComponentTree.Instance.Basic
import ComponentTree.Json.Printer
import ComponentTree.LogRecord

/-!
Markup of instance trees. A registered component is written under its declared name, a tag under
its own, and what renders nothing is left out. Slots are written as `template` elements before the
children. Names are never escaped: an element whose name is no markup name is left out with
everything in it, an attribute whose name is none is left out, and both are warned about.

`Instance.write i rest` is the markup of `i` followed by `rest`.
-/

namespace ComponentTree

/-! ### Names and escapes -/

/-- Whether a character may follow the first one of a markup name. -/
def isMarkupNameChar (c : Char) : Bool :=
  c.isAlphanum || c == '-' || c == '_' || c == ':' || c == '.'

/-- Whether a name is a letter from A to Z in either case, followed by such letters, digits,
hyphens, underscores, colons and points. -/
def isMarkupName (name : String) : Bool :=
  match name.toList with
  | [] => false
  | first :: rest => first.isAlpha && rest.all isMarkupNameChar

/-- A character of a text. -/
def escapeTextChar (c : Char) : List Char :=
  if c = '&' then ['&', 'a', 'm', 'p', ';']
  else if c = '<' then ['&', 'l', 't', ';']
  else if c = '>' then ['&', 'g', 't', ';']
  else [c]

/-- A character of an attribute value between double quotes. -/
def escapeAttributeChar (c : Char) : List Char :=
  if c = '"' then ['&', 'q', 'u', 'o', 't', ';'] else escapeTextChar c

/-- A text, then `rest`. -/
def writeText (s : String) (rest : List Char) : List Char :=
  s.toList.foldr (fun c tail => escapeTextChar c ++ tail) rest

/-- A quoted attribute value, then `rest`. -/
def writeQuoted (s : String) (rest : List Char) : List Char :=
  '"' :: s.toList.foldr (fun c tail => escapeAttributeChar c ++ tail) ('"' :: rest)

/-! ### Attributes -/

/-- What is written for the value of a prop: nothing for `null` and `false`. -/
inductive AttributeForm where
  | absent
  | bare
  | quoted (text : String)
deriving DecidableEq

/-- `true` is a bare attribute, strings stand as they are, other values as JSON text. -/
def Json.attributeForm : Json → AttributeForm
  | .null => .absent
  | .bool false => .absent
  | .bool true => .bare
  | value => .quoted value.literal

/-- An attribute, then `rest`. -/
def writeAttribute (name : String) (value : Json) (rest : List Char) : List Char :=
  if isMarkupName name then
    match value.attributeForm with
    | .absent => rest
    | .bare => ' ' :: (name.toList ++ rest)
    | .quoted text => ' ' :: (name.toList ++ '=' :: writeQuoted text rest)
  else rest

/-- Attributes in order, then `rest`. -/
def writeAttributes (props : Fields Json) (rest : List Char) : List Char :=
  props.foldr (fun prop tail => writeAttribute prop.1 prop.2 tail) rest

/-! ### Elements -/

/-- Tags that are never closed when they hold nothing. -/
def voidTags : List String :=
  ["area", "base", "br", "col", "embed", "hr", "img", "input", "link", "meta", "source", "track",
    "wbr"]

/-- The name that an element is written under, if it renders anything. -/
def Renderable.writtenName? {ρ : Type} (component : String) : Renderable ρ → Option String
  | .null => none
  | .tag name => some name
  | .component _ => some component

/-- Whether an element that holds nothing is closed in its start tag. -/
def Renderable.isVoid {ρ : Type} : Renderable ρ → Bool
  | .tag name => voidTags.contains name
  | _ => false

/-- The start of a slot. -/
def slotOpening : List Char := "<template slot=".toList

/-- The end of a slot. -/
def slotClosing : List Char := "</template>".toList

mutual

/-- The markup of an instance, then `rest`. -/
def Instance.write {ρ : Type} : Instance ρ → List Char → List Char
  | .text value, rest => writeText value rest
  | .fragment children, rest => Instance.writeList children rest
  | .element { component, renderable, props, slots, children, .. }, rest =>
    match renderable.writtenName? component with
    | none => rest
    | some name =>
      if isMarkupName name then
        '<' :: (name.toList ++ writeAttributes props
          (if renderable.isVoid && children.isEmpty && slots.isEmpty then
            ' ' :: '/' :: '>' :: rest
          else
            '>' :: Instance.writeSlots slots
              (Instance.writeList children ('<' :: '/' :: (name.toList ++ '>' :: rest)))))
      else rest

/-- The markup of instances, then `rest`. -/
def Instance.writeList {ρ : Type} : List (Instance ρ) → List Char → List Char
  | [], rest => rest
  | child :: siblings, rest => child.write (Instance.writeList siblings rest)

/-- The markup of slots, then `rest`. -/
def Instance.writeSlots {ρ : Type} : List (String × List (Instance ρ)) → List Char → List Char
  | [], rest => rest
  | (name, instances) :: slots, rest =>
    slotOpening ++ writeQuoted name ('>' :: Instance.writeList instances
      (slotClosing ++ Instance.writeSlots slots rest))

end

/-- The markup of an instance. -/
def Instance.markup {ρ : Type} (i : Instance ρ) : String :=
  String.ofList (i.write [])

/-- The markup of a list of siblings. -/
def Instance.listMarkup {ρ : Type} (list : List (Instance ρ)) : String :=
  String.ofList (Instance.writeList list [])

/-! ### Warnings -/

/-- A name that keeps something out of the markup. -/
inductive MarkupWarning where
  | elementName (name : String)
  | attributeName (name : String)
deriving DecidableEq, Repr

/-- The wording of a warning. -/
def MarkupWarning.message : MarkupWarning → String
  | elementName name => "[" ++ name ++ "] is not a valid markup name; element skipped"
  | attributeName name => "[" ++ name ++ "] is not a valid attribute name; attribute skipped"

/-- The log record of a warning. -/
def MarkupWarning.record (w : MarkupWarning) : LogRecord :=
  ⟨.warn, w.message⟩

/-- The warnings about names of attributes, in order. -/
def attributeWarnings (props : Fields Json) : List MarkupWarning :=
  (props.filter fun prop => !isMarkupName prop.1).map fun prop => .attributeName prop.1

mutual

/-- The warnings in the course of writing an instance: an element's attributes, slots and then
children. -/
def Instance.warnings {ρ : Type} : Instance ρ → List MarkupWarning
  | .text _ => []
  | .fragment children => Instance.listWarnings children
  | .element { component, renderable, props, slots, children, .. } =>
    match renderable.writtenName? component with
    | none => []
    | some name =>
      if isMarkupName name then
        attributeWarnings props ++ Instance.slotWarnings slots ++ Instance.listWarnings children
      else [.elementName name]

/-- The warnings in the course of writing instances. -/
def Instance.listWarnings {ρ : Type} : List (Instance ρ) → List MarkupWarning
  | [] => []
  | child :: rest => child.warnings ++ Instance.listWarnings rest

/-- The warnings in the course of writing slots. -/
def Instance.slotWarnings {ρ : Type} : List (String × List (Instance ρ)) → List MarkupWarning
  | [] => []
  | (_, instances) :: rest => Instance.listWarnings instances ++ Instance.slotWarnings rest

end

end ComponentTree
