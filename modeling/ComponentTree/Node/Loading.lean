import ComponentTree.Node.Basic
import ComponentTree.Json.Printer

/-!
Loading nodes from JSON values. Loading never fails: an array in a node position stands for its
items, at any depth of bracketing; an object is an element; any other value is a text. Fields that
an element does not know are passed over, and fields of the wrong shape count as absent.
`Json.strayComponents` lists the values, in the order in which they are met, that stand where the
name of a component should.
-/

namespace ComponentTree

/-- The text of a value in a node position: nothing for `null`. -/
def Json.leafText : Json → String
  | .null => ""
  | value => value.literal

namespace Element

/-- The component that the fields name; anything but a string counts as the empty name. -/
def componentOf (fields : Fields Json) : String :=
  ((fields.get? "component").bind Json.string?).getD ""

/-- The key in the fields: any value but `null`, as text. -/
def keyOf (fields : Fields Json) : Option String :=
  match fields.get? "key" with
  | none | some .null => none
  | some value => some value.leafText

/-- The props in the fields. -/
def propsOf (fields : Fields Json) : Fields Json :=
  ((fields.get? "props").bind Json.fields?).getD []

/-- An element from its fields, of which children and slots are already loaded. -/
def ofLoaded (fields : Fields Json) (children : Option Content) (slots : Fields Content) :
    Element where
  component := componentOf fields
  key := keyOf fields
  children := children
  props := propsOf fields
  slots := slots

end Element

mutual

/-- The nodes that a value stands for. -/
def Node.listOfJson : Json → List Node
  | .array items => Node.listOfItems items
  | .object fields =>
    [.element (.ofLoaded fields (Content.childrenIn fields) (Content.slotsIn fields))]
  | .null => [.text Json.null.leafText]
  | .bool b => [.text (Json.bool b).leafText]
  | .number n => [.text (Json.number n).leafText]
  | .string s => [.text s]

/-- The nodes that the items of an array stand for. -/
def Node.listOfItems : List Json → List Node
  | [] => []
  | item :: rest => Node.listOfJson item ++ Node.listOfItems rest

/-- The content that a value stands for; `null` is no content. -/
def Content.ofJson : Json → Option Content
  | .null => none
  | .array items => some (.nodes (Node.listOfItems items))
  | .object fields =>
    some (.nodes [.element (.ofLoaded fields (Content.childrenIn fields) (Content.slotsIn fields))])
  | .bool b => some (.text (Json.bool b).leafText)
  | .number n => some (.text (Json.number n).leafText)
  | .string s => some (.text s)

/-- The content under `children`. -/
def Content.childrenIn : List (String × Json) → Option Content
  | [] => none
  | (name, value) :: rest =>
    if name = "children" then Content.ofJson value else Content.childrenIn rest

/-- The slots under `renderProps`. -/
def Content.slotsIn : List (String × Json) → Fields Content
  | [] => []
  | (name, value) :: rest =>
    if name = "renderProps" then Content.slotsOf value else Content.slotsIn rest

/-- The slots that an object holds. -/
def Content.slotsOf : Json → Fields Content
  | .object fields => Content.slotsOfFields fields
  | _ => []

/-- The slots among fields; a field without content is no slot. -/
def Content.slotsOfFields : List (String × Json) → Fields Content
  | [] => []
  | (name, value) :: rest =>
    match Content.ofJson value with
    | some content => (name, content) :: Content.slotsOfFields rest
    | none => Content.slotsOfFields rest

end

namespace Element

/-- An element from the fields of an object. -/
def ofFields (fields : Fields Json) : Element :=
  .ofLoaded fields (Content.childrenIn fields) (Content.slotsIn fields)

end Element

namespace Node

/-- The root nodes of a document: none for `null`. -/
def rootsOfJson (value : Json) : List Node :=
  if value.isNull then [] else listOfJson value

end Node

/-! ### Values in the place of a component name -/

/-- The value under `component` if it is there and no string. -/
def Json.strayComponent (fields : Fields Json) : List Json :=
  match fields.get? "component" with
  | none | some (.string _) => []
  | some value => [value]

mutual

/-- The stray components met while the nodes of a value are loaded, an element before what is in
it, children before slots. -/
def Json.strayComponents : Json → List Json
  | .array items => Json.strayInItems items
  | .object fields =>
    Json.strayComponent fields ++ Json.strayInChildren fields ++ Json.strayInSlots fields
  | _ => []

/-- Those met in the items of an array. -/
def Json.strayInItems : List Json → List Json
  | [] => []
  | item :: rest => item.strayComponents ++ Json.strayInItems rest

/-- Those met in the children among fields. -/
def Json.strayInChildren : List (String × Json) → List Json
  | [] => []
  | (name, value) :: rest =>
    if name = "children" then value.strayComponents else Json.strayInChildren rest

/-- Those met in the slots among fields. -/
def Json.strayInSlots : List (String × Json) → List Json
  | [] => []
  | (name, value) :: rest =>
    if name = "renderProps" then Json.strayInSlotsOf value else Json.strayInSlots rest

/-- Those met in the slots that an object holds. -/
def Json.strayInSlotsOf : Json → List Json
  | .object fields => Json.strayInSlotFields fields
  | _ => []

/-- Those met in the values of slots. -/
def Json.strayInSlotFields : List (String × Json) → List Json
  | [] => []
  | (_, value) :: rest => value.strayComponents ++ Json.strayInSlotFields rest

end

/-- The line that reports a stray component. -/
def Json.strayMessage (component : Json) : String :=
  "JCOD node has a non-string component: " ++ component.text

/-! ### A value that has to be one node -/

/-- Why a value is not the node, element or content that it should be. -/
inductive NodeShapeError where
  | listForNode
  | notAnElement
deriving DecidableEq

/-- The wording of a shape error. -/
def NodeShapeError.message : NodeShapeError → String
  | listForNode => "expected a single JCOD node, found a list"
  | notAnElement => "expected a JCOD element object"

/-- A value as a single node. -/
def Node.ofJson : Json → Except NodeShapeError Node
  | .array _ => .error .listForNode
  | .object fields => .ok (.element (.ofFields fields))
  | value => .ok (.text value.leafText)

/-- A value as an element. -/
def Element.ofJson : Json → Except NodeShapeError Element
  | .object fields => .ok (.ofFields fields)
  | _ => .error .notAnElement

/-- A value as content that cannot be absent: `null` is an empty list. -/
def Content.ofJsonD (value : Json) : Content :=
  (Content.ofJson value).getD (.nodes [])

end ComponentTree
