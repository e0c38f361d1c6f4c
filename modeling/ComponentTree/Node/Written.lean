import ComponentTree.Node.Basic
import ComponentTree.Json.Printer

/-!
Nodes as JSON values. Empty fields of an element are left out. The fields come in one of two
orders: as they are declared, which is the order of the text that keys are derived from, or by
name, as in every value that is passed on.
-/

namespace ComponentTree

/-- The order of the fields of a written element. -/
inductive FieldOrder where
  /-- The order `component`, `key`, `children`, `props`, `renderProps`. -/
  | declared
  /-- The order `children`, `component`, `key`, `props`, `renderProps`. -/
  | byName
deriving DecidableEq

namespace Element

/-- A list of at most one field. -/
def optionalField (name : String) (value : Option Json) : Fields Json :=
  match value with
  | none => []
  | some value => [(name, value)]

/-- An object for fields, if there are any. -/
def objectUnlessEmpty (fields : Fields Json) : Option Json :=
  if fields.isEmpty then none else some (.object fields)

/-- The fields of an element whose children and slots are already written. -/
def writtenFields (order : FieldOrder) (component : String) (key : Option String)
    (children : Option Json) (props slots : Fields Json) : Fields Json :=
  let component : Fields Json := [("component", .string component)]
  let key := optionalField "key" (key.map .string)
  let children := optionalField "children" children
  let head :=
    match order with
    | .declared => component ++ key ++ children
    | .byName => children ++ component ++ key
  head ++ optionalField "props" (objectUnlessEmpty props)
    ++ optionalField "renderProps" (objectUnlessEmpty slots)

end Element

mutual

/-- A node as a JSON value. -/
def Node.toJson (order : FieldOrder) : Node → Json
  | .text value => .string value
  | .element e => e.toJson order

/-- An element as a JSON object. -/
def Element.toJson (order : FieldOrder) : Element → Json
  | { component, key, children, props, slots } =>
    .object (Element.writtenFields order component key (Content.optionToJson order children) props
      (Content.slotsToJson order slots))

/-- Content as a JSON value. -/
def Content.toJson (order : FieldOrder) : Content → Json
  | .text value => .string value
  | .nodes items => .array (Node.listToJson order items)

/-- Content that may be absent. -/
def Content.optionToJson (order : FieldOrder) : Option Content → Option Json
  | none => none
  | some content => some (content.toJson order)

/-- Nodes as JSON values. -/
def Node.listToJson (order : FieldOrder) : List Node → List Json
  | [] => []
  | node :: rest => node.toJson order :: Node.listToJson order rest

/-- Slots as fields. -/
def Content.slotsToJson (order : FieldOrder) : List (String × Content) → Fields Json
  | [] => []
  | (name, content) :: rest => (name, content.toJson order) :: Content.slotsToJson order rest

end

/-- The compact text of a list of nodes. -/
def Node.listText (nodes : List Node) : String :=
  (Json.array (Node.listToJson .declared nodes)).text

/-- The compact text of an element. -/
def Element.text (e : Element) : String :=
  (e.toJson .declared).text

/-- The content as it is shown in a message. -/
def Content.describe : Content → String
  | .text value => value
  | .nodes items => Node.listText items

end ComponentTree
