import ComponentTree.Json.Basic

/-!
The nodes of a component document. A node is a text or an element; an element names a component and
carries a key, children, props (plain values) and slots (named contents, written as render props).
Contents are a single text or a list of nodes; a list of one text is not the same as a text.
-/

namespace ComponentTree

mutual

/-- A node of a document. -/
inductive Node where
  | text (value : String)
  | element (element : Element)

/-- What stands in a children or slot position. -/
inductive Content where
  | text (value : String)
  | nodes (items : List Node)

/-- A component with everything declared on it. -/
structure Element where
  component : String
  key : Option String := none
  children : Option Content := none
  props : List (String × Json) := []
  slots : List (String × Content) := []

end

instance : Inhabited Node := ⟨.text ""⟩
instance : Inhabited Content := ⟨.text ""⟩
instance : Inhabited Element := ⟨{ component := "" }⟩

namespace Node

/-- Whether the node is a text. -/
def isText : Node → Bool
  | text _ => true
  | element _ => false

/-- The element of a node that is one. -/
def element? : Node → Option Element
  | text _ => none
  | element e => some e

end Node

namespace Element

/-- Sets a prop. -/
def withProp (e : Element) (name : String) (value : Json) : Element :=
  { e with props := Fields.insert name value e.props }

/-- Leaves out a prop. -/
def withoutProp (e : Element) (name : String) : Element :=
  { e with props := Fields.erase name e.props }

/-- Fills a slot. -/
def withSlot (e : Element) (name : String) (content : Content) : Element :=
  { e with slots := Fields.insert name content e.slots }

/-- The prop of a given name. -/
def prop? (e : Element) (name : String) : Option Json :=
  Fields.get? e.props name

/-- The content of a given slot. -/
def slot? (e : Element) (name : String) : Option Content :=
  Fields.get? e.slots name

/-- Props and slots under these names are read as children and key, and never passed on. -/
def isReserved (name : String) : Bool :=
  name == "key" || name == "children"

/-- The slots that are rendered as such. -/
def openSlots (e : Element) : Fields Content :=
  e.slots.filter fun slot => !isReserved slot.1

/-- The props that are passed on. -/
def openProps (e : Element) : Fields Json :=
  e.props.filter fun prop => !isReserved prop.1

end Element

end ComponentTree
