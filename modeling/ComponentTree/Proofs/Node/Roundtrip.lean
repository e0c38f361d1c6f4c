import ComponentTree.Node.Loading
import ComponentTree.Node.Written

/-!
Nodes are read back from their written form. Writing leaves out what is empty and marks nothing, so
reading has to tell texts, elements and lists apart by their shape alone: a text is a string, an
element is an object, and a list of nodes is an array even if it holds one node or none.

* `ofFields_writtenFields` — an element is read from its fields as it was, in either order of them.
* `listOfJson_toJson`, `ofJson_toJson`, `slotsOfFields_slotsToJson` — nodes, content and slots, by
  one induction over all of them.
* `reload_written` — documents, elements, single nodes and content; and loading once is enough.
-/

namespace ComponentTree

/-! ### Fields of an element -/

namespace Content

/-- The children are what is loaded from the first field of their name. -/
theorem childrenIn_eq (fields : Fields Json) :
    childrenIn fields = (fields.get? "children").elim none ofJson :=
  fields.eq_elim_get? rfl fun _ _ _ => rfl

/-- The slots are what is loaded from the first field of their name. -/
theorem slotsIn_eq (fields : Fields Json) :
    slotsIn fields = (fields.get? "renderProps").elim [] slotsOf :=
  fields.eq_elim_get? rfl fun _ _ _ => rfl

end Content

namespace Element

theorem get?_optionalField (field : String) (value : Option Json) (name : String) :
    (optionalField field value).get? name = if name = field then value else none := by
  cases value with
  | none => exact (ite_self none).symm
  | some value => rw [optionalField, Fields.get?_cons, Fields.get?_nil]

section WrittenFields

variable (order : FieldOrder) (component : String) (key : Option String) (children : Option Json)
  (props slots : Fields Json)

/-- Whatever the order of the fields, each is found under its name. -/
theorem get?_writtenFields :
    let fields := writtenFields order component key children props slots
    fields.get? "component" = some (.string component) ∧
      fields.get? "key" = key.map .string ∧
      fields.get? "children" = children ∧
      fields.get? "props" = objectUnlessEmpty props ∧
      fields.get? "renderProps" = objectUnlessEmpty slots := by
  cases order <;>
    simp [writtenFields, Fields.get?_append, get?_optionalField, Fields.get?_cons]

/-- From its written fields an element is read as it was, with what is read from its children and
slots. -/
theorem ofFields_writtenFields :
    ofFields (writtenFields order component key children props slots)
      = { component, key, children := children.bind Content.ofJson, props,
          slots := Content.slotsOfFields slots } := by
  obtain ⟨component_eq, key_eq, children_eq, props_eq, slots_eq⟩ :=
    get?_writtenFields order component key children props slots
  have key_read : keyOf (writtenFields order component key children props slots) = key := by
    rw [keyOf, key_eq]
    cases key <;> rfl
  have props_read : ((objectUnlessEmpty props).bind Json.fields?).getD [] = props := by
    cases props <;> rfl
  have slots_read : (objectUnlessEmpty slots).elim [] Content.slotsOf
      = Content.slotsOfFields slots := by
    cases slots with
    | nil => rw [Content.slotsOfFields]; rfl
    | cons slot rest => exact Content.slotsOf.eq_1 _
  rw [ofFields, ofLoaded, componentOf, component_eq, key_read, propsOf, props_eq, props_read,
    Content.childrenIn_eq, children_eq, Content.slotsIn_eq, slots_eq, slots_read]
  cases children <;> rfl

end WrittenFields

end Element

/-! ### Nodes, content and slots -/

mutual

theorem Node.listOfJson_toJson (order : FieldOrder) :
    ∀ node : Node, Node.listOfJson (node.toJson order) = [node]
  | .text value => by rw [Node.toJson, Node.listOfJson]
  | .element ⟨component, key, children, props, slots⟩ => by
      have element := Element.ofFields_writtenFields order component key
        (Content.optionToJson order children) props (Content.slotsToJson order slots)
      rw [Content.bind_optionToJson order children, Content.slotsOfFields_slotsToJson order slots]
        at element
      rw [Node.toJson, Element.toJson, Node.listOfJson]
      exact congrArg (fun e => [Node.element e]) element

theorem Node.listOfItems_listToJson (order : FieldOrder) :
    ∀ nodes : List Node, Node.listOfItems (Node.listToJson order nodes) = nodes
  | [] => by rw [Node.listToJson, Node.listOfItems]
  | node :: rest => by
      rw [Node.listToJson, Node.listOfItems, Node.listOfJson_toJson order node,
        Node.listOfItems_listToJson order rest]
      rfl

theorem Content.ofJson_toJson (order : FieldOrder) :
    ∀ content : Content, Content.ofJson (content.toJson order) = some content
  | .text value => by rw [Content.toJson, Content.ofJson]
  | .nodes items => by
      rw [Content.toJson, Content.ofJson, Node.listOfItems_listToJson order items]

theorem Content.bind_optionToJson (order : FieldOrder) :
    ∀ children : Option Content,
      (Content.optionToJson order children).bind Content.ofJson = children
  | none => by rw [Content.optionToJson, Option.bind_none]
  | some content => by
      rw [Content.optionToJson, Option.bind_some, Content.ofJson_toJson order content]

theorem Content.slotsOfFields_slotsToJson (order : FieldOrder) :
    ∀ slots : List (String × Content),
      Content.slotsOfFields (Content.slotsToJson order slots) = slots
  | [] => by rw [Content.slotsToJson, Content.slotsOfFields]
  | (name, content) :: rest => by
      rw [Content.slotsToJson, Content.slotsOfFields, Content.ofJson_toJson order content,
        Content.slotsOfFields_slotsToJson order rest]

end

/-- An element is read back from the object that it is written as. -/
theorem Element.exists_fields_toJson (order : FieldOrder) (e : Element) :
    ∃ fields, e.toJson order = .object fields ∧ Element.ofFields fields = e := by
  obtain ⟨component, key, children, props, slots⟩ := e
  refine ⟨_, by rw [Element.toJson], ?_⟩
  rw [Element.ofFields_writtenFields, Content.bind_optionToJson, Content.slotsOfFields_slotsToJson]

theorem Element.ofJson_toJson (order : FieldOrder) (e : Element) :
    Element.ofJson (e.toJson order) = .ok e := by
  obtain ⟨fields, written, read⟩ := e.exists_fields_toJson order
  rw [written, Element.ofJson, read]

theorem Node.ofJson_toJson (order : FieldOrder) (node : Node) :
    Node.ofJson (node.toJson order) = .ok node := by
  cases node with
  | text value => rw [Node.toJson]; rfl
  | element e =>
      obtain ⟨fields, written, read⟩ := e.exists_fields_toJson order
      rw [Node.toJson, written, Node.ofJson, read]

/-! ### Documents -/

theorem Node.rootsOfJson_listToJson (order : FieldOrder) (nodes : List Node) :
    Node.rootsOfJson (.array (Node.listToJson order nodes)) = nodes := by
  rw [Node.rootsOfJson, if_neg (by simp [Json.isNull]), Node.listOfJson,
    Node.listOfItems_listToJson]

/-- **What was written is loaded as it was**, in either order of fields: every list of nodes as a
document, every element from its object, every single node, and all content. So what was loaded from
any value at all is the same after it was written and loaded again. -/
theorem reload_written (order : FieldOrder) :
    (∀ nodes : List Node, Node.rootsOfJson (.array (Node.listToJson order nodes)) = nodes) ∧
      (∀ e : Element, ∃ fields, e.toJson order = .object fields ∧ Element.ofFields fields = e) ∧
      (∀ e : Element, Element.ofJson (e.toJson order) = .ok e) ∧
      (∀ node : Node, Node.ofJson (node.toJson order) = .ok node) ∧
      (∀ content : Content, Content.ofJson (content.toJson order) = some content ∧
        Content.ofJsonD (content.toJson order) = content) ∧
      ∀ value : Json,
        Node.rootsOfJson (.array (Node.listToJson order (Node.rootsOfJson value)))
          = Node.rootsOfJson value := by
  have documents := Node.rootsOfJson_listToJson order
  refine ⟨documents, Element.exists_fields_toJson order, Element.ofJson_toJson order,
    Node.ofJson_toJson order, fun content => ?_, fun value => documents _⟩
  have read := Content.ofJson_toJson order content
  exact ⟨read, by rw [Content.ofJsonD, read, Option.getD_some]⟩

end ComponentTree
