import ComponentTree.Instance.Written
import ComponentTree.Proofs.Json.Text

/-!
Instances are read back from their written form. An object says its type under a name that no field
of an instance has, so the fields of an element stand beside the tag untouched. What is left out is
empty, and nothing else is: a slot without instances is written, and told apart from no slot.

* `Renderable.ofJson_toJson` — what an element renders with.
* `get?_elementFields`, `ofJson_elementFields` — an element is read from its fields, of which slots
  and children may be left out.
* `ofJson_toJson`, `listOfItems_listToJson`, `slotsOfFields_slotsToJson` — instances, lists and
  slots, by one induction over all of them.
* `toJson_lossless` — nothing is lost, in the value that is written or in its text.
-/

namespace ComponentTree

theorem Renderable.ofJson_toJson (renderable : Renderable String) :
    Renderable.ofJson renderable.toJson = some renderable := by
  cases renderable with
  | component reference => rfl
  | tag name => rfl
  | null => rfl

namespace Instance

/-! ### Fields of an element -/

/-- The children are what is read from the first field of their name. -/
theorem childrenIn_eq (fields : Fields Json) :
    childrenIn fields = (fields.get? "children").elim (some []) listOfJson :=
  fields.eq_elim_get? rfl fun _ _ _ => rfl

/-- The slots are what is read from the first field of their name. -/
theorem slotsIn_eq (fields : Fields Json) :
    slotsIn fields = (fields.get? "renderProps").elim (some []) slotsOf :=
  fields.eq_elim_get? rfl fun _ _ _ => rfl

/-- The fields of a written element. -/
def elementFields (e : RenderedElement String) : Fields Json :=
  Fields.insert "type" (.string "element")
    (arrayUnlessEmpty "children" (listToJson e.children)
      ++ [("component", .string e.component), ("key", .string e.key), ("props", .object e.props)]
      ++ (if e.slots.isEmpty then [] else [("renderProps", .object (slotsToJson e.slots))])
      ++ [("renderable", e.renderable.toJson)])

theorem toJson_element (e : RenderedElement String) :
    (element e).toJson = .object (elementFields e) := by
  obtain ⟨component, renderable, key, props, slots, children⟩ := e
  rw [toJson]
  rfl

/-- A field that may be left out. -/
theorem get?_unless (absent : Prop) [Decidable absent] (field name : String) (value : Json) :
    Fields.get? (if absent then [] else [(field, value)]) name
      = if name = field ∧ ¬absent then some value else none := by
  by_cases h : absent <;> simp [h, Fields.get?_cons]

/-- Each field is found under its name, beside the type. -/
theorem get?_elementFields (e : RenderedElement String) :
    let fields := elementFields e
    fields.get? "type" = some (.string "element") ∧
      fields.get? "component" = some (.string e.component) ∧
      fields.get? "renderable" = some e.renderable.toJson ∧
      fields.get? "key" = some (.string e.key) ∧
      fields.get? "props" = some (.object e.props) ∧
      fields.get? "renderProps"
        = (if e.slots.isEmpty then none else some (.object (slotsToJson e.slots))) ∧
      fields.get? "children"
        = if (listToJson e.children).isEmpty then none
          else some (.array (listToJson e.children)) := by
  simp [elementFields, arrayUnlessEmpty, Fields.get?_insert_of_ne, Fields.get?_append, get?_unless,
    Fields.get?_cons]

/-- An element is read from its written fields with what is read from the lists in them, which are
empty where they are left out. -/
theorem ofJson_elementFields (e : RenderedElement String)
    (slots : slotsOfFields (slotsToJson e.slots) = some e.slots)
    (children : listOfItems (listToJson e.children) = some e.children) :
    ofJson (.object (elementFields e)) = some (.element e) := by
  obtain ⟨type, component, renderable, key, props, slots_written, children_written⟩ :=
    get?_elementFields e
  have slots_read : slotsIn (elementFields e) = some e.slots := by
    rw [slotsIn_eq, slots_written, ← slots]
    cases e.slots <;> rfl
  have children_read : childrenIn (elementFields e) = some e.children := by
    rw [childrenIn_eq, children_written, ← children]
    cases listToJson e.children <;> rfl
  rw [ofJson, type, component, renderable, key, slots_read, children_read, propsIn, props]
  cases e
  simp [Json.string?, Json.fields?, Renderable.ofJson_toJson]

/-! ### Instances, lists and slots -/

mutual

theorem ofJson_toJson : ∀ i : Instance String, ofJson i.toJson = some i
  | .text value => rfl
  | .fragment children => by
      have children_read : childrenIn (Fields.insert "type" (.string "fragment")
          [("children", .array (listToJson children))]) = some children := by
        rw [childrenIn_eq, Fields.get?_insert_of_ne (by decide), Fields.get?_cons, if_pos rfl]
        exact listOfItems_listToJson children
      rw [toJson, taggedObject, ofJson, children_read, Fields.get?_insert_self]
      rfl
  | .element ⟨component, renderable, key, props, slots, children⟩ => by
      rw [toJson_element]
      exact ofJson_elementFields _ (slotsOfFields_slotsToJson slots)
        (listOfItems_listToJson children)

theorem listOfItems_listToJson : ∀ list : List (Instance String),
    listOfItems (listToJson list) = some list
  | [] => rfl
  | child :: rest => by
      rw [listToJson, listOfItems, ofJson_toJson child, listOfItems_listToJson rest]
      rfl

theorem slotsOfFields_slotsToJson : ∀ slots : List (String × List (Instance String)),
    slotsOfFields (slotsToJson slots) = some slots
  | [] => rfl
  | (name, instances) :: rest => by
      rw [slotsToJson, slotsOfFields, listOfJson, listOfItems_listToJson instances,
        slotsOfFields_slotsToJson rest]
      rfl

end

theorem toJson_injective : Function.Injective toJson := by
  intro i j same
  have read : ofJson i.toJson = ofJson j.toJson := congrArg ofJson same
  rw [ofJson_toJson, ofJson_toJson] at read
  exact Option.some.inj read

/-- **Nothing is lost when an instance is written.** Every instance is read back from the value that
it is written as, and two instances are written as the same value, or as the same text, only if they
are the same. -/
theorem toJson_lossless :
    (∀ i : Instance String, ofJson i.toJson = some i) ∧
      (∀ i j : Instance String, i.toJson = j.toJson ↔ i = j) ∧
      ∀ i j : Instance String, i.toJson.text = j.toJson.text ↔ i = j :=
  ⟨ofJson_toJson, fun _ _ => toJson_injective.eq_iff,
    fun _ _ => (Json.text_injective.comp toJson_injective).eq_iff⟩

end Instance

end ComponentTree
