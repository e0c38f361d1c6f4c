import ComponentTree.Instance.Basic

/-!
Instances as JSON values, for components that are referred to by strings. Every instance is an
object that says its `type`; empty slots and children of an element are left out. `Instance.ofJson`
reads such values back, and takes absent props for empty ones as well.
-/

namespace ComponentTree

/-- An object that says its type. -/
def taggedObject (type : String) (fields : Fields Json) : Json :=
  .object (Fields.insert "type" (.string type) fields)

/-- What an element renders with, as a JSON value. -/
def Renderable.toJson : Renderable String → Json
  | .component reference => taggedObject "component" [("reference", .string reference)]
  | .tag name => taggedObject "tag" [("name", .string name)]
  | .null => taggedObject "null" []

/-- A list under a name, unless it is empty. -/
def arrayUnlessEmpty (name : String) (items : List Json) : Fields Json :=
  if items.isEmpty then [] else [(name, .array items)]

mutual

/-- An instance as a JSON value. -/
def Instance.toJson : Instance String → Json
  | .text value => taggedObject "text" [("value", .string value)]
  | .fragment children =>
    taggedObject "fragment" [("children", .array (Instance.listToJson children))]
  | .element { component, renderable, key, props, slots, children } =>
    taggedObject "element" (arrayUnlessEmpty "children" (Instance.listToJson children)
      ++ [("component", .string component), ("key", .string key), ("props", .object props)]
      ++ (if slots.isEmpty then [] else [("renderProps", .object (Instance.slotsToJson slots))])
      ++ [("renderable", renderable.toJson)])

/-- Instances as JSON values. -/
def Instance.listToJson : List (Instance String) → List Json
  | [] => []
  | child :: rest => child.toJson :: Instance.listToJson rest

/-- Slots as fields. -/
def Instance.slotsToJson : List (String × List (Instance String)) → Fields Json
  | [] => []
  | (name, instances) :: rest =>
    (name, .array (Instance.listToJson instances)) :: Instance.slotsToJson rest

end

/-! ### Reading back -/

/-- What an element renders with, from a JSON value. -/
def Renderable.ofJson (value : Json) : Option (Renderable String) := do
  let type ← (← value.get? "type").string?
  if type = "component" then return .component (← (← value.get? "reference").string?)
  else if type = "tag" then return .tag (← (← value.get? "name").string?)
  else if type = "null" then return .null
  else none

/-- The props among the fields of an element; none when they are absent. -/
def Instance.propsIn (fields : Fields Json) : Option (Fields Json) :=
  match fields.get? "props" with
  | none => some []
  | some value => value.fields?

mutual

/-- An instance from a JSON value. -/
def Instance.ofJson : Json → Option (Instance String)
  | .object fields => do
    let type ← (← Fields.get? fields "type").string?
    if type = "text" then
      return .text (← (← Fields.get? fields "value").string?)
    else if type = "fragment" then
      return .fragment (← Instance.childrenIn fields)
    else if type = "element" then
      return .element
        { component := ← (← Fields.get? fields "component").string?
          renderable := ← Renderable.ofJson (← Fields.get? fields "renderable")
          key := ← (← Fields.get? fields "key").string?
          props := ← Instance.propsIn fields
          slots := ← Instance.slotsIn fields
          children := ← Instance.childrenIn fields }
    else none
  | _ => none

/-- The list of instances in an array. -/
def Instance.listOfJson : Json → Option (List (Instance String))
  | .array items => Instance.listOfItems items
  | _ => none

/-- The instances of the items of an array. -/
def Instance.listOfItems : List Json → Option (List (Instance String))
  | [] => some []
  | item :: rest => do return (← Instance.ofJson item) :: (← Instance.listOfItems rest)

/-- The children among fields; none when they are absent. -/
def Instance.childrenIn : List (String × Json) → Option (List (Instance String))
  | [] => some []
  | (name, value) :: rest =>
    if name = "children" then Instance.listOfJson value else Instance.childrenIn rest

/-- The slots among fields; none when they are absent. -/
def Instance.slotsIn : List (String × Json) → Option (Fields (List (Instance String)))
  | [] => some []
  | (name, value) :: rest =>
    if name = "renderProps" then Instance.slotsOf value else Instance.slotsIn rest

/-- The slots in an object. -/
def Instance.slotsOf : Json → Option (Fields (List (Instance String)))
  | .object fields => Instance.slotsOfFields fields
  | _ => none

/-- The slots that fields hold. -/
def Instance.slotsOfFields : List (String × Json) → Option (Fields (List (Instance String)))
  | [] => some []
  | (name, value) :: rest => do
    return (name, ← Instance.listOfJson value) :: (← Instance.slotsOfFields rest)

end

end ComponentTree
