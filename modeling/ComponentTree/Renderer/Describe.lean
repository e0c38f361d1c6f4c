import ComponentTree.Renderer.Basic
import ComponentTree.Text.Quoted

/-!
Descriptions of documents and renderers for people who look for a mistake: every value with the name
of its kind, strings between quotes.
-/

namespace ComponentTree

/-- A boolean in a description. -/
def describeBool (b : Bool) : String :=
  if b then "true" else "false"

/-- A list between brackets. -/
def describeList (items : List String) : String :=
  "[" ++ String.intercalate ", " items ++ "]"

/-- A record with its fields. -/
def describeRecord (name : String) (fields : List (String × String)) (rest : String) : String :=
  name ++ " \x7b " ++ String.intercalate ", " (fields.map fun field => field.1 ++ ": " ++ field.2)
    ++ rest ++ " \x7d"

/-- Pairs of names and values between braces. -/
def describeMap (fields : List (String × String)) : String :=
  "\x7b" ++ String.intercalate ", " (fields.map fun field => Text.quoted field.1 ++ ": " ++ field.2)
    ++ "\x7d"

/-- A string that may be absent. -/
def describeOption : Option String → String
  | none => "None"
  | some text => "Some(" ++ text ++ ")"

mutual

/-- A JSON value with the names of its kinds. -/
def Json.describe : Json → String
  | .null => "Null"
  | .bool b => "Bool(" ++ describeBool b ++ ")"
  | .number n => "Number(" ++ n.text ++ ")"
  | .string s => "String(" ++ Text.quoted s ++ ")"
  | .array items => "Array " ++ describeList (Json.describeItems items)
  | .object fields => "Object " ++ describeMap (Json.describeFields fields)

/-- The items of an array, described. -/
def Json.describeItems : List Json → List String
  | [] => []
  | item :: rest => item.describe :: Json.describeItems rest

/-- The fields of an object, described. -/
def Json.describeFields : List (String × Json) → List (String × String)
  | [] => []
  | (name, value) :: rest => (name, value.describe) :: Json.describeFields rest

end

mutual

/-- A node with the names of its kinds. -/
def Node.describe : Node → String
  | .text value => "Text(" ++ Text.quoted value ++ ")"
  | .element e => "Element(" ++ e.describe ++ ")"

/-- An element with everything declared on it. -/
def Element.describe : Element → String
  | { component, key, children, props, slots } =>
    describeRecord "JcodElement"
      [("component", Text.quoted component),
        ("key", describeOption (key.map Text.quoted)),
        ("children", describeOption (Content.describeOptional children)),
        ("props", describeMap (Json.describeFields props)),
        ("render_props", describeMap (Content.describeSlots slots))] ""

/-- Content with the name of its kind. -/
def Content.describeKind : Content → String
  | .text value => "Text(" ++ Text.quoted value ++ ")"
  | .nodes items => "Nodes(" ++ describeList (Node.describeList items) ++ ")"

/-- Content that may be absent. -/
def Content.describeOptional : Option Content → Option String
  | none => none
  | some content => some content.describeKind

/-- Nodes, described. -/
def Node.describeList : List Node → List String
  | [] => []
  | node :: rest => node.describe :: Node.describeList rest

/-- Slots, described. -/
def Content.describeSlots : List (String × Content) → List (String × String)
  | [] => []
  | (name, content) :: rest => (name, content.describeKind) :: Content.describeSlots rest

end

/-- The name of a case policy with a capital. -/
def KeyCase.describe (case : KeyCase) : String :=
  case.name.capitalize

/-- Settings with the names of their fields. -/
def Settings.describe (s : Settings) : String :=
  describeRecord "ResolvedOptions"
    [("allow_all_elements", describeBool s.allowAllElements),
      ("allowed_elements", describeList (s.allowedElements.map Text.quoted)),
      ("allow_unsecure_html_element", describeBool s.allowUnsecureHtmlElement),
      ("allow_unsecure_custom_element", describeBool s.allowUnsecureCustomElement),
      ("display_error_message", describeBool s.displayErrorMessage),
      ("legacy_props_children", describeBool s.legacyPropsChildren),
      ("component_key_case", s.componentKeyCase.describe),
      ("max_depth", Nat.repr s.maxDepth)] ""

/-- A renderer: its document, the number of its components and its settings. -/
def Renderer.describe {ρ : Type} (r : Renderer ρ) : String :=
  describeRecord "ContentParser"
    [("data", describeList (Node.describeList r.roots)),
      ("components", Nat.repr r.registry.size),
      ("options", r.settings.describe)] ", .."

end ComponentTree
