import ComponentTree.Hooks.Basic
import ComponentTree.Node.Loading
import ComponentTree.Node.Written

/-!
Hooks given as lists of rules. The rules of a list apply one after another, each to what the ones
before it have left.
-/

namespace ComponentTree

/-! ### Formatting -/

/-- One change to an element. -/
inductive FormatAction where
  /-- Gives the component another name. -/
  | rename (component : String)
  /-- Sets a prop to the path of the element. -/
  | pathProp (name : String)
  | setProp (name : String) (value : Json)
  | dropProp (name : String)
  | setKey (key : String)
  /-- Sets the key to a text followed by the path. -/
  | keyFromPath (stem : String)
  | clearKey
  /-- Sets the children to what a value stands for. -/
  | setChildren (value : Json)
  /-- Fills a slot with what a value stands for, if it stands for anything. -/
  | setSlot (name : String) (value : Json)

/-- A change with its conditions on the component: as it is now, and as it was at first. -/
structure FormatRule where
  whenNow : Option String := none
  whenDeclared : Option String := none
  action : FormatAction

namespace FormatAction

/-- The element after the change. -/
def apply (action : FormatAction) (path : String) (e : Element) : Element :=
  match action with
  | rename component => { e with component := component }
  | pathProp name => e.withProp name (.string path)
  | setProp name value => e.withProp name value
  | dropProp name => e.withoutProp name
  | setKey key => { e with key := some key }
  | keyFromPath stem => { e with key := some (stem ++ path) }
  | clearKey => { e with key := none }
  | setChildren value => { e with children := Content.ofJson value }
  | setSlot name value =>
    match Content.ofJson value with
    | some content => e.withSlot name content
    | none => e

/-- The stray components met while the change loads a value. -/
def strayComponents : FormatAction → List Json
  | setChildren value => value.strayComponents
  | setSlot _ value => value.strayComponents
  | _ => []

end FormatAction

namespace FormatRule

/-- Whether the conditions hold. -/
def applies (rule : FormatRule) (declared e : Element) : Bool :=
  rule.whenNow.all (· == e.component) && rule.whenDeclared.all (· == declared.component)

/-- The element after the rule. -/
def apply (rule : FormatRule) (path : String) (declared e : Element) : Element :=
  if rule.applies declared e then rule.action.apply path e else e

/-- The element after a list of rules. -/
def applyAll (rules : List FormatRule) (path : String) (declared : Element) : Element :=
  rules.foldl (fun e rule => rule.apply path declared e) declared

/-- The stray components met while a list of rules is applied to `e`. -/
def strayFrom (path : String) (declared : Element) : List FormatRule → Element → List Json
  | [], _ => []
  | rule :: rest, e =>
    (if rule.applies declared e then rule.action.strayComponents else [])
      ++ strayFrom path declared rest (rule.apply path declared e)

/-- The stray components met while a list of rules is applied. -/
def strayComponents (rules : List FormatRule) (path : String) (declared : Element) : List Json :=
  strayFrom path declared rules declared

end FormatRule

/-! ### Decorating -/

/-- One change to the instance of an element. -/
inductive NodeAction where
  | setProp (name : String) (value : Json)
  /-- Sets a prop to the formatted element as a value. -/
  | nodeProp (name : String)
  | setKey (key : String)
  /-- Puts a text in the place of the element. -/
  | toText (text : String)
  /-- Puts an element that renders nothing in the place of the element. -/
  | toNull
  /-- Puts the children in the place of the element. -/
  | toFragment
  /-- Adds a text after the children. -/
  | appendText (text : String)

/-- A change with its condition on the component of the formatted element. -/
structure NodeRule where
  whenComponent : Option String := none
  action : NodeAction

/-- The instance after the change. -/
def NodeAction.apply {ρ : Type} (action : NodeAction) (node : Element) (e : RenderedElement ρ) :
    Instance ρ :=
  match action with
  | setProp name value => .element { e with props := Fields.insert name value e.props }
  | nodeProp name =>
    .element { e with props := Fields.insert name (node.toJson .byName) e.props }
  | setKey key => .element { e with key := key }
  | toText text => .text text
  | toNull => .element (.empty e.component e.key)
  | toFragment => .fragment e.children
  | appendText text => .element { e with children := e.children ++ [.text text] }

namespace NodeRule

/-- The instance after the rule. What is no longer an element stays as it is. -/
def apply {ρ : Type} (rule : NodeRule) (node : Element) (built : Instance ρ) : Instance ρ :=
  match built with
  | .element e =>
    if rule.whenComponent.all (· == node.component) then rule.action.apply node e else built
  | _ => built

/-- The instance after a list of rules. -/
def applyAll {ρ : Type} (rules : List NodeRule) (built : Instance ρ) (node : Element) :
    Instance ρ :=
  rules.foldl (fun built rule => rule.apply node built) built

end NodeRule

/-- One change to the topmost instances. -/
inductive TreeRule where
  | reverse
  | clear
  /-- Adds a text at the end. -/
  | pushText (text : String)
  | dropFirst
  /-- Puts everything into one fragment. -/
  | wrap

namespace TreeRule

/-- The instances after the change. -/
def apply {ρ : Type} (rule : TreeRule) (top : List (Instance ρ)) : List (Instance ρ) :=
  match rule with
  | reverse => top.reverse
  | clear => []
  | pushText text => top ++ [.text text]
  | dropFirst => top.drop 1
  | wrap => [.fragment top]

/-- The instances after a list of changes. -/
def applyAll {ρ : Type} (rules : List TreeRule) (top : List (Instance ρ)) : List (Instance ρ) :=
  rules.foldl (fun top rule => rule.apply top) top

end TreeRule

/-- Lists of rules, each of which may be missing. -/
structure RuleSet where
  format : Option (List FormatRule) := none
  node : Option (List NodeRule) := none
  tree : Option (List TreeRule) := none

/-- The hooks that the rules describe. -/
def RuleSet.toHookSet {ρ : Type} (rules : RuleSet) : HookSet ρ where
  format := rules.format.map FormatRule.applyAll
  decorateNode := rules.node.map NodeRule.applyAll
  decorateTree := rules.tree.map TreeRule.applyAll

end ComponentTree
