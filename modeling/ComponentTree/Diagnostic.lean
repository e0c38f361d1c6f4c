import ComponentTree.Fields

/-!
Diagnostics. Whatever is wrong with a node while it is rendered is contained to that node and
reported as a `Diagnostic`: the component and position of the node and the anomaly found there.
-/

namespace ComponentTree

/-! ### Prose -/

/-- The words of a list with commas between them. -/
def commaSeparated : List String → String
  | [] => ""
  | [word] => word
  | word :: rest => word ++ ", " ++ commaSeparated rest

/-- Joins words as prose: `a`, `a and b`, `a, b and c`. -/
def joinWords : List String → String
  | [] => ""
  | [word] => word
  | words => commaSeparated words.dropLast ++ " and " ++ words.getLastD ""

/-! ### Anomalies -/

/-- A place where the children of a node can be declared. -/
inductive ChildrenSource where
  /-- Under `children`. -/
  | root
  /-- Under `renderProps.children`. -/
  | renderProps
  /-- Under `props.children`. -/
  | props
deriving DecidableEq, Repr

/-- The name of a source in messages. -/
def ChildrenSource.label : ChildrenSource → String
  | root => "[ROOT]"
  | renderProps => "[renderProps]"
  | props => "[props]"

/-- A place where a key is ignored. -/
inductive KeyPlace where
  /-- Under `props.key`. -/
  | props
  /-- Under `renderProps.key`. -/
  | renderProps
deriving DecidableEq, Repr

/-- The name of a place in messages. -/
def KeyPlace.label : KeyPlace → String
  | props => "props.key"
  | renderProps => "renderProps.key"

/-- What can be wrong with a node. -/
inductive Anomaly where
  /-- The component could not be resolved; `htmlLike` and `customElementLike` say what its name
  looks like. -/
  | unavailable (htmlLike customElementLike : Bool)
  /-- Children were declared in several places, listed by precedence. -/
  | ambiguousChildren (sources : List ChildrenSource)
  /-- A key was declared in a place where it has no effect. -/
  | ignoredKey (place : KeyPlace) (value : String)
  /-- The node is nested deeper than `limit`. -/
  | tooDeep (limit : Nat)
deriving DecidableEq, Repr

/-- An anomaly of a node. The path is empty for a name resolved outside a document. -/
structure Diagnostic where
  component : String
  path : String
  anomaly : Anomaly
deriving DecidableEq, Repr

namespace Diagnostic

/-- The same diagnostic at another position. -/
def atPath (d : Diagnostic) (path : String) : Diagnostic :=
  { d with path }

/-- The component in messages, with its position if it has one. -/
def located (d : Diagnostic) : String :=
  if d.path.isEmpty then "[" ++ d.component ++ "]"
  else "[" ++ d.component ++ " // in position " ++ d.path ++ "]"

/-- The advice that a name looks like a kind of element which an option would admit. -/
def advice (component kind option : String) : String :=
  "\n> [" ++ component ++ "] seems to be a [" ++ kind ++ " <" ++ component
    ++ ">]. \n  Maybe should you set the '" ++ option ++ "' option to true ?"

/-- The wording of a diagnostic. -/
def message (d : Diagnostic) : String :=
  match d.anomaly with
  | .unavailable htmlLike customElementLike =>
    d.located ++ " can not be rendered: \n  it is not an available component."
      ++ (if htmlLike then advice d.component "HTML Element" "allowUnsecureHtmlElement" else "")
      ++ (if customElementLike then
            advice d.component "Custom Element" "allowUnsecureCustomElement"
          else "")
  | .ambiguousChildren sources =>
    let names := sources.map ChildrenSource.label
    "The children of component " ++ d.located ++ " have several values defined in "
      ++ joinWords names ++ ". The value of the children used is the one defined in "
      ++ names.headD "" ++ ". Other values are ignored."
  | .ignoredKey place value =>
    "The [" ++ place.label ++ "] with the value '" ++ value ++ "' of component " ++ d.located
      ++ " is ignored. The key value, when defined, must be set in the ROOT of JCOD node."
  | .tooDeep limit =>
    "The component " ++ d.located ++ " is nested deeper than the maximum depth of "
      ++ Nat.repr limit ++ ". Its subtree is not rendered."

end Diagnostic

/-! ### Collecting -/

/-- Diagnostics kept in the order in which they came. -/
structure Collector where
  entries : List Diagnostic := []
deriving DecidableEq

namespace Collector

/-- Keeps one more diagnostic. -/
def emit (c : Collector) (d : Diagnostic) : Collector :=
  ⟨c.entries ++ [d]⟩

/-- Keeps several more diagnostics. -/
def emitAll (c : Collector) (ds : List Diagnostic) : Collector :=
  ⟨c.entries ++ ds⟩

/-- The messages of everything kept. -/
def messages (c : Collector) : List String :=
  c.entries.map Diagnostic.message

/-- Hands over everything kept; the collector that is left is empty. -/
def take (c : Collector) : List Diagnostic × Collector :=
  (c.entries, {})

/-- Number of diagnostics kept. -/
def size (c : Collector) : Nat :=
  c.entries.length

/-- Whether nothing is kept. -/
def isEmpty (c : Collector) : Bool :=
  c.entries.isEmpty

end Collector

end ComponentTree
