import ComponentTree.Node.Loading
import ComponentTree.Json.Reader
import ComponentTree.Yaml.Load
import ComponentTree.Text.Blank

/-!
Documents as source text, in JSON or YAML. A YAML source that holds nothing but blank characters is
an empty document.
-/

namespace ComponentTree

/-- The format of source text. -/
inductive SourceFormat where
  | json
  | yaml
deriving DecidableEq, Repr

/-- The name of a format. -/
def SourceFormat.name : SourceFormat → String
  | json => "json"
  | yaml => "yaml"

/-- The part of a text after its last point, if there is a point. -/
def extension? (path : String) : Option (List Char) :=
  let reversed := path.toList.reverse
  if reversed.contains '.' then some (reversed.takeWhile (· != '.')).reverse else none

/-- The format that the extension of a file name stands for; capitals from A to Z make no
difference. -/
def SourceFormat.ofPath? (path : String) : Option SourceFormat := do
  let lower := String.ofList ((← extension? path).map Char.toLower)
  if lower = "json" then some .json
  else if lower = "yaml" ∨ lower = "yml" then some .yaml
  else none

/-- Why source text is no document. -/
inductive SourceError where
  /-- The JSON text is malformed. -/
  | json (error : Json.SyntaxError)
  /-- The YAML text is malformed. -/
  | yaml
  /-- A mapping of the YAML text has a key that cannot be the name of a field. -/
  | yamlKey (fault : Yaml.KeyFault)

/-- The value that source text holds. -/
def SourceFormat.read (format : SourceFormat) (source : String) : Except SourceError Json :=
  match format with
  | json => (Json.parse source).mapError .json
  | yaml =>
    if Text.allBlank source then .ok .null
    else
      match Yaml.load source with
      | .ok value => .ok value
      | .error .malformed => .error .yaml
      | .error (.key fault) => .error (.yamlKey fault)

/-- The root nodes of a document. -/
def parseDocument (format : SourceFormat) (source : String) : Except SourceError (List Node) :=
  (format.read source).map Node.rootsOfJson

end ComponentTree
