import ComponentTree.Document
import ComponentTree.Options.Reader

/-!
Everything that can go wrong before a document is rendered: source text, the shape of options, and
options that cannot be used. Rendering itself never fails.
-/

namespace ComponentTree

/-- What can go wrong before a render. -/
inductive LoadError where
  | source (error : SourceError)
  | optionShape (error : OptionShapeError)
  | option (fault : OptionFault)

/-- The wording of an error about a JSON value. -/
def jsonErrorMessage (detail : String) : String :=
  "JSON error: " ++ detail

namespace LoadError

/-- The wording of an error. -/
def message : LoadError → String
  | source (.json error) => jsonErrorMessage error.message
  | source .yaml => "YAML error"
  | source (.yamlKey fault) => jsonErrorMessage fault.message
  | optionShape error => jsonErrorMessage error.message
  | option fault => fault.message

end LoadError

end ComponentTree
