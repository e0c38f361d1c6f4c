import ComponentTree.Yaml.Token.Scan
import ComponentTree.Yaml.Tree.Grouping
import ComponentTree.Yaml.Unfold

/-!
Reading YAML source text as a JSON value.
-/

namespace ComponentTree.Yaml

/-- Why source text has no JSON value. -/
inductive Fault where
  /-- The text is no document. -/
  | malformed
  /-- A key of the document cannot be the name of a field. -/
  | key (fault : KeyFault)
deriving DecidableEq

/-- The value of the one document in a source, if it is well-formed. -/
def parse (source : String) : Option Value := do
  Value.ofTree (← Tree.ofTokens (← Token.ofSource source.toList))

/-- The JSON value of the one document in a source. -/
def load (source : String) : Except Fault Json :=
  match parse source with
  | none => .error .malformed
  | some value => value.toJson.mapError .key

end ComponentTree.Yaml
