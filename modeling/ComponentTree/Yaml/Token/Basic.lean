/-!
The tokens of YAML source text.
-/

namespace ComponentTree.Yaml

/-- A token. Tags are kept as bytes, because their escapes may spell any. -/
inductive Token where
  | streamEnd
  | versionDirective (major minor : Nat)
  | tagDirective (handle leading : List UInt8)
  | documentStart
  | documentEnd
  | blockSequenceStart
  | blockMappingStart
  | blockEnd
  | flowSequenceStart
  | flowSequenceEnd
  | flowMappingStart
  | flowMappingEnd
  | blockEntry
  | flowEntry
  | key
  | value
  | reference (name : String)
  | anchor (name : String)
  | tag (handle suffix : List UInt8)
  | scalar (text : String) (plain : Bool)
deriving DecidableEq

end ComponentTree.Yaml
