import ComponentTree.Yaml.Tree.Basic
import ComponentTree.Yaml.Value

/-!
From the tree of a document to its value: aliases are replaced by what they refer to, and scalars by
what they stand for. Collections may lie at most 128 deep inside one another, those that aliases
bring in included, and a document may use aliases a hundred times as often as its size says.
-/

namespace ComponentTree.Yaml

/-! ### Tags -/

/-- The name that a tag gives to a value, if it is a tag of the document's own: what follows the
exclamation mark, or the mark itself when nothing does. -/
def tagName? (tag : List UInt8) : Option String :=
  match tag with
  | [] => none
  | first :: rest =>
    if first = '!'.toUInt8 then String.fromUTF8? ⟨(if rest.isEmpty then tag else rest).toArray⟩
    else none

/-- The bytes of a tag of the language. -/
def languageTag (name : String) : List UInt8 :=
  ("tag:yaml.org,2002:" ++ name).toUTF8.toList

/-- Puts a value under the name that a tag gives it. -/
def Mark.name (mark : Mark) (value : Value) : Value :=
  match mark.tag.bind tagName? with
  | some name => .named name value
  | none => value

/-- What a scalar stands for whose tag, if it has one, says no more than what its form says. -/
def formScalar (text : String) (plain : Bool) : Option Scalar :=
  if plain then Scalar.ofPlain text else some (.text text)

/-- What a scalar stands for under a tag that gives it no name. -/
def taggedScalar (tag : List UInt8) (text : String) (plain : Bool) : Option Scalar :=
  if tag = languageTag "bool" then (Scalar.bool? text).map .bool
  else if tag = languageTag "int" then (Scalar.integer? text).map .integer
  else if tag = languageTag "float" then Scalar.float? text
  else if tag = languageTag "null" then if Scalar.isNull text then some .null else none
  else if tag.head? = some '!'.toUInt8 then formScalar text plain
  else some (.text text)

/-- The value of a scalar. -/
def Mark.scalarValue (mark : Mark) (text : String) (plain : Bool) : Option Value :=
  match mark.tag with
  | none => (formScalar text plain).map .scalar
  | some tag =>
    match tagName? tag with
    | some name => (formScalar text plain).map fun value => .named name (.scalar value)
    | none => (taggedScalar tag text plain).map .scalar

/-! ### Aliases and collections -/

/-- A computation that keeps count of how often an alias may still be used. -/
abbrev Unfolding := StateT Nat Option

/-- Replaces an alias by the node that it refers to. -/
def Tree.follow (anchors : List (Nat × Tree)) : Tree → Unfolding Tree
  | .reference number => do
    match ← get with
    | 0 => failure
    | left + 1 => do
      set left
      anchors.lookup number
  | tree => pure tree

/-- The value of a node, given the values of the nodes inside it, or nothing if no collection may
lie here. -/
def Tree.assemble (anchors : List (Nat × Tree)) (inner? : Option (Tree → Unfolding Value))
    (tree : Tree) : Unfolding Value := do
  match ← tree.follow anchors with
  | .reference _ => failure
  | .scalar mark text plain => mark.scalarValue text plain
  | .sequence mark items => do
    let inner ← inner?
    return mark.name (.sequence (← items.mapM inner))
  | .mapping mark pairs => do
    let inner ← inner?
    let pairs ← pairs.mapM fun pair => do return (← inner pair.1, ← inner pair.2)
    if Value.distinctKeys pairs then return mark.name (.mapping pairs) else failure

/-- The value of a node inside which collections may lie `depth` deep. -/
def Tree.unfold (anchors : List (Nat × Tree)) : Nat → Tree → Unfolding Value
  | 0, tree => tree.assemble anchors none
  | depth + 1, tree => tree.assemble anchors (some (Tree.unfold anchors depth))

/-- How deep collections may lie. -/
def maxDepth : Nat := 128

/-- The value of a document. An alias refers to the last node that took its number. -/
def Value.ofTree (tree : Tree) : Option Value :=
  ((tree.unfold tree.anchors.reverse maxDepth).run (100 * tree.size)).map (·.1)

end ComponentTree.Yaml
