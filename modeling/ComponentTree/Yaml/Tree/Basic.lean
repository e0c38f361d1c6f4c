/-!
A YAML document as it is written: aliases are not followed, and no scalar is interpreted.

Anchors are numbered in the order in which their nodes begin. The number of a new name is the
count of the names before it; a name that is used again takes the count of all names so far, which
the next new name then takes as well. An alias carries the number that its name had where the alias
stands, and what the number refers to is the last node that took it.
-/

namespace ComponentTree.Yaml

/-- What may be written before a node. -/
structure Mark where
  /-- The number of the anchor. -/
  anchor : Option Nat := none
  /-- The bytes of the tag, with its handle resolved. -/
  tag : Option (List UInt8) := none

/-- Whether nothing is written before the node. -/
def Mark.isBare (mark : Mark) : Bool :=
  mark.anchor.isNone && mark.tag.isNone

/-- A node as it is written. -/
inductive Tree where
  | reference (number : Nat)
  | scalar (mark : Mark) (text : String) (plain : Bool)
  | sequence (mark : Mark) (items : List Tree)
  | mapping (mark : Mark) (pairs : List (Tree × Tree))

namespace Tree

/-- The node that stands where nothing is written. -/
def blank : Tree :=
  scalar {} "" true

/-- What is written before the node. -/
def mark : Tree → Mark
  | reference _ => {}
  | scalar mark _ _ | sequence mark _ | mapping mark _ => mark

mutual

/-- The size of a document: one for each scalar and alias, two for each collection. -/
def size : Tree → Nat
  | reference _ | scalar _ _ _ => 1
  | sequence _ items => 2 + sizeOfItems items
  | mapping _ pairs => 2 + sizeOfPairs pairs

def sizeOfItems : List Tree → Nat
  | [] => 0
  | item :: rest => item.size + sizeOfItems rest

def sizeOfPairs : List (Tree × Tree) → Nat
  | [] => 0
  | (key, value) :: rest => key.size + value.size + sizeOfPairs rest

end

/-- Puts a node in front under the number of its anchor. -/
def anchored (tree : Tree) (inside : List (Nat × Tree)) : List (Nat × Tree) :=
  match tree.mark.anchor with
  | some number => (number, tree) :: inside
  | none => inside

mutual

/-- The nodes with an anchor, each with its number, in the order in which they begin. -/
def anchors : Tree → List (Nat × Tree)
  | reference _ => []
  | scalar mark text plain => anchored (scalar mark text plain) []
  | sequence mark items => anchored (sequence mark items) (anchorsOfItems items)
  | mapping mark pairs => anchored (mapping mark pairs) (anchorsOfPairs pairs)

def anchorsOfItems : List Tree → List (Nat × Tree)
  | [] => []
  | item :: rest => item.anchors ++ anchorsOfItems rest

def anchorsOfPairs : List (Tree × Tree) → List (Nat × Tree)
  | [] => []
  | (key, value) :: rest => key.anchors ++ (value.anchors ++ anchorsOfPairs rest)

end

end Tree

end ComponentTree.Yaml
