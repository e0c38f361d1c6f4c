import ComponentTree.Node.Written
import ComponentTree.Diagnostic
import ComponentTree.Sha256

/-!
Where the children of an element come from, and the keys of elements. An element without a key of
its own gets one from its text and its position: the first 64 bits of a hash of both, kept apart by
a zero byte, which occurs in no JSON text.
-/

namespace ComponentTree

/-- The position of a sibling: indexes from the root, joined by dots. -/
def childPath (parent : String) (index : Nat) : String :=
  if parent.isEmpty then Nat.repr index else parent ++ "." ++ Nat.repr index

namespace Element

/-- The declared sources of children, by precedence. A prop that is `null` declares nothing. -/
def childrenSources (e : Element) : List ChildrenSource :=
  (if e.children.isSome then [.root] else [])
    ++ (if (e.slot? "children").isSome then [.renderProps] else [])
    ++ (if (e.prop? "children").any (!·.isNull) then [.props] else [])

/-- What precedes every derived key. -/
def derivedKeyMark : String := "jcod-"

/-- The bytes that a derived key is a hash of. -/
def hashInput (e : Element) (path : String) : ByteArray :=
  e.text.toUTF8.push 0 ++ path.toUTF8

/-- The key of an element at a position that has none of its own: 16 digits of the hash. -/
def derivedKey (e : Element) (path : String) : String :=
  derivedKeyMark ++ String.ofList ((Sha256.hexDigest (e.hashInput path)).take 16)

/-- The key of an element at a position. -/
def effectiveKey (e : Element) (path : String) : String :=
  match e.key with
  | some key => key
  | none => e.derivedKey path

end Element

end ComponentTree
