import ComponentTree.Fields
import ComponentTree.Yaml.Token.Basic
import ComponentTree.Yaml.Tree.Basic

/-!
From tokens to the tree of a document. Where a mark calls for a node and none follows, a blank node
stands. A source holds at most one document; a source without any is a blank node.
-/

namespace ComponentTree.Yaml

/-- The tokens that are left, and what was declared before them. -/
structure Reading where
  tokens : List Token
  /-- What each handle of a tag stands for. -/
  handles : List (List UInt8 × List UInt8) := []
  /-- The names of anchors, each with its latest number. -/
  names : Fields Nat := []

namespace Reading

/-- Goes on with other tokens. -/
def go (r : Reading) (tokens : List Token) : Reading :=
  { r with tokens }

/-- Whether the next token is one of several. -/
def meets (r : Reading) (tokens : List Token) : Bool :=
  match r.tokens with
  | [] => false
  | token :: _ => tokens.contains token

/-! ### What stands before a node -/

/-- The bytes of a tag, if its handle is known. -/
def resolveTag (r : Reading) (handle suffix : List UInt8) : Option (List UInt8) :=
  if handle.isEmpty then some suffix else (r.handles.lookup handle).map (· ++ suffix)

/-- Numbers the anchor under a name. -/
def nameAnchor (r : Reading) (name : String) : Reading :=
  { r with names := r.names.insert name r.names.length }

/-- Reads an anchor, if there is one. -/
def readAnchor (r : Reading) (mark : Mark) : Mark × Reading :=
  match r.tokens with
  | .anchor name :: rest =>
    ({ mark with anchor := some r.names.length }, (r.nameAnchor name).go rest)
  | _ => (mark, r)

/-- Reads a tag, if there is one. -/
def readTag (r : Reading) (mark : Mark) : Option (Mark × Reading) :=
  match r.tokens with
  | .tag handle suffix :: rest => do
    return ({ mark with tag := ← r.resolveTag handle suffix }, r.go rest)
  | _ => some (mark, r)

/-- Reads an anchor and a tag, in either order, where there are such. -/
def readMark (r : Reading) : Option (Mark × Reading) := do
  let (mark, r) := r.readAnchor {}
  let (mark, r) ← r.readTag mark
  return if mark.anchor.isNone then r.readAnchor mark else (mark, r)

/-! ### Nodes -/

/-- Reads a node with a given reader, unless one of several tokens shows that it is missing. -/
def readUnless (r : Reading) (ends : List Token) (read : Reading → Option (Tree × Reading)) :
    Option (Tree × Reading) :=
  if r.meets ends then some (.blank, r) else read r

/-- Reads the value of a pair, unless it is missing. -/
def readValue (r : Reading) (ends : List Token) (read : Reading → Option (Tree × Reading)) :
    Option (Tree × Reading) :=
  match r.tokens with
  | .value :: rest => (r.go rest).readUnless ends read
  | _ => some (.blank, r)

/-- Passes the comma after an entry between brackets. The closing bracket may follow instead. -/
def passComma (r : Reading) (close : Token) : Option Reading :=
  match r.tokens with
  | .flowEntry :: rest => some (r.go rest)
  | _ => if r.meets [close] then some r else none

/-- The tokens before which the key or the value of an indented mapping is missing. -/
def pairEnds : List Token :=
  [.key, .value, .blockEnd]

mutual

/-- Reads a node. As the key or the value of an indented mapping it may be a sequence that is
indented no further than the mapping. Of two calls of these functions inside one another at least
one passes a token, so twice the number of tokens is enough fuel. -/
def readNode (inMapping : Bool) (r : Reading) : Nat → Option (Tree × Reading)
  | 0 => none
  | fuel + 1 =>
    match r.tokens with
    | .reference name :: rest => do return (.reference (← r.names.get? name), r.go rest)
    | _ => do
      let (mark, r) ← r.readMark
      match r.tokens with
      | .scalar text plain :: rest => return (.scalar mark text plain, r.go rest)
      | .flowSequenceStart :: rest =>
        let (items, r) ← readFlowItems [] (r.go rest) fuel
        return (.sequence mark items, r)
      | .flowMappingStart :: rest =>
        let (pairs, r) ← readFlowPairs [] (r.go rest) fuel
        return (.mapping mark pairs, r)
      | .blockSequenceStart :: rest =>
        let (items, r) ← readItems false [] (r.go rest) fuel
        return (.sequence mark items, r)
      | .blockMappingStart :: rest =>
        let (pairs, r) ← readPairs [] (r.go rest) fuel
        return (.mapping mark pairs, r)
      | .blockEntry :: _ =>
        if inMapping then
          let (items, r) ← readItems true [] r fuel
          return (.sequence mark items, r)
        else if mark.isBare then none
        else return (.scalar mark "" true, r)
      | _ => if mark.isBare then none else return (.scalar mark "" true, r)

/-- Reads the items of an indented sequence; `before` holds those already read, last first. The
sequence in a mapping that is indented no further ends where no item follows. -/
def readItems (inMapping : Bool) (before : List Tree) (r : Reading) :
    Nat → Option (List Tree × Reading)
  | 0 => none
  | fuel + 1 =>
    match r.tokens with
    | .blockEntry :: rest => do
      let ends := if inMapping then .blockEntry :: pairEnds else [.blockEntry, .blockEnd]
      let (item, r) ← (r.go rest).readUnless ends fun r => readNode false r fuel
      readItems inMapping (item :: before) r fuel
    | .blockEnd :: rest => some (before.reverse, if inMapping then r else r.go rest)
    | _ => if inMapping then some (before.reverse, r) else none

/-- Reads the pairs of an indented mapping. -/
def readPairs (before : List (Tree × Tree)) (r : Reading) :
    Nat → Option (List (Tree × Tree) × Reading)
  | 0 => none
  | fuel + 1 =>
    match r.tokens with
    | .key :: rest => do
      let (key, r) ← (r.go rest).readUnless pairEnds fun r => readNode true r fuel
      let (value, r) ← r.readValue pairEnds fun r => readNode true r fuel
      readPairs ((key, value) :: before) r fuel
    | .blockEnd :: rest => some (before.reverse, r.go rest)
    | _ => none

/-- Reads the items of a sequence between brackets. An item with the mark of a key is a mapping of
one pair; where that key is missing, the token that shows it is passed too. -/
def readFlowItems (before : List Tree) (r : Reading) : Nat → Option (List Tree × Reading)
  | 0 => none
  | fuel + 1 =>
    let ends : List Token := [.flowEntry, .flowSequenceEnd]
    match r.tokens with
    | .flowSequenceEnd :: rest => some (before.reverse, r.go rest)
    | .key :: rest => do
      let r := r.go rest
      let (key, r) ←
        if r.meets (.value :: ends) then some (.blank, r.go (rest.drop 1))
        else readNode false r fuel
      let (value, r) ← r.readValue ends fun r => readNode false r fuel
      readFlowItems (.mapping {} [(key, value)] :: before) (← r.passComma .flowSequenceEnd) fuel
    | _ => do
      let (item, r) ← readNode false r fuel
      readFlowItems (item :: before) (← r.passComma .flowSequenceEnd) fuel

/-- Reads the pairs of a mapping between braces. An entry without the mark of a key is a key. -/
def readFlowPairs (before : List (Tree × Tree)) (r : Reading) :
    Nat → Option (List (Tree × Tree) × Reading)
  | 0 => none
  | fuel + 1 =>
    let ends : List Token := [.flowEntry, .flowMappingEnd]
    match r.tokens with
    | .flowMappingEnd :: rest => some (before.reverse, r.go rest)
    | .key :: rest => do
      let (key, r) ← (r.go rest).readUnless (.value :: ends) fun r => readNode false r fuel
      let (value, r) ← r.readValue ends fun r => readNode false r fuel
      readFlowPairs ((key, value) :: before) (← r.passComma .flowMappingEnd) fuel
    | _ => do
      let (key, r) ← readNode false r fuel
      readFlowPairs ((key, .blank) :: before) (← r.passComma .flowMappingEnd) fuel

end

/-! ### Documents -/

/-- ASCII text as bytes. -/
def bytesOf (text : String) : List UInt8 :=
  text.toUTF8.toList

/-- What the handles of tags stand for when no directive says otherwise. -/
def defaultHandles : List (List UInt8 × List UInt8) :=
  [(bytesOf "!", bytesOf "!"), (bytesOf "!!", bytesOf "tag:yaml.org,2002:")]

/-- Reads directives. There is at most one version, 1.1 or 1.2, and at most one meaning for each
handle. -/
def readDirectives (versioned : Bool) (handles : List (List UInt8 × List UInt8)) :
    List Token → Option (List (List UInt8 × List UInt8) × List Token)
  | .versionDirective major minor :: rest =>
    if versioned ∨ major ≠ 1 ∨ (minor ≠ 1 ∧ minor ≠ 2) then none
    else readDirectives true handles rest
  | .tagDirective handle leading :: rest =>
    if (handles.lookup handle).isSome then none
    else readDirectives versioned ((handle, leading) :: handles) rest
  | tokens => some (handles, tokens)

/-- Reads what a document holds. Directives take a mark that begins the document; after such a mark
the node may be missing. -/
def readDocument (tokens : List Token) : Option (Tree × Reading) := do
  let (handles, rest) ← readDirectives false [] tokens
  let fuel := 2 * tokens.length + 2
  let r : Reading := { tokens := rest, handles := handles ++ defaultHandles }
  match rest with
  | .documentStart :: rest =>
    (r.go rest).readUnless [.documentStart, .documentEnd, .streamEnd] fun r => readNode false r fuel
  | _ => if rest.length < tokens.length then none else readNode false r fuel

end Reading

/-- The tree of the one document that the tokens spell. -/
def Tree.ofTokens (tokens : List Token) : Option Tree :=
  if tokens = [.streamEnd] then some .blank
  else do
    let (tree, r) ← Reading.readDocument tokens
    if r.tokens.dropWhile (· = .documentEnd) = [.streamEnd] then return tree else none

end ComponentTree.Yaml
