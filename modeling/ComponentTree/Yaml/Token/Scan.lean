import ComponentTree.Yaml.Token.Scalar
import ComponentTree.Yaml.Token.Tag

/-!
From source text to tokens. Besides what stands in the text there are tokens for the beginning and
the end of indented collections, and for a key that is only known for one by the colon after it:
a place where such a key may have begun is remembered until the line ends, for each level of
brackets, and the token is put there when the colon comes.
-/

namespace ComponentTree.Yaml

/-- A place where a key without a mark of its own may have begun. -/
structure KeyPlace where
  /-- Whether only a key may stand there. -/
  required : Bool
  /-- Number of tokens before it. -/
  number : Nat
  index : Nat
  line : Nat
  column : Nat

/-- The state of scanning. -/
structure Scanner where
  cursor : Cursor
  tokens : Array Token := #[]
  /-- For each level of brackets, innermost first, and for the level outside of all. -/
  places : List (Option KeyPlace) := [none]
  /-- The column of the innermost indented collection. -/
  indent : Int := -1
  /-- The columns of the collections around it. -/
  indents : List Int := []
  /-- Whether a key without a mark may begin here. -/
  keyAllowed : Bool := true

namespace Scanner

/-- Whether the place lies between brackets. -/
def inFlow (s : Scanner) : Bool :=
  1 < s.places.length

/-- Adds a token. -/
def push (s : Scanner) (token : Token) : Scanner :=
  { s with tokens := s.tokens.push token }

/-- Adds a token and passes the characters that it stands for. -/
def pushOver (s : Scanner) (token : Token) (length : Nat) : Scanner :=
  { s with tokens := s.tokens.push token, cursor := s.cursor.skipBy length }

/-! ### Places of keys -/

/-- Gives up the place of the innermost level. -/
def dropPlace (s : Scanner) : Option Scanner :=
  match s.places with
  | some place :: outer => if place.required then none else some { s with places := none :: outer }
  | _ => some s

/-- Remembers this place, if a key may begin here. -/
def savePlace (s : Scanner) : Option Scanner :=
  if s.keyAllowed then do
    let s ← s.dropPlace
    let place : KeyPlace :=
      { required := !s.inFlow && s.indent == s.cursor.column
        number := s.tokens.size
        index := s.cursor.index
        line := s.cursor.line
        column := s.cursor.column }
    return { s with places := some place :: s.places.drop 1 }
  else some s

/-- Whether a key that began at a place may still end here: on its line, within 1024 bytes. -/
def KeyPlace.isFresh (place : KeyPlace) (c : Cursor) : Bool :=
  c.line ≤ place.line && c.index ≤ place.index + 1024

/-- Gives up the places from which no key can reach here. -/
def dropStale (s : Scanner) : Option Scanner := do
  let places ← s.places.mapM fun place? =>
    match place? with
    | none => some none
    | some place =>
      if KeyPlace.isFresh place s.cursor then some (some place)
      else if place.required then none
      else some none
  return { s with places }

/-! ### Indentation -/

/-- Closes the collections that are indented further than a column. -/
def closeTo (s : Scanner) (column : Int) : List Int → Scanner
  | [] => if column < s.indent then { s.push .blockEnd with indent := -1 } else s
  | outer :: rest =>
    if column < s.indent then
      ({ s.push .blockEnd with indent := outer, indents := rest }).closeTo column rest
    else s

/-- Closes the collections that are indented further than a column, outside of brackets. -/
def unroll (s : Scanner) (column : Int) : Scanner :=
  if s.inFlow then s else s.closeTo column s.indents

/-- Opens a collection at a column that is further than the innermost one, outside of brackets; the
token goes to a given place among the tokens. -/
def roll (s : Scanner) (column : Nat) (number : Nat) (token : Token) : Scanner :=
  if !s.inFlow && s.indent < column then
    { s with
      indent := column
      indents := s.indent :: s.indents
      tokens := s.tokens.insertIdxIfInBounds number token }
  else s

/-! ### Tokens -/

/-- The end of the text. -/
def fetchEnd (s : Scanner) : Option Scanner := do
  let s ← (s.unroll (-1)).dropPlace
  return s.push .streamEnd

/-- A directive. -/
def fetchDirective (s : Scanner) : Option Scanner := do
  let s ← (s.unroll (-1)).dropPlace
  let (token, cursor) ← scanDirective s.cursor
  return { s.push token with cursor, keyAllowed := false }

/-- The mark that begins or ends a document. -/
def fetchDocumentMark (s : Scanner) (token : Token) : Option Scanner := do
  let s ← (s.unroll (-1)).dropPlace
  return { s.pushOver token 3 with keyAllowed := false }

/-- An opening bracket. -/
def fetchOpening (s : Scanner) (token : Token) : Option Scanner := do
  let s ← s.savePlace
  return { s.pushOver token 1 with places := none :: s.places, keyAllowed := true }

/-- A closing bracket. -/
def fetchClosing (s : Scanner) (token : Token) : Option Scanner := do
  let s ← s.dropPlace
  let places := if s.inFlow then s.places.drop 1 else s.places
  return { s.pushOver token 1 with places, keyAllowed := false }

/-- A comma between brackets. -/
def fetchFlowEntry (s : Scanner) : Option Scanner := do
  let s ← s.dropPlace
  return { s.pushOver .flowEntry 1 with keyAllowed := true }

/-- The mark of an item. -/
def fetchBlockEntry (s : Scanner) : Option Scanner :=
  if !s.inFlow && !s.keyAllowed then none
  else do
    let s := s.roll s.cursor.column s.tokens.size .blockSequenceStart
    let s ← s.dropPlace
    return { s.pushOver .blockEntry 1 with keyAllowed := true }

/-- The mark of a key. -/
def fetchKey (s : Scanner) : Option Scanner :=
  if !s.inFlow && !s.keyAllowed then none
  else do
    let s := s.roll s.cursor.column s.tokens.size .blockMappingStart
    let s ← s.dropPlace
    return { s.pushOver .key 1 with keyAllowed := !s.inFlow }

/-- The colon before a value. -/
def fetchValue (s : Scanner) : Option Scanner :=
  match s.places with
  | some place :: outer =>
    let s := { s with tokens := s.tokens.insertIdxIfInBounds place.number .key }
    let s := s.roll place.column place.number .blockMappingStart
    let s := { s with places := none :: outer, keyAllowed := false }
    some (s.pushOver .value 1)
  | _ =>
    if !s.inFlow && !s.keyAllowed then none
    else
      let s := s.roll s.cursor.column s.tokens.size .blockMappingStart
      some { s.pushOver .value 1 with keyAllowed := !s.inFlow }

/-- An anchor or an alias. -/
def fetchAnchor (s : Scanner) (token : String → Token) : Option Scanner := do
  let s ← s.savePlace
  let (name, cursor) ← scanAnchorName s.cursor
  return { s.push (token name) with cursor, keyAllowed := false }

/-- A tag. -/
def fetchTag (s : Scanner) : Option Scanner := do
  let s ← s.savePlace
  let (token, cursor) ← scanTag s.inFlow s.cursor
  return { s.push token with cursor, keyAllowed := false }

/-- A block scalar. -/
def fetchBlock (s : Scanner) (literal : Bool) : Option Scanner := do
  let s ← s.dropPlace
  let (text, cursor) ← scanBlock literal s.indent s.cursor.skip
  return { s.push (.scalar text false) with cursor, keyAllowed := true }

/-- A quoted scalar. -/
def fetchQuoted (s : Scanner) (quote : Char) : Option Scanner := do
  let s ← s.savePlace
  let (text, cursor) ← scanQuoted quote s.cursor.skip
  return { s.push (.scalar text false) with cursor, keyAllowed := false }

/-- A plain scalar. A line end after it lets a key begin. -/
def fetchPlain (s : Scanner) : Option Scanner := do
  let s ← s.savePlace
  let (text, broken, cursor) ← scanPlain s.inFlow (s.indent + 1) s.cursor
  return { s.push (.scalar text true) with cursor, keyAllowed := broken }

/-! ### The next token -/

/-- Passes blanks, comments and line ends. A tab counts as a blank between brackets and where no key
may begin. Each line may begin with a byte order mark. -/
def skipToToken (s : Scanner) : Nat → Scanner
  | 0 => s
  | fuel + 1 =>
    let cursor := if s.cursor.column = 0 ∧ s.cursor.next = '\ufeff' then s.cursor.skip else s.cursor
    let cursor := cursor.skipWhile fun c => c == ' ' || ((s.inFlow || !s.keyAllowed) && c == '\t')
    let cursor := cursor.skipComment
    if isBreak cursor.next then
      let keyAllowed := s.keyAllowed || !s.inFlow
      { s with cursor := cursor.skipBreak, keyAllowed }.skipToToken fuel
    else { s with cursor }

/-- Characters that never begin a plain scalar, or do so only before certain others. -/
def indicators : List Char :=
  ['-', '?', ':', ',', '[', ']', '{', '}', '#', '&', '*', '!', '|', '>', '\'', '"', '%', '@',
    '\x60']

/-- Whether a plain scalar begins here. -/
def atPlain (s : Scanner) : Bool :=
  let c := s.cursor.next
  let following := s.cursor.look 1
  !(isGapOrEnd c || indicators.contains c) || (c == '-' && !isGap following)
    || (!s.inFlow && (c == '?' || c == ':') && !isGapOrEnd following)

/-- Scans the token that begins here. -/
def fetchHere (s : Scanner) : Option Scanner :=
  let c := s.cursor.next
  let gapFollows := isGapOrEnd (s.cursor.look 1)
  if s.cursor.column = 0 ∧ c = '%' then s.fetchDirective
  else if s.cursor.atMark '-' then s.fetchDocumentMark .documentStart
  else if s.cursor.atMark '.' then s.fetchDocumentMark .documentEnd
  else if c = '[' then s.fetchOpening .flowSequenceStart
  else if c = '{' then s.fetchOpening .flowMappingStart
  else if c = ']' then s.fetchClosing .flowSequenceEnd
  else if c = '}' then s.fetchClosing .flowMappingEnd
  else if c = ',' then s.fetchFlowEntry
  else if c = '-' ∧ gapFollows then s.fetchBlockEntry
  else if c = '?' ∧ (s.inFlow || gapFollows) then s.fetchKey
  else if c = ':' ∧ (s.inFlow || gapFollows) then s.fetchValue
  else if c = '*' then s.fetchAnchor .reference
  else if c = '&' then s.fetchAnchor .anchor
  else if c = '!' then s.fetchTag
  else if c = '|' ∧ !s.inFlow then s.fetchBlock true
  else if c = '>' ∧ !s.inFlow then s.fetchBlock false
  else if c = '\'' then s.fetchQuoted '\''
  else if c = '"' then s.fetchQuoted '"'
  else if s.atPlain then s.fetchPlain
  else none

/-- Scans to the end of the text. Every token passes a character, so the length of the text is
enough fuel. -/
def run (s : Scanner) : Nat → Option (Array Token)
  | 0 => none
  | fuel + 1 => do
    let s ← (s.skipToToken (s.cursor.rest.length + 1)).dropStale
    let s := s.unroll s.cursor.column
    if isEnd s.cursor.next then return (← s.fetchEnd).tokens
    else (← s.fetchHere).run fuel

end Scanner

/-- The tokens of a source, if it can be cut into tokens. -/
def Token.ofSource (source : List Char) : Option (List Token) :=
  if source.all isAllowed then
    (({ cursor := { rest := source } } : Scanner).run (source.length + 1)).map Array.toList
  else none

end ComponentTree.Yaml
