/-!
What can be wrong with JSON source text, and where. A position counts lines from one and, within a
line, the bytes before it.
-/

namespace ComponentTree.Json

/-- Why source text is not a JSON value. -/
inductive SyntaxFault where
  | endInList
  | endInObject
  | endInString
  | endInValue
  | colonExpected
  | listEndExpected
  | objectEndExpected
  | identExpected
  | valueExpected
  | invalidEscape
  | invalidNumber
  | numberOutOfRange
  | controlCharacter
  | nameExpected
  | loneSurrogate
  | brokenSurrogatePair
  | trailingComma
  | trailingCharacters
  | tooDeep
deriving DecidableEq, Repr

/-- The wording of a fault. -/
def SyntaxFault.message : SyntaxFault → String
  | endInList => "EOF while parsing a list"
  | endInObject => "EOF while parsing an object"
  | endInString => "EOF while parsing a string"
  | endInValue => "EOF while parsing a value"
  | colonExpected => "expected `:`"
  | listEndExpected => "expected `,` or `]`"
  | objectEndExpected => "expected `,` or `\x7d`"
  | identExpected => "expected ident"
  | valueExpected => "expected value"
  | invalidEscape => "invalid escape"
  | invalidNumber => "invalid number"
  | numberOutOfRange => "number out of range"
  | controlCharacter => "control character (\\u0000-\\u001F) found while parsing a string"
  | nameExpected => "key must be a string"
  | loneSurrogate => "lone leading surrogate in hex escape"
  | brokenSurrogatePair => "unexpected end of hex escape"
  | trailingComma => "trailing comma"
  | trailingCharacters => "trailing characters"
  | tooDeep => "recursion limit exceeded"

/-- A place in source text. -/
structure Position where
  line : Nat
  column : Nat
deriving DecidableEq, Repr

/-- Moves a position over characters until `bytes` bytes are passed. -/
def Position.advance (start : Position) (bytes : Nat) : List Char → Position
  | [] => start
  | c :: rest =>
    if bytes < c.utf8Size then { start with column := start.column + bytes }
    else
      let next : Position :=
        if c = '\n' then ⟨start.line + 1, 0⟩ else ⟨start.line, start.column + c.utf8Size⟩
      next.advance (bytes - c.utf8Size) rest

/-- The place that `bytes` bytes of the source precede. -/
def Position.ofOffset (source : List Char) (bytes : Nat) : Position :=
  Position.advance ⟨1, 0⟩ bytes source

/-- A fault at its place. -/
structure SyntaxError where
  fault : SyntaxFault
  position : Position
deriving DecidableEq, Repr

/-- The wording of an error. -/
def SyntaxError.message (e : SyntaxError) : String :=
  e.fault.message ++ " at line " ++ Nat.repr e.position.line
    ++ " column " ++ Nat.repr e.position.column

end ComponentTree.Json
