/-!
A place in YAML source text with the characters that are left there. The end of the text looks like
the character U+0000, which no source may contain.
-/

namespace ComponentTree.Yaml

/-! ### Characters -/

/-- Whether a source may contain the character. -/
def isAllowed (c : Char) : Bool :=
  let n := c.toNat
  n == 9 || n == 10 || n == 13 || (32 ≤ n && n ≤ 126) || n == 0x85
    || (0xA0 ≤ n && n ≤ 0xD7FF) || (0xE000 ≤ n && n ≤ 0xFFFD) || 0x10000 ≤ n

/-- Whether the character is the end of the text. -/
def isEnd (c : Char) : Bool :=
  c.toNat == 0

/-- Whether the character ends a line. -/
def isBreak (c : Char) : Bool :=
  c == '\r' || c == '\n' || c == '\u0085' || c == '\u2028' || c == '\u2029'

/-- Whether the character is a space or a tab. -/
def isGap (c : Char) : Bool :=
  c == ' ' || c == '\t'

/-- Whether the character ends a line or the text. -/
def isBreakOrEnd (c : Char) : Bool :=
  isBreak c || isEnd c

/-- Whether the character is a space, a tab, or ends a line or the text. -/
def isGapOrEnd (c : Char) : Bool :=
  isGap c || isBreakOrEnd c

/-- Whether the character may stand in the name of an anchor or of a directive. -/
def isWordChar (c : Char) : Bool :=
  c.isAlphanum || c == '_' || c == '-'

/-! ### Places -/

/-- A place in a text. -/
structure Cursor where
  rest : List Char
  /-- Number of bytes before the place. -/
  index : Nat := 0
  line : Nat := 0
  /-- Number of characters before the place in its line. -/
  column : Nat := 0

namespace Cursor

/-- The character a number of places ahead. -/
def look (c : Cursor) (ahead : Nat) : Char :=
  (c.rest[ahead]?).getD '\x00'

/-- The next character. -/
def next (c : Cursor) : Char :=
  c.look 0

/-- Passes one character within a line. -/
def skip (c : Cursor) : Cursor :=
  match c.rest with
  | [] => c
  | next :: rest => { c with rest, index := c.index + next.utf8Size, column := c.column + 1 }

/-- Passes several characters within a line. -/
def skipBy (c : Cursor) : Nat → Cursor
  | 0 => c
  | n + 1 => c.skip.skipBy n

/-- Passes characters within a line while they satisfy a condition. -/
def skipWhile (p : Char → Bool) (c : Cursor) : Cursor :=
  c.skipBy (c.rest.takeWhile p).length

/-- Reads characters within a line while they satisfy a condition. -/
def readWhile (p : Char → Bool) (c : Cursor) : List Char × Cursor :=
  (c.rest.takeWhile p, c.skipWhile p)

/-- Passes the end of a line. -/
def skipBreak (c : Cursor) : Cursor :=
  match c.rest with
  | '\r' :: '\n' :: rest => { rest, index := c.index + 2, line := c.line + 1, column := 0 }
  | next :: rest =>
    if isBreak next then
      { rest, index := c.index + next.utf8Size, line := c.line + 1, column := 0 }
    else c
  | [] => c

/-- Reads the end of a line. The separators U+2028 and U+2029 stand for themselves, any other line
end for a line feed. -/
def readBreak (c : Cursor) : List Char × Cursor :=
  let text :=
    if c.next == '\u2028' || c.next == '\u2029' then [c.next]
    else if isBreak c.next then ['\n']
    else []
  (text, c.skipBreak)

/-- Passes a comment, up to the end of the line. -/
def skipComment (c : Cursor) : Cursor :=
  if c.next == '#' then c.skipWhile (!isBreakOrEnd ·) else c

/-- Passes what may stand at the end of a line: spaces, tabs and a comment. -/
def skipLineRest (c : Cursor) : Option Cursor :=
  let c := (c.skipWhile isGap).skipComment
  if isBreakOrEnd c.next then some c.skipBreak else none

/-- Whether a line begins here with three given characters and a gap. -/
def atMark (c : Cursor) (mark : Char) : Bool :=
  c.column == 0 && c.look 0 == mark && c.look 1 == mark && c.look 2 == mark
    && isGapOrEnd (c.look 3)

/-- Whether a document begins or ends here by a mark of its own. -/
def atDocumentMark (c : Cursor) : Bool :=
  c.atMark '-' || c.atMark '.'

end Cursor

end ComponentTree.Yaml
