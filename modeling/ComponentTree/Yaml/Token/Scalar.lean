import ComponentTree.Yaml.Cursor
import ComponentTree.Text.Digit

/-!
Scanning scalars: plain ones, quoted ones, and blocks. Within a plain or quoted scalar a gap that
holds a line end is folded: one line end becomes a space, and of several the first is dropped.
-/

namespace ComponentTree.Yaml

/-! ### Gaps -/

/-- The blanks between two stretches of a scalar. -/
structure Gap where
  /-- Spaces and tabs before the first line end. -/
  blanks : List Char := []
  /-- The first line end. -/
  firstBreak : List Char := []
  /-- The line ends after the first. -/
  laterBreaks : List Char := []
  /-- Whether a line has ended. -/
  broken : Bool := false

/-- What a gap stands for. -/
def Gap.fold (gap : Gap) : List Char :=
  if gap.broken then
    if gap.firstBreak == ['\n'] then
      if gap.laterBreaks.isEmpty then [' '] else gap.laterBreaks
    else gap.firstBreak ++ gap.laterBreaks
  else gap.blanks

/-- Reads a gap. A tab is refused where a line has fewer than `indent` columns before it. -/
def readGap (indent : Int) (gap : Gap) (c : Cursor) : Nat → Option (Gap × Cursor)
  | 0 => some (gap, c)
  | fuel + 1 =>
    if isGap c.next then
      if gap.broken then
        if (c.column : Int) < indent && c.next == '\t' then none else readGap indent gap c.skip fuel
      else readGap indent { gap with blanks := gap.blanks ++ [c.next] } c.skip fuel
    else if isBreak c.next then
      let (text, c) := c.readBreak
      if gap.broken then
        readGap indent { gap with laterBreaks := gap.laterBreaks ++ text } c fuel
      else readGap indent { gap with blanks := [], firstBreak := text, broken := true } c fuel
    else some (gap, c)

/-! ### Plain scalars -/

/-- Marks that end a plain scalar, and that may not follow a colon, between brackets. -/
def isFlowMark (c : Char) : Bool :=
  c == ',' || c == '[' || c == ']' || c == '{' || c == '}'

/-- Reads a stretch without blanks of a plain scalar; `before` holds what was read, last character
first. -/
def readPlainStretch (inFlow : Bool) (before : List Char) (c : Cursor) :
    Nat → Option (List Char × Cursor)
  | 0 => some (before, c)
  | fuel + 1 =>
    let following := c.look 1
    if isGapOrEnd c.next then some (before, c)
    else if inFlow && c.next == ':' && (isFlowMark following || following == '?') then none
    else if c.next == ':' && isGapOrEnd following then some (before, c)
    else if inFlow && isFlowMark c.next then some (before, c)
    else readPlainStretch inFlow (c.next :: before) c.skip fuel

/-- Reads a plain scalar: its text, whether a line has ended after it, and the place after it. -/
def readPlain (inFlow : Bool) (indent : Int) (before : List Char) (gap : Gap) (c : Cursor) :
    Nat → Option (List Char × Bool × Cursor)
  | 0 => none
  | fuel + 1 =>
    if c.atDocumentMark || c.next == '#' then some (before, gap.broken, c)
    else do
      let (stretch, after) ← readPlainStretch inFlow [] c (c.rest.length + 1)
      let (before, gap) :=
        if stretch.isEmpty then (before, gap) else (stretch ++ (gap.fold.reverse ++ before), {})
      if isGap after.next || isBreak after.next then do
        let (gap, after) ← readGap indent {} after (after.rest.length + 1)
        if !inFlow && (after.column : Int) < indent then some (before, gap.broken, after)
        else readPlain inFlow indent before gap after fuel
      else some (before, gap.broken, after)

/-- Scans a plain scalar. -/
def scanPlain (inFlow : Bool) (indent : Int) (c : Cursor) : Option (String × Bool × Cursor) := do
  let (text, broken, c) ← readPlain inFlow indent [] {} c (c.rest.length + 1)
  return (String.ofList text.reverse, broken, c)

/-! ### Quoted scalars -/

/-- The character that a one-letter escape stands for. -/
def escapedChar? (c : Char) : Option Char :=
  match c with
  | '0' => some '\x00'
  | 'a' => some '\x07'
  | 'b' => some '\x08'
  | 't' | '\t' => some '\t'
  | 'n' => some '\n'
  | 'v' => some '\x0b'
  | 'f' => some '\x0c'
  | 'r' => some '\r'
  | 'e' => some '\x1b'
  | ' ' => some ' '
  | '"' => some '"'
  | '/' => some '/'
  | '\\' => some '\\'
  | 'N' => some '\u0085'
  | '_' => some '\u00a0'
  | 'L' => some '\u2028'
  | 'P' => some '\u2029'
  | _ => none

/-- The number of hexadecimal digits after an escape that gives a code point. -/
def escapeDigits? (c : Char) : Option Nat :=
  match c with
  | 'x' => some 2
  | 'u' => some 4
  | 'U' => some 8
  | _ => none

/-- The number that hexadecimal digits spell. -/
def hexNumber? (digits : List Char) : Option Nat := do
  return (← digits.mapM Text.hexValue?).foldl (fun n d => n * 16 + d) 0

/-- Reads the escape after a backslash. -/
def readQuotedEscape (c : Cursor) : Option (Char × Cursor) :=
  match escapeDigits? c.next with
  | some count => do
    let digits := c.skip.rest.take count
    let n ← hexNumber? digits
    if digits.length < count ∨ (0xD800 ≤ n ∧ n ≤ 0xDFFF) ∨ 0x10FFFF < n then none
    else some (Char.ofNat n, c.skipBy (count + 1))
  | none => do return (← escapedChar? c.next, c.skip)

/-- Reads a stretch without blanks of a quoted scalar, up to a blank, the closing quote or an
escaped line end; the last component says whether it was such a line end. -/
def readQuotedStretch (quote : Char) (before : List Char) (c : Cursor) :
    Nat → Option (List Char × Cursor × Bool)
  | 0 => none
  | fuel + 1 =>
    if isGapOrEnd c.next then some (before, c, false)
    else if quote == '\'' && c.next == '\'' && c.look 1 == '\'' then
      readQuotedStretch quote ('\'' :: before) (c.skipBy 2) fuel
    else if c.next == quote then some (before, c, false)
    else if quote == '"' && c.next == '\\' then
      if isBreak (c.look 1) then some (before, c.skip.skipBreak, true)
      else do
        let (escaped, c) ← readQuotedEscape c.skip
        readQuotedStretch quote (escaped :: before) c fuel
    else readQuotedStretch quote (c.next :: before) c.skip fuel

/-- Reads a quoted scalar up to its closing quote. -/
def readQuoted (quote : Char) (before : List Char) (c : Cursor) : Nat → Option (List Char × Cursor)
  | 0 => none
  | fuel + 1 =>
    if c.atDocumentMark || isEnd c.next then none
    else do
      let (before, c, broken) ← readQuotedStretch quote before c (c.rest.length + 1)
      if c.next == quote then some (before, c.skip)
      else do
        let (gap, c) ← readGap 0 { broken } c (c.rest.length + 1)
        readQuoted quote (gap.fold.reverse ++ before) c fuel

/-- Scans a quoted scalar after its opening quote. -/
def scanQuoted (quote : Char) (c : Cursor) : Option (String × Cursor) := do
  let (text, c) ← readQuoted quote [] c (c.rest.length + 1)
  return (String.ofList text.reverse, c)

/-! ### Blocks -/

/-- What becomes of the line ends at the end of a block. -/
inductive Chomping where
  | strip
  | clip
  | keep
deriving DecidableEq

/-- The chomping that a mark stands for. -/
def Chomping.ofMark? (c : Char) : Option Chomping :=
  if c == '+' then some .keep else if c == '-' then some .strip else none

/-- Reads a digit that gives the indentation; zero is refused. -/
def readIncrement (c : Cursor) : Option (Nat × Cursor) :=
  if c.next.isDigit then
    if c.next == '0' then none else some (c.next.toNat - '0'.toNat, c.skip)
  else some (0, c)

/-- Reads the marks in the first line of a block, in either order. -/
def readBlockMarks (c : Cursor) : Option (Chomping × Nat × Cursor) :=
  match Chomping.ofMark? c.next with
  | some chomping => do
    let (increment, c) ← readIncrement c.skip
    return (chomping, increment, c)
  | none => do
    let (increment, c) ← readIncrement c
    if increment = 0 then return (.clip, 0, c)
    else
      match Chomping.ofMark? c.next with
      | some chomping => return (chomping, increment, c.skip)
      | none => return (.clip, increment, c)

/-- Passes spaces up to a column, or any number of them when it is zero. -/
def skipIndent (indent : Nat) (c : Cursor) : Cursor :=
  let spaces := (c.rest.takeWhile (· == ' ')).length
  c.skipBy (if indent = 0 then spaces else min spaces (indent - c.column))

/-- Reads the empty lines before a line of a block; also the greatest column reached in them. -/
def readBlockBreaks (indent widest : Nat) (breaks : List Char) (c : Cursor) :
    Nat → Option (List Char × Nat × Cursor)
  | 0 => none
  | fuel + 1 =>
    let c := skipIndent indent c
    let widest := max widest c.column
    if (indent = 0 ∨ c.column < indent) ∧ c.next = '\t' then none
    else if isBreak c.next then
      let (text, c) := c.readBreak
      readBlockBreaks indent widest (breaks ++ text) c fuel
    else some (breaks, widest, c)

/-- Reads the lines of a block; `before` holds the text so far, last character first, `lineEnd` the
end of the latest line and `breaks` the empty lines after it. -/
def readBlockLines (literal : Bool) (indent : Nat) (before lineEnd breaks : List Char)
    (afterBlank : Bool) (c : Cursor) :
    Nat → Option (List Char × List Char × List Char × Cursor)
  | 0 => none
  | fuel + 1 =>
    if c.column = indent ∧ !isEnd c.next then do
      let startsBlank := isGap c.next
      let joint :=
        if !literal && lineEnd == ['\n'] && !afterBlank && !startsBlank then
          if breaks.isEmpty then [' '] else []
        else lineEnd
      let (line, c) := c.readWhile (!isBreakOrEnd ·)
      let (lineEnd, c) := c.readBreak
      let before := line.reverse ++ (breaks.reverse ++ (joint.reverse ++ before))
      let (breaks, _, c) ← readBlockBreaks indent 0 [] c (c.rest.length + 1)
      readBlockLines literal indent before lineEnd breaks startsBlank c fuel
    else some (before, lineEnd, breaks, c)

/-- Scans a block after its first mark; `parentIndent` is the indentation around it. -/
def scanBlock (literal : Bool) (parentIndent : Int) (c : Cursor) : Option (String × Cursor) := do
  let (chomping, increment, c) ← readBlockMarks c
  let c ← c.skipLineRest
  let given := if increment = 0 then 0 else (max parentIndent 0).toNat + increment
  let (breaks, widest, c) ← readBlockBreaks given 0 [] c (c.rest.length + 1)
  let indent := if given = 0 then max (max widest (parentIndent + 1).toNat) 1 else given
  let (text, lineEnd, breaks, c) ←
    readBlockLines literal indent [] [] breaks false c (c.rest.length + 1)
  let text := if chomping = .strip then text else lineEnd.reverse ++ text
  let text := if chomping = .keep then breaks.reverse ++ text else text
  return (String.ofList text.reverse, c)

end ComponentTree.Yaml
