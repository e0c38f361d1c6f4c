import ComponentTree.Yaml.Cursor
import ComponentTree.Yaml.Token.Basic
import ComponentTree.Text.Digit

/-!
Scanning tags, anchors and directives. The text of a tag is a sequence of bytes: characters of a
URI, and escapes of two hexadecimal digits that together spell UTF-8 sequences by their first byte.
A zero byte ends the text.
-/

namespace ComponentTree.Yaml

/-- Characters as bytes; they are below U+0080. -/
def asciiBytes (cs : List Char) : List UInt8 :=
  cs.map fun c => UInt8.ofNat c.toNat

/-! ### Tags -/

/-- Whether the character may stand in a tag; flow marks may between angle brackets only. -/
def isUriChar (verbatim : Bool) (c : Char) : Bool :=
  isWordChar c || [';', '/', '?', ':', '@', '&', '=', '+', '$', '.', '%', '!', '~', '*', '\'', '(',
    ')'].contains c || (verbatim && [',', '[', ']'].contains c)

/-- The number of bytes of the sequence that a first byte begins. -/
def sequenceLength? (byte : Nat) : Option Nat :=
  if byte < 0x80 then some 1
  else if 0xC0 ≤ byte ∧ byte < 0xE0 then some 2
  else if 0xE0 ≤ byte ∧ byte < 0xF0 then some 3
  else if 0xF0 ≤ byte ∧ byte < 0xF8 then some 4
  else none

/-- Reads one escaped byte. -/
def readEscapedByte (c : Cursor) : Option (Nat × Cursor) :=
  if c.next == '%' then do
    let high ← Text.hexValue? (c.look 1)
    let low ← Text.hexValue? (c.look 2)
    return (16 * high + low, c.skipBy 3)
  else none

/-- Reads the escaped bytes that continue a sequence. -/
def readContinuation (c : Cursor) : Nat → Option (List UInt8 × Cursor)
  | 0 => some ([], c)
  | count + 1 => do
    let (byte, c) ← readEscapedByte c
    if byte < 0x80 ∨ 0xC0 ≤ byte then none
    else
      let (bytes, c) ← readContinuation c count
      return (UInt8.ofNat byte :: bytes, c)

/-- Reads the bytes of a tag; `before` holds what was read, last byte first. -/
def readUri (verbatim : Bool) (before : List UInt8) (c : Cursor) :
    Nat → Option (List UInt8 × Cursor)
  | 0 => none
  | fuel + 1 =>
    if c.next == '%' then do
      let (byte, c) ← readEscapedByte c
      let (bytes, c) ← readContinuation c ((← sequenceLength? byte) - 1)
      readUri verbatim (bytes.reverse ++ UInt8.ofNat byte :: before) c fuel
    else if isUriChar verbatim c.next then
      readUri verbatim (UInt8.ofNat c.next.toNat :: before) c.skip fuel
    else some (before.reverse, c)

/-- Scans the bytes of a tag up to the first zero byte. At least one character is read. -/
def scanUri (verbatim : Bool) (c : Cursor) : Option (List UInt8 × Cursor) := do
  let (bytes, after) ← readUri verbatim [] c (c.rest.length + 1)
  if after.index = c.index then none else return (bytes.takeWhile (· != 0), after)

/-- Scans a handle: an exclamation mark, then word characters and, if it is there, another mark. -/
def scanHandle (c : Cursor) : Option (List Char × Cursor) :=
  if c.next == '!' then
    let (word, after) := c.skip.readWhile isWordChar
    if after.next == '!' then some ('!' :: word ++ ['!'], after.skip)
    else some ('!' :: word, after)
  else none

/-- Scans the handle and the suffix of a tag. -/
def scanTagParts (c : Cursor) : Option (List UInt8 × List UInt8 × Cursor) :=
  if c.look 1 == '<' then do
    let (suffix, c) ← scanUri true (c.skipBy 2)
    if c.next == '>' then return ([], suffix, c.skip) else none
  else do
    let (handle, c) ← scanHandle c
    if 1 < handle.length ∧ handle.getLast? = some '!' then
      let (suffix, c) ← scanUri false c
      return (asciiBytes handle, suffix, c)
    else
      let (more, c) ← readUri false [] c (c.rest.length + 1)
      let suffix := (asciiBytes (handle.drop 1) ++ more).takeWhile (· != 0)
      let mark := asciiBytes ['!']
      return if suffix.isEmpty then ([], mark, c) else (mark, suffix, c)

/-- Scans a tag. -/
def scanTag (inFlow : Bool) (c : Cursor) : Option (Token × Cursor) := do
  let (handle, suffix, c) ← scanTagParts c
  if isGapOrEnd c.next || (inFlow && c.next == ',') then return (.tag handle suffix, c) else none

/-! ### Anchors -/

/-- Whether the character may follow the name of an anchor. -/
def endsAnchorName (c : Char) : Bool :=
  isGapOrEnd c || ['?', ':', ',', ']', '}', '%', '@', '\x60'].contains c

/-- Scans the name of an anchor or an alias after its mark. -/
def scanAnchorName (c : Cursor) : Option (String × Cursor) :=
  let (name, c) := c.skip.readWhile isWordChar
  if !name.isEmpty && endsAnchorName c.next then some (String.ofList name, c) else none

/-! ### Directives -/

/-- Scans a number of at most nine digits. -/
def scanVersionNumber (c : Cursor) : Option (Nat × Cursor) :=
  let (digits, c) := c.readWhile Char.isDigit
  if digits.isEmpty ∨ 9 < digits.length then none
  else some (digits.foldl (fun n d => n * 10 + (d.toNat - '0'.toNat)) 0, c)

/-- Scans the value of a version directive. -/
def scanVersion (c : Cursor) : Option (Token × Cursor) := do
  let (major, c) ← scanVersionNumber (c.skipWhile isGap)
  if c.next == '.' then
    let (minor, c) ← scanVersionNumber c.skip
    return (.versionDirective major minor, c)
  else none

/-- Scans the value of a tag directive: a handle and what it stands for. -/
def scanTagDirective (c : Cursor) : Option (Token × Cursor) := do
  let (handle, c) ← scanHandle (c.skipWhile isGap)
  if handle.getLast? = some '!' ∧ isGap c.next then
    let (leading, c) ← scanUri true (c.skipWhile isGap)
    if isGapOrEnd c.next then return (.tagDirective (asciiBytes handle) leading, c) else none
  else none

/-- Scans a directive with the rest of its line. -/
def scanDirective (c : Cursor) : Option (Token × Cursor) := do
  let (name, c) := c.skip.readWhile isWordChar
  if isGapOrEnd c.next then
    let (token, c) ←
      if name = ['Y', 'A', 'M', 'L'] then scanVersion c
      else if name = ['T', 'A', 'G'] then scanTagDirective c
      else none
    return (token, ← c.skipLineRest)
  else none

end ComponentTree.Yaml
