import ComponentTree.Json.Basic
import ComponentTree.Json.SyntaxError
import ComponentTree.Text.Digit

/-!
Reading JSON source text. Every reader takes the characters that are left and returns what it read
together with the characters after it; a reader that fails says which characters were left and how
many bytes beyond them the fault lies, and `Json.parse` turns that into a position.

A number with neither fraction nor exponent that fits 64 bits (signed below zero) is an integer.
Any other number is a floating-point number: digits go into a significand of 64 bits while they
fit, the significand is rounded, and the result is multiplied or divided by a rounded power of ten.
-/

namespace ComponentTree.Json

/-- A fault met with `rest` unread, lying `ahead` bytes into it. -/
structure Stop where
  fault : SyntaxFault
  rest : List Char
  ahead : Nat := 0

/-- A fault at the first unread character, of which it takes one byte. -/
def stopAtNext (fault : SyntaxFault) (rest : List Char) : Stop :=
  { fault, rest, ahead := 1 }

/-- Number of bytes of the characters. -/
def byteCount (cs : List Char) : Nat :=
  cs.foldl (fun n c => n + c.utf8Size) 0

/-- The place of a fault in the source. -/
def Stop.toError (source : List Char) (stop : Stop) : SyntaxError :=
  let total := byteCount source
  { fault := stop.fault
    position := .ofOffset source (min total (total - byteCount stop.rest + stop.ahead)) }

/-- Blanks between tokens. -/
def isBlank (c : Char) : Bool :=
  c = ' ' || c = '\n' || c = '\t' || c = '\r'

/-- Leaves out leading blanks. -/
def skipBlanks (cs : List Char) : List Char :=
  cs.dropWhile isBlank

/-! ### Numbers -/

/-- The greatest significand. -/
def maxSignificand : Nat := twoPow 64 - 1

/-- Appends leading digits to a significand while it stays within `limit`. Returns the significand,
the number of digits taken and the characters after them. -/
def takeDigits (limit significand count : Nat) : List Char → Nat × Nat × List Char
  | [] => (significand, count, [])
  | c :: rest =>
    let next := significand * 10 + (c.toNat - '0'.toNat)
    if c.isDigit && next ≤ limit then takeDigits limit next (count + 1) rest
    else (significand, count, c :: rest)

/-- Multiplies or divides by a power of ten, in steps of at most `10 ^ 308`; `none` when the result
is too great. A significand below `2 ^ 64` needs at most three steps. -/
def scaleByTen (x : Binary64) (exponent : Int) : Nat → Option Binary64
  | 0 => some x
  | steps + 1 =>
    if exponent.natAbs ≤ 308 then do
      let power ← Binary64.ofTenPow exponent.natAbs
      if 0 ≤ exponent then x.mul power else x.div power
    else if x.isZero then some x
    else if 0 ≤ exponent then none
    else do
      let power ← Binary64.ofTenPow 308
      scaleByTen (← x.div power) (exponent + 308) steps

/-- The floating-point number `±significand · 10 ^ exponent`. -/
def floatOfParts (negative : Bool) (significand : Nat) (exponent : Int) : Option Binary64 :=
  ((Binary64.ofNat significand).bind (scaleByTen · exponent 3)).map (·.withSign negative)

/-- Ends a floating-point number. -/
def finishFloat (negative : Bool) (significand : Nat) (exponent : Int) (rest : List Char) :
    Except Stop (Number × List Char) :=
  match floatOfParts negative significand exponent with
  | some x => .ok (.float x, rest)
  | none => .error { fault := .numberOutOfRange, rest }

/-- The greatest exponent that is read as such. -/
def maxExponent : Nat := twoPow 31 - 1

/-- Reads what follows the exponent mark: a sign and at least one digit. An exponent beyond
`maxExponent` makes the number zero or too great. -/
def readExponent (negative : Bool) (significand : Nat) (start : Int) (cs : List Char) :
    Except Stop (Number × List Char) :=
  let (down, cs) :=
    match cs with
    | '+' :: rest => (false, rest)
    | '-' :: rest => (true, rest)
    | _ => (false, cs)
  match cs with
  | [] => .error { fault := .endInValue, rest := [] }
  | c :: _ =>
    if !c.isDigit then .error (stopAtNext .invalidNumber cs)
    else
      let (exponent, _, rest) := takeDigits maxExponent 0 0 cs
      let total := if down then start - exponent else start + exponent
      match rest with
      | d :: after =>
        if d.isDigit then
          if significand ≠ 0 ∧ !down then .error { fault := .numberOutOfRange, rest := after }
          else .ok (.float (.zero negative), after.dropWhile Char.isDigit)
        else finishFloat negative significand total rest
      | [] => finishFloat negative significand total rest

/-- Reads an exponent if there is one, and ends the number otherwise. -/
def readTail (negative : Bool) (significand : Nat) (exponent : Int) (cs : List Char) :
    Except Stop (Number × List Char) :=
  match cs with
  | 'e' :: rest | 'E' :: rest => readExponent negative significand exponent rest
  | _ => finishFloat negative significand exponent cs

/-- Reads the digits after the point, of which there is at least one. Digits that do not fit the
significand are passed over. -/
def readFraction (negative : Bool) (significand : Nat) (exponent : Int) (cs : List Char) :
    Except Stop (Number × List Char) :=
  let (significand, count, rest) := takeDigits maxSignificand significand 0 cs
  match rest with
  | d :: _ =>
    if d.isDigit then
      readTail negative significand (exponent - count) (rest.dropWhile Char.isDigit)
    else if count = 0 then .error (stopAtNext .invalidNumber rest)
    else readTail negative significand (exponent - count) rest
  | [] =>
    if count = 0 then .error { fault := .endInValue, rest }
    else readTail negative significand (exponent - count) rest

/-- An integer literal whose digits fit: below `-2 ^ 63`, and for a negative zero, it becomes a
floating-point number. -/
def integerOrFloat (negative : Bool) (significand : Nat) : Number :=
  if !negative then .integer significand
  else if significand = 0 ∨ twoPow 63 < significand then
    .float (((Binary64.ofNat significand).getD (.zero true)).withSign true)
  else .integer (-significand)

/-- Reads a number after its sign. -/
def readNumber (negative : Bool) (cs : List Char) : Except Stop (Number × List Char) :=
  match cs with
  | [] => .error { fault := .endInValue, rest := [] }
  | '0' :: rest =>
    match rest with
    | '.' :: rest => readFraction negative 0 0 rest
    | 'e' :: rest | 'E' :: rest => readExponent negative 0 0 rest
    | d :: _ =>
      if d.isDigit then .error (stopAtNext .invalidNumber rest)
      else .ok (integerOrFloat negative 0, rest)
    | [] => .ok (integerOrFloat negative 0, rest)
  | c :: _ =>
    if !c.isDigit then .error (stopAtNext .invalidNumber cs)
    else
      let (significand, _, rest) := takeDigits maxSignificand 0 0 cs
      match rest with
      | '.' :: rest => readFraction negative significand 0 rest
      | 'e' :: rest | 'E' :: rest => readExponent negative significand 0 rest
      | d :: _ =>
        if d.isDigit then
          let passed : Int := (rest.takeWhile Char.isDigit).length
          match rest.dropWhile Char.isDigit with
          | '.' :: rest => readFraction negative significand passed rest
          | rest => readTail negative significand passed rest
        else .ok (integerOrFloat negative significand, rest)
      | [] => .ok (integerOrFloat negative significand, rest)

/-! ### Strings -/

/-- Reads four hexadecimal digits. -/
def readHex (cs : List Char) : Except Stop (Nat × List Char) :=
  if byteCount (cs.take 4) < 4 then .error { fault := .endInString, rest := [] }
  else
    match cs.take 4 |>.mapM Text.hexValue? with
    | some digits => .ok (digits.foldl (fun n d => n * 16 + d) 0, cs.drop 4)
    | none => .error { fault := .invalidEscape, rest := cs, ahead := 4 }

/-- Reads one given character between the halves of a surrogate pair. -/
def expectInPair (expected : Char) : List Char → Except Stop (Unit × List Char)
  | [] => .error { fault := .endInString, rest := [] }
  | c :: rest =>
    if c = expected then .ok ((), rest) else .error (stopAtNext .brokenSurrogatePair (c :: rest))

/-- Reads the four digits of a numbered character; a leading surrogate takes a second escape. -/
def readNumbered (cs : List Char) : Except Stop (Char × List Char) := do
  let (n, cs) ← readHex cs
  if 0xDC00 ≤ n ∧ n ≤ 0xDFFF then .error { fault := .loneSurrogate, rest := cs }
  else if n < 0xD800 ∨ 0xDFFF < n then .ok (Char.ofNat n, cs)
  else
    let (_, cs) ← expectInPair '\\' cs
    let (_, cs) ← expectInPair 'u' cs
    let (low, cs) ← readHex cs
    if low < 0xDC00 ∨ 0xDFFF < low then .error { fault := .loneSurrogate, rest := cs }
    else .ok (Char.ofNat ((n - 0xD800) * 0x400 + (low - 0xDC00) + 0x10000), cs)

/-- Reads an escape after its backslash. -/
def readEscape : List Char → Except Stop (Char × List Char)
  | [] => .error { fault := .endInString, rest := [] }
  | c :: rest =>
    match c with
    | '"' | '\\' | '/' => .ok (c, rest)
    | 'b' => .ok ('\x08', rest)
    | 'f' => .ok ('\x0c', rest)
    | 'n' => .ok ('\n', rest)
    | 'r' => .ok ('\r', rest)
    | 't' => .ok ('\t', rest)
    | 'u' => readNumbered rest
    | _ => .error (stopAtNext .invalidEscape (c :: rest))

/-- Reads a string after its opening quote; `before` holds what was read, last character first. -/
def readString (before : List Char) (cs : List Char) : Nat → Except Stop (String × List Char)
  | 0 => .error { fault := .endInString, rest := [] }
  | fuel + 1 =>
    match cs with
    | [] => .error { fault := .endInString, rest := [] }
    | c :: rest =>
      if c = '"' then .ok (String.ofList before.reverse, rest)
      else if c = '\\' then do
        let (c, rest) ← readEscape rest
        readString (c :: before) rest fuel
      else if c.toNat < 32 then .error { fault := .controlCharacter, rest }
      else readString (c :: before) rest fuel

/-! ### Values -/

/-- Reads the letters of a word after its first. -/
def readWord : List Char → List Char → Except Stop (Unit × List Char)
  | [], cs => .ok ((), cs)
  | _ :: _, [] => .error { fault := .endInValue, rest := [] }
  | expected :: more, c :: rest =>
    if c = expected then readWord more rest else .error (stopAtNext .identExpected (c :: rest))

mutual

/-- Reads a value. `depth` is one more than the number of containers that may be opened inside one
another; every step takes one from the fuel, and the length of the text is enough of it. -/
def readValue (fuel depth : Nat) (cs : List Char) : Except Stop (Json × List Char) :=
  match fuel with
  | 0 => .error { fault := .endInValue, rest := [] }
  | fuel + 1 =>
    match skipBlanks cs with
    | [] => .error { fault := .endInValue, rest := [] }
    | c :: rest =>
      match c with
      | 'n' => do let (_, rest) ← readWord ['u', 'l', 'l'] rest; .ok (.null, rest)
      | 't' => do let (_, rest) ← readWord ['r', 'u', 'e'] rest; .ok (.bool true, rest)
      | 'f' => do let (_, rest) ← readWord ['a', 'l', 's', 'e'] rest; .ok (.bool false, rest)
      | '-' => do let (n, rest) ← readNumber true rest; .ok (.number n, rest)
      | '"' => do let (s, rest) ← readString [] rest (rest.length + 1); .ok (.string s, rest)
      | '[' =>
        if depth ≤ 1 then .error (stopAtNext .tooDeep (c :: rest))
        else do
          let (items, rest) ← readItems fuel (depth - 1) true [] rest
          .ok (.array items, rest)
      | '{' =>
        if depth ≤ 1 then .error (stopAtNext .tooDeep (c :: rest))
        else do
          let (fields, rest) ← readFields fuel (depth - 1) true [] rest
          .ok (.object fields, rest)
      | _ =>
        if c.isDigit then do
          let (n, rest) ← readNumber false (c :: rest)
          .ok (.number n, rest)
        else .error (stopAtNext .valueExpected (c :: rest))

/-- Reads the items of an array up to its closing bracket; `before` holds those already read, last
first. -/
def readItems (fuel depth : Nat) (first : Bool) (before : List Json) (cs : List Char) :
    Except Stop (List Json × List Char) :=
  match fuel with
  | 0 => .error { fault := .endInList, rest := [] }
  | fuel + 1 =>
    match skipBlanks cs with
    | [] => .error { fault := .endInList, rest := [] }
    | ']' :: rest => .ok (before.reverse, rest)
    | c :: rest =>
      if first then do
        let (item, rest) ← readValue fuel depth (c :: rest)
        readItems fuel depth false (item :: before) rest
      else if c = ',' then
        match skipBlanks rest with
        | [] => .error { fault := .endInValue, rest := [] }
        | ']' :: rest => .error (stopAtNext .trailingComma (']' :: rest))
        | rest => do
          let (item, rest) ← readValue fuel depth rest
          readItems fuel depth false (item :: before) rest
      else .error (stopAtNext .listEndExpected (c :: rest))

/-- Reads the fields of an object up to its closing brace. -/
def readFields (fuel depth : Nat) (first : Bool) (before : Fields Json) (cs : List Char) :
    Except Stop (Fields Json × List Char) :=
  match fuel with
  | 0 => .error { fault := .endInObject, rest := [] }
  | fuel + 1 =>
    match skipBlanks cs with
    | [] => .error { fault := .endInObject, rest := [] }
    | '}' :: rest => .ok (before, rest)
    | c :: rest =>
      if first then
        if c = '"' then readField fuel depth before rest
        else .error (stopAtNext .nameExpected (c :: rest))
      else if c = ',' then
        match skipBlanks rest with
        | [] => .error { fault := .endInValue, rest := [] }
        | '}' :: rest => .error (stopAtNext .trailingComma ('}' :: rest))
        | '"' :: rest => readField fuel depth before rest
        | rest => .error (stopAtNext .nameExpected rest)
      else .error (stopAtNext .objectEndExpected (c :: rest))

/-- Reads a field after the opening quote of its name, and then the fields after it. -/
def readField (fuel depth : Nat) (before : Fields Json) (cs : List Char) :
    Except Stop (Fields Json × List Char) :=
  match fuel with
  | 0 => .error { fault := .endInObject, rest := [] }
  | fuel + 1 => do
    let (name, rest) ← readString [] cs (cs.length + 1)
    match skipBlanks rest with
    | [] => .error { fault := .endInObject, rest := [] }
    | ':' :: rest => do
      let (value, rest) ← readValue fuel depth rest
      readFields fuel depth false (before.insert name value) rest
    | rest => .error (stopAtNext .colonExpected rest)

end

/-- Containers may be opened inside one another this many times, less one. -/
def defaultDepth : Nat := 128

/-- Reads a text that holds one value and blanks around it. -/
def parseWithin (depth : Nat) (source : String) : Except SyntaxError Json :=
  let cs := source.toList
  let outcome : Except Stop Json := do
    let (value, rest) ← readValue (3 * cs.length + 3) depth cs
    match skipBlanks rest with
    | [] => .ok value
    | rest => .error (stopAtNext .trailingCharacters rest)
  outcome.mapError (·.toError cs)

/-- Reads a text that holds one value, with at most 127 containers inside one another. -/
def parse (source : String) : Except SyntaxError Json :=
  parseWithin defaultDepth source

end ComponentTree.Json
