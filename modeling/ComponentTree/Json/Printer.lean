import ComponentTree.Json.Basic
import ComponentTree.Decimal.Shortest

/-!
Compact JSON text. `write value rest` is the text of `value` followed by `rest`; strings are
escaped as little as the format allows, numbers are written by `Number.chars`, and nothing is
written between tokens.
-/

namespace ComponentTree

/-- A number as JSON text. -/
def Number.chars : Number → List Char
  | .integer n => Decimal.intChars n
  | .float x => Decimal.floatChars x

/-- A number as JSON text. -/
def Number.text (n : Number) : String :=
  String.ofList n.chars

namespace Json

/-- A hexadecimal digit in lower case. -/
def hexDigit (n : Nat) : Char :=
  Nat.digitChar n

/-- One character of a string: a quote and a backslash are escaped, and so are the characters
below the space; everything else stands for itself. -/
def escape (c : Char) : List Char :=
  if c = '"' then ['\\', '"']
  else if c = '\\' then ['\\', '\\']
  else if c = '\n' then ['\\', 'n']
  else if c = '\r' then ['\\', 'r']
  else if c = '\t' then ['\\', 't']
  else if c.toNat = 8 then ['\\', 'b']
  else if c.toNat = 12 then ['\\', 'f']
  else if c.toNat < 32 then
    ['\\', 'u', '0', '0', hexDigit (c.toNat / 16), hexDigit (c.toNat % 16)]
  else [c]

/-- A quoted string, then `rest`. -/
def writeString (s : String) (rest : List Char) : List Char :=
  '"' :: s.toList.foldr (fun c tail => escape c ++ tail) ('"' :: rest)

mutual

/-- The text of a value, then `rest`. -/
def write : Json → List Char → List Char
  | null, rest => 'n' :: 'u' :: 'l' :: 'l' :: rest
  | bool true, rest => 't' :: 'r' :: 'u' :: 'e' :: rest
  | bool false, rest => 'f' :: 'a' :: 'l' :: 's' :: 'e' :: rest
  | number n, rest => n.chars ++ rest
  | string s, rest => writeString s rest
  | array items, rest => '[' :: writeItems items rest
  | object fields, rest => '{' :: writeFields fields rest

/-- The items of an array and its closing bracket, then `rest`. -/
def writeItems : List Json → List Char → List Char
  | [], rest => ']' :: rest
  | [item], rest => item.write (']' :: rest)
  | item :: items, rest => item.write (',' :: writeItems items rest)

/-- The fields of an object and its closing brace, then `rest`. -/
def writeFields : List (String × Json) → List Char → List Char
  | [], rest => '}' :: rest
  | [(name, value)], rest => writeString name (':' :: value.write ('}' :: rest))
  | (name, value) :: fields, rest =>
    writeString name (':' :: value.write (',' :: writeFields fields rest))

end

/-- The characters of the text of a value. -/
def chars (value : Json) : List Char :=
  value.write []

/-- The text of a value. -/
def text (value : Json) : String :=
  String.ofList value.chars

/-- Strings as they are, any other value as its text. -/
def literal : Json → String
  | string s => s
  | value => value.text

end Json

end ComponentTree
