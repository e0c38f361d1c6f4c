import ComponentTree.Decimal.Binary64
import ComponentTree.Text.Digit

/-!
What a scalar without quotes stands for: null, a truth value, an integer, a floating-point number,
or its own text. The forms of the first four are fixed; in every other case the text stands for
itself. An integer that needs more than 64 bits but not more than 128 is refused; a longer one is a
floating-point number.
-/

namespace ComponentTree.Yaml

/-- A value that is no collection. -/
inductive Scalar where
  | null
  | bool (value : Bool)
  | integer (value : Int)
  | float (value : Binary64)
  | infinite (negative : Bool)
  | notANumber
  | text (value : String)
deriving DecidableEq

namespace Scalar

/-- Whether two scalars are equal; the two zeros are. -/
def same : Scalar → Scalar → Bool
  | float x, float y => x = y || (x.isZero && y.isZero)
  | a, b => a = b

/-! ### Null and truth values -/

/-- Whether the text says that there is no value. -/
def isNull (text : String) : Bool :=
  ["null", "Null", "NULL", "~"].contains text

/-- The truth value that a text stands for. -/
def bool? (text : String) : Option Bool :=
  if ["true", "True", "TRUE"].contains text then some true
  else if ["false", "False", "FALSE"].contains text then some false
  else none

/-! ### Integers -/

/-- Splits off a sign: whether it is there, and whether it is a minus. -/
def splitSign : List Char → Option Bool × List Char
  | '+' :: rest => (some false, rest)
  | '-' :: rest => (some true, rest)
  | cs => (none, cs)

/-- Whether these are digits with a zero in front that is not the only one. Such a text is no
number. -/
def isPadded (cs : List Char) : Bool :=
  1 < cs.length && cs.head? == some '0' && cs.all Char.isDigit

/-- The magnitude of an integer. -/
def magnitude? : List Char → Option Nat
  | '0' :: 'x' :: digits => Text.readNat? 16 digits
  | '0' :: 'o' :: digits => Text.readNat? 8 digits
  | '0' :: 'b' :: digits => Text.readNat? 2 digits
  | cs => if isPadded cs then none else Text.readNat? 10 cs

/-- The integer that a text spells, of any size. -/
def spelled? (text : String) : Option Int := do
  let (sign, cs) := splitSign text.toList
  let n ← magnitude? cs
  return if sign = some true then -n else n

/-- Whether an integer fits a number of bits, signed if it is negative. -/
def fits (bits : Nat) (n : Int) : Bool :=
  -(twoPow (bits - 1) : Int) ≤ n && n < twoPow bits

/-- The integer that a text stands for. -/
def integer? (text : String) : Option Int :=
  (spelled? text).filter (fits 64)

/-! ### Floating-point numbers -/

/-- The value nearest to `±digits · 10 ^ exponent`, unless that is too great. -/
def nearest (negative : Bool) (digits : Nat) (exponent : Int) : Option Binary64 :=
  let places : Int := (Nat.toDigits 10 digits).length + exponent
  if digits = 0 ∨ places < -400 then some (.zero negative)
  else if 400 < places then none
  else Binary64.ofDecimal negative digits exponent

/-- The exponent that follows the digits; without a mark it is zero. -/
def exponent? : List Char → Option Int
  | [] => some 0
  | mark :: cs =>
    if mark = 'e' ∨ mark = 'E' then do
      let (sign, digits) := splitSign cs
      let n ← Text.readNat? 10 digits
      return if sign = some true then -n else n
    else none

/-- The number that digits with a point and an exponent spell. There is a digit before or after the
point. -/
def decimal? (negative : Bool) (cs : List Char) : Option Binary64 := do
  let whole := cs.takeWhile Char.isDigit
  let (fraction, rest) :=
    match cs.dropWhile Char.isDigit with
    | '.' :: rest => (rest.takeWhile Char.isDigit, rest.dropWhile Char.isDigit)
    | rest => ([], rest)
  let digits ← Text.readNat? 10 (whole ++ fraction)
  nearest negative digits ((← exponent? rest) - fraction.length)

/-- The floating-point number that a text stands for. -/
def float? (value : String) : Option Scalar :=
  let (sign, cs) := splitSign value.toList
  let word := String.ofList cs
  if [".inf", ".Inf", ".INF"].contains word then some (infinite (sign = some true))
  else if sign.isNone && [".nan", ".NaN", ".NAN"].contains word then some notANumber
  else (decimal? (sign = some true) cs).map float

/-! ### Plain scalars -/

/-- What a text stands for that is neither null, nor a truth value, nor an integer. -/
def ofOther (value : String) : Scalar :=
  if isPadded (splitSign value.toList).2 then text value else (float? value).getD (text value)

/-- What a text without quotes stands for. -/
def ofPlain (value : String) : Option Scalar :=
  if value.isEmpty || isNull value then some null
  else
    match bool? value, spelled? value with
    | some b, _ => some (bool b)
    | none, some n =>
      if fits 64 n then some (integer n)
      else if fits 128 n then none
      else some (ofOther value)
    | none, none => some (ofOther value)

end Scalar

end ComponentTree.Yaml
