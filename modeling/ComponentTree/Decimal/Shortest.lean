import ComponentTree.Decimal.Binary64

/-!
The shortest decimal that reads back. `Interval` is the set of reals that round to a given
magnitude: half a unit to each side, a quarter below a power of two, ends included exactly when
the mantissa is even. `shortest` looks at coarser decimal grids before finer ones and takes the
nearest point of the first grid that has a point in the interval. The finest grid it tries holds
the magnitude itself, so there is always such a point.
-/

namespace ComponentTree.Decimal

/-- Reals between two ratios with one denominator; `closed` says whether the ends belong to it. -/
structure Interval where
  low : Nat
  high : Nat
  den : Nat
  closed : Bool

namespace Interval

/-- Whether `num / den` lies in the interval. -/
def contains (range : Interval) (num den : Nat) : Bool :=
  if range.closed then
    range.low * den ≤ num * range.den && num * range.den ≤ range.high * den
  else
    range.low * den < num * range.den && num * range.den < range.high * den

/-- The reals that round to the magnitude of `x`, in quarters of its unit. -/
def ofBinary64 (x : Binary64) : Interval :=
  let below := if x.mantissa = twoPow 52 ∧ x.exponent ≠ -1074 then 1 else 2
  let unit := twoPow x.exponent.toNat
  { low := (4 * x.mantissa - below) * unit
    high := (4 * x.mantissa + 2) * unit
    den := 4 * twoPow (-x.exponent).toNat
    closed := x.mantissa % 2 = 0 }

end Interval

/-- A decimal `digits · 10 ^ exponent`. -/
structure Digits where
  digits : Nat
  exponent : Int
deriving DecidableEq, Repr

namespace Digits

/-- The value as a ratio of natural numbers. -/
def ratio (d : Digits) : Nat × Nat :=
  (d.digits * tenPow d.exponent.toNat, tenPow (-d.exponent).toNat)

end Digits

/-- Of the two neighbours of `num / den` on the grid `10 ^ exponent`, the nearest in `range`; of
two equally near ones the even. -/
def nearestOnGrid (range : Interval) (num den : Nat) (exponent : Int) : Option Digits :=
  let n := num * tenPow (-exponent).toNat
  let d := den * tenPow exponent.toNat
  let lower : Digits := ⟨n / d, exponent⟩
  let upper : Digits := ⟨n / d + 1, exponent⟩
  let holds (p : Digits) : Bool := range.contains p.ratio.1 p.ratio.2
  let twice := 2 * (n % d)
  let lowerNearer := twice < d || (twice == d && lower.digits % 2 == 0)
  if lowerNearer then
    if holds lower then some lower else if holds upper then some upper else none
  else
    if holds upper then some upper else if holds lower then some lower else none

/-- Tries the grids from `10 ^ (finest + steps)` down to `10 ^ finest`. -/
def firstOnGrids (range : Interval) (num den : Nat) (finest : Int) : Nat → Digits
  | 0 => ⟨num * tenPow (-finest).toNat / (den * tenPow finest.toNat), finest⟩
  | steps + 1 =>
    match nearestOnGrid range num den (finest + (steps + 1 : Nat)) with
    | some hit => hit
    | none => firstOnGrids range num den finest steps

/-- The shortest decimal that rounds to the magnitude of `x`, and of those the nearest to it. -/
def shortest (x : Binary64) : Digits :=
  let (num, den) := x.ratio
  let finest := min x.exponent 0
  let top : Int := (Nat.toDigits 10 (num / den)).length
  firstOnGrids (Interval.ofBinary64 x) num den finest (top - finest).toNat

/-! ### Written form -/

/-- Decimal digits of a natural number. -/
def digitChars (n : Nat) : List Char :=
  Nat.toDigits 10 n

/-- An integer in decimal, with a minus sign when it is negative. -/
def intChars : Int → List Char
  | .ofNat n => digitChars n
  | .negSucc n => '-' :: digitChars (n + 1)

/-- A magnitude `0.digits · 10 ^ point` whose digit string does not end in zero: positional with
at least one decimal for `-5 < point ≤ 16`, otherwise one digit before the point and an exponent
without a plus sign. -/
def layout (digits : List Char) (point : Int) : List Char :=
  let count : Int := digits.length
  if count ≤ point ∧ point ≤ 16 then
    digits ++ List.replicate (point - count).toNat '0' ++ ['.', '0']
  else if 0 < point ∧ point ≤ 16 then
    digits.take point.toNat ++ '.' :: digits.drop point.toNat
  else if -5 < point ∧ point ≤ 0 then
    '0' :: '.' :: (List.replicate (-point).toNat '0' ++ digits)
  else
    match digits with
    | [] => []
    | first :: [] => first :: 'e' :: intChars (point - 1)
    | first :: rest => first :: '.' :: rest ++ 'e' :: intChars (point - 1)

/-- The text of a floating-point number: the shortest decimal that reads back. -/
def floatChars (x : Binary64) : List Char :=
  let sign := if x.negative then ['-'] else []
  if x.isZero then sign ++ ['0', '.', '0']
  else
    let found := shortest x
    let all := digitChars found.digits
    let digits := (all.reverse.dropWhile (· = '0')).reverse
    sign ++ layout digits (all.length + found.exponent)

end ComponentTree.Decimal
