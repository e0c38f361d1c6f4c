import ComponentTree.Decimal.Power

/-!
Finite binary floating-point numbers with 53 bits of precision, held as a sign, a mantissa and a
power of two. `Canonical` admits one pair of mantissa and exponent for each magnitude, so two
values are equal exactly when they have one sign and one magnitude. Arithmetic is exact on natural
numbers; the one rounding is `ofRatio`, which takes the nearest value and, between two nearest, the
one with the even mantissa.
-/

namespace ComponentTree

/-- The mantissa fills its 53 bits, unless the exponent is already the least one. -/
def Binary64.Canonical (mantissa : Nat) (exponent : Int) : Prop :=
  mantissa < twoPow 53 ∧ -1074 ≤ exponent ∧ exponent ≤ 971 ∧
    (twoPow 52 ≤ mantissa ∨ exponent = -1074)

instance (mantissa : Nat) (exponent : Int) : Decidable (Binary64.Canonical mantissa exponent) :=
  inferInstanceAs (Decidable (_ ∧ _))

/-- The number `±mantissa · 2 ^ exponent`. Zero has a sign. -/
structure Binary64 where
  negative : Bool
  mantissa : Nat
  exponent : Int
  canonical : Binary64.Canonical mantissa exponent
deriving DecidableEq

namespace Binary64

/-- Zero with a sign. -/
def zero (negative : Bool) : Binary64 :=
  ⟨negative, 0, -1074, by decide⟩

instance : Inhabited Binary64 := ⟨zero false⟩

/-- Whether this is one of the two zeros. -/
def isZero (x : Binary64) : Bool :=
  x.mantissa == 0

/-- The number with a given sign. -/
def withSign (negative : Bool) (x : Binary64) : Binary64 :=
  { x with negative }

/-! ### Rounding -/

/-- The natural number nearest to `num / den`; a tie goes to the even one. -/
def roundDiv (num den : Nat) : Nat :=
  let quotient := num / den
  let twice := 2 * (num % den)
  if twice < den ∨ (twice = den ∧ quotient % 2 = 0) then quotient else quotient + 1

/-- The ratio `num / den` times `2 ^ -exponent`, again as a ratio. -/
def scale (num den : Nat) (exponent : Int) : Nat × Nat :=
  (num * twoPow (-exponent).toNat, den * twoPow exponent.toNat)

/-- The exponent of the unit in which `num / den` is measured: that of its 53 leading bits, or the
least one. -/
def unitExponent (num den : Nat) : Int :=
  let guess : Int := (num.log2 : Int) - den.log2 - 53
  let (n, d) := scale num den guess
  max (if n < twoPow 53 * d then guess else guess + 1) (-1074)

/-- The value nearest to `±num / den`, unless that is past the greatest value. -/
def ofRatio (negative : Bool) (num den : Nat) : Option Binary64 :=
  if num = 0 then some (zero negative)
  else
    let exponent := unitExponent num den
    let (n, d) := scale num den exponent
    let rounded := roundDiv n d
    let (mantissa, exponent) :=
      if rounded = twoPow 53 then (twoPow 52, exponent + 1) else (rounded, exponent)
    if h : Canonical mantissa exponent then some ⟨negative, mantissa, exponent, h⟩ else none

/-- The magnitude as a ratio of natural numbers. -/
def ratio (x : Binary64) : Nat × Nat :=
  (x.mantissa * twoPow x.exponent.toNat, twoPow (-x.exponent).toNat)

/-- The value nearest to `n`. -/
def ofNat (n : Nat) : Option Binary64 :=
  ofRatio false n 1

/-- The value nearest to `10 ^ exponent`. -/
def ofTenPow (exponent : Nat) : Option Binary64 :=
  ofNat (tenPow exponent)

/-- The value nearest to the product. -/
def mul (x y : Binary64) : Option Binary64 :=
  ofRatio (x.negative != y.negative) (x.ratio.1 * y.ratio.1) (x.ratio.2 * y.ratio.2)

/-- The value nearest to the quotient, for a divisor that is not zero. -/
def div (x y : Binary64) : Option Binary64 :=
  ofRatio (x.negative != y.negative) (x.ratio.1 * y.ratio.2) (x.ratio.2 * y.ratio.1)

/-- The value nearest to `±digits · 10 ^ exponent`. -/
def ofDecimal (negative : Bool) (digits : Nat) (exponent : Int) : Option Binary64 :=
  ofRatio negative (digits * tenPow exponent.toNat) (tenPow (-exponent).toNat)

example : (ofDecimal false 1 (-1)).map (fun x => (x.mantissa, x.exponent)) =
    some (7205759403792794, -56) := by decide +kernel

example : (ofDecimal true 5 (-324)).map (fun x => (x.negative, x.mantissa, x.exponent)) =
    some (true, 1, -1074) := by decide +kernel

example : (ofDecimal false 18 308).isNone := by decide +kernel

end Binary64

end ComponentTree
