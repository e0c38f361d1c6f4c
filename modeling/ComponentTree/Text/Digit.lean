/-!
Digits of natural numbers in bases up to sixteen.
-/

namespace ComponentTree.Text

/-- The value of a hexadecimal digit in either case. -/
def hexValue? (c : Char) : Option Nat :=
  if c.isDigit then some (c.toNat - '0'.toNat)
  else if 'a' ≤ c ∧ c ≤ 'f' then some (c.toNat - 'a'.toNat + 10)
  else if 'A' ≤ c ∧ c ≤ 'F' then some (c.toNat - 'A'.toNat + 10)
  else none

/-- The value of a digit below a base. -/
def digitValue? (base : Nat) (c : Char) : Option Nat :=
  (hexValue? c).filter (· < base)

/-- The number that digits spell; there is at least one. -/
def readNat? (base : Nat) (cs : List Char) : Option Nat :=
  if cs.isEmpty then none
  else (cs.mapM (digitValue? base)).map (·.foldl (fun n d => n * base + d) 0)

example : readNat? 16 ['f', 'F'] = some 255 := by decide

example : readNat? 8 ['8'] = none := by decide

end ComponentTree.Text
