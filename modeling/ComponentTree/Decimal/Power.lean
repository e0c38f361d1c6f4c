/-!
Powers of the two bases that numbers are written in.
-/

namespace ComponentTree

/-- Two to the power of `n`. -/
def twoPow (n : Nat) : Nat :=
  Nat.pow 2 n

/-- Ten to the power of `n`. -/
def tenPow (n : Nat) : Nat :=
  Nat.pow 10 n

theorem twoPow_pos (n : Nat) : 0 < twoPow n :=
  Nat.pow_pos (by decide)

theorem tenPow_pos (n : Nat) : 0 < tenPow n :=
  Nat.pow_pos (by decide)

end ComponentTree
