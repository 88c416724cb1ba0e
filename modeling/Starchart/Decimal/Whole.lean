import Starchart.Decimal.Fixed

/-!
# Whole numbers as doubles

A double holds the first fifty-three binary digits of a whole number.  Up to a bound every whole
number has a nearest double; from there on it would round to more than the largest double.

## Main definitions

* `Starchart.Decimal.bound` — the least number that rounds beyond the largest double.
* `Starchart.Decimal.hasDouble` — whether a whole number has a nearest double.
* `Starchart.Decimal.nearestDouble` — the value of the double nearest to a natural number.

## Main results

* `Starchart.Decimal.hasDouble_of_small` — numbers of at most fifty-three digits have a double.
-/

set_option autoImplicit false

namespace Starchart.Decimal

/-- The least number that rounds beyond the largest double: half a unit of that double lies between
them. -/
def bound : Nat := Nat.pow 2 1024 - Nat.pow 2 970

/-- Whether a whole number has a nearest double. -/
def hasDouble (n : Int) : Bool := decide (n.natAbs < bound)

/-- The value of the double nearest to a natural number below the bound: its first fifty-three
binary digits, rounded, with a tie going to the even neighbour. -/
def nearestDouble (n : Nat) : Nat :=
  if n < 0x20000000000000 then n
  else
    let unit := Nat.pow 2 (n.log2 - 52)
    roundDiv n unit * unit

/-- A whole number of at most fifty-three binary digits has a double. -/
theorem hasDouble_of_small {n : Int} (small : n.natAbs < 0x20000000000000) : hasDouble n = true := by
  have wide : 0x20000000000000 ≤ bound := by decide +kernel
  simp only [hasDouble, decide_eq_true_eq]
  omega

/-- A natural number of at most fifty-three binary digits is its own nearest double. -/
theorem nearestDouble_of_small {n : Nat} (small : n < 0x20000000000000) : nearestDouble n = n :=
  if_pos small

end Starchart.Decimal
