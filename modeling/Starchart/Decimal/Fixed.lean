import Starchart.Decimal.Binary

/-!
# Decimals with a fixed number of places

A double is written with a given number of places by rounding its exact value; a value half-way
between two neighbours goes to the even one.  The sign of the double is kept even where all its
digits are zero.

## Main definitions

* `Starchart.Decimal.roundDiv` — a quotient of naturals rounded to the nearest, ties to even.
* `Starchart.Decimal.fixed` — a double with a fixed number of places.
* `Starchart.Decimal.signedFixed` — the same with a plus sign before what is not negative.
* `Starchart.Decimal.nearestInt` — the whole number nearest to a double, ties to even.
-/

set_option autoImplicit false

namespace Starchart.Decimal

/-- The natural number nearest to `num / den`; of two equally near ones the even one. -/
def roundDiv (num den : Nat) : Nat :=
  let quotient := num / den
  let rest := num % den
  if 2 * rest < den then quotient
  else if den < 2 * rest then quotient + 1
  else if quotient % 2 == 0 then quotient
  else quotient + 1

/-- The rounded quotient lies within half a unit of the exact one.

**Proof sketch.** By the cases of rounding. The numerator is the quotient times the denominator and
a remainder, and each case compares twice that remainder with the denominator. -/
theorem roundDiv_near (num den : Nat) (pos : 0 < den) :
    2 * num ≤ (2 * roundDiv num den + 1) * den ∧ 2 * roundDiv num den * den ≤ 2 * num + den := by
  have split := Nat.div_add_mod num den
  have small := Nat.mod_lt num pos
  have up : (num / den + 1) * den = den * (num / den) + den := by
    rw [Nat.add_mul, Nat.one_mul, Nat.mul_comm]
  have same : num / den * den = den * (num / den) := Nat.mul_comm _ _
  unfold roundDiv
  dsimp only
  split
  · simp only [Nat.add_mul, Nat.mul_assoc, same]
    omega
  · split
    · simp only [Nat.add_mul, Nat.mul_assoc, up]
      omega
    · split
      · simp only [Nat.add_mul, Nat.mul_assoc, same]
        omega
      · simp only [Nat.add_mul, Nat.mul_assoc, up]
        omega

/-- The digits of `scaled / 10 ^ places`, with exactly `places` digits after the point. -/
def placed (places scaled : Nat) : String :=
  let digits := toString scaled
  let digits := String.ofList (List.replicate (places + 1 - digits.length) '0') ++ digits
  if places == 0 then digits
  else
    let whole := digits.length - places
    String.ofList (digits.toList.take whole) ++ "." ++ String.ofList (digits.toList.drop whole)

/-- A magnitude with `places` digits after the point. -/
def magnitude (places : Nat) : Value → String
  | .finite b =>
    let (num, den) := b.ratio (Nat.pow 10 places)
    placed places (roundDiv num den)
  | .infinite _ => "inf"
  | .notANumber => "nan"

/-- Whether a value carries a minus sign; what is not a number shows none. -/
def Value.isNegative : Value → Bool
  | .finite b => b.negative
  | .infinite negative => negative
  | .notANumber => false

/-- The double `x` with `places` digits after the point. -/
def fixed (places : Nat) (x : Float) : String :=
  let value := ofFloat x
  (if value.isNegative then "-" else "") ++ magnitude places value

/-- The double `x` with `places` digits after the point and a sign in any case. -/
def signedFixed (places : Nat) (x : Float) : String :=
  let value := ofFloat x
  (if value.isNegative then "-" else "+") ++ magnitude places value

/-- The whole number nearest to `x`; of two equally near ones the even one. -/
def nearestInt (x : Float) : Int :=
  match ofFloat x with
  | .finite b =>
    let (num, den) := b.ratio 1
    if b.negative then -((roundDiv num den : Nat) : Int) else ((roundDiv num den : Nat) : Int)
  | _ => 0

end Starchart.Decimal
