/-!
# Exact values of doubles

A finite double is a whole number of half-units: a natural mantissa times a power of two, with a
sign.  Everything that writes a double in decimal starts from that exact value.

## Main definitions

* `Starchart.Decimal.Binary` — a sign, a mantissa and an exponent of two.
* `Starchart.Decimal.Value` — a double as a finite value, an infinity or not a number.
* `Starchart.Decimal.ofFloat` — the exact value of a double.
* `Starchart.Decimal.truncate` — the whole part of a double, toward zero.
-/

set_option autoImplicit false

namespace Starchart.Decimal

/-- The exact value `± mantissa * 2 ^ exponent` of a finite double. -/
structure Binary where
  negative : Bool
  mantissa : Nat
  exponent : Int
  deriving DecidableEq, Repr, Inhabited

/-- What the bits of a double stand for. -/
inductive Value where
  | finite (value : Binary)
  | infinite (negative : Bool)
  | notANumber
  deriving DecidableEq, Repr, Inhabited

/-- The exact value of a double, read off its sign, exponent and fraction bits. -/
def ofFloat (x : Float) : Value :=
  let bits := x.toBits.toNat
  let negative := bits >>> 63 == 1
  let exponent : Nat := (bits >>> 52) % 0x800
  let fraction : Nat := bits % 0x10000000000000
  if exponent == 2047 then
    if fraction == 0 then .infinite negative else .notANumber
  else if exponent == 0 then .finite ⟨negative, fraction, -1074⟩
  else .finite ⟨negative, 0x10000000000000 + fraction, (exponent : Int) - 1075⟩

namespace Binary

/-- The magnitude times `scale` as a quotient of two natural numbers, the second one positive. -/
def ratio (b : Binary) (scale : Nat) : Nat × Nat :=
  if 0 ≤ b.exponent then (b.mantissa * Nat.pow 2 b.exponent.toNat * scale, 1)
  else (b.mantissa * scale, Nat.pow 2 (-b.exponent).toNat)

end Binary

/-- The whole part of a double, cut off toward zero; zero for what is not finite. -/
def truncate (x : Float) : Int :=
  match ofFloat x with
  | .finite b =>
    let (num, den) := b.ratio 1
    if b.negative then -((num / den : Nat) : Int) else ((num / den : Nat) : Int)
  | _ => 0

end Starchart.Decimal
