import Starchart.Decimal.Binary

/-!
# Shortest decimals

A double is identified by the fewest decimal digits that read back to it.  The reals that round to
a given double form an interval, whose ends belong to it exactly when the mantissa is even; on the
coarsest decimal grid that meets the interval, the point nearest to the double is written.

## Main definitions

* `Starchart.Decimal.readsBack` — whether a decimal rounds to a given double.
* `Starchart.Decimal.shortest` — the digits and the place of the decimal point.
* `Starchart.Decimal.natural` — a double as messages show it: positionally for scales from `10⁻⁴`
  up to `10¹⁶`, otherwise with a signed exponent of at least two digits.
-/

set_option autoImplicit false

namespace Starchart.Decimal

/-- The scaling `10 ^ e` as a quotient of two naturals. -/
private def powerOfTen (e : Int) : Nat × Nat :=
  if 0 ≤ e then (Nat.pow 10 e.toNat, 1) else (1, Nat.pow 10 (-e).toNat)

/-- The scaling `2 ^ e` as a quotient of two naturals. -/
private def powerOfTwo (e : Int) : Nat × Nat :=
  if 0 ≤ e then (Nat.pow 2 e.toNat, 1) else (1, Nat.pow 2 (-e).toNat)

/-- Whether `digits * 10 ^ e` lies in the interval that rounds to `b`.  The interval reaches
half-way to each neighbour; below a power of two the lower neighbour is twice as close. -/
def readsBack (b : Binary) (digits : Nat) (e : Int) : Bool :=
  let narrow := b.mantissa == 0x10000000000000 && decide (-1074 < b.exponent)
  let upper := 4 * b.mantissa + 2
  let lower := 4 * b.mantissa - (if narrow then 1 else 2)
  let (tenNum, tenDen) := powerOfTen e
  let (twoNum, twoDen) := powerOfTwo (b.exponent - 2)
  let point := digits * tenNum * twoDen
  let top := upper * twoNum * tenDen
  let bottom := lower * twoNum * tenDen
  if b.mantissa % 2 == 0 then decide (bottom ≤ point) && decide (point ≤ top)
  else decide (bottom < point) && decide (point < top)

/-- The number of decimal digits of `n`; zero for zero. -/
private def digitCount (n : Nat) : Nat :=
  if n == 0 then 0 else (toString n).length

/-- The least scale `k` with `b < 10 ^ k`. -/
private def scale (b : Binary) : Int :=
  let (num, den) := b.ratio 1
  if den ≤ num then digitCount (num / den)
  else
    -- the leading zeros after the point are those that `den / num` has digits beyond the first
    let guess : Int := 1 - (digitCount (den / num) : Int)
    let (_, tenDen) := powerOfTen guess
    if num * tenDen < den then guess else guess + 1

/-- Of the two grid points around `b` on the grid `10 ^ e`, the nearest that reads back. -/
private def nearestOnGrid (b : Binary) (e : Int) : Option Nat :=
  let (num, den) := b.ratio 1
  let (tenNum, tenDen) := powerOfTen e
  let below := num * tenDen / (den * tenNum)
  let twice := 2 * num * tenDen
  let middle := (2 * below + 1) * den * tenNum
  match readsBack b below e, readsBack b (below + 1) e with
  | true, true =>
    if twice < middle then some below
    else if middle < twice then some (below + 1)
    else if below % 2 == 0 then some below else some (below + 1)
  | true, false => some below
  | false, true => some (below + 1)
  | false, false => none

/-- The first grid, from `n` digits on, that holds a point which reads back. -/
private def search (b : Binary) (k : Int) : Nat → Nat → Option (Nat × Int)
  | 0, _ => none
  | fuel + 1, n =>
    match nearestOnGrid b (k - n) with
    | some digits => some (digits, k - n)
    | none => search b k fuel (n + 1)

/-- The digits and the exponent of ten without trailing zero digits. -/
private def strip : Nat → Nat → Int → Nat × Int
  | 0, digits, e => (digits, e)
  | fuel + 1, digits, e =>
    if digits != 0 && digits % 10 == 0 then strip fuel (digits / 10) (e + 1) else (digits, e)

/-- The fewest digits, times a power of ten, that read back to the positive value `b`. -/
def shortest (b : Binary) : Nat × Int :=
  let k := scale b
  match search b k 18 1 with
  | some (digits, e) => strip 20 digits e
  | none => (b.mantissa, b.exponent)

/-- A natural number with at least two digits. -/
private def exponentDigits (n : Nat) : String :=
  if n < 10 then "0" ++ toString n else toString n

/-- The digits laid out with a point or an exponent. -/
private def layOut (digits : Nat) (e : Int) : String :=
  let text := (toString digits).toList
  let point : Int := text.length + e
  if -4 < point ∧ point ≤ 16 then
    if 0 < point then
      let padded := text ++ List.replicate (point.toNat - text.length) '0'
      let after := padded.drop point.toNat
      String.ofList (padded.take point.toNat) ++ "." ++
        (if after.isEmpty then "0" else String.ofList after)
    else "0." ++ String.ofList (List.replicate (-point).toNat '0') ++ String.ofList text
  else
    let exponent := point - 1
    String.ofList (text.take 1) ++
      (if text.length ≤ 1 then "" else "." ++ String.ofList (text.drop 1)) ++
      (if exponent < 0 then "e-" else "e+") ++ exponentDigits exponent.natAbs

/-- A double as messages show it. -/
def natural (x : Float) : String :=
  match ofFloat x with
  | .notANumber => "nan"
  | .infinite negative => if negative then "-inf" else "inf"
  | .finite b =>
    (if b.negative then "-" else "") ++
      (if b.mantissa == 0 then "0.0" else let (digits, e) := shortest b; layOut digits e)

end Starchart.Decimal
