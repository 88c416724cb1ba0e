import Starchart.Dice
import Starchart.Orbit
import Starchart.Star

/-!
# Rolling stars

The rolls and tables behind a star: how many stars a system has, their types and classes, where
companions orbit and how many orbits a star offers.

## Main definitions

* `Starchart.Star.rollCount` — the number of stars.
* `Starchart.Star.primaryType`, `Starchart.Star.primaryClass` — the primary star.
* `Starchart.Star.companionType`, `Starchart.Star.companionClass` — companions.
* `Starchart.Star.possibleClass` — the class of a star that can exist.
* `Starchart.Star.rollSeparation` — the orbit of a companion.
* `Starchart.Star.rollCapacity` — the number of orbits.
-/

set_option autoImplicit false

namespace Starchart.Star

/-- The spectral type of a primary star. -/
def primaryType (roll : Int) : SpectralType :=
  if roll ≤ 1 then .B
  else if roll = 2 then .A
  else if roll ≤ 7 then .M
  else if roll = 8 then .K
  else if roll = 9 then .G
  else if roll ≤ 11 then .F
  else .G

/-- The luminosity class of a primary star; any roll off the table is main sequence. -/
def primaryClass (roll : Int) : LuminosityClass :=
  if roll = 1 then .Ia
  else if roll = 2 then .Ib
  else if roll = 3 then .II
  else if roll = 4 then .III
  else if roll = 11 then .VI
  else if roll = 12 then .D
  else .V

/-- The spectral type of a companion star. -/
def companionType (roll : Int) : SpectralType :=
  if roll ≤ 1 then .B
  else if roll = 2 then .A
  else if roll ≤ 4 then .F
  else if roll ≤ 6 then .G
  else if roll ≤ 8 then .K
  else .M

/-- The luminosity class of a companion star; any roll off the table is a dwarf. -/
def companionClass (roll : Int) : LuminosityClass :=
  if roll = 1 then .Ia
  else if roll = 2 then .Ib
  else if roll = 3 then .II
  else if roll = 4 then .III
  else if roll = 7 ∨ roll = 8 then .V
  else if roll = 9 then .VI
  else .D

/-- The class of a star, demoted to main sequence where type and class cannot go together:
subgiants cooler than `K4`, and subdwarfs hotter than `F5`. -/
def possibleClass (star : Star) : LuminosityClass :=
  match star.luminosity with
  | .IV =>
    if star.spectral = .K ∧ 5 ≤ star.subtype ∨ star.spectral = .M then .V else .IV
  | .VI =>
    if star.spectral.rank < SpectralType.F.rank ∨ star.spectral = .F ∧ star.subtype ≤ 4 then .V
    else .VI
  | other => other

/-- The star with a class that can exist. -/
def corrected (star : Star) : Star :=
  { star with luminosity := star.possibleClass }

/-- How many orbits a star of this kind has more, or fewer, than the dice say. -/
def capacityModifier (star : Star) : Int :=
  (if star.luminosity.isSupergiant then 8 else if star.luminosity = .III then 4 else 0) -
  (match star.spectral with
    | .M => 4
    | .K => 2
    | _ => 0)

variable {σ : Type} [RandomSource σ]

/-- Rolls the number of stars of a system. -/
def rollCount : Roll σ Nat := do
  let roll ← Roll.twoD6
  return if roll ≤ 7 then 1 else if roll < 12 then 2 else 3

/-- The separation of a companion: contact, a numbered orbit, or far.  Rolls off the bottom of the
table land far out. -/
def rollSeparation (roll : Int) : Roll σ Int :=
  if roll ≤ 0 then return Orbit.far
  else if roll ≤ 3 then return Orbit.contact
  else if roll ≤ 6 then return roll - 3
  else if roll ≤ 11 then return roll - 3 + (← Roll.d6)
  else return Orbit.far

/-- Rolls the number of orbits of a star. -/
def rollCapacity (star : Star) : Roll σ Int :=
  return max 0 ((← Roll.twoD6) + star.capacityModifier)

end Starchart.Star
