import Starchart.Albedo
import Starchart.Climate
import Starchart.Decimal.Whole
import Starchart.Profile
import Starchart.Share
import Starchart.Star.Bulk
import Starchart.Text.Layout

/-!
# Astrophysical data

What follows for a world from its digits and its place around a star: its year, gravity, climate
and ice.  In the habitable zone the temperature is rolled; elsewhere it follows from the light of
the star.  A digit or a mass beyond the range of doubles is refused before any dice are rolled.

## Main definitions

* `Starchart.Astro` — the derived quantities.
* `Starchart.Astro.derive` — the quantities for a given sum of two dice.
* `Starchart.Astro.roll` — the quantities, rolling the two dice only in the habitable zone.
* `Starchart.Astro.describe` — the climate in one line.
* `Starchart.Astro.describeWith` — the same for an ice cover of any size.
-/

set_option autoImplicit false

namespace Starchart

/-- Astrophysical properties of a world. -/
structure Astro where
  /-- The year, in years of the home world. -/
  period : Float := 0.0
  /-- The radius of the orbit in astronomical units. -/
  distance : Float := 0.0
  albedo : Float := 0.0
  /-- The mean temperature in kelvin. -/
  temperature : Float := 0.0
  gravity : Float := 0.0
  mass : Float := 0.0
  /-- The share of the surface under ice. -/
  ice : Share := Share.clamp 0.1
  greenhouse : Float := 0.0
  /-- The luminosity of the star in suns. -/
  luminosity : Float := 0.0
  deriving Inhabited

namespace Astro

/-- The radius of an orbit in astronomical units. -/
def radius (position : Int) : Float :=
  Climate.distance position / 149.6

/-- The year of a world at a given distance from a star of a given mass; zero around a star
without mass. -/
def year (distance mass : Float) : Float :=
  if mass > 0.0 then Float.sqrt (Float.pow distance 3.0 / mass) else 0.0

/-- The double nearest to a digit. -/
def double (digit : Int) : Except Fault Float :=
  if Decimal.hasDouble digit then .ok (Float.ofInt digit) else .error .beyondDoubles

/-- A digit of ordinary size has a double. -/
theorem double_of_small {digit : Int} (small : digit.natAbs < 0x20000000000000) :
    double digit = .ok (Float.ofInt digit) := by
  simp [double, Decimal.hasDouble_of_small small]

/-- The gravity of a world in units of the home world; small bodies have none. -/
def gravityOf (size : Int) : Except Fault Float :=
  if size ≤ 0 then .ok 0.0 else return (← double size) / 8.0

/-- Whether the mass of a world of the given size is within the range of doubles. -/
def hasMass (size : Int) : Bool :=
  decide (Nat.pow (Decimal.nearestDouble size.toNat) 3 < Nat.pow 8 3 * Decimal.bound)

/-- The mass of a world in units of the home world; small bodies have none. -/
def massOf (size : Int) : Except Fault Float := do
  if size ≤ 0 then return 0.0
  let radius := (← double size) / 8.0
  if hasMass size then return Float.pow radius 3.0 else throw .massBeyondDoubles

/-- The light that a world with the given atmosphere and share of water, in tenths, reflects. -/
def albedoOf (atmosphere : Int) (hydro : Float) : Float :=
  Cover.reflected hydro (Float.ofInt (Climate.cloudiness atmosphere))

/-- The modifier of the temperature roll in the habitable zone, cut off toward zero. -/
def warmthModifier (greenhouse albedo : Float) : Int :=
  Decimal.truncate ((greenhouse * Cover.absorbed albedo - 1.0) / 0.05)

/-- The temperature that the light of the star maintains. -/
def radiant (greenhouse albedo luminosity distance : Float) : Float :=
  374.02 * greenhouse * Cover.absorbed albedo * Float.pow luminosity 0.25 / Float.pow distance 0.5

/-- The share of ice: half the water at 273 kelvin, twice the water at 223, and in line between. -/
def iceOf (hydro temperature : Float) : Share :=
  Share.clamp (hydro / 5.0 * (869.0 / 80.0 - 3.0 / 80.0 * temperature))

/-- The quantities of a world with the given digits at `position` around a star.  In the habitable
zone the temperature is the one for `faces`, the sum of two dice. -/
def derive (star : Star) (position : Int) (p : Profile) (faces : Int) : Except Fault Astro := do
  let habitable ← star.habitableOrbit
  let starMass ← star.mass
  let luminosity ← star.brightness
  let mass ← massOf p.size
  let gravity ← gravityOf p.size
  let hydro ← double p.hydro
  let distance := radius position
  let albedo := albedoOf p.atmosphere hydro
  let greenhouse := 1.0 + Climate.greenhouse p.atmosphere
  let temperature :=
    if position = habitable then
      Climate.warmth (faces + warmthModifier greenhouse albedo) + 273.0
    else radiant greenhouse albedo luminosity distance
  return {
    period := year distance starMass
    distance := distance
    albedo := albedo
    temperature := temperature
    gravity := gravity
    mass := mass
    ice := iceOf hydro temperature
    greenhouse := greenhouse
    luminosity := luminosity }

/-- The quantities of a world; two dice are rolled exactly when it lies in the habitable zone and
its quantities are within range, which does not depend on the dice. -/
def roll {σ : Type} [RandomSource σ] (star : Star) (position : Int) (p : Profile) :
    Roll σ Astro := do
  let unrolled ← derive star position p 0
  if position = (← star.habitableOrbit) then derive star position p (← Roll.twoD6)
  else return unrolled

/-! ## Descriptions -/

/-- The climate in one line, with the ice cover in whole per cent. -/
def climateLine (temperature gravity period : Float) (percent : Int) : String :=
  Decimal.signedFixed 2 (temperature - 288.0 + 15.0) ++ " °C, " ++
    Text.padLeft 2 (toString percent) ++ "% ice, " ++
    Decimal.fixed 1 gravity ++ "G, " ++ Decimal.fixed 1 period ++ " yrs"

/-- The climate in one line; blank for a world with hardly any air. -/
def describe (astro : Astro) (atmosphere : Int) : String :=
  if atmosphere ≤ 1 then ""
  else climateLine astro.temperature astro.gravity astro.period astro.ice.percent

/-- An ice cover of any size in whole per cent, unless it has no finite one. -/
def percentOf (ice : Float) : Except Fault Int :=
  match Decimal.ofFloat (ice * 100.0) with
  | .finite _ => .ok (Decimal.nearestInt (ice * 100.0))
  | .infinite _ => .error .infiniteCover
  | .notANumber => .error .undefinedCover

/-- The climate of a world whose ice cover may be of any size. -/
def describeWith (temperature ice gravity period : Float) (atmosphere : Int) :
    Except Fault String :=
  if atmosphere ≤ 1 then .ok ""
  else return climateLine temperature gravity period (← percentOf ice)

end Astro

end Starchart
