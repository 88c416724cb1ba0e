import Starchart.Population.MainWorld

/-!
# Populating a chart

All phases for one star, in order, and then for each companion that has orbits of its own.

## Main definitions

* `Starchart.Population.addMoons` — the satellites of every body of a star.
* `Starchart.Population.populateFrom`, `Starchart.Population.populate` — every phase, from a star
  down.
-/

set_option autoImplicit false

namespace Starchart.Population

variable {σ : Type} [RandomSource σ]

/-! ## Satellites -/

/-- The name of a gas giant: a rolled one if any of its moons has a sizeable settlement, its
designation otherwise. -/
def rollGiantName (star : String) (orbit : Int) (main : World) (giant : GasGiant) :
    Roll σ String :=
  if giant.satellites.any fun moon => decide (5 ≤ (moon.body main).profile.population) then
    Name.planet
  else (Name.designation star orbit : Except Fault String)

/-- Gives a gas giant its final name. -/
def nameGiant (star : String) (orbit : Int) (main : World) : Gen σ Host Unit := do
  match ← Gen.scene with
  | .giant giant =>
    let name ← Gen.roll (rollGiantName star orbit main giant)
    Gen.change fun _ => .giant { giant with name := name }
  | .world _ => pure ()

/-- Gives the body on one orbit its satellites, and a gas giant its final name. -/
def addMoonsAt (id : StarId) (zones : Zones) (limit : Int) (orbit : Nat) :
    Gen σ Atlas Unit := do
  let s ← Gen.star id
  let main ← Gen.main
  Gen.onHost id orbit do
    Satellite.populate zones main s.star limit
    nameGiant s.name orbit main

/-- Gives every body of a star its satellites, from the innermost orbit outward. -/
def addMoons (id : StarId) (limit : Int) : Gen σ Atlas Unit := do
  Gen.onStar id (enter .satellites)
  let s ← Gen.star id
  let zones ← s.star.zones
  (List.range s.slots.length).forM (addMoonsAt id zones limit)

/-! ## The whole pipeline -/

/-- Runs every phase on one star; only the primary seats the main world. -/
def populateStar (limit : Int) (id : StarId) (primary : Bool) : Gen σ Atlas Unit := do
  let _ ← Gen.onStar id seedEmpties
  let giants ← Gen.onStar id (seedGiants (← Gen.main).name)
  let _ ← Gen.onStar id (seedBelts (← Gen.main) giants)
  if primary then placeMain id limit
  let _ ← Gen.onStar id (fill (← Gen.main))
  addMoons id limit
  Gen.onStar id (enter .companions)

/-- Runs every phase on a star and then on its companions, except for contact companions, which
share the orbits of their parent.  The fuel bounds how deeply companions are nested. -/
def populateFrom (limit : Int) : Nat → StarId → Bool → Gen σ Atlas Unit
  | 0, id, _ => throw (.endlessDescent id .descent)
  | fuel + 1, id, primary => do
    populateStar limit id primary
    (← Gen.star id).companions.forM fun companion => do
      if Orbit.contact < (← Gen.star companion).orbit then
        populateFrom limit fuel companion false

/-- Populates a star and its companions.  Since a phase is never entered twice, no star is
populated within its own population, so the number of stars bounds the depth. -/
def populate (limit : Int) (id : StarId) (primary : Bool) : Gen σ Atlas Unit := do
  populateFrom limit ((← Gen.scene).stars.length + 1) id primary

end Starchart.Population
