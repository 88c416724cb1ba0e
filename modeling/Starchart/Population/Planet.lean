import Starchart.Satellite
import Starchart.StarSystem

/-!
# Planets and belts

The bodies that fill the orbits of a star: worlds for the orbits that nothing else took, and
planetoid belts.

## Main definitions

* `Starchart.Population.rollWorld` — a world for an orbit.
* `Starchart.Population.rollBelt` — a planetoid belt for an orbit.
-/

set_option autoImplicit false

namespace Starchart.Population

open Satellite (Setting isSettled)

variable {σ : Type} [RandomSource σ]

/-- How much smaller worlds are on close orbits and around red stars. -/
def sizePenalty (spectral : SpectralType) (orbit : Int) : Int :=
  (if orbit = 0 then 5 else if orbit = 1 then 4 else if orbit = 2 then 2 else 0) +
  (if spectral = .M then 2 else 0)

/-- Rolls the atmosphere of a world.  Beyond the habitable zone a first roll of twelve makes it
exotic. -/
def rollAtmosphere (s : Setting) (size : Int) : Roll σ Int := do
  let runaway ← Roll.twoD6
  let roll ← Roll.twoD6
  let thin := roll - 7 + size - (if s.isInner then 2 else 0) - (if s.isBeyond then 2 else 0)
  return if runaway = 12 ∧ s.isBeyond then 10 else max 0 (min thin 10)

/-- Rolls the population of a world or belt that is not the main world, before any penalty for its
atmosphere. -/
def rollSettlers (s : Setting) : Roll σ Int := do
  let roll ← Roll.twoD6
  return roll - 2 - (if s.isInner then 5 else 0) - (if s.isBeyond then 5 else 0)

/-- The name of a world: a rolled one when it is settled, its designation otherwise. -/
def rollName (star : String) (orbit population : Int) : Roll σ String :=
  if 0 < population then Name.planet else (Name.designation star orbit : Except Fault String)

/-- Rolls a world for an orbit of a star. -/
def rollWorld (s : StarSystem) (orbit : Int) (main : World) : Roll σ World := do
  let zones ← s.star.zones
  let setting : Setting := ⟨zones, s.star, orbit⟩
  let size := max 0 ((← Roll.twoD6) - 2 - sizePenalty s.star.spectral orbit)
  let atmosphere ← rollAtmosphere setting size
  let hydro ← Satellite.rollHydro setting size atmosphere
  let settlers ← rollSettlers setting
  let population := Settlement.clampPopulation
    (settlers - (if isSettled atmosphere then 0 else 2)) main
  let name ← rollName s.name orbit population
  let world : World := {
    name := name
    orbit := orbit
    position := orbit
    profile := {
      size := size, atmosphere := atmosphere, hydro := hydro, population := population } }
  let world ← Settlement.settle world zones main
  world.surveyed s.star

/-- Rolls a planetoid belt for an orbit of a star. -/
def rollBelt (s : StarSystem) (orbit : Int) (main : World) : Roll σ World := do
  let zones ← s.star.zones
  let settlers ← rollSettlers ⟨zones, s.star, orbit⟩
  let belt : World := {
    name := Name.belt
    orbit := orbit
    position := orbit
    profile := { population := Settlement.clampPopulation settlers main } }
  let belt ← Settlement.settle belt zones main
  belt.surveyed s.star

end Starchart.Population
