import Starchart.Run
import Starchart.Settlement

/-!
# Satellites

Satellites of worlds and of gas giants.  Each rolls a size and an orbit that no other satellite of
its host has; rings are satellites of size zero, and in the end a host keeps only the innermost.

## Main definitions

* `Starchart.Satellite.firstFree` — the first free orbit of a stretch.
* `Starchart.Satellite.findOrbit` — rolls an orbit and steps outward past taken ones.
* `Starchart.Satellite.generate` — adds one satellite to a host.
* `Starchart.Satellite.tidy` — sorts satellites and merges rings.
* `Starchart.Satellite.populate` — gives a host all its satellites.
-/

set_option autoImplicit false

namespace Starchart.Satellite

/-- Whether an atmosphere costs its world no population. -/
def isSettled (atmosphere : Int) : Bool :=
  atmosphere == 0 || atmosphere == 5 || atmosphere == 6 || atmosphere == 8

/-! ## Orbits -/

/-- The first orbit that is not taken among `tries` orbits from `orbit` outward. -/
def firstFree (taken : List Int) (orbit : Int) : Nat → Option Int
  | 0 => none
  | tries + 1 => if orbit ∈ taken then firstFree taken (orbit + 1) tries else some orbit

/-- What the search finds is free. -/
theorem firstFree_not_mem {taken : List Int} {orbit found : Int} {tries : Nat}
    (h : firstFree taken orbit tries = some found) : found ∉ taken := by
  induction tries generalizing orbit with
  | zero => simp [firstFree] at h
  | succ tries ih =>
    by_cases hm : orbit ∈ taken
    · exact ih (by simpa [firstFree, hm] using h)
    · simp only [firstFree, hm, if_false, Option.some.injEq] at h
      exact h ▸ hm

/-- The orbits passed by on the way to the first free one. -/
def passed (taken : List Int) (orbit : Int) : Nat → List Int
  | 0 => []
  | tries + 1 => if orbit ∈ taken then orbit :: passed taken (orbit + 1) tries else []

/-- The orbit just past the outermost taken one, or `orbit` where none is taken. -/
def pastOutermost (taken : List Int) (orbit : Int) : Int :=
  match taken with
  | [] => orbit
  | first :: rest => rest.foldl max first + 1

/-- The warning that the search for an orbit was given up. -/
def searchGivenUp (tries orbit : Int) : Diagnostic :=
  .warning .orbit
    s!"Satellite orbit search gave up after {tries} tries; using {orbit}"
    [("orbit", .int orbit), ("retries", .int tries)]

variable {σ ρ : Type} [RandomSource σ]

/-- Rolls the orbit of a ring. -/
def rollRingOrbit : Roll σ Int := do
  let roll ← Roll.d6
  return if roll ≤ 3 then 1 else if roll ≤ 5 then 2 else 3

/-- Rolls the orbit of a moon among `count` others: close, far, or, around a gas giant, extreme. -/
def rollMoonOrbit (count : Nat) (allowsExtreme : Bool) : Roll σ Int := do
  let kind := (← Roll.twoD6) - count
  let base := (← Roll.d12) + 3
  return if kind ≤ 7 then base else if kind = 12 ∧ allowsExtreme then base * 25 else base * 5

/-- Rolls an orbit for a new satellite of `host`. -/
def rollOrbit (host : Host) (ring : Bool) : Roll σ Int :=
  if ring then rollRingOrbit
  else rollMoonOrbit host.satellites.length (match host with | .giant _ => true | .world _ => false)

/-- Rolls an orbit and steps outward past the taken ones.  After `limit` tries the satellite goes
just past the outermost one instead, and a warning is recorded. -/
def findOrbit (main : World) (host : Host) (ring : Bool) (limit : Int) : Gen σ ρ Int := do
  let rolled ← Gen.roll (rollOrbit host ring)
  let taken := host.takenOrbits main
  (passed taken rolled limit.toNat).forM fun orbit => Gen.record (.orbitTaken orbit)
  match firstFree taken rolled limit.toNat with
  | some orbit => return orbit
  | none =>
    let orbit := pastOutermost taken rolled
    Gen.diagnose (searchGivenUp limit orbit)
    return orbit

/-! ## Moons -/

/-- Where a satellite lies with respect to the zones of its star. -/
structure Setting where
  zones : Zones
  star : Star
  /-- The orbit of the host around the star. -/
  position : Int

/-- Whether a body lies in the inner zone or closer. -/
def Setting.isInner (s : Setting) : Bool := decide (s.position ≤ s.zones.inner)

/-- Whether a body lies beyond the habitable zone. -/
def Setting.isBeyond (s : Setting) : Bool := decide (s.zones.habitable < s.position)

/-- Rolls the atmosphere of a moon. -/
def rollAtmosphere (s : Setting) (size : Int) : Roll σ Int := do
  let roll ← Roll.twoD6
  let thin := roll - 7 + size - (if s.isInner ∨ s.isBeyond then 4 else 0)
  let atmosphere := max 0 (min thin 10)
  let atmosphere := if size ≤ 1 then 0 else atmosphere
  return if roll = 12 ∧ s.isBeyond then 10 else atmosphere

/-- Rolls the hydrographics of a moon. -/
def rollHydro (s : Setting) (size atmosphere : Int) : Roll σ Int := do
  let roll ← Roll.twoD6
  let hydro := roll - 7 + size - (if s.isBeyond then 4 else 0) -
    (if atmosphere ≤ 1 ∨ 10 ≤ atmosphere then 4 else 0)
  return if size ≤ 0 ∨ s.isInner then 0 else max 0 (min hydro 10)

/-- Rolls the population of a moon. -/
def rollPopulation (s : Setting) (atmosphere : Int) (main : World) : Roll σ Int := do
  let roll ← Roll.twoD6
  let population := roll - 2 - (if s.isInner then 5 else if s.isBeyond then 4 else 0) -
    (if isSettled atmosphere then 0 else 2)
  return Settlement.clampPopulation population main

/-- Rolls a moon of the given size on the given orbit. -/
def rollMoon (s : Setting) (main : World) (size orbit : Int) : Roll σ World := do
  let atmosphere ← rollAtmosphere s size
  let hydro ← rollHydro s size atmosphere
  let population ← rollPopulation s atmosphere main
  let name ← Name.moon
  let moon : World := {
    name := name
    orbit := orbit
    position := s.position
    profile := { size := size, atmosphere := atmosphere, hydro := hydro, population := population }
    isSatellite := true }
  let moon ← Settlement.settle moon s.zones main
  moon.surveyed s.star

/-- Adds one satellite to the host and tells which. -/
def generate (zones : Zones) (main : World) (star : Star) (limit : Int) : Gen σ Host World := do
  let host ← Gen.scene
  let size := max (-1) (← Gen.roll host.rollSize)
  let orbit ← findOrbit main host (size == 0) limit
  let moon ←
    if size = 0 then pure (World.ring orbit host.position)
    else Gen.roll (rollMoon ⟨zones, star, host.position⟩ main size orbit)
  Gen.change fun host => host.withSatellites (host.satellites ++ [.own moon])
  return moon

/-! ## Tidying up -/

/-- Of satellites in order, only the first ring, under the name of rings. -/
def keepFirstRing : List (Moon World) → List (Moon World)
  | [] => []
  | moon :: rest =>
    if moon.isLooseRing then moon.rename Name.ring :: rest.filter (!·.isLooseRing)
    else moon :: keepFirstRing rest

/-- The satellites sorted by orbit, equal orbits in the order they had, with the innermost ring
alone kept. -/
def tidy (main : World) (moons : List (Moon World)) : List (Moon World) :=
  keepFirstRing (moons.mergeSort fun a b => decide ((a.body main).orbit ≤ (b.body main).orbit))

/-- The host with its satellites tidied up. -/
def tidyHost (main : World) (host : Host) : Host :=
  host.withSatellites (tidy main host.satellites)

/-- Adds `count` satellites to the host. -/
def generateMany (zones : Zones) (main : World) (star : Star) (limit : Int) :
    Nat → Gen σ Host Unit
  | 0 => return
  | count + 1 => do
    let _ ← generate zones main star limit
    generateMany zones main star limit count

/-- Rolls the number of satellites, adds each and tidies up. -/
def populate (zones : Zones) (main : World) (star : Star) (limit : Int) : Gen σ Host Unit := do
  let host ← Gen.scene
  let count ← Gen.roll host.rollCount (σ := σ)
  generateMany zones main star limit count.toNat
  Gen.change (tidyHost main)

end Starchart.Satellite
