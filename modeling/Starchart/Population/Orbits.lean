import Starchart.Population.Planet
import Starchart.Population.Rolls

/-!
# Filling the orbits of one star

The phases that decide the slots of a single star: orbits that stay empty, gas giants, planetoid
belts, and worlds for whatever is left.

## Main definitions

* `Starchart.Population.seedEmpties` — orbits that stay empty.
* `Starchart.Population.seedGiants`, `Starchart.Population.placeGiants` — gas giants.
* `Starchart.Population.seedBelts`, `Starchart.Population.placeBelts` — planetoid belts.
* `Starchart.Population.fill` — worlds for all other orbits.
-/

set_option autoImplicit false

namespace Starchart.Population

variable {σ : Type} [RandomSource σ]

/-- Enters a phase. -/
def enter (phase : Phase) : Gen σ StarSystem Unit :=
  Gen.attempt fun s => s.enter phase

/-! ## Empty orbits -/

/-- Marks up to `count` undecided orbits, picked at random, to stay empty, and tells how many. -/
def markRandom : Nat → Gen σ StarSystem Nat
  | 0 => return 0
  | count + 1 => do
    let undecided := (← Gen.scene).undecidedOrbits
    if undecided.isEmpty then return 0
    else
      let orbit ← Gen.roll (Roll.choice undecided)
      Gen.change fun s => (s.markEmpty orbit).2
      return (← markRandom count) + 1

/-- Seeds the orbits that stay empty and tells how many. -/
def seedEmpties : Gen σ StarSystem Nat := do
  enter .emptySeed
  let count ← Gen.roll rollEmpties
  let marked ← markRandom count
  Gen.record (.emptiesSeeded (← Gen.scene).name marked)
  return marked

/-! ## Picking orbits -/

/-- Orbits to pick from: the preferred ones as long as there are any, then the others. -/
structure Candidates where
  preferred : List Int
  others : List Int

namespace Candidates

/-- How many orbits there are to pick from. -/
def count (c : Candidates) : Nat := c.preferred.length + c.others.length

/-- Picks an orbit and tells which orbits are left. -/
def pick (c : Candidates) : Roll σ (Int × Candidates) :=
  match c.preferred with
  | [] => do
    let i ← Roll.index c.others.length
    return (c.others.get i, ⟨[], c.others.eraseIdx i⟩)
  | first :: rest => do
    let i ← Roll.index (first :: rest).length
    return ((first :: rest).get i, ⟨(first :: rest).eraseIdx i, c.others⟩)

end Candidates

/-- The warning that there was room for fewer bodies than rolled. -/
def shortfall (star body plural : String) (wanted placed : Int) : Diagnostic :=
  .warning .shortfall s!"{star}: room for {placed} of {wanted} {plural}"
    [("body", .text body), ("wanted", .int wanted), ("placed", .int placed),
     ("shortfall", .int (wanted - placed))]

/-- Places bodies one after the other on orbits picked from the candidates. -/
def placeEach (mainName : String) (roll : StarSystem → Int → Roll σ Slot) :
    Nat → Candidates → Gen σ StarSystem Unit
  | 0, _ => return
  | count + 1, candidates => do
    let (orbit, rest) ← Gen.roll candidates.pick
    let body ← Gen.roll (roll (← Gen.scene) orbit)
    Gen.attempt fun s => s.place mainName body orbit
    placeEach mainName roll count rest

/-- Places `wanted` bodies, or as many as there are candidates, and tells how many.  A shortfall is
recorded. -/
def placeUpTo (mainName body plural : String) (roll : StarSystem → Int → Roll σ Slot)
    (candidates : Candidates) (wanted : Int) : Gen σ StarSystem Int := do
  let placed := min wanted.toNat candidates.count
  placeEach mainName roll placed candidates
  if (placed : Int) < wanted then
    Gen.diagnose (shortfall (← Gen.scene).name body plural wanted placed)
  return placed

/-! ## Gas giants -/

/-- Rolls a gas giant for an orbit of a star. -/
def rollGiant (s : StarSystem) (orbit : Int) : Roll σ Slot := do
  let size := if (← Roll.d6) ≤ 3 then GiantSize.small else .large
  let name ← Name.designation s.name orbit
  return .giant { name := name, size := size, orbit := orbit }

/-- Undecided orbits for gas giants: those from the habitable zone outward are preferred. -/
def giantCandidates (s : StarSystem) (zones : Zones) : Candidates :=
  ⟨s.undecidedOrbits.filter fun orbit => decide (zones.habitable ≤ orbit),
   s.undecidedOrbits.filter fun orbit => decide (orbit < zones.habitable)⟩

/-- Places up to `wanted` gas giants, outer orbits first, and tells how many found room. -/
def placeGiants (mainName : String) (wanted : Int) : Gen σ StarSystem Int := do
  let s ← Gen.scene
  let zones ← s.star.zones
  placeUpTo mainName "gas giant" "gas giants" rollGiant (giantCandidates s zones) wanted

/-- Rolls and places gas giants and tells how many found room. -/
def seedGiants (mainName : String) : Gen σ StarSystem Int := do
  enter .gasGiants
  let wanted ← Gen.roll rollGiants
  if wanted = 0 then return 0 else placeGiants mainName wanted

/-! ## Planetoid belts -/

/-- The undecided orbits just inside a gas giant. -/
def shadowedOrbits (s : StarSystem) : List Int :=
  (s.giantOrbits.map (· - 1)).filter fun orbit => s.isUndecided orbit

/-- Undecided orbits for belts: those just inside a gas giant are preferred. -/
def beltCandidates (s : StarSystem) : Candidates :=
  ⟨shadowedOrbits s, s.undecidedOrbits.filter fun orbit => !(shadowedOrbits s).contains orbit⟩

/-- Places up to `wanted` belts, preferring the orbits just inside gas giants, and tells how many
found room. -/
def placeBelts (main : World) (wanted : Int) : Gen σ StarSystem Int := do
  let s ← Gen.scene
  placeUpTo main.name "planetoid belt" "planetoid belts"
    (fun s orbit => return .world (← rollBelt s orbit main)) (beltCandidates s) wanted

/-- Rolls and places belts around a star with the given number of gas giants, and tells how many
found room. -/
def seedBelts (main : World) (giants : Int) : Gen σ StarSystem Int := do
  enter .planetoids
  let wanted ← Gen.roll (rollBelts giants)
  if wanted = 0 then return 0 else placeBelts main wanted

/-! ## Other worlds -/

/-- Places a world on each of the given orbits that is undecided, and tells how many. -/
def fillOrbits (main : World) : List Int → Gen σ StarSystem Nat
  | [] => return 0
  | orbit :: rest => do
    let s ← Gen.scene
    if s.isUndecided orbit then
      let world ← Gen.roll (rollWorld s orbit main)
      Gen.attempt fun s => s.place main.name (.world world) orbit
      return (← fillOrbits main rest) + 1
    else fillOrbits main rest

/-- Leaves the hot orbits empty, gives every other undecided orbit a world, and tells how many. -/
def fill (main : World) : Gen σ StarSystem Nat := do
  enter .filler
  let zones ← (← Gen.scene).star.zones
  Gen.change fun s => s.markEmpties (Orbit.span 0 (zones.hot + 1))
  let s ← Gen.scene
  fillOrbits main (Orbit.span (max 0 (zones.hot + 1)) s.maxOrbits)

end Starchart.Population
