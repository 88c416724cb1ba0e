import Starchart.World

/-!
# Settlement

Government, law, tech, starport and facilities of every world but the main world.  They are never
rolled from scratch: all of them follow from the main world.

## Main definitions

* `Starchart.Settlement.clampPopulation` — the population that a lesser world may have.
* `Starchart.Settlement.govern` — government, law, tech and starport.
* `Starchart.Settlement.equip` — facilities.
* `Starchart.Settlement.settle` — both, with the trade classes in between.
-/

set_option autoImplicit false

namespace Starchart.Settlement

/-- The lowest tech that keeps people alive in a hostile atmosphere. -/
def hostileTech : Int := 7

/-- Whether an atmosphere can be breathed. -/
def isBreathable (atmosphere : Int) : Bool :=
  atmosphere == 5 || atmosphere == 6 || atmosphere == 8

/-- A population kept from zero up to one less than that of the main world. -/
def clampPopulation (population : Int) (main : World) : Int :=
  max 0 (min population (main.profile.population - 1))

/-! ## Government and law -/

variable {σ : Type} [RandomSource σ]

/-- Rolls the government of a world; nobody governs an empty one. -/
def rollGovernment (population : Int) (main : World) : Roll σ Int := do
  if population ≤ 0 then return 0
  else
    let modifier :=
      if main.profile.government = 6 then population
      else if 7 ≤ main.profile.government then 1
      else 0
    let roll := (← Roll.d6) + modifier
    return if roll ≤ 1 then 0 else if roll ≤ 4 then roll - 1 else 6

/-- Rolls the law level of a world around that of the main world. -/
def rollLaw (population : Int) (main : World) : Roll σ Int := do
  if population ≤ 0 then return 0
  else return min 15 (max 0 ((← Roll.d6) - 3 + main.profile.law))

/-- The tech level of a world: one less than that of the main world, but never too low to live
with its atmosphere. -/
def techLevel (population atmosphere : Int) (main : World) : Int :=
  if population ≤ 0 then 0
  else
    let tech := max 0 (main.profile.tech - 1)
    if ¬isBreathable atmosphere ∧ tech < hostileTech then hostileTech else tech

/-- Rolls the starport of a world. -/
def rollPort (population : Int) : Roll σ Port := do
  let modifier : Int :=
    if population ≤ 0 then -3 else if population = 1 then -2 else if population ≤ 5 then 0 else 2
  let roll := (← Roll.d6) + modifier
  return if roll ≤ 2 then .Y else if roll = 3 then .H else if roll ≤ 5 then .G else .F

/-- Fills in government, law, tech and starport, and clears the facilities. -/
def govern (w : World) (main : World) : Roll σ World := do
  let population := w.profile.population
  let government ← rollGovernment population main
  let law ← rollLaw population main
  let tech := techLevel population w.profile.atmosphere main
  let port ← rollPort population
  return { w with
    profile := { w.profile with government := government, law := law, tech := tech, port := port }
    facilities := [] }

/-! ## Facilities -/

/-- Whether a world mines for an industrial main world. -/
def hasMine (w main : World) : Bool :=
  main.trade.contains .industrial && decide (2 ≤ w.profile.population)

/-- Whether a world is farmed: a settled, mild world in the habitable zone. -/
def hasFarm (w : World) (zones : Zones) : Bool :=
  decide (w.position = zones.habitable ∧ zones.inner < w.position ∧
    4 ≤ w.profile.atmosphere ∧ w.profile.atmosphere ≤ 9 ∧
    4 ≤ w.profile.hydro ∧ w.profile.hydro ≤ 8 ∧ 2 ≤ w.profile.population)

/-- Whether a world is a colony. -/
def isColony (w : World) : Bool :=
  decide (w.profile.government = 6 ∧ 5 ≤ w.profile.population)

/-- Rolls whether a world has a laboratory, which takes an advanced main world. -/
def rollLab (w main : World) : Roll σ Bool := do
  if 0 < main.profile.population ∧ 8 < main.profile.tech then
    let modifier : Int :=
      (if 10 ≤ main.profile.tech then 2 else 0) - (if w.profile.population = 0 then 2 else 0)
    return decide (12 ≤ (← Roll.twoD6) + modifier)
  else return false

/-- Rolls whether a settled world has a military base, which a poor main world cannot afford. -/
def rollMilitary (w main : World) : Roll σ Bool := do
  if ¬main.trade.contains .poor ∧ 0 < w.profile.population then
    let modifier : Int :=
      (if 8 ≤ main.profile.population then 1 else 0) +
      (if main.profile.atmosphere = w.profile.atmosphere then 2 else 0) +
      (if main.facilities.contains .naval ∨ main.facilities.contains .scout then 1 else 0)
    return decide (12 ≤ (← Roll.twoD6) + modifier)
  else return false

/-- Adds the facilities of a world.  A laboratory brings the tech of the main world along with
it. -/
def equip (w : World) (zones : Zones) (main : World) : Roll σ World := do
  let lab ← rollLab w main
  let military ← rollMilitary w main
  let tech :=
    if lab ∧ w.profile.tech = main.profile.tech - 1 then main.profile.tech else w.profile.tech
  return { w with
    profile := { w.profile with tech := tech }
    facilities := w.facilities ++
      (if hasMine w main then [.mining] else []) ++
      (if hasFarm w zones then [.farming] else []) ++
      (if isColony w then [.colony] else []) ++
      (if lab then [.lab] else []) ++
      (if military then [.military] else []) }

/-- Settles a world: government first, then its trade classes, then its facilities. -/
def settle (w : World) (zones : Zones) (main : World) : Roll σ World := do
  equip (← govern w main).classified zones main

end Starchart.Settlement
