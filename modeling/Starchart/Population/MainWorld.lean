import Starchart.Atlas
import Starchart.Population.Orbits

/-!
# Seating the main world

A main world with air and a surface belongs into the habitable zone.  Whatever holds that orbit
decides its fate: in a bare slot it takes the slot, around a gas giant it becomes a moon, and in the
place of a companion star the search goes on around the companion.  Any other main world takes an
orbit at random.

## Main definitions

* `Starchart.Profile.needsHabitable` — which worlds belong into the habitable zone.
* `Starchart.Population.habitableTarget` — the orbit to aim at around a star.
* `Starchart.Population.descend` — the search for a seat.
* `Starchart.Population.placeMain` — the whole phase.
-/

set_option autoImplicit false

namespace Starchart

/-- Whether a world has air and a surface, so that it belongs into the habitable zone. -/
def Profile.needsHabitable (p : Profile) : Bool :=
  decide (1 < p.atmosphere ∧ p.atmosphere < 10 ∧ 0 < p.size)

namespace Population

/-! ## Diagnostics -/

/-- The warning that a star has no habitable zone. -/
def noHabitableZone (s : StarSystem) (target : Int) : Diagnostic :=
  .warning .zone s!"{s.title} has no habitable zone; using orbit {target}"
    [("star", .text s.star.text), ("orbit", .int target)]

/-- The warning that the habitable zone lies beyond the orbits of a star. -/
def beyondOrbits (s : StarSystem) (target used : Int) : Diagnostic :=
  .warning .zone
    s!"Orbit {target} is beyond the {s.maxOrbits} orbits of {s.name}; using orbit {used}"
    [("star", .text s.star.text), ("orbit", .int used)]

/-- The warning that a companion in the habitable zone has no orbits. -/
def companionWithoutOrbits (companion : StarSystem) (target : Int) : Diagnostic :=
  .warning .zone s!"Companion {companion.name} at orbit {target} has no orbits of its own"
    [("star", .text companion.star.text), ("orbit", .int target)]

/-- The note that the main world orbits a companion. -/
def orbitsCompanion (main companion : String) (target : Int) : Diagnostic :=
  .note .placement s!"{main} orbits companion {companion} at orbit {target}"
    [("host", .text companion), ("orbit", .int target)]

/-- The note that the main world is the moon of a gas giant. -/
def isMoonOf (main : World) (giant : String) (target : Int) : Diagnostic :=
  .note .placement s!"{main.name} is satellite {main.orbit} of {giant}"
    [("host", .text giant), ("orbit", .int target)]

/-- The note that the main world took the place of another body. -/
def replaced (main previous : String) (orbit : Int) : Diagnostic :=
  .note .placement s!"{main} replaced {previous} at orbit {orbit}"
    [("replaced", .text previous), ("orbit", .int orbit)]

/-! ## Seats -/

variable {σ : Type} [RandomSource σ]

/-- Notes on a star that the main world was assigned to it. -/
def assign (id : StarId) : Gen σ Atlas Unit :=
  Gen.change fun a => a.modifyStar id fun s => { s with hasMain := true }

/-- Computes the astrophysical data of the main world around a star. -/
def surveyMain (star : Star) : Gen σ Atlas Unit := do
  let surveyed ← Gen.roll ((← Gen.main).surveyed star)
  Gen.changeMain fun _ => surveyed

/-- Seats the main world on an orbit of a star, whatever it held.  A displaced body is noted. -/
def seat (id : StarId) (orbit : Int) : Gen σ Atlas Unit := do
  let s ← Gen.star id
  Gen.changeMain fun w => { w with position := orbit }
  let previous ← Gen.force id .main orbit
  let main ← Gen.main
  match previous.bodyName? main.name with
  | some name => Gen.diagnose (replaced main.name name orbit)
  | none => pure ()
  surveyMain s.star

/-- Seats the main world on an undecided orbit picked at random, or on any orbit if all are
decided. -/
def seatAnywhere (id : StarId) : Gen σ Atlas Unit := do
  let s ← Gen.star id
  let orbit ←
    if s.undecidedOrbits.isEmpty then Gen.roll (Roll.below s.maxOrbits)
    else Gen.roll (Roll.choice s.undecidedOrbits)
  seat id orbit

/-- Makes the main world a moon of the gas giant that holds an orbit of a star. -/
def seatAsMoon (id : StarId) (orbit : Int) (giant : GasGiant) (limit : Int) :
    Gen σ Atlas Unit := do
  let s ← Gen.star id
  Gen.changeMain fun w => { w with isSatellite := true }
  let main ← Gen.main
  let moonOrbit ← Satellite.findOrbit main (.giant giant) (main.profile.size == 0) limit
  Gen.changeMain fun w => { w with orbit := moonOrbit, position := orbit }
  Gen.change fun a => a.modifyStar id fun s =>
    s.setSlot orbit (.giant { giant with satellites := giant.satellites ++ [.main] })
  surveyMain s.star
  Gen.diagnose (isMoonOf (← Gen.main) giant.name orbit)

/-! ## The search -/

/-- The orbit that a main world aims at: the habitable zone, or the edge of the inner zone where
there is none, kept within the orbits of the star.  Both compromises are recorded. -/
def habitableTarget (id : StarId) : Gen σ Atlas Int := do
  let s ← Gen.star id
  let zones ← s.star.zones
  let target ←
    if zones.habitableOrbit < 0 then do
      let target := max zones.inner 0
      Gen.diagnose (noHabitableZone s target)
      pure target
    else pure zones.habitableOrbit
  if s.maxOrbits ≤ target then
    Gen.diagnose (beyondOrbits s target (s.maxOrbits - 1))
    return s.maxOrbits - 1
  else return target

/-- Seats the main world on the target orbit of a star, or where the body that holds it leads.  A
companion without orbits leads back to the star it orbits.  The fuel bounds how many stars the
search may visit. -/
def descend (limit : Int) : Nat → StarId → Int → Gen σ Atlas Unit
  | 0, id, _ => throw (.endlessDescent id .calculation)
  | fuel + 1, id, target => do
    match ← (← Gen.star id).slot target with
    | .star companion _ _ =>
      let c ← Gen.star companion
      if c.maxOrbits = 0 then
        Gen.diagnose (companionWithoutOrbits c target)
        seatAnywhere id
      else
        Gen.diagnose (orbitsCompanion (← Gen.main).name c.name target)
        assign companion
        descend limit fuel companion (← habitableTarget companion)
    | .giant giant => seatAsMoon id target giant limit
    | _ => seat id target

/-- Seats the main world around a star, in the habitable zone when it needs one. -/
def placeMain (id : StarId) (limit : Int) : Gen σ Atlas Unit := do
  Gen.onStar id (enter .mainWorld)
  Gen.changeMain fun w => { w with isMain := true }
  assign id
  if (← Gen.main).profile.needsHabitable then
    let target ← habitableTarget id
    descend limit (← Gen.scene).stars.length id target
  else seatAnywhere id

end Population

end Starchart
