import Starchart.Atlas
import Starchart.Star.Rolls

/-!
# Primary and companion stars

Builds the stars of a system: the primary with its orbits, up to two companions, and around a far
companion perhaps one more.  Only stars are placed here; all other bodies come later.

## Main definitions

* `Starchart.Constellation.attach` — seats a companion in the orbits of its parent.
* `Starchart.Constellation.addCompanion` — rolls a companion and attaches it.
* `Starchart.Constellation.build` — the primary star with all its companions.
-/

set_option autoImplicit false

namespace Starchart.Constellation

variable {σ : Type} [RandomSource σ]

/-! ## Attaching companions -/

/-- Sets the orbit of a star. -/
def setOrbit (id : StarId) (orbit : Int) : Gen σ Atlas Unit :=
  Gen.change fun a => a.modifyStar id fun s => { s with orbit := orbit }

/-- Marks the orbits that a companion on `orbit` destabilises. -/
def clearNear (parent : StarId) (orbit : Int) : Gen σ Atlas Unit :=
  Gen.change fun a => a.modifyStar parent fun s => s.clearNear orbit

/-- Whether an orbit of a star is contact, be it that it lies inside the star. -/
def isContactOrbit (parent : StarSystem) (orbit : Int) : Except Fault Bool :=
  if orbit = Orbit.contact then .ok true
  else if orbit = Orbit.far then .ok false
  else parent.star.zones.map fun zones => decide (orbit ≤ zones.inside)

/-- Seats a companion in the orbits of its parent, or makes it contact or far, and tells its orbit.
An orbit inside the star is contact.  One past the slots of the parent keeps its number without
taking a slot, and one that is decided already leaves the companion far out. -/
def attach (parent companion : StarId) (orbit : Int) : Gen σ Atlas Int := do
  let p ← Gen.star parent
  if ← isContactOrbit p orbit then
    setOrbit companion Orbit.contact
  else if orbit = Orbit.far then
    setOrbit companion Orbit.far
  else if ¬p.inRange orbit then
    setOrbit companion orbit
    clearNear parent orbit
  else if p.isUndecided orbit then
    Gen.place parent (← (← Gen.scene).starSlot companion) orbit
    clearNear parent orbit
  else
    Gen.record (.companionDisplaced orbit p.name (← Gen.star companion).star)
    setOrbit companion Orbit.far
  return (← Gen.star companion).orbit

/-! ## Rolling companions -/

/-- Whether a companion orbits the primary star or another companion. -/
inductive Depth where
  | outer
  | nested
  deriving DecidableEq, Repr

/-- The penalty on the separation of a companion. -/
def Depth.penalty : Depth → Int
  | outer => 0
  | nested => 4

/-- The running rolls for type and class, to which each companion adds its own. So a companion is
never rolled independently of the stars before it. -/
structure Rolls where
  type : Int
  size : Int

/-- Rolls a companion star on the given orbit.  A nested companion close to its star has half the
room. -/
def rollCompanion (rolls : Rolls) (orbit : Int) (depth : Depth) : Roll σ (StarSystem × Rolls) := do
  let type := rolls.type + (← Roll.twoD6)
  let size := rolls.size + (← Roll.twoD6)
  let subtype ← Roll.d10
  let star := Star.corrected ⟨Star.companionType type, subtype, Star.companionClass size⟩
  let room ← star.rollCapacity
  let room := if depth = .nested ∧ orbit ≠ Orbit.far then room / 2 else room
  let name ← Name.star
  return (.bare name star orbit room, ⟨type, size⟩)

/-- Links a companion to its parent. -/
def link (parent companion : StarId) (tertiary : Bool) : Gen σ Atlas Unit :=
  Gen.change fun a => a.modifyStar parent fun s =>
    if tertiary then { s with tertiary := some companion }
    else { s with secondary := some companion }

/-- Rolls a companion, attaches it to its parent and links it.  A tertiary star orbits farther
out. -/
def addCompanion (parent : StarId) (tertiary : Bool) (rolls : Rolls) (depth : Depth) :
    Gen σ Atlas (StarId × Rolls) := do
  let roll ← Gen.roll Roll.twoD6
  let orbit ← Gen.roll
    (Star.rollSeparation (roll + (if tertiary then 4 else 0) - depth.penalty))
  let (s, next) ← Gen.roll (rollCompanion rolls orbit depth)
  let companion ← Gen.add s
  let seated ← attach parent companion orbit
  link parent companion tertiary
  Gen.record (.companionAdded s.name s.star seated (← Gen.star parent).name)
  return (companion, next)

/-- Adds a companion to the primary star; a far one may have a companion of its own. -/
def addOuter (primary : StarId) (tertiary : Bool) (rolls : Rolls) : Gen σ Atlas Unit := do
  let (companion, next) ← addCompanion primary tertiary rolls .outer
  if (← Gen.star companion).isFar then
    if 1 < (← Gen.roll Star.rollCount) then
      let _ ← addCompanion companion false next .nested

/-! ## The primary star -/

/-- Rolls the star at the centre of a system; there is always room for one orbit. -/
def rollPrimary (bonus : Int) (rolls : Rolls) : Roll σ (Star × Int) := do
  let subtype ← Roll.d10
  let star := Star.corrected ⟨Star.primaryType (rolls.type + bonus), subtype,
    Star.primaryClass rolls.size⟩
  return (star, max 1 (← star.rollCapacity))

/-- Builds the stars of a system and tells the number of the primary.  The bonus favours
conventional primaries; a name may be given. -/
def build (bonus : Int) (companions : Bool) (name : Option String) : Gen σ Atlas StarId := do
  let count ← if companions then Gen.roll Star.rollCount else pure 1
  let type ← Gen.roll Roll.twoD6
  let size ← Gen.roll Roll.twoD6
  let (star, capacity) ← Gen.roll (rollPrimary bonus ⟨type, size⟩)
  let name ← match name with
    | some name => pure name
    | none => Gen.roll Name.star
  let primary ← Gen.add (.bare name star Orbit.primary capacity)
  Gen.record (.primaryRolled star capacity count)
  if 1 < count then addOuter primary false ⟨type, size⟩
  if 2 < count then addOuter primary true ⟨type, size⟩
  return primary

end Starchart.Constellation
