import Starchart.Orbit
import Starchart.Star.Zone
import Starchart.World

/-!
# Star systems

One star with its fixed row of orbit slots.  A slot is decided once: a body placed in it or an
empty mark stays, and only a body placed by force may take its place.  Companion stars and the main
world are shared between places, so slots refer to them.

## Main definitions

* `Starchart.Slot` — what an orbit holds.
* `Starchart.StarSystem` — a star with its slots, companions and phase.
* `Starchart.StarSystem.place`, `Starchart.StarSystem.force`, `Starchart.StarSystem.markEmpty` —
  the three ways to decide a slot.
* `Starchart.StarSystem.enter` — entering a phase.
-/

set_option autoImplicit false

namespace Starchart

/-! ## Slots -/

/-- The number of a star on its chart. -/
abbrev StarId := Nat

/-- What one orbit of a star holds. The main world and companion stars are kept by the chart, and a
slot only refers to them. -/
inductive Slot where
  /-- Not decided yet. -/
  | undecided
  /-- Rolled to stay empty for good. -/
  | empty (orbit : Int)
  | world (w : World)
  | giant (g : GasGiant)
  /-- The main world of the chart. -/
  | main
  /-- A companion star, with the name and class by which it is known. -/
  | star (id : StarId) (name : String) (star : Star)
  deriving Inhabited

namespace Slot

/-- Whether nothing has been decided about an orbit. -/
def isUndecided : Slot → Bool
  | undecided => true
  | _ => false

/-- Whether an orbit is marked to stay empty. -/
def isEmpty : Slot → Bool
  | empty _ => true
  | _ => false

/-- Whether a gas giant holds the orbit. -/
def isGiant : Slot → Bool
  | giant _ => true
  | _ => false

/-- The body with its orbit stamped on it.  A shared body keeps its orbit elsewhere. -/
def stamp (orbit : Int) : Slot → Slot
  | world w => world { w with orbit := orbit }
  | giant g => giant { g with orbit := orbit }
  | other => other

/-- The name of the body in a slot, if there is one. -/
def bodyName? (main : String) : Slot → Option String
  | world w => some w.name
  | giant g => some g.name
  | .main => some main
  | star _ name _ => some name
  | undecided | empty _ => none

/-- The world or gas giant in a slot, if there is one. -/
def host? (main : World) : Slot → Option Host
  | world w => some (.world w)
  | giant g => some (.giant g)
  | .main => some (.world main)
  | undecided | empty _ | star .. => none

end Slot

/-! ## Systems -/

/-- One star of a chart.  Its `orbit` counts around its parent star: `Orbit.primary`,
`Orbit.contact`, `Orbit.far`, or the number of the orbit it takes. -/
structure StarSystem where
  name : String
  star : Star
  orbit : Int := Orbit.primary
  maxOrbits : Int
  slots : List Slot
  secondary : Option StarId := none
  tertiary : Option StarId := none
  /-- Whether the main world was assigned to this star. -/
  hasMain : Bool := false
  phase : Option Phase := none
  deriving Inhabited

namespace StarSystem

/-- Whether a number is small enough to count slots. -/
def isCountable (n : Int) : Bool :=
  decide (-0x8000000000000000 ≤ n) && decide (n < 0x8000000000000000)

/-- A star with all its orbits undecided. -/
def bare (name : String) (star : Star) (orbit maxOrbits : Int) : StarSystem :=
  { name := name, star := star, orbit := orbit, maxOrbits := maxOrbits
    slots := List.replicate maxOrbits.toNat .undecided }

/-- A star with all its orbits undecided, of any capacity that can be counted. -/
def create (name : String) (star : Star) (orbit maxOrbits : Int) : Except Fault StarSystem :=
  if isCountable maxOrbits then .ok (bare name star orbit maxOrbits)
  else .error .capacityTooWide

/-- A star starts with as many slots as it has capacity, and none below zero. -/
@[simp] theorem length_bare (name : String) (star : Star) (orbit maxOrbits : Int) :
    (bare name star orbit maxOrbits).slots.length = maxOrbits.toNat := by
  simp [bare]

/-- The name and class of a star, as in `Regina (G2 V)`. -/
def title (s : StarSystem) : String :=
  s.name ++ " (" ++ s.star.text ++ ")"

/-- Whether a companion shares the position of its parent. -/
def isContact (s : StarSystem) : Bool := s.orbit == Orbit.contact

/-- Whether a companion is too distant for a numbered slot. -/
def isFar (s : StarSystem) : Bool := s.orbit == Orbit.far

/-- The companions of a star, the secondary first. -/
def companions (s : StarSystem) : List StarId :=
  s.secondary.toList ++ s.tertiary.toList

/-! ### Reading slots -/

/-- Whether a star has a slot with the given number. -/
def inRange (s : StarSystem) (orbit : Int) : Bool :=
  decide (0 ≤ orbit) && decide (orbit < s.maxOrbits)

/-- The slot with the given number; a negative one counts back from the outermost slot. -/
def slot (s : StarSystem) (orbit : Int) : Except Fault Slot :=
  let index := if orbit < 0 then orbit + s.slots.length else orbit
  if !isCountable orbit then .error .slotNumberTooWide
  else if 0 ≤ index then
    match s.slots[index.toNat]? with
    | some content => .ok content
    | none => .error .noSuchSlot
  else .error .noSuchSlot

/-- The slot with the given number, where there is one. -/
def slotAt? (s : StarSystem) (orbit : Int) : Option Slot :=
  if s.inRange orbit then s.slots[orbit.toNat]? else none

/-- Whether an orbit is in range and nothing has been decided about it. -/
def isUndecided (s : StarSystem) (orbit : Int) : Bool :=
  match s.slotAt? orbit with
  | some content => content.isUndecided
  | none => false

/-- Slots paired with their numbers, from zero. -/
def number (slots : List Slot) : List (Int × Slot) :=
  slots.zipIdx.map fun (content, orbit) => ((orbit : Int), content)

/-- The slots of a star paired with their numbers. -/
def numbered (s : StarSystem) : List (Int × Slot) := number s.slots

/-- The slots as a listing shows them: an empty one counts as undecided unless asked for. -/
def shownSlots (s : StarSystem) (showEmpty : Bool) : List Slot :=
  s.slots.map fun content => if content.isEmpty && !showEmpty then .undecided else content

/-- The orbits about which nothing has been decided. -/
def undecidedOrbits (s : StarSystem) : List Int :=
  (s.numbered.filter fun (_, content) => content.isUndecided).map Prod.fst

/-- The orbits that gas giants hold. -/
def giantOrbits (s : StarSystem) : List Int :=
  (s.numbered.filter fun (_, content) => content.isGiant).map Prod.fst

/-- Why a body cannot be placed on an orbit. -/
def refusal (s : StarSystem) (main : String) (orbit : Int) : Refusal :=
  match s.slotAt? orbit with
  | none => .outOfRange
  | some content =>
    match content.bodyName? main with
    | some name => .occupiedBy name
    | none => .markedEmpty

/-! ### Deciding slots -/

/-- The star with the given content on an orbit. -/
def setSlot (s : StarSystem) (orbit : Int) (content : Slot) : StarSystem :=
  { s with slots := s.slots.set orbit.toNat content }

/-- Setting a slot keeps their number. -/
@[simp] theorem length_setSlot (s : StarSystem) (orbit : Int) (content : Slot) :
    (s.setSlot orbit content).slots.length = s.slots.length := by
  simp [setSlot]

/-- Places a body on an undecided orbit and stamps the orbit on it.  The main world is named in
case it stands in the way. -/
def place (s : StarSystem) (main : String) (body : Slot) (orbit : Int) :
    Except Fault StarSystem :=
  if s.isUndecided orbit then .ok (s.setSlot orbit (body.stamp orbit))
  else .error (.slotRefused orbit s.name (s.refusal main orbit))

/-- Places a body on any orbit in range, whatever it held, and tells what that was. -/
def force (s : StarSystem) (body : Slot) (orbit : Int) : Except Fault (Slot × StarSystem) :=
  match s.slotAt? orbit with
  | some previous => .ok (previous, s.setSlot orbit (body.stamp orbit))
  | none => .error (.outsideSlots orbit s.name s.maxOrbits)

/-- Marks an undecided orbit to stay empty and tells whether it did; any other orbit is left
alone. -/
def markEmpty (s : StarSystem) (orbit : Int) : Bool × StarSystem :=
  if s.isUndecided orbit then (true, s.setSlot orbit (.empty orbit)) else (false, s)

/-- Marks several orbits to stay empty, as far as they are undecided. -/
def markEmpties (s : StarSystem) (orbits : List Int) : StarSystem :=
  orbits.foldl (fun s orbit => (s.markEmpty orbit).2) s

/-- Marks the orbits that a companion on `orbit` destabilises: those from half its distance on, and
the two just beyond it. -/
def clearNear (s : StarSystem) (orbit : Int) : StarSystem :=
  s.markEmpties (Orbit.span (orbit / 2 + 1) orbit ++ [orbit + 1, orbit + 2])

/-! ### Phases -/

/-- Enters a phase, unless it ranks at or below the current one. -/
def enter (s : StarSystem) (next : Phase) : Except Fault StarSystem :=
  if next.mayFollow s.phase then .ok { s with phase := some next }
  else .error (.phaseOrder next (s.phase.getD next))

end StarSystem

end Starchart
