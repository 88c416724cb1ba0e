import Starchart.Run
import Starchart.StarSystem

/-!
# Charts

A chart holds every star by number, and the one main world.  Companion links and slots refer to
stars by number, so a star that is linked and also stands in a slot is one star.

## Main definitions

* `Starchart.Atlas` — the stars and the main world.
* `Starchart.Atlas.add` — a new star.
* `Starchart.Gen.onStar` — a step on one star, as a step on the chart.
-/

set_option autoImplicit false

namespace Starchart

/-- The stars of a chart by number, and its main world. Stars refer to each other by number and
slots refer to the main world, so that a change to either shows wherever it is referred to. -/
structure Atlas where
  stars : List StarSystem := []
  main : World
  deriving Inhabited

namespace Atlas

/-- The star with a number. -/
def star? (a : Atlas) (id : StarId) : Option StarSystem := a.stars[id]?

/-- The star with a number; none other will do. -/
def star (a : Atlas) (id : StarId) : Except Fault StarSystem :=
  match a.star? id with
  | some s => .ok s
  | none => .error (.noSuchStar id)

/-- The chart with a star replaced. -/
def setStar (a : Atlas) (id : StarId) (s : StarSystem) : Atlas :=
  { a with stars := a.stars.set id s }

/-- The chart with a star changed. -/
def modifyStar (a : Atlas) (id : StarId) (f : StarSystem → StarSystem) : Atlas :=
  { a with stars := a.stars.modify id f }

/-- The chart with one more star, and the number of that star. -/
def add (a : Atlas) (s : StarSystem) : StarId × Atlas :=
  (a.stars.length, { a with stars := a.stars ++ [s] })

/-! ## Bodies to be placed -/

/-- The slot that refers to a star. -/
def starSlot (a : Atlas) (id : StarId) : Except Fault Slot :=
  (a.star id).map fun s => .star id s.name s.star

/-- The chart with the orbit of a shared body stamped on it; other bodies carry it themselves. -/
def stamp (a : Atlas) (orbit : Int) : Slot → Atlas
  | .main => { a with main := { a.main with orbit := orbit } }
  | .star id _ _ => a.modifyStar id fun s => { s with orbit := orbit }
  | _ => a

/-- Places a body on an undecided orbit of a star. -/
def place (a : Atlas) (id : StarId) (body : Slot) (orbit : Int) : Except Fault Atlas := do
  let s ← (← a.star id).place a.main.name body orbit
  return (a.setStar id s).stamp orbit body

/-- Places a body on any orbit of a star and tells what it held. -/
def force (a : Atlas) (id : StarId) (body : Slot) (orbit : Int) :
    Except Fault (Slot × Atlas) := do
  let (previous, s) ← (← a.star id).force body orbit
  return (previous, (a.setStar id s).stamp orbit body)

/-! ## Bodies with satellites -/

/-- The world or gas giant in a slot of a star, if there is one. -/
def host? (a : Atlas) (id : StarId) (orbit : Nat) : Option Host := do
  let s ← a.star? id
  let content ← s.slots[orbit]?
  content.host? a.main

/-- The chart with the world or gas giant in a slot of a star changed; if that is the main world,
the change shows wherever it stands. -/
def setHost (a : Atlas) (id : StarId) (orbit : Nat) (host : Host) : Atlas :=
  match (a.star? id).bind (·.slots[orbit]?), host with
  | some .main, .world w => { a with main := w }
  | _, .world w => a.modifyStar id fun s => { s with slots := s.slots.set orbit (.world w) }
  | _, .giant g => a.modifyStar id fun s => { s with slots := s.slots.set orbit (.giant g) }

end Atlas

namespace Gen

variable {σ : Type} {α : Type}

/-- The star with a number. -/
def star (id : StarId) : Gen σ Atlas StarSystem := do (← scene).star id

/-- A step on one star as a step on the chart. The star is written back when the step ends and also
when it fails, with what was done up to then. -/
def onStar (id : StarId) (x : Gen σ StarSystem α) : Gen σ Atlas α := do
  let s ← star id
  onPart (fun _ => s) (fun s a => a.setStar id s) x

/-- A step on the world or gas giant in a slot of a star as a step on the chart; nothing happens
where there is neither. -/
def onHost (id : StarId) (orbit : Nat) (x : Gen σ Host Unit) : Gen σ Atlas Unit := do
  match (← scene).host? id orbit with
  | none => return
  | some host => onPart (fun _ => host) (fun host a => a.setHost id orbit host) x

/-- The main world. -/
def main : Gen σ Atlas World := return (← scene).main

/-- Changes the main world. -/
def changeMain (f : World → World) : Gen σ Atlas Unit :=
  change fun a => { a with main := f a.main }

/-- Places a body on an undecided orbit of a star. -/
def place (id : StarId) (body : Slot) (orbit : Int) : Gen σ Atlas Unit :=
  attempt fun a => a.place id body orbit

/-- Places a body on any orbit of a star and tells what it held. -/
def force (id : StarId) (body : Slot) (orbit : Int) : Gen σ Atlas Slot := do
  let (previous, a) ← (← scene).force id body orbit
  change fun _ => a
  return previous

/-- Adds a star to the chart. -/
def add (s : StarSystem) : Gen σ Atlas StarId := do
  let (id, a) := (← scene).add s
  change fun _ => a
  return id

end Gen

end Starchart
