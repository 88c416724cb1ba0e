import Starchart.Journal
import Starchart.Tree

/-!
# Listings

The plain-text listing of a star system: one line per star and body, indented by how deeply it is
nested, then the body counts and the diagnostics of the run.

## Main definitions

* `Starchart.Report.worldLine` — the line of a world.
* `Starchart.Report.render` — the lines of a star and its companions.
* `Starchart.Report.full` — the listing with counts and diagnostics.
-/

set_option autoImplicit false

namespace Starchart.Report

/-- The indentation of one level. -/
def step : String := "    "

/-- The indentation of a line; there is none above the outermost level. -/
def indent (depth : Int) : String :=
  String.join (List.replicate depth.toNat step)

/-- The orbit of a star as its headline shows it. -/
def orbitLabel (orbit : Int) : String :=
  if orbit = Orbit.primary then "Primary"
  else if orbit = Orbit.contact then "Contact"
  else if orbit = Orbit.far then "Far"
  else "Orbit " ++ toString orbit

/-- The number of an orbit at the head of a line. -/
def orbitColumn (orbit : Int) : String :=
  Text.padRight 7 (toString orbit)

/-- The remarks at the end of the line of a world: whether it is the main world, its facilities and
its climate. -/
def remarks (w : World) : List String :=
  (if w.isMain then ["Main World"] else []) ++
    [w.facilitiesText, w.climateText].filter fun text => !text.isEmpty

/-- The line of a world: orbit, name, profile, trade codes and remarks. -/
def worldLine (orbit : Int) (w : World) : Except Fault String := do
  let profile ← w.profileText
  let line := orbitColumn orbit ++ Text.padRight 24 w.name ++ Text.padRight 12 profile ++
    Text.padRight 18 w.tradeText
  let line := if (remarks w).isEmpty then line else line ++ "  " ++ " | ".intercalate (remarks w)
  return Text.dropTrailingBlanks line

/-- The line of a satellite. -/
def moonLine (main : World) (depth : Int) (moon : Moon World) : Except Fault String := do
  let w := moon.body main
  return indent depth ++ step ++ (← worldLine w.orbit w)

/-- The lines of a world or gas giant and its satellites. -/
def hostLines (main : World) (depth : Int) (orbit : Int) (host : Host) :
    Except Fault (List String) := do
  let first ← match host with
    | .giant g =>
      pure (indent depth ++ orbitColumn orbit ++ Text.padRight 24 g.name ++ g.size.code)
    | .world w => do pure (indent depth ++ (← worldLine orbit w))
  let moons ← host.satellites.mapM (moonLine main depth)
  return first :: moons

/-- The lines of one slot. -/
def slotLines (main : World) (depth : Int) (orbit : Int) (content : Slot) :
    Except Fault (List String) :=
  match content with
  | .undecided => .ok []
  | .empty _ => .ok [indent depth ++ step ++ orbitColumn orbit ++ "Empty"]
  | .star _ name star =>
    .ok [indent depth ++ step ++ orbitColumn orbit ++ name ++ " (" ++ star.text ++ ")"]
  | .world w => hostLines main (depth + 1) orbit (.world w)
  | .giant g => hostLines main (depth + 1) orbit (.giant g)
  | .main => hostLines main (depth + 1) orbit (.world main)

/-- The headline of a star. -/
def headline (depth : Int) (s : StarSystem) : String :=
  indent depth ++ s.name ++ ": " ++ s.star.text ++ " (" ++ orbitLabel s.orbit ++ ")"

/-- The lines of one star: its headline and its slots.  An orbit that stays empty is listed only on
request. -/
def starLines (main : World) (showEmpty : Bool) (depth : Int) (s : StarSystem) :
    Except Fault (List String) := do
  let slots ← (StarSystem.number (s.shownSlots showEmpty)).mapM fun (orbit, content) =>
    slotLines main depth orbit content
  return headline depth s :: slots.flatten

/-! ## Charts -/

/-- The worlds that the listing of a slot shows, each with a line of its own. -/
def listedWorlds (main : World) (content : Slot) : List World :=
  match content.host? main with
  | none => []
  | some host =>
    let moons := host.satellites.map fun moon => moon.body main
    match host with
    | .world w => w :: moons
    | .giant _ => moons

/-- Whether the listing of a star shows a world. -/
def showsWorlds (main : World) (s : StarSystem) : Bool :=
  s.slots.any fun content => !(listedWorlds main content).isEmpty

/-- Whether the listing of a star shows the trade codes or facilities of a world. -/
def showsCodes (main : World) (s : StarSystem) : Bool :=
  s.slots.any fun content =>
    (listedWorlds main content).any fun w => !w.trade.isEmpty || !w.facilities.isEmpty

/-- Where a listing that never ends is given up, if the given star is on its way.  Profiles are
worked out further down than the headline of a star, and trade codes and facilities are written
further down still. -/
def halt (main : World) (s : StarSystem) : Halt :=
  if showsWorlds main s && !showsCodes main s then .calculation else .descent

/-- The lines of a star and its companions, of which no path may be longer than the fuel.  The lines
of a star come before those of its companions, and so do the faults in them. -/
def linesTo (a : Atlas) (showEmpty : Bool) : Nat → Int → Option StarId →
    Except Fault (List String)
  | _, _, none => .ok []
  | 0, _, some id => do
    let s ← a.star id
    throw (.endlessDescent id (halt a.main s))
  | fuel + 1, depth, some id => do
    let s ← a.star id
    let own ← starLines a.main showEmpty depth s
    let second ← linesTo a showEmpty fuel (depth + 1) s.secondary
    let third ← linesTo a showEmpty fuel (depth + 1) s.tertiary
    return own ++ (second ++ third)

/-- The lines of a star and its companions, listed at any depth that can be counted.  A path that is
longer than the chart has stars never ends. -/
def render (a : Atlas) (showEmpty : Bool) (depth : Int) (id : StarId) :
    Except Fault (List String) :=
  if StarSystem.isCountable depth then linesTo a showEmpty a.stars.length depth (some id)
  else .error .depthTooWide

/-- The line of body counts. -/
def countLine (counts : Survey) : String :=
  s!"{counts.stars} star(s), {counts.worlds} world(s), {counts.giants} gas giant(s), " ++
    s!"{counts.belts} belt(s), {counts.satellites} satellite(s)"

/-- The listing of a star and its companions with their body counts and, if there are any, the
diagnostics of the run.  The bodies are counted before they are listed. -/
def full (a : Atlas) (showEmpty : Bool) (id : StarId) (diagnostics : List Diagnostic) :
    Except Fault String := do
  let t ← a.tree id
  let lines ← render a showEmpty 0 id
  let counts := ["", countLine (t.survey a.main)]
  let notices := if diagnostics.isEmpty then [] else "" :: diagnostics.map Diagnostic.line
  return "\n".intercalate (lines ++ counts ++ notices)

end Starchart.Report
