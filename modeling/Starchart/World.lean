import Starchart.Astro
import Starchart.Name
import Starchart.Trade

/-!
# Worlds and gas giants

The bodies that orbit a star: worlds, which are planets, planetoid belts or moons with a full
profile, and gas giants, which have none.  Either may carry satellites.  One world of a chart is its
main world; since it may stand in several places at once, places refer to it instead of holding a
copy.

## Main definitions

* `Starchart.World`, `Starchart.GasGiant` — the two kinds of bodies.
* `Starchart.Moon` — a satellite: a world of its own, or the main world.
* `Starchart.Host` — a body with its satellites.
-/

set_option autoImplicit false

namespace Starchart

/-! ## Facilities and giant sizes -/

/-- Installations that a world may have. -/
inductive Facility where
  | naval
  | scout
  | farming
  | mining
  | colony
  | lab
  | military
  deriving DecidableEq, Repr, Inhabited

namespace Facility

/-- The written form of a facility. -/
def code : Facility → String
  | naval => "Naval"
  | scout => "Scout"
  | farming => "Farming"
  | mining => "Mining"
  | colony => "Colony"
  | lab => "Lab"
  | military => "Military"

/-- Every facility. -/
def all : List Facility := [naval, scout, farming, mining, colony, lab, military]

/-- The facility written as `text`. -/
def ofCode? (text : String) : Option Facility :=
  all.find? (·.code == text)

end Facility

/-- The two sizes of gas giants. -/
inductive GiantSize where
  | small
  | large
  deriving DecidableEq, Repr, Inhabited

namespace GiantSize

/-- The abbreviation that listings use. -/
def code : GiantSize → String
  | small => "SGG"
  | large => "LGG"

/-- The size named `Small` or `Large`. -/
def ofName? : String → Option GiantSize
  | "Small" => some small
  | "Large" => some large
  | _ => none

end GiantSize

/-! ## Bodies -/

/-- A satellite among worlds of type `W`: one of its own, or the main world of the chart. -/
inductive Moon (W : Type) where
  | own (world : W)
  | main

/-- A planet, planetoid belt or satellite.  Its `orbit` counts around the body or star it orbits,
and its `position` is always the orbit around the star, by which zones are judged. -/
structure World where
  name : String
  orbit : Int := 0
  position : Int := 0
  profile : Profile := {}
  isSatellite : Bool := false
  isMain : Bool := false
  satellites : List (Moon World) := []
  facilities : List Facility := []
  trade : List TradeClass := []
  astro : Option Astro := none
  deriving Inhabited

/-- A gas giant with its satellites. -/
structure GasGiant where
  name : String
  size : GiantSize
  orbit : Int
  satellites : List (Moon World) := []
  deriving Inhabited

namespace World

/-- The text of the profile of a world. -/
def profileText (w : World) : Except Fault String :=
  (w.profile.write w.name w.isSatellite w.isMain).map String.ofList

/-- Whether a world is a ring: a satellite of size zero. -/
def isRing (w : World) : Bool :=
  w.isSatellite && w.profile.size == 0

/-- Whether a world is a planetoid belt: it carries the name of one and is no satellite. -/
def isBelt (w : World) : Bool :=
  !w.isSatellite && w.name == Name.belt

/-- The world with the trade classes of its digits. -/
def classified (w : World) : World :=
  { w with trade := w.profile.tradeClasses w.isMain }

/-- The facilities of a world as listings show them. -/
def facilitiesText (w : World) : String :=
  ", ".intercalate (w.facilities.map Facility.code)

/-- The trade codes of a world as listings show them. -/
def tradeText (w : World) : String :=
  " ".intercalate (w.trade.map TradeClass.code)

/-- The climate of a world in one line; blank where it is not known. -/
def climateText (w : World) : String :=
  match w.astro with
  | none => ""
  | some astro => astro.describe w.profile.atmosphere

/-- The world with its astrophysical data around a star computed anew. -/
def surveyed {σ : Type} [RandomSource σ] (w : World) (star : Star) : Roll σ World := do
  let astro ← Astro.roll star w.position w.profile
  return { w with astro := some astro }

/-- A ring: a satellite whose digits are all zero. -/
def ring (orbit position : Int) : World :=
  { name := Name.ring, orbit := orbit, position := position, isSatellite := true }

end World

/-! ## Satellites and their hosts -/

namespace Moon

/-- The world that a satellite is, given the main world of the chart. -/
def body (main : World) : Moon World → World
  | own w => w
  | .main => main

/-- Whether a satellite is a ring that may be merged with others.  The main world never is. -/
def isLooseRing : Moon World → Bool
  | own w => w.profile.size == 0 && !w.isMain
  | .main => false

/-- The satellite under another name; the main world keeps its own. -/
def rename (name : String) : Moon World → Moon World
  | own w => own { w with name := name }
  | .main => .main

end Moon

/-- A body that satellites orbit. -/
inductive Host where
  | world (w : World)
  | giant (g : GasGiant)

namespace Host

/-- The satellites of a body. -/
def satellites : Host → List (Moon World)
  | world w => w.satellites
  | giant g => g.satellites

/-- The body with other satellites. -/
def withSatellites (moons : List (Moon World)) : Host → Host
  | world w => world { w with satellites := moons }
  | giant g => giant { g with satellites := moons }

/-- The orbit of a body around its star, by which zones are judged. -/
def position : Host → Int
  | world w => w.position
  | giant g => g.orbit

/-- The name of a body. -/
def name : Host → String
  | world w => w.name
  | giant g => g.name

/-- The orbits that the satellites of a body carry. -/
def takenOrbits (main : World) (host : Host) : List Int :=
  host.satellites.map fun moon => (moon.body main).orbit

/-- The first satellite on an orbit. -/
def satelliteAt? (main : World) (host : Host) (orbit : Int) : Option (Moon World) :=
  host.satellites.find? fun moon => (moon.body main).orbit == orbit

variable {σ : Type} [RandomSource σ]

/-- Rolls how many satellites a body has: none for a world without size. -/
def rollCount : Host → Roll σ Int
  | world w => do
    if w.profile.size ≤ 0 then return 0
    else return max 0 ((← Roll.d6) - 3)
  | giant g =>
    match g.size with
    | .small => return max 0 ((← Roll.twoD6) - 4)
    | .large => Roll.twoD6

/-- Rolls the size of one satellite. -/
def rollSize : Host → Roll σ Int
  | world w => return w.profile.size - (← Roll.d6)
  | giant g =>
    match g.size with
    | .small => return (← Roll.twoD6) - 6
    | .large => return (← Roll.twoD6) - 4

end Host

end Starchart
