import Starchart.Constellation
import Starchart.Population.Pipeline

/-!
# The generator

Generates a whole star system around one main world: the stars first, then the bodies around them.

## Main definitions

* `Starchart.Profile.starBonus` — how much a main world favours a conventional star.
* `Starchart.Generator.prepare` — the main world marked and classified.
* `Starchart.Generator.generate` — the whole run.
* `Starchart.World.ofProfileText` — the world that a profile text describes.
-/

set_option autoImplicit false

namespace Starchart

/-- The bonus on the type of the primary for a main world that wants a conventional star. -/
def Profile.starBonus (p : Profile) : Int :=
  if 4 ≤ p.atmosphere ∧ p.atmosphere ≤ 9 ∨ 8 ≤ p.population then 4 else 0

namespace Generator

/-- The main world, marked as such and classified. -/
def prepare (w : World) : World :=
  World.classified { w with isMain := true }

variable {σ : Type} [RandomSource σ]

/-- Generates the stars and bodies around the main world of a chart and tells the number of the
primary star.  The seed is only written to the journal. -/
def generate (limit seed : Int) : Gen σ Atlas StarId := do
  Gen.changeMain prepare
  let main ← Gen.main
  let primary ← Constellation.build main.profile.starBonus true none
  let profile ← main.profileText
  Gen.record (.generating (← Gen.star primary).name main.name profile seed)
  Population.populate limit primary true
  return primary

end Generator

/-! ## Reading the main world -/

/-- The wording of the warning about the separator of a profile text. -/
def separatorComplaint (text separator : String) : String :=
  s!"Unexpected separator '{separator}' in UPP '{text}'"

/-- The warning that a profile text has an unexpected separator. -/
def oddSeparator (text : String) (separator : Char) : Diagnostic :=
  .warning .input (separatorComplaint text (toString separator))
    [("upp", .text text), ("separator", .text (toString separator))]

/-- The diagnostics that reading a profile text records: one when its separator is unexpected. -/
def Profile.notices (text : String) : List Diagnostic :=
  ((Profile.oddSeparator? text.toList).map (oddSeparator text)).toList

/-- The world of the given name that a profile text describes. -/
def World.ofProfileText (name text : String) (satellite mainWorld : Bool) : Except Fault World :=
  (Profile.read text.toList satellite).map fun profile =>
    { name := name, profile := profile, isSatellite := satellite, isMain := mainWorld }

end Starchart
