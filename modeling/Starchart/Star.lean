/-!
# Stars

The classification of a star: its spectral type, a subtype from `0` (hottest) to `9`, and its
luminosity class, as in `G2 V`.

## Main definitions

* `Starchart.SpectralType`, `Starchart.LuminosityClass` — the two scales, each with its rank.
* `Starchart.Star` — a classified star.
* `Starchart.Star.text` — the written classification.
-/

set_option autoImplicit false

namespace Starchart

/-- Spectral types, hottest first. -/
inductive SpectralType where
  | O | B | A | F | G | K | M
  deriving DecidableEq, Repr, Inhabited

namespace SpectralType

/-- The letter of a spectral type. -/
def letter : SpectralType → String
  | O => "O" | B => "B" | A => "A" | F => "F" | G => "G" | K => "K" | M => "M"

/-- The place on the scale, from zero for the hottest. -/
def rank : SpectralType → Nat
  | O => 0 | B => 1 | A => 2 | F => 3 | G => 4 | K => 5 | M => 6

/-- Every spectral type, hottest first. -/
def all : List SpectralType := [O, B, A, F, G, K, M]

/-- The spectral type with the given letter. -/
def ofLetter? (text : String) : Option SpectralType :=
  all.find? (·.letter == text)

end SpectralType

/-- Luminosity classes, most luminous first. -/
inductive LuminosityClass where
  | Ia | Ib | II | III | IV | V | VI | D
  deriving DecidableEq, Repr, Inhabited

namespace LuminosityClass

/-- The written form of a luminosity class. -/
def code : LuminosityClass → String
  | Ia => "Ia" | Ib => "Ib" | II => "II" | III => "III" | IV => "IV" | V => "V" | VI => "VI"
  | D => "D"

/-- The place on the scale, from zero for the most luminous. -/
def rank : LuminosityClass → Nat
  | Ia => 0 | Ib => 1 | II => 2 | III => 3 | IV => 4 | V => 5 | VI => 6 | D => 7

/-- Every luminosity class, most luminous first. -/
def all : List LuminosityClass := [Ia, Ib, II, III, IV, V, VI, D]

/-- The luminosity class written as `text`. -/
def ofCode? (text : String) : Option LuminosityClass :=
  all.find? (·.code == text)

/-- Whether a star of this class has the many orbits of a supergiant; bright giants share them. -/
def isSupergiant : LuminosityClass → Bool
  | Ia | Ib | II => true
  | _ => false

end LuminosityClass

/-- A classified star.  The subtype is meant to lie from `0` to `9`; tables refuse any other. -/
structure Star where
  spectral : SpectralType
  subtype : Int
  luminosity : LuminosityClass
  deriving DecidableEq, Repr, Inhabited

/-- The written classification, such as `G2 V`. -/
def Star.text (star : Star) : String :=
  star.spectral.letter ++ toString star.subtype ++ " " ++ star.luminosity.code

end Starchart
