import Starchart.Fault
import Starchart.Star

/-!
# Stellar zones

The zones around a star are bounded by orbit numbers.  A limit of `-1` says that the zone does not
exist, and a row of zeros that the star has no zones at all.  Tables know two columns per spectral
type: subtypes `0` to `4` and subtypes `5` to `9`.

## Main definitions

* `Starchart.Column` — the column of a subtype.
* `Starchart.Zones` — the limits of the five zones.
* `Starchart.Star.zones` — the zones around a star.
* `Starchart.Star.habitableOrbit` — the orbit of the habitable zone, or `-1`.
-/

set_option autoImplicit false

namespace Starchart

/-- The table column of a subtype. -/
inductive Column where
  /-- Subtypes `0` to `4`. -/
  | early
  /-- Subtypes `5` to `9`. -/
  | late
  deriving DecidableEq, Repr, Inhabited

/-- The subtype that heads a column. -/
def Column.subtype : Column → Int
  | early => 0
  | late => 5

/-- The column of a star; a subtype outside `0` to `9` has none. -/
def Star.column (star : Star) : Except Fault Column :=
  if 0 ≤ star.subtype ∧ star.subtype ≤ 4 then .ok .early
  else if 5 ≤ star.subtype ∧ star.subtype ≤ 9 then .ok .late
  else .error (.badSubtype star.subtype)

/-- The orbits up to which each zone around a star reaches. -/
structure Zones where
  /-- Orbits at or below this limit lie inside the star. -/
  inside : Int
  hot : Int
  inner : Int
  habitable : Int
  outer : Int
  deriving DecidableEq, Repr, Inhabited

/-- The row of a star without zones. -/
def Zones.none : Zones := ⟨0, 0, 0, 0, 0⟩

/-! ## Rows by luminosity class

Each row gives the zones of the early and of the late subtypes.
-/

/-- Zones around stars of class Ia. -/
def Zones.ofClassIa : SpectralType → Zones × Zones
  | .O => (none, none)
  | .B => (⟨0, 7, 12, 13, 14⟩, ⟨0, 7, 12, 13, 14⟩)
  | .A => (⟨1, 6, 11, 12, 14⟩, ⟨1, 6, 11, 12, 14⟩)
  | .F => (⟨2, 5, 11, 12, 14⟩, ⟨2, 5, 10, 11, 14⟩)
  | .G => (⟨3, 6, 11, 12, 14⟩, ⟨4, 6, 11, 12, 14⟩)
  | .K => (⟨5, 6, 11, 12, 14⟩, ⟨5, 6, 11, 12, 14⟩)
  | .M => (⟨6, 6, 11, 12, 14⟩, ⟨0, 6, 11, 12, 14⟩)

/-- Zones around stars of class Ib. -/
def Zones.ofClassIb : SpectralType → Zones × Zones
  | .O => (none, none)
  | .B => (⟨0, 7, 12, 13, 14⟩, ⟨0, 5, 10, 11, 14⟩)
  | .A => (⟨0, 4, 10, 11, 14⟩, ⟨0, 4, 9, 10, 14⟩)
  | .F => (⟨0, 4, 9, 10, 14⟩, ⟨0, 3, 9, 10, 14⟩)
  | .G => (⟨0, 3, 9, 10, 14⟩, ⟨1, 4, 9, 10, 14⟩)
  | .K => (⟨2, 4, 9, 10, 14⟩, ⟨2, 4, 9, 10, 14⟩)
  | .M => (⟨3, 4, 9, 10, 14⟩, ⟨3, 4, 9, 10, 14⟩)

/-- Zones around stars of class II. -/
def Zones.ofClassII : SpectralType → Zones × Zones
  | .O => (none, none)
  | .B => (⟨0, 6, 11, 12, 13⟩, ⟨0, 4, 10, 11, 13⟩)
  | .A => (⟨0, 2, 8, 9, 13⟩, ⟨0, 1, 7, 8, 13⟩)
  | .F => (⟨0, 1, 7, 8, 13⟩, ⟨0, 1, 7, 8, 13⟩)
  | .G => (⟨0, 1, 7, 8, 13⟩, ⟨0, 1, 7, 8, 13⟩)
  | .K => (⟨0, 1, 8, 9, 13⟩, ⟨1, 2, 8, 9, 13⟩)
  | .M => (⟨3, 3, 9, 10, 13⟩, ⟨5, 5, 10, 11, 13⟩)

/-- Zones around stars of class III. -/
def Zones.ofClassIII : SpectralType → Zones × Zones
  | .O => (none, none)
  | .B => (⟨0, 6, 11, 12, 13⟩, ⟨0, 4, 9, 10, 13⟩)
  | .A => (⟨0, 0, 7, 8, 13⟩, ⟨0, 0, 6, 7, 13⟩)
  | .F => (⟨0, 0, 5, 6, 13⟩, ⟨0, 0, 5, 6, 13⟩)
  | .G => (⟨0, 0, 5, 6, 13⟩, ⟨0, 0, 6, 7, 13⟩)
  | .K => (⟨0, 0, 6, 7, 13⟩, ⟨0, 0, 7, 8, 13⟩)
  | .M => (⟨0, 1, 7, 8, 13⟩, ⟨3, 3, 8, 9, 13⟩)

/-- Zones around stars of class IV. -/
def Zones.ofClassIV : SpectralType → Zones × Zones
  | .O => (none, none)
  | .B => (⟨0, 6, 11, 12, 13⟩, ⟨0, 2, 8, 9, 13⟩)
  | .A => (⟨0, 0, 6, 7, 13⟩, ⟨-1, -1, 5, 6, 13⟩)
  | .F => (⟨-1, -1, 4, 5, 13⟩, ⟨-1, -1, 4, 5, 13⟩)
  | .G => (⟨-1, -1, 4, 5, 13⟩, ⟨-1, -1, 4, 5, 13⟩)
  | .K => (⟨-1, -1, 3, 4, 13⟩, none)
  | .M => (none, none)

/-- Zones around stars of class V. -/
def Zones.ofClassV : SpectralType → Zones × Zones
  | .O => (none, none)
  | .B => (⟨0, 5, 11, 12, 14⟩, ⟨0, 2, 8, 9, 14⟩)
  | .A => (⟨-1, -1, 6, 7, 14⟩, ⟨-1, -1, 5, 6, 14⟩)
  | .F => (⟨-1, -1, 4, 5, 14⟩, ⟨-1, -1, 3, 4, 14⟩)
  | .G => (⟨-1, -1, 2, 3, 14⟩, ⟨-1, -1, 2, 3, 14⟩)
  | .K => (⟨-1, -1, 1, 2, 14⟩, ⟨-1, -1, -1, 0, 14⟩)
  | .M => (⟨-1, -1, -1, 0, 14⟩, ⟨-1, -1, -1, -1, 14⟩)

/-- Zones around stars of class VI. -/
def Zones.ofClassVI : SpectralType → Zones × Zones
  | .O => (none, none)
  | .B => (none, none)
  | .A => (none, none)
  | .F => (none, ⟨-1, -1, 2, 3, 4⟩)
  | .G => (⟨-1, -1, 1, 2, 4⟩, ⟨-1, -1, 0, 1, 4⟩)
  | .K => (⟨-1, -1, 0, 0, 4⟩, ⟨-1, -1, 0, 0, 4⟩)
  | .M => (⟨-1, -1, 0, 0, 4⟩, ⟨-1, -1, 0, 0, 4⟩)

/-- Zones around stars of class D. -/
def Zones.ofClassD : SpectralType → Zones × Zones
  | .O => (none, none)
  | .B => (⟨-1, -1, -1, 0, 4⟩, ⟨-1, -1, -1, 0, 4⟩)
  | .A => (⟨-1, -1, -1, -1, 4⟩, ⟨-1, -1, -1, -1, 4⟩)
  | .F => (⟨-1, -1, -1, -1, 4⟩, ⟨-1, -1, -1, -1, 4⟩)
  | .G => (⟨-1, -1, -1, -1, 4⟩, ⟨-1, -1, -1, -1, 4⟩)
  | .K => (⟨-1, -1, -1, -1, 4⟩, ⟨-1, -1, -1, -1, 4⟩)
  | .M => (⟨-1, -1, -1, -1, 4⟩, ⟨-1, -1, -1, -1, 4⟩)

/-- The two rows of a spectral type within a luminosity class. -/
def Zones.rows : LuminosityClass → SpectralType → Zones × Zones
  | .Ia => ofClassIa
  | .Ib => ofClassIb
  | .II => ofClassII
  | .III => ofClassIII
  | .IV => ofClassIV
  | .V => ofClassV
  | .VI => ofClassVI
  | .D => ofClassD

/-- The zones in one column of the table. -/
def Zones.entry (luminosity : LuminosityClass) (spectral : SpectralType) : Column → Zones
  | .early => (rows luminosity spectral).1
  | .late => (rows luminosity spectral).2

/-- The zones around a star. -/
def Star.zones (star : Star) : Except Fault Zones :=
  star.column.map (Zones.entry star.luminosity star.spectral)

/-- The orbit of the habitable zone, or `-1` where it does not lie beyond the inner zone. -/
def Zones.habitableOrbit (zones : Zones) : Int :=
  if zones.inner < zones.habitable then zones.habitable else -1

/-- The orbit of the habitable zone of a star, or `-1` where there is none. -/
def Star.habitableOrbit (star : Star) : Except Fault Int :=
  star.zones.map Zones.habitableOrbit

end Starchart
