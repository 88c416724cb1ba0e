/-!
# Surface cover and albedo

The surface of a world is shared between water, land and ice.  Ice takes half of its share from
each of the other two where both can give it, and the rest from the larger one.  Clouds scale what
the surface reflects.  The arithmetic is stated for any kind of number.

## Main definitions

* `Starchart.Cover` — the shares of water, land and ice.
* `Starchart.Cover.freeze` — the cover of a world from its water and its ice.
* `Starchart.Cover.albedo` — the light that a covered and clouded world reflects.
* `Starchart.Cover.seeded` — the cover of a world while its ice is not known yet.
* `Starchart.Cover.reflected`, `Starchart.Cover.absorbed` — the light that a world reflects, and the
  light that is left.
-/

set_option autoImplicit false

namespace Starchart

/-- The shares of the surface that are water, land and ice. -/
structure Cover (R : Type) where
  water : R
  land : R
  ice : R

namespace Cover

variable {R : Type} [OfScientific R] [Add R] [Sub R] [Mul R] [Div R]

/-- The cover of a world whose surface is `water`, the rest land, before `ice` spreads over both. -/
def freeze [LT R] [LE R] [DecidableLT R] [DecidableLE R] (water ice : R) : Cover R :=
  let land := 1.0 - water
  let half := ice / 2.0
  if half ≤ water ∧ half ≤ land then ⟨water - half, land - half, ice⟩
  else if water < land then ⟨0.0, land - (half + (half - water)), ice⟩
  else ⟨water - (half + (half - land)), 0.0, ice⟩

/-- The share of light reflected by clouds over the given share of the sky and by what lies below
them: clouds half, water `0.02`, land `0.1` and ice `0.85`. -/
def albedo (cover : Cover R) (cloud : R) : R :=
  cloud * 0.5 + cover.water * cloud * 0.02 + cover.land * cloud * 0.1 + cover.ice * cloud * 0.85

/-- The share of the surface that ice is assumed to cover while the albedo is computed. -/
def seededIce : R := 0.1

/-- The cover of a world with the given water, in tenths, under the ice that is assumed. -/
def seeded [LT R] [LE R] [DecidableLT R] [DecidableLE R] (hydro : R) : Cover R :=
  freeze (hydro / 10.0) seededIce

/-- The share of light reflected by a world with the given water, in tenths, and the given clouds,
in per cent. -/
def reflected [LT R] [LE R] [DecidableLT R] [DecidableLE R] (hydro clouds : R) : R :=
  (seeded hydro).albedo (clouds / 100.0)

/-- The share of light that a world of the given albedo keeps. -/
def absorbed (albedo : R) : R := 1.0 - albedo

end Cover

end Starchart
