/-!
# Orbits

Orbits are numbered from the star outward, from zero.  Three numbers outside that row say how a star
lies with respect to its parent.

## Main definitions

* `Starchart.Orbit.primary`, `Starchart.Orbit.contact`, `Starchart.Orbit.far` — orbits of stars.
* `Starchart.Orbit.span` — a stretch of orbits.
-/

set_option autoImplicit false

namespace Starchart.Orbit

/-- The orbit of the primary star, which orbits nothing. -/
def primary : Int := -1

/-- The orbit of a companion that shares the position of its parent. -/
def contact : Int := 0

/-- The orbit of a companion too distant for a numbered slot. -/
def far : Int := 1000

/-- The orbits from `first` up to, but not including, `last`. -/
def span (first last : Int) : List Int :=
  (List.range (last - first).toNat).map fun (k : Nat) => first + k

/-- A stretch holds exactly the orbits between its ends. -/
@[simp] theorem mem_span {first last orbit : Int} :
    orbit ∈ span first last ↔ first ≤ orbit ∧ orbit < last := by
  simp only [span, List.mem_map, List.mem_range]
  constructor
  · rintro ⟨k, hk, rfl⟩
    omega
  · rintro ⟨h₁, h₂⟩
    exact ⟨(orbit - first).toNat, by omega, by omega⟩

end Starchart.Orbit
