import Starchart.Decimal.Fixed

/-!
# Shares of a whole

A share is a double from zero to one.

## Main definitions

* `Starchart.Share` — a share.
* `Starchart.Share.clamp` — the share nearest to a double.
* `Starchart.Share.percent` — a share in whole per cent.
-/

set_option autoImplicit false

namespace Starchart

/-- A double from zero to one. -/
structure Share where
  value : Float
  nonneg : 0.0 ≤ value
  le_one : value ≤ 1.0

namespace Share

/-- A double below another one is at most as large: one comparison decides both. -/
theorem float_le_of_lt {x y : Float} (less : x < y) : x ≤ y := by
  change x.lt y = true at less
  change x.le y = true
  simp only [Float.lt, Float.le, decide_eq_true_eq] at less ⊢
  change x.toModel.unpack.lt y.toModel.unpack = true at less
  change x.toModel.unpack.le y.toModel.unpack = true
  simp only [Float.Model.UnpackedFloat.lt, Float.Model.UnpackedFloat.le, beq_iff_eq] at less ⊢
  simp [less]

/-- The share nearest to a double; what is no number counts as nothing. -/
def clamp (x : Float) : Share :=
  if positive : x > 0.0 then
    if small : x < 1.0 then ⟨x, float_le_of_lt positive, float_le_of_lt small⟩
    else ⟨1.0, by decide, by decide⟩
  else ⟨0.0, by decide, by decide⟩

instance : Inhabited Share := ⟨clamp 0.0⟩

/-- A share in whole per cent, a half going to the even neighbour. -/
def percent (s : Share) : Int :=
  Decimal.nearestInt (s.value * 100.0)

end Share

end Starchart
