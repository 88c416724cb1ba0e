import Mathlib.Algebra.Order.Field.Rat
import Mathlib.Tactic.Linarith
import Mathlib.Tactic.NormNum.OfScientific
import Mathlib.Tactic.Ring
import Starchart.Albedo
import Starchart.Climate

/-!
# The cover of a surface

Water, land and ice share the whole surface of a world between them.  However the ice is taken from
the other two, nothing is lost and nothing is owed, even where the water is out of range.  So no world
reflects as much as half of the light that falls on it.

The laws of a cover hold over any ordered field, those of the worlds in exact fractions.  A survey
computes the same `Starchart.Cover.reflected` in doubles.

## Main definitions

* `Starchart.Cover.Whole` — covers that share out the whole surface.

## Main results

* `Starchart.Cover.whole_freeze` — ice spreads over any surface without loss.
* `Starchart.Cover.Whole.albedo_eq` — what a whole cover reflects depends on its water and its ice.
* `Starchart.Climate.cloudiness_bounds`, `Starchart.Climate.cloudiness_eq_iff` — how much of a sky is
  under clouds.
* `Starchart.Cover.surface_conserved` — the cover and the albedo of every world.
-/

set_option autoImplicit false

namespace Starchart

/-! ## Clouds -/

namespace Climate

/-- What is read off a table is one of its entries. -/
lemma nearest_mem {α : Type} (first : α) (rest : List α) (index : Int) :
    nearest first rest index ∈ first :: rest := by
  have inside : min index.toNat rest.length < (first :: rest).length := by
    rw [List.length_cons]
    omega
  rw [nearest, List.getD_eq_getElem?_getD, List.getElem?_eq_getElem inside]
  exact List.getElem_mem inside

/-- Clouds cover none of a sky, or up to seven tenths of it. -/
lemma cloudiness_bounds (atmosphere : Int) :
    0 ≤ cloudiness atmosphere ∧ cloudiness atmosphere ≤ 70 := by
  have entries : ∀ clouds ∈ ([0, 0, 10, 10, 20, 30, 40, 50, 60, 70, 70] : List Int),
      0 ≤ clouds ∧ clouds ≤ 70 := by decide
  exact entries _ (nearest_mem _ _ atmosphere)

/-- Seven tenths of the sky are covered where the air is dense. -/
lemma cloudiness_eq_iff (atmosphere : Int) : cloudiness atmosphere = 70 ↔ 9 ≤ atmosphere := by
  have entries : ∀ i < 11, ([0, 0, 10, 10, 20, 30, 40, 50, 60, 70, 70] : List Int).getD i 0 = 70 ↔
      9 ≤ i := by decide
  refine (entries (min atmosphere.toNat 10) (by omega)).trans ?_
  omega

end Climate

namespace Cover

/-! ## Sharing out the surface -/

section Field

variable {K : Type} [Field K] [LinearOrder K] [IsStrictOrderedRing K]

/-- A cover that shares out the whole surface: no share is owed, and together they are one. The
bounds on the albedo rest on this. -/
structure Whole (cover : Cover K) : Prop where
  water_nonneg : 0 ≤ cover.water
  land_nonneg : 0 ≤ cover.land
  ice_nonneg : 0 ≤ cover.ice
  total : cover.water + cover.land + cover.ice = 1

/-- How ice spreads.  Where one of the others cannot give half, it is all gone, and the other one
gives the rest and pays what is owed. -/
lemma freeze_eq (water ice : K) : freeze water ice =
    if ice / 2 ≤ water ∧ ice / 2 ≤ 1 - water then ⟨water - ice / 2, 1 - water - ice / 2, ice⟩
    else if water < 1 - water then ⟨0, 1 - ice, ice⟩ else ⟨1 - ice, 0, ice⟩ := by
  have land : 1 - water - (ice / 2 + (ice / 2 - water)) = 1 - ice := by ring
  have water' : water - (ice / 2 + (ice / 2 - (1 - water))) = 1 - ice := by ring
  simp only [freeze]
  norm_num only
  rw [land, water']

/-- Ice keeps its share. -/
lemma ice_freeze (water ice : K) : (freeze water ice).ice = ice := by
  rw [freeze_eq]
  split_ifs <;> rfl

variable {cover : Cover K} {water ice cloud : K}

/-- Ice on no more than the whole surface spreads over any surface without loss, even if the water
is negative, or more than there is surface. -/
lemma whole_freeze (water : K) (nonneg : 0 ≤ ice) (le_one : ice ≤ 1) :
    (freeze water ice).Whole := by
  rw [freeze_eq]
  split_ifs with both less
  · exact ⟨sub_nonneg.mpr both.1, sub_nonneg.mpr both.2, nonneg, by ring⟩
  · exact ⟨le_rfl, sub_nonneg.mpr le_one, nonneg, by ring⟩
  · exact ⟨sub_nonneg.mpr le_one, le_rfl, nonneg, by ring⟩

/-- Ice leaves no water where it takes at least as much as there is. -/
lemma water_freeze_eq_zero_iff (lt_one : ice < 1) :
    (freeze water ice).water = 0 ↔ water ≤ ice / 2 := by
  rw [freeze_eq]
  split_ifs with both less
  · exact sub_eq_zero.trans ⟨le_of_eq, fun le => le.antisymm both.1⟩
  · have little : water < ice / 2 := by
      by_contra much
      exact both ⟨by linarith, by linarith⟩
    exact iff_of_true rfl little.le
  -- half of the surface or more is water, and the ice is less than all
  · exact iff_of_false (sub_pos.mpr lt_one).ne' fun little => by linarith

/-- A whole cover reflects light. -/
lemma Whole.albedo_nonneg (whole : cover.Whole) (cloudy : 0 ≤ cloud) : 0 ≤ cover.albedo cloud := by
  obtain ⟨water, land, ice, -⟩ := whole
  rw [albedo]
  positivity

/-- What a whole cover reflects, told by its water and its ice. -/
lemma Whole.albedo_eq (whole : cover.Whole) :
    cover.albedo cloud = cloud * (0.6 + 0.75 * cover.ice) - cloud * cover.water * 0.08 := by
  have land : cover.land = 1 - cover.water - cover.ice := by linarith [whole.total]
  rw [albedo, land]
  ring

end Field

/-! ## The albedo of worlds -/

/-- The cover that is assumed of a world is whole. -/
lemma whole_seeded (hydro : ℚ) : (seeded hydro).Whole :=
  whole_freeze _ (by norm_num [seededIce]) (by norm_num [seededIce])

/-- It is a tenth under ice. -/
lemma ice_seeded (hydro : ℚ) : (seeded hydro).ice = 0.1 := ice_freeze _ _

/-- It has no water where the world has none. -/
lemma water_seeded_eq_zero_iff (hydro : Int) : (seeded (hydro : ℚ)).water = 0 ↔ hydro ≤ 0 := by
  rw [seeded, water_freeze_eq_zero_iff (by norm_num [seededIce])]
  constructor
  · intro little
    have below : (hydro : ℚ) < 1 := by
      norm_num [seededIce] at little
      linarith
    have : hydro < 1 := by exact_mod_cast below
    omega
  · intro dry
    have : (hydro : ℚ) ≤ 0 := by exact_mod_cast dry
    norm_num [seededIce]
    linarith

/-- What a world reflects, told by its clouds and its water. -/
lemma reflected_eq (hydro clouds : ℚ) :
    reflected hydro clouds = clouds * 0.00675 - clouds * (seeded hydro).water * 0.0008 := by
  rw [reflected, (whole_seeded hydro).albedo_eq, ice_seeded]
  norm_num only
  ring

/-- The clouds of a world in exact fractions. -/
lemma clouds_bounds (atmosphere : Int) :
    (0 : ℚ) ≤ Climate.cloudiness atmosphere ∧ (Climate.cloudiness atmosphere : ℚ) ≤ 70 := by
  obtain ⟨nonneg, le⟩ := Climate.cloudiness_bounds atmosphere
  exact ⟨by exact_mod_cast nonneg, by exact_mod_cast le⟩

/-- **Surface cover is conserved.**  Whatever the water of a world, in tenths, may be, be it
negative or more than ten, water, land and ice share its whole surface and none is owed.  So under
the clouds of any atmosphere it reflects from none to `0.4725` of the light, the most where the air
is dense and there is no water.  The light that it keeps, by which its temperature and the modifier
of its temperature roll are computed, is never none.

**Proof sketch.** Ice takes its tenth from the two others together, so water and land are nine
tenths. Land reflects more than water, so a world under given clouds reflects the more the less
water it has, and clouds cover seven tenths of the sky at most. -/
theorem surface_conserved (hydro atmosphere : Int) :
    (seeded (hydro : ℚ)).Whole ∧
      0 ≤ reflected (hydro : ℚ) (Climate.cloudiness atmosphere) ∧
      reflected (hydro : ℚ) (Climate.cloudiness atmosphere) ≤ 0.4725 ∧
      (reflected (hydro : ℚ) (Climate.cloudiness atmosphere) = 0.4725 ↔
        hydro ≤ 0 ∧ 9 ≤ atmosphere) ∧
      0 < absorbed (reflected (hydro : ℚ) (Climate.cloudiness atmosphere)) := by
  obtain ⟨cloudy, cloudy_le⟩ := clouds_bounds atmosphere
  have water := (whole_seeded hydro).water_nonneg
  have loss := mul_nonneg cloudy water
  have bound : reflected (hydro : ℚ) (Climate.cloudiness atmosphere) ≤ 0.4725 := by
    rw [reflected_eq]
    linarith
  refine ⟨whole_seeded _, (whole_seeded _).albedo_nonneg (by linarith), bound, ?_, ?_⟩
  · rw [← water_seeded_eq_zero_iff, ← Climate.cloudiness_eq_iff, reflected_eq]
    constructor
    · intro most
      have dense : (Climate.cloudiness atmosphere : ℚ) = 70 := by linarith
      rw [dense] at most
      exact ⟨by linarith, by exact_mod_cast dense⟩
    · rintro ⟨dry, dense⟩
      rw [dry, dense]
      norm_num
  · rw [absorbed]
    linarith

/-- A world like the home world reflects a quarter of the light. -/
example : reflected (7 : ℚ) (Climate.cloudiness 6) = 0.2492 := by decide +kernel

end Cover

end Starchart
