import Starchart.Proofs.Fresh
import Starchart.Random.Congruential

/-!
# Companions on separate orbits

A companion that is attached on an orbit with a slot takes that slot, so no other one can.  Past the
slots of a star there is nothing to take, and its companions may well roll the same number.

## Main definitions

* `Starchart.Atlas.sharesOrbit` — whether the companions of a star have the same number.

## Main results

* `Starchart.Constellation.maxOrbits_le_of_orbit_eq` — companions share no orbit that has a slot.
* `Starchart.Constellation.exists_shared_orbit` — a system whose companions share a number.
-/

set_option autoImplicit false

namespace Starchart

/-- Two companions of a star on one orbit with a slot are the same, as long as the main world is in
none of the slots. -/
lemma Atlas.Lodges.eq_of_orbit_eq {a : Atlas} {s c d : StarSystem} {i j : StarId}
    (first : a.Lodges s i) (second : a.Lodges s j) (noMain : ∀ k : Nat, s.slots[k]? ≠ some .main)
    (foundC : a.star? i = some c) (foundD : a.star? j = some d) (same : c.orbit = d.orbit)
    (outside : 0 < c.orbit) (below : c.orbit < s.slots.length) : i = j := by
  obtain ⟨c', foundC', standsC⟩ := first
  obtain ⟨d', foundD', standsD⟩ := second
  obtain rfl := Option.eq_some_unique foundC foundC'
  obtain rfl := Option.eq_some_unique foundD foundD'
  obtain ⟨k, orbit⟩ := Int.eq_ofNat_of_zero_le (Int.le_of_lt outside)
  have heldC := (standsC k orbit (by omega) (by omega)).resolve_right (noMain k)
  have heldD := (standsD k (same ▸ orbit) (by omega) (by omega)).resolve_right (noMain k)
  injection Option.eq_some_unique heldC heldD

namespace Constellation

variable {σ : Type} [RandomSource σ] [Inexhaustible σ]

/-- **Companions share no orbit that has a slot.**  Whatever the bonus and the source of random
numbers, the stars of a system can be built, and if both companions of a star have the same number,
then this is that of the contact orbit, that of far stars, or one past the slots of the star.

**Proof sketch.** On a built chart every companion stands in the slot of its number if there is one,
and a slot holds one star.  The companions of a star are two stars, since the numbers of a chart run
through each star before its companions. -/
theorem maxOrbits_le_of_orbit_eq (bonus : Int) (companions : Bool) (name : Option String)
    (main : World) (dice : Dice σ) (journal : Journal) : ∃ primary run t,
      build bonus companions name ⟨dice, journal, ⟨[], main⟩⟩ = .ok primary run ∧
        run.scene.tree primary = .ok t ∧ ∀ s ∈ t.walk, ∀ i j, s.secondary = some i →
          s.tertiary = some j → ∃ c d, run.scene.star? i = some c ∧ run.scene.star? j = some d ∧
            (c.orbit = d.orbit →
              c.orbit = Orbit.contact ∨ c.orbit = Orbit.far ∨ s.maxOrbits ≤ c.orbit) := by
  have ended : (build bonus companions name : Gen σ Atlas StarId).Ends ⟨dice, journal, ⟨[], main⟩⟩
      fun primary after => primary = 0 ∧ Built main after.scene := ends_build _ _ _ rfl
  obtain ⟨_, run, ran, rfl, built⟩ := ended.exists_ok
  obtain ⟨t, tree, walk⟩ := Atlas.exists_tree built.spans
  refine ⟨0, run, t, ran, tree, fun s hs i j secondary tertiary => ?_⟩
  rw [walk] at hs
  obtain ⟨id, found⟩ := List.getElem?_of_mem hs
  have fresh := built.fresh found
  have first : i ∈ s.companions := by simp [StarSystem.companions, secondary]
  have second : j ∈ s.companions := by simp [StarSystem.companions, tertiary]
  obtain ⟨c, foundC, -⟩ := fresh.lodged first
  obtain ⟨d, foundD, -⟩ := fresh.lodged second
  refine ⟨c, d, foundC, foundD, fun same => ?_⟩
  by_contra numbered
  simp only [not_or, Int.not_le] at numbered
  obtain ⟨noContact, -, below⟩ := numbered
  obtain ⟨after, apart⟩ := built.spans.secondary_lt_tertiary (Nat.zero_le id)
    (Atlas.lt_length found) found secondary tertiary
  have contact := (built.fresh foundC).companion (Nat.ne_of_gt (Nat.zero_lt_of_lt after))
  have capacity := fresh.sound.capacity
  exact Nat.ne_of_lt apart ((fresh.lodged first).eq_of_orbit_eq (fresh.lodged second)
    fresh.slots_ne_main foundC foundD same
    (Int.lt_iff_le_and_ne.mpr ⟨contact, Ne.symm noContact⟩) (capacity ▸ below))

/-- Companions share no orbit with a slot in the system of this source either, which gives both
companions of the primary star the number nine. -/
theorem maxOrbits_le_of_orbit_eq_nine : ∃ primary run t,
    build 0 true none (⟨⟨(⟨7550⟩ : Congruential), []⟩, [], ⟨[], default⟩⟩ :
      Run Congruential Atlas) = .ok primary run ∧ run.scene.tree primary = .ok t ∧
        ∀ s ∈ t.walk, ∀ i j, s.secondary = some i → s.tertiary = some j →
          ∃ c d, run.scene.star? i = some c ∧ run.scene.star? j = some d ∧ (c.orbit = d.orbit →
            c.orbit = Orbit.contact ∨ c.orbit = Orbit.far ∨ s.maxOrbits ≤ c.orbit) :=
  maxOrbits_le_of_orbit_eq 0 true none default _ _

end Constellation

/-! ## A system whose companions share a number -/

/-- Whether both companions of a star have the same number, which is neither that of the contact
orbit nor that of far stars. -/
def Atlas.sharesOrbit (a : Atlas) (s : StarSystem) : Bool :=
  match s.secondary.bind a.star?, s.tertiary.bind a.star? with
  | some c, some d =>
    decide (c.orbit = d.orbit ∧ c.orbit ≠ Orbit.contact ∧ c.orbit ≠ Orbit.far)
  | _, _ => false

/-- If the companions of a star share a number, there are two. -/
lemma Atlas.exists_of_sharesOrbit {a : Atlas} {s : StarSystem} (h : a.sharesOrbit s = true) :
    ∃ i j c d, s.secondary = some i ∧ s.tertiary = some j ∧ a.star? i = some c ∧
      a.star? j = some d ∧ c.orbit = d.orbit ∧ c.orbit ≠ Orbit.contact ∧
        c.orbit ≠ Orbit.far := by
  unfold sharesOrbit at h
  split at h
  · rename_i c d second third
    obtain ⟨i, secondary, foundC⟩ := Option.bind_eq_some_iff.mp second
    obtain ⟨j, tertiary, foundD⟩ := Option.bind_eq_some_iff.mp third
    exact ⟨i, j, c, d, secondary, tertiary, foundC, foundD, of_decide_eq_true h⟩
  · cases h

namespace Constellation

/-- A source of random numbers with which both companions of the primary star get the number nine,
while that star has slots for two orbits only. -/
theorem exists_shared_orbit : ∃ primary run t,
    build 0 true none (⟨⟨(⟨7550⟩ : Congruential), []⟩, [], ⟨[], default⟩⟩ :
      Run Congruential Atlas) = .ok primary run ∧ run.scene.tree primary = .ok t ∧
        ∃ s ∈ t.walk, ∃ i j c d, s.secondary = some i ∧ s.tertiary = some j ∧
          run.scene.star? i = some c ∧ run.scene.star? j = some d ∧ c.orbit = d.orbit ∧
            c.orbit ≠ Orbit.contact ∧ c.orbit ≠ Orbit.far := by
  obtain ⟨primary, run, t, ran, tree, shares⟩ := Gen.exists_of_treePasses
    (build 0 true none) ⟨⟨(⟨7550⟩ : Congruential), []⟩, [], ⟨[], default⟩⟩
    (fun a t => t.walk.any a.sharesOrbit) (by decide +kernel)
  obtain ⟨s, hs, shares⟩ := List.any_eq_true.mp shares
  exact ⟨primary, run, t, ran, tree, s, hs, Atlas.exists_of_sharesOrbit shares⟩

end Constellation

end Starchart
