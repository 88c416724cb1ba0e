import Starchart.Proofs.Systems

/-!
# The main world stays itself

While a system is generated around it, the main world is moved, surveyed, flagged and given satellites
in many places.  Its name, digits and facilities are not altered by any of this, and the profile text
stays the same even though placement may make the main world a satellite.

## Main results

* `Starchart.World.Remains.profileText_eq` — the same main world has the same profile text.
* `Starchart.Population.within_populate` — populating a chart keeps the main world.
* `Starchart.Generator.within_generate`, `Starchart.Generator.main_unaltered` — generating a system
  does.
-/

set_option autoImplicit false

namespace Starchart

open Gen

/-! ## Populating stars -/

namespace Population

open Atlas (KeepsMain)
open Fault (Any)

variable {σ : Type} [RandomSource σ] {kinds : List Category}

/-- Placing the main world keeps it. -/
lemma within_placeMain (limit : Int) (id : StarId) (sub : [.orbit, .placement, .zone] ⊆ kinds) :
    (placeMain id limit : Gen σ Atlas Unit).Within kinds KeepsMain Any := by
  have work : (mainWork id limit : Gen σ Atlas Unit).Within kinds KeepsMain Any :=
    (within_mainWork id limit).mono sub (fun _ _ remains => remains.main) fun _ _ => trivial
  exact ((within_enter _).onAdmitted (Atlas.admits_keepsMain id)).bind fun _ => work

/-- Populating a chart keeps the main world; it may record shortfalls, searches that were given up,
placements and compromises on the habitable zone. -/
theorem within_populate (limit : Int) (id : StarId) (primary : Bool) :
    (populate limit id primary : Gen σ Atlas Unit).Within Category.populating
      KeepsMain Any :=
  within_scene.bind fun _ => within_populateFrom Atlas.admits_keepsMain (by decide) _ fun _ =>
    within_placeMain limit id (by decide)

end Population

/-! ## Profile texts -/

/-- A size above zero is written in one way. -/
lemma SizeDigit.write_of_pos {size : Int} (pos : 0 < size) (name : String) (satellite main : Bool) :
    write size name satellite main = Digit.write size := by
  rw [write, if_neg (by omega), if_neg (by omega), if_neg (by omega), if_neg (by omega)]

namespace World

variable {w v : World}

/-- The same main world has the same profile text, unless it was a satellite before.

**Proof sketch.** The flag of a satellite shows in the digit of the size only, and there only at
size zero or for a small body.  A world that becomes a satellite has a size. -/
theorem Remains.profileText_eq (same : w.Remains v) (main : w.isMain = true)
    (flag : w.isSatellite = false) : v.profileText = w.profileText := by
  have size : SizeDigit.write v.profile.size v.name v.isSatellite v.isMain =
      SizeDigit.write w.profile.size w.name w.isSatellite w.isMain := by
    rw [same.name, same.profile, same.isMain main, main, flag]
    rcases same.flag with kept | ⟨-, needs⟩
    · rw [kept, flag]
    · have sized : 0 < w.profile.size := (of_decide_eq_true needs).2.2
      rw [SizeDigit.write_of_pos sized, SizeDigit.write_of_pos sized]
  rw [profileText, profileText, Profile.write, Profile.write, size, same.profile]

end World

namespace Generator

variable {σ : Type} [RandomSource σ]

/-- Generating a system keeps the main world that is marked and classified, and records no other
diagnostics than populating does. -/
theorem within_generate (limit seed : Int) : (generate limit seed : Gen σ Atlas StarId).Within
    Category.populating (fun a b => (prepare a.main).Remains b.main) Fault.Any := by
  have rest : (do
      let main ← Gen.main
      let primary ← Constellation.build main.profile.starBonus true none
      let profile ← main.profileText
      Gen.record (.generating (← Gen.star primary).name main.name profile seed)
      Population.populate limit primary true
      return primary : Gen σ Atlas StarId).Within Category.populating
        Atlas.KeepsMain Fault.Any :=
    within_main.bind fun main => (Constellation.within_build _ _ _).bind fun primary =>
      (within_ofExcept (readsAs_any _)).bind fun _ => (within_star trivial).bind fun _ =>
        (within_record rfl).bind fun _ => (Population.within_populate _ _ _).bind fun _ =>
          within_pure _
  exact within_change_bind fun _ => rest

/-- **The main world stays itself.**  However a run of the generator ends, with whatever source of
random numbers and for whatever main world, that has the name, the digits and the facilities that it
came with; of its data only orbit and position, the flags, satellites, trade classes and
astrophysical data may be others.  Unless it came as a satellite, its profile text is therefore the
one that it has with the flag of the main world set, wherever it was seated; and there is one if the
main world was accepted.

**Proof sketch.** Every step of the run either leaves the main world alone or sets other data of it,
and it becomes a satellite only where it belongs into the habitable zone, so that it has a size. -/
theorem main_unaltered (main : World) (limit seed : Int) (dice : Dice σ) (journal : Journal) :
    let after := ((generate limit seed).leaves ⟨dice, journal, ⟨[], main⟩⟩).scene.main
    after.name = main.name ∧ after.profile = main.profile ∧ after.facilities = main.facilities ∧
      (main.isSatellite = false →
        after.profileText = World.profileText { main with isMain := true } ∧
        (main.Accepted → ∃ text, after.profileText = .ok text)) := by
  intro after
  have same : (prepare main).Remains after :=
    (within_generate limit seed).leaves ⟨dice, journal, ⟨[], main⟩⟩
  refine ⟨same.name, same.profile, same.facilities, fun flag => ?_⟩
  have text : after.profileText = World.profileText { main with isMain := true } :=
    same.profileText_eq rfl flag
  refine ⟨text, fun accepted => ?_⟩
  rw [text]
  exact World.exists_profileText accepted.inRange

/-- A main world of its kind stays itself. -/
theorem main_unaltered_regina :
    let after := ((generate 10 1).leaves
      (⟨⟨(⟨1⟩ : Congruential), []⟩, [], ⟨[], .regina⟩⟩ : Run Congruential Atlas)).scene.main
    World.regina.isSatellite = false ∧ World.regina.Accepted ∧
      after.name = "Regina" ∧ after.profile = World.regina.profile ∧ after.facilities = [] ∧
      after.profileText = World.profileText { World.regina with isMain := true } ∧
      ∃ text, after.profileText = .ok text := by
  intro after
  obtain ⟨name, profile, facilities, text⟩ :=
    main_unaltered .regina 10 1 (⟨⟨1⟩, []⟩ : Dice Congruential) []
  obtain ⟨text, written⟩ := text rfl
  exact ⟨rfl, World.accepted_regina, name, profile, facilities, text,
    written World.accepted_regina⟩

end Generator

end Starchart
