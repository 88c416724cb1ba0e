import Starchart.Proofs.Systems

/-!
# The stages of a run

A run of the generator builds the stars, seeds the primary one, places the main world and does the
rest.  The runs between these stages are known one by one, so that what a stage writes into the
journal can be compared with the chart on which it did.

## Main definitions

* `Starchart.Generator.Stages` — the runs between the stages, and what is known of their charts.

## Main results

* `Starchart.Generator.exists_stages` — every run goes through these stages.
-/

set_option autoImplicit false

namespace Starchart.Generator

open Population (seed placeMain finish)
open Atlas (Advances Arrives Placement Reaches)

variable {σ : Type} [RandomSource σ]

/-- The stages of generating a system: the stars are built on `start`, the primary star is seeded on
`first`, the main world has arrived at slot `k` of star `last` on `second`, by way of the companions
in `path`, and everything is done after `run`. -/
structure Stages (main : World) (limit : Int) (journal : Journal)
    (start first second run : Run σ Atlas) (root : StarSystem) (path : List StarId) (last : StarId)
    (k : Nat) : Prop where
  silent : Journal.Adds [] journal start.journal
  built : Constellation.Built (prepare main) start.scene
  seeding : seed 0 start = .ok () first
  placing : placeMain 0 limit first = .ok () second
  finishing : finish limit start.scene.stars.length 0 second = .ok () run
  seeded : Advances σ limit 0 .planetoids start.scene first.scene
  found : first.scene.star? 0 = some root
  primary : root.orbit = Orbit.primary
  reached : root.phase = some .planetoids
  near : first.scene.NearBare
  placed : ∃ warnings, Placement σ first.scene 0 root path last k warnings second.scene
  arrives : Arrives σ first.scene last k second.scene
  steps : Reaches σ limit second.scene run.scene
  generated : Generated σ main last k run.scene

/-- The program text of the generator tells its stages.

**Proof sketch.** The program text is followed step by step. What comes between building the stars
and populating them reads the chart and records an event, which is no diagnostic; and populating the
primary star is seeding it, placing the main world and finishing. -/
lemma yields_generate {main : World} (limit seed : Int) (dice : Dice σ) (journal : Journal) :
    (generate limit seed : Gen σ Atlas StarId).Yields ⟨dice, journal, ⟨[], main⟩⟩
      fun _ run => ∃ start first second, Journal.Adds [] journal start.journal ∧
        Constellation.Built (prepare main) start.scene ∧ Population.seed 0 start = .ok () first ∧
        placeMain 0 limit first = .ok () second ∧
        finish limit start.scene.stars.length 0 second = .ok () run := by
  have silent (bonus : Int) : (Constellation.build bonus true none : Gen σ Atlas StarId).Within []
      Atlas.KeepsMain Fault.Any := Constellation.within_build _ _ _
  rw [generate, Gen.yields_bind, Gen.yields_changeMain, Gen.yields_bind, Gen.yields_main,
    Gen.yields_bind]
  refine Gen.Yields.mono (Gen.Ends.yields
    (Gen.Ends.within (Constellation.ends_build _ true none rfl) (silent _))) ?_
  rintro _ mid ⟨⟨rfl, built⟩, quiet, -⟩
  rw [Gen.yields_bind, Gen.yields_ofExcept]
  intro text _
  rw [Gen.yields_bind, Gen.yields_star]
  intro s found
  rw [Gen.yields_bind, Gen.yields_record, Gen.yields_bind, Population.populate_primary_eq,
    Gen.yields_bind, Gen.yields_scene, Gen.yields_bind]
  intro _ first seeding
  rw [Gen.yields_bind]
  intro _ second placing _ run finishing
  refine Gen.yields_pure.mpr ⟨⟨mid.dice, mid.journal ++ [_], mid.scene⟩, first, second,
    quiet.trans (Journal.adds_plain rfl _), built, seeding, placing, finishing⟩

variable [Inexhaustible σ] {main : World}

/-- Every run for an accepted main world goes through the stages.

**Proof sketch.** The run ends, and the program text names the runs between its stages.  Each stage
ends in one way only, so what is known of its end holds of these runs. -/
theorem exists_stages (accepted : main.Accepted) (limit seed : Int) (dice : Dice σ)
    (journal : Journal) : ∃ start first second run root path last k,
      generate limit seed ⟨dice, journal, ⟨[], main⟩⟩ = .ok 0 run ∧
        Stages main limit journal start first second run root path last k := by
  obtain ⟨run, _, _, ran, -⟩ := exists_generated accepted limit seed dice journal
  obtain ⟨start, first, second, silent, built, seeding, placing, finishing⟩ :=
    yields_generate limit seed dice journal 0 run ran
  have fresh := fun {id : StarId} {s : StarSystem} (known : start.scene.star? id = some s) =>
    built.fresh known
  have sound := sound_of_built (σ := σ) accepted.inRange built
  have bare : start.scene.main.satellites = [] := by
    rw [built.main_eq]
    exact accepted.bare
  obtain ⟨s, found, room⟩ := built.exists_root
  have seeded := (Population.ends_seed limit sound found (fresh found).phase).of_ok seeding
  have main₁ := seeded.reaches.main_eq sound
  obtain ⟨root, foundR, alike, primary, reached, near⟩ := seeded.exists_primary sound fresh found
  obtain ⟨path, last, k, warnings, placed, arrives, -⟩ :=
    (Population.ends_arrival limit (seeded.reaches.sound sound) (main₁ ▸ bare) foundR primary reached
      (alike.length ▸ room) near).of_ok placing
  obtain ⟨d, completed, finished, below⟩ :=
    (Population.ends_finish limit sound fresh built.spans found seeded arrives).of_ok finishing
  exact ⟨start, first, second, run, root, path, last, k, ran, {
    silent := silent
    built := built
    seeding := seeding
    placing := placing
    finishing := finishing
    seeded := seeded
    found := foundR
    primary := primary
    reached := reached
    near := near
    placed := ⟨warnings, placed⟩
    arrives := arrives
    steps := completed.reaches.trans below.reaches
    generated := generated_of_course accepted.inRange built
      (.intro seeded foundR primary near placed arrives completed finished below) }⟩

end Starchart.Generator
