import Starchart.Proofs.Displacement
import Starchart.Proofs.Systems

/-!
# The ledger of a population

A population can be run with a ledger beside the chart, in which the chart is entered as it stands at
the end of every phase of every star.  The ledger changes nothing about the run.  What is decided about
a slot in any chart of the ledger is still so at the end, except in the one slot that the main world may
take, and the body that it displaces there is noted.

## Main definitions

* `Starchart.Milestone`, `Starchart.Chronicle` — charts with a ledger.
* `Starchart.Population.chronicle` — every phase from a star down, with a ledger.
* `Starchart.Gen.Erases` — a step on a chart without the ledger.

## Main results

* `Starchart.Population.erases_chronicle` — the ledger changes nothing about a run.
* `Starchart.Population.exists_ledger` — slots are written once, apart from the seat of the main world.
-/

set_option autoImplicit false

namespace Starchart

/-! ## Charts with a ledger -/

/-- The chart at the end of a phase of a star. Comparing two milestones tells what the phases
between them did. -/
structure Milestone where
  star : StarId
  phase : Phase
  chart : Atlas

/-- A chart with its ledger, the latest milestone last. The ledger only watches: without it a run on
a chronicle is the run on the chart. -/
structure Chronicle where
  chart : Atlas
  ledger : List Milestone

/-- The run without the ledger. -/
def Run.plain {σ : Type} (run : Run σ Chronicle) : Run σ Atlas :=
  ⟨run.dice, run.journal, run.scene.chart⟩

namespace Gen

variable {σ α : Type}

/-- A step on the chart that leaves the ledger alone. -/
def onChart (x : Gen σ Atlas α) : Gen σ Chronicle α :=
  onPart Chronicle.chart (fun a c => { c with chart := a }) x

/-- A phase of a star, with the chart at its end entered in the ledger. -/
def phase (id : StarId) (phase : Phase) (x : Gen σ Atlas α) : Gen σ Chronicle α := do
  let v ← onChart x
  change fun c => { c with ledger := c.ledger ++ [⟨id, phase, c.chart⟩] }
  return v

end Gen

namespace Population

variable {σ : Type} [RandomSource σ]

/-- The phases of a star before the main world is seated, with a ledger. -/
def chronicleSeed (id : StarId) : Gen σ Chronicle Unit := do
  let _ ← Gen.phase id .emptySeed (Gen.onStar id seedEmpties)
  let giants ← Gen.phase id .gasGiants do Gen.onStar id (seedGiants (← Gen.main).name)
  let _ ← Gen.phase id .planetoids do Gen.onStar id (seedBelts (← Gen.main) giants)

/-- The phases of a star after the main world is seated, with a ledger. -/
def chronicleComplete (limit : Int) (id : StarId) : Gen σ Chronicle Unit := do
  let _ ← Gen.phase id .filler do Gen.onStar id (fill (← Gen.main))
  Gen.phase id .satellites (addMoons id limit)
  Gen.phase id .companions (Gen.onStar id (enter .companions))

/-- Every phase of one star, with a ledger. -/
def chronicleStar (limit : Int) (id : StarId) (primary : Bool) : Gen σ Chronicle Unit := do
  chronicleSeed id
  if primary then Gen.phase id .mainWorld (placeMain id limit)
  chronicleComplete limit id

/-- Every phase of a star and then of its companions, with a ledger. It follows `populateFrom` line
by line, and forgetting the ledger gives that program back. -/
def chronicleFrom (limit : Int) : Nat → StarId → Bool → Gen σ Chronicle Unit
  | 0, id, _ => throw (.endlessDescent id .descent)
  | fuel + 1, id, primary => do
    chronicleStar limit id primary
    (← Gen.onChart (Gen.star id)).companions.forM fun companion => do
      if Orbit.contact < (← Gen.onChart (Gen.star companion)).orbit then
        chronicleFrom limit fuel companion false

/-- What is done for each companion of a star, with a ledger. -/
def chronicleCompanion (limit : Int) (fuel : Nat) (companion : StarId) :
    Gen σ Chronicle Unit := do
  if Orbit.contact < (← Gen.onChart (Gen.star companion)).orbit then
    chronicleFrom limit fuel companion false

/-- A star and its companions populated, with a ledger. -/
def chronicle (limit : Int) (id : StarId) (primary : Bool) : Gen σ Chronicle Unit := do
  chronicleFrom limit ((← Gen.onChart Gen.scene).stars.length + 1) id primary

end Population

/-! ## Forgetting the ledger -/

namespace Gen

variable {σ α β : Type}

/-- Apart from the ledger, the step `y` does what `x` does on the chart, whether it ends or
fails. -/
def Erases (y : Gen σ Chronicle α) (x : Gen σ Atlas α) : Prop :=
  ∀ run, x run.plain = match y run with
    | .ok a after => .ok a after.plain
    | .error e after => .error e after.plain

/-- A step without a ledger ends as the one with it does. -/
lemma Erases.exists_ok {y : Gen σ Chronicle α} {x : Gen σ Atlas α} (h : y.Erases x)
    {run : Run σ Chronicle} {after : Run σ Atlas} {a : α} (ended : x run.plain = .ok a after) :
    ∃ stop, y run = .ok a stop ∧ stop.plain = after := by
  have same := h run
  rw [ended] at same
  cases ran : y run with
  | ok b stop =>
    rw [ran] at same
    cases same
    exact ⟨stop, rfl, rfl⟩
  | error e stop =>
    rw [ran] at same
    cases same

/-- Two steps in a row. -/
lemma Erases.bind {y : Gen σ Chronicle α} {x : Gen σ Atlas α} {g : α → Gen σ Chronicle β}
    {f : α → Gen σ Atlas β} (h : y.Erases x) (h' : ∀ a, (g a).Erases (f a)) :
    (y >>= g).Erases (x >>= f) := by
  intro run
  have first := h run
  cases ran : y run with
  | ok a mid =>
    rw [ran] at first
    simp only [Bind.bind, EStateM.bind, ran, first]
    exact h' a mid
  | error e mid =>
    rw [ran] at first
    simp only [Bind.bind, EStateM.bind, ran, first]

/-- A returned value. -/
lemma erases_pure (a : α) : (pure a : Gen σ Chronicle α).Erases (pure a) := fun _ => rfl

/-- A fault. -/
lemma erases_throw (e : Fault) : (throw e : Gen σ Chronicle α).Erases (throw e) := fun _ => rfl

/-- A step on the chart. -/
lemma erases_onChart (x : Gen σ Atlas α) : (onChart x).Erases x := by
  intro run
  have here : x ⟨run.dice, run.journal, run.scene.chart⟩ = x run.plain := rfl
  simp only [onChart, onPart, here]
  cases x run.plain <;> rfl

/-- A phase. -/
lemma erases_phase (id : StarId) (p : Phase) (x : Gen σ Atlas α) : (phase id p x).Erases x := by
  have entered : ∀ (a : α) (f : Chronicle → Chronicle), (∀ c, (f c).chart = c.chart) →
      (do change f; return a : Gen σ Chronicle α).Erases (pure a) := by
    intro a f same run
    have kept : ({ run with scene := f run.scene } : Run σ Chronicle).plain = run.plain := by
      rw [Run.plain, same]
      rfl
    exact congrArg (EStateM.Result.ok a) kept.symm
  have h := (erases_onChart x).bind (g := fun a => do
    change fun c => { c with ledger := c.ledger ++ [⟨id, p, c.chart⟩] }
    return a) (f := pure) fun a => entered a _ fun _ => rfl
  rwa [bind_pure] at h

/-- A step for each member of a list. -/
lemma erases_forM {xs : List β} {g : β → Gen σ Chronicle PUnit} {f : β → Gen σ Atlas PUnit}
    (h : ∀ b, (g b).Erases (f b)) : (xs.forM g).Erases (xs.forM f) := by
  induction xs with
  | nil => exact erases_pure _
  | cons b xs ih => exact (h b).bind fun _ => ih

end Gen

namespace Population

open Gen

variable {σ : Type} [RandomSource σ]

/-- The first phases of a star, each one with what it reads of the main world. -/
lemma seed_eq_phases (id : StarId) : (seed id : Gen σ Atlas Unit) = (do
    let _ ← Gen.onStar id seedEmpties
    let giants ← (do Gen.onStar id (seedGiants (← Gen.main).name))
    let _ ← (do Gen.onStar id (seedBelts (← Gen.main) giants))) := by
  simp only [seed, bind_assoc]

/-- The last phases of a star, each one with what it reads of the main world. -/
lemma complete_eq_phases (limit : Int) (id : StarId) : (complete limit id : Gen σ Atlas Unit) = (do
    let _ ← (do Gen.onStar id (fill (← Gen.main)))
    addMoons id limit
    Gen.onStar id (enter .companions)) := by
  simp only [complete, bind_assoc]

/-- The first phases of a star do the same without their ledger. -/
lemma erases_chronicleSeed (id : StarId) :
    (chronicleSeed id : Gen σ Chronicle Unit).Erases (seed id) := by
  rw [seed_eq_phases]
  exact (erases_phase _ _ _).bind fun _ => (erases_phase _ _ _).bind fun _ =>
    (erases_phase _ _ _).bind fun _ => erases_pure _

/-- So do the last ones. -/
lemma erases_chronicleComplete (limit : Int) (id : StarId) :
    (chronicleComplete limit id : Gen σ Chronicle Unit).Erases (complete limit id) := by
  rw [complete_eq_phases]
  exact (erases_phase _ _ _).bind fun _ => (erases_phase _ _ _).bind fun _ => erases_phase _ _ _

/-- The star that seats the main world does so in between. -/
lemma chronicleStar_primary_eq (limit : Int) (id : StarId) :
    (chronicleStar limit id true : Gen σ Chronicle Unit) =
      (do chronicleSeed id; Gen.phase id .mainWorld (placeMain id limit)
          chronicleComplete limit id) := rfl

/-- So do all phases of a star. -/
lemma erases_chronicleStar (limit : Int) (id : StarId) (primary : Bool) :
    (chronicleStar limit id primary : Gen σ Chronicle Unit).Erases
      (populateStar limit id primary) := by
  cases primary with
  | false =>
    rw [populateStar_eq]
    exact (erases_chronicleSeed id).bind fun _ => erases_chronicleComplete limit id
  | true =>
    rw [populateStar_primary_eq, chronicleStar_primary_eq]
    exact (erases_chronicleSeed id).bind fun _ => (erases_phase _ _ _).bind fun _ =>
      erases_chronicleComplete limit id

/-- So does populating a star and its companions. -/
lemma erases_chronicleFrom (limit : Int) (fuel : Nat) (id : StarId) (primary : Bool) :
    (chronicleFrom limit fuel id primary : Gen σ Chronicle Unit).Erases
      (populateFrom limit fuel id primary) := by
  induction fuel generalizing id primary with
  | zero => exact erases_throw _
  | succ fuel ih =>
    refine (erases_chronicleStar limit id primary).bind fun _ => (erases_onChart _).bind fun s =>
      erases_forM fun companion => (erases_onChart _).bind fun c => ?_
    split
    · exact ih companion false
    · exact erases_pure _

/-- **The ledger changes nothing about a run.**  Apart from it, populating a chart does the same
with a ledger and without one, whether it ends or fails. -/
theorem erases_chronicle (limit : Int) (id : StarId) (primary : Bool) :
    (chronicle limit id primary : Gen σ Chronicle Unit).Erases (populate limit id primary) :=
  (erases_onChart _).bind fun _ => erases_chronicleFrom limit _ id primary

end Population

/-! ## What the ledger shows -/

/-- The chronicle goes on: charts are entered at the end of its ledger, and what is decided in them
and on the chart lasts. -/
structure Chronicle.Continues (c d : Chronicle) : Prop where
  chart : c.chart.Keeps none d.chart
  ledger : ∃ later, d.ledger = c.ledger ++ later ∧ ∀ m ∈ later, m.chart.Keeps none d.chart

/-- Chronicles go on from step to step. -/
instance Chronicle.isPreorder_continues : IsPreorder Chronicle Continues where
  refl c := ⟨refl_of (Atlas.Keeps none) c.chart, [], (List.append_nil _).symm, nofun⟩
  trans c d e h h' := by
    obtain ⟨first, ledger, kept⟩ := h.ledger
    obtain ⟨second, ledger', kept'⟩ := h'.ledger
    refine ⟨trans_of (Atlas.Keeps none) h.chart h'.chart, first ++ second, ?_, fun m mem => ?_⟩
    · rw [ledger', ledger, List.append_assoc]
    · rcases List.mem_append.mp mem with mem | mem
      · exact trans_of (Atlas.Keeps none) (kept m mem) h'.chart
      · exact kept' m mem

/-- A chronicle goes on with the chart at the end of a phase that keeps what is decided. -/
lemma Chronicle.continues_entered {c : Chronicle} {a : Atlas} (keeps : c.chart.Keeps none a)
    (id : StarId) (phase : Phase) : c.Continues ⟨a, c.ledger ++ [⟨id, phase, a⟩]⟩ := by
  refine ⟨keeps, _, rfl, fun m mem => ?_⟩
  obtain rfl := List.mem_singleton.mp mem
  exact refl_of (Atlas.Keeps none) a

namespace Gen

variable {σ α : Type} {kinds : List Category} {F : Fault → Prop} {x : Gen σ Atlas α}

/-- A step on the chart that keeps what is decided. -/
lemma Within.ledgered (h : x.Within kinds (Atlas.Keeps none) F) :
    (onChart x).Within kinds Chronicle.Continues F :=
  within_onPart h fun keeps => ⟨keeps, [], (List.append_nil _).symm, nofun⟩

/-- A phase enters the chart at its end. -/
lemma yields_phase {id : StarId} {p : Phase} {run : Run σ Chronicle}
    {Q : α → Run σ Chronicle → Prop} : (phase id p x).Yields run Q ↔
      x.Yields run.plain fun a after => Q a ⟨after.dice, after.journal, after.scene,
        run.scene.ledger ++ [⟨id, p, after.scene⟩]⟩ := by
  rw [phase, yields_bind, onChart, yields_onPart]
  simp only [yields_bind, yields_change, yields_pure]
  rfl

/-- A phase that keeps what is decided. -/
lemma Within.phase (h : x.Within kinds (Atlas.Keeps none) F) (id : StarId) (p : Phase) :
    (Gen.phase id p x).Within kinds Chronicle.Continues F := by
  refine h.ledgered.bind fun _ => (within_change fun c => ?_).bind fun _ => within_pure _
  exact Chronicle.continues_entered (refl_of (Atlas.Keeps none) c.chart) id p

end Gen

namespace Population

open Gen

variable {σ : Type} [RandomSource σ] {limit : Int} {id : StarId}

section Effects

/-- The first phases of a star keep what is decided. -/
lemma within_chronicleSeed (id : StarId) :
    (chronicleSeed id : Gen σ Chronicle Unit).Within [.shortfall] Chronicle.Continues Fault.Any :=
  ((within_seedEmpties.onAdmitted (Atlas.admits_keeps id)).phase id _).bind fun _ =>
    ((within_main.bind fun _ =>
      (within_seedGiants _).onAdmitted (Atlas.admits_keeps id)).phase id _).bind fun _ =>
        ((within_main.bind fun _ =>
          (within_seedBelts _ _).onAdmitted (Atlas.admits_keeps id)).phase id _).bind fun _ =>
            within_pure _

/-- So do the last ones. -/
lemma within_chronicleComplete (limit : Int) (id : StarId) :
    (chronicleComplete limit id : Gen σ Chronicle Unit).Within [.orbit] Chronicle.Continues
      Fault.Any :=
  ((within_main.bind fun _ =>
    (within_fill _).onAdmitted (Atlas.admits_keeps id)).phase id _).bind fun _ =>
      ((within_addMoons (Atlas.admits_keeps id) limit).phase id _).bind fun _ =>
        ((within_enter _).onAdmitted (Atlas.admits_keeps id)).phase id _

/-- So does what is done for the companions of a star, if populating one does. -/
lemma within_chronicleCompanions {kinds : List Category} {fuel : Nat}
    (below : ∀ id, (chronicleFrom limit fuel id false : Gen σ Chronicle Unit).Within kinds
      Chronicle.Continues Fault.Any) (id : StarId) :
    (do (← Gen.onChart (Gen.star id)).companions.forM (chronicleCompanion limit fuel) :
      Gen σ Chronicle Unit).Within kinds Chronicle.Continues Fault.Any := by
  refine (within_star trivial).ledgered.bind fun s => within_forM fun companion =>
    (within_star trivial).ledgered.bind fun c => ?_
  split
  · exact below companion
  · exact within_pure _

/-- So does populating a star that does not seat the main world, and its companions. -/
lemma within_chronicleFrom (limit : Int) (fuel : Nat) (id : StarId) :
    (chronicleFrom limit fuel id false : Gen σ Chronicle Unit).Within [.shortfall, .orbit]
      Chronicle.Continues Fault.Any := by
  induction fuel generalizing id with
  | zero => exact within_throw trivial
  | succ fuel ih =>
    have seeded := (within_chronicleSeed (σ := σ) id).allow
      (show [Category.shortfall] ⊆ [.shortfall, .orbit] by decide)
    have completed := (within_chronicleComplete (σ := σ) limit id).allow
      (show [Category.orbit] ⊆ [.shortfall, .orbit] by decide)
    exact (seeded.bind fun _ => completed).bind fun _ => within_chronicleCompanions ih id

end Effects

/-- The last of the first phases of a star is that of the belts. -/
lemma last_chronicleSeed (run : Run σ Chronicle) :
    (chronicleSeed id).Yields run fun _ after =>
      ∃ earlier, after.scene.ledger = earlier ++ [⟨id, .planetoids, after.scene.chart⟩] := by
  rw [chronicleSeed, yields_bind]
  intro _ first _
  rw [yields_bind]
  intro giants second _
  rw [yields_bind, yields_phase]
  exact fun _ _ _ => yields_pure.mpr ⟨_, rfl⟩

/-- The chronicle of a star that seats the main world shows what that displaces.

**Proof sketch.** Up to the phase of the belts, what is decided lasts.  Then the main world is
placed, which displaces one body at most and notes it, and afterwards everything lasts again; no
other step notes a displaced body. -/
lemma displaces_chronicleFrom {run : Run σ Chronicle} (limit : Int) (fuel : Nat)
    (fitted : run.scene.chart.Fitted) (empty : run.scene.ledger = []) :
    (chronicleFrom limit fuel id true).Yields run fun _ after => ∃ place before seated earlier later,
      after.scene.ledger =
        earlier ++ [⟨id, .planetoids, before⟩, ⟨id, .mainWorld, seated⟩] ++ later ∧
      (∀ m ∈ after.scene.ledger, m.chart.Keeps place after.scene.chart) ∧
      run.scene.chart.Keeps none before ∧ Displaces place
        ⟨run.dice, run.journal, before⟩ ⟨after.dice, after.journal, after.scene.chart⟩ := by
  cases fuel with
  | zero => exact yields_throw
  | succ fuel =>
  rw [chronicleFrom, yields_bind, chronicleStar_primary_eq, yields_bind]
  intro _ first seeding
  obtain ⟨quiet, seeded⟩ := (within_chronicleSeed id).moves seeding
  obtain ⟨earlier, ledger⟩ := last_chronicleSeed run _ first seeding
  rw [yields_bind, yields_phase]
  refine (places_placeMain limit (fitted.of_keeps seeded.chart)).mono ?_
  rintro _ ⟨dice, journal, seated⟩ ⟨place, _, places⟩
  have displaces := places.toDisplaces
  refine ((within_chronicleComplete limit id).yields _).mono ?_
  rintro _ third ⟨quiet', completed⟩
  refine ((within_chronicleCompanions (within_chronicleFrom limit fuel) id).yields third).mono ?_
  rintro _ after ⟨quiet'', populated⟩
  have kept := trans_of Chronicle.Continues completed populated
  obtain ⟨later, ledger', lasts⟩ := kept.ledger
  obtain ⟨entered, ledger₀, held⟩ := seeded.ledger
  have entries : after.scene.ledger =
      earlier ++ [⟨id, .planetoids, first.scene.chart⟩, ⟨id, .mainWorld, seated⟩] ++ later := by
    rw [ledger', ledger, List.append_assoc]
    simp
  refine ⟨place, first.scene.chart, seated, earlier, later, entries, fun m mem => ?_,
    seeded.chart, ?_⟩
  · rw [ledger'] at mem
    rcases List.mem_append.mp mem with mem | mem
    · rcases List.mem_append.mp mem with mem | mem
      · -- what was decided before the main world was placed
        rw [ledger₀, empty, List.nil_append] at mem
        have before := trans_of (Atlas.Keeps place) (held m mem).of_none displaces.keeps
        exact trans_of (Atlas.Keeps place) before kept.chart.of_none
      · obtain rfl := List.mem_singleton.mp mem
        exact kept.chart.of_none
    · exact (lasts m mem).of_none
  · have later_quiet : after.plain.journal.displacements = journal.displacements :=
      (quiet''.displacements_eq (by decide)).trans (quiet'.displacements_eq (by decide))
    have placed : Displaces place first.plain after.plain :=
      displaces.before_kept kept.chart later_quiet
    exact placed.after_undisturbed (refl_of Atlas.Undisturbed first.scene.chart)
      (quiet.displacements_eq (by decide))

/-- Populating a chart whose stars have the slots of their capacity keeps a ledger of it. -/
lemma exists_ledger_of_fitted {run after : Run σ Atlas} (fitted : run.scene.Fitted)
    (populated : populate limit id true run = .ok () after) : ∃ ledger place before,
      chronicle limit id true ⟨run.dice, run.journal, ⟨run.scene, []⟩⟩ =
        .ok () ⟨after.dice, after.journal, ⟨after.scene, ledger⟩⟩ ∧
      (∀ m ∈ ledger, m.chart.Keeps place after.scene) ∧
      (∃ seated earlier later, ledger =
        earlier ++ [⟨id, .planetoids, before⟩, ⟨id, .mainWorld, seated⟩] ++ later) ∧
      run.scene.Keeps none before ∧
      Displaces place ⟨run.dice, run.journal, before⟩ after := by
  set start : Run σ Chronicle := ⟨run.dice, run.journal, ⟨run.scene, []⟩⟩
  have plain : populate limit id true start.plain = .ok () after := populated
  obtain ⟨⟨dice, journal, chart, ledger⟩, ran, rfl⟩ :=
    (erases_chronicle limit id true).exists_ok plain
  have fitted' : start.scene.chart.Fitted := fitted
  obtain ⟨place, before, seated, earlier, later, entries, lasts, kept, displaces⟩ :=
    displaces_chronicleFrom limit (run.scene.stars.length + 1) fitted' rfl () _ ran
  exact ⟨ledger, place, before, ran, lasts, ⟨seated, earlier, later, entries⟩, kept, displaces⟩

/-- What is decided when a population starts lasts, unless the main world takes its slot. -/
lemma exists_keeps_of_populate {run after : Run σ Atlas} (fitted : run.scene.Fitted)
    (populated : populate limit id true run = .ok () after) :
    ∃ place, run.scene.Keeps place after.scene := by
  obtain ⟨ledger, place, before, -, -, -, kept, displaces⟩ :=
    exists_ledger_of_fitted fitted populated
  exact ⟨place, trans_of (Atlas.Keeps place) kept.of_none displaces.keeps⟩

end Population

/-- The stars of a built chart have the slots of their capacity. -/
lemma Constellation.Built.fitted {main : World} {a b : Atlas} (built : Built main a)
    (same : b.stars = a.stars) : b.Fitted := by
  intro id s found
  rw [Atlas.star?, same] at found
  have capacity := (built.fresh found).sound.capacity
  omega

namespace Population

open Constellation (build ends_build)

variable {σ τ : Type} [RandomSource σ] [RandomSource τ]

/-- **Slots are written once.**  Take the stars of any system as they are built, with any main world
and any source of random numbers.  When they have been populated, what was decided about a slot at
the end of any phase of any star is still so: the same mark, companion star or body is in it.  The
only exception is one slot that the main world may have taken.  If it displaced a body there, which
the slot held at the end of the belts of the primary star, then one note more reports something as
replaced, namely the name that this body had; otherwise there is no such note more.

**Proof sketch.** Every phase is a row of steps that write into undecided slots or give bodies
satellites, which is read off the program text.  Seating the main world is the only other write. -/
theorem exists_ledger {bonus limit : Int} {companions : Bool} {name : Option String} {main : World}
    {dice : Dice τ} {journal : Journal} {primary : StarId} {built : Run τ Atlas}
    {run after : Run σ Atlas}
    (ran : build bonus companions name ⟨dice, journal, ⟨[], main⟩⟩ = .ok primary built)
    (stars : run.scene.stars = built.scene.stars)
    (populated : populate limit primary true run = .ok () after) : ∃ ledger place before,
      chronicle limit primary true ⟨run.dice, run.journal, ⟨run.scene, []⟩⟩ =
        .ok () ⟨after.dice, after.journal, ⟨after.scene, ledger⟩⟩ ∧
      (∀ m ∈ ledger, m.chart.Keeps place after.scene) ∧
      (∀ id i, place = some (id, i) → after.scene.slot? id i = some .main) ∧
      (∃ seated earlier later, ledger =
        earlier ++ [⟨primary, .planetoids, before⟩, ⟨primary, .mainWorld, seated⟩] ++ later) ∧
      after.journal.displacements = run.journal.displacements ++
        (before.displaced place).map fun (body : String) => .text body := by
  have ended : (build bonus companions name : Gen τ Atlas StarId).Ends ⟨dice, journal, ⟨[], main⟩⟩
      fun primary after => primary = 0 ∧ Constellation.Built main after.scene :=
    ends_build bonus companions name rfl
  obtain ⟨rfl, isBuilt⟩ := ended.of_ok ran
  obtain ⟨ledger, place, before, ran, lasts, entries, -, displaces⟩ :=
    exists_ledger_of_fitted (isBuilt.fitted stars) populated
  exact ⟨ledger, place, before, ran, lasts, fun _ _ => displaces.taken, entries, displaces.noted⟩

/-- Slots are written once when the stars of this source are populated around a main world of this
kind.

**Proof sketch.** The constellation is built with this source, its primary star has room, and a main
world of this kind is accepted; so populating ends, and the ledger is that of its run. -/
theorem exists_ledger_regina : ∃ primary built after,
    build 4 true none (⟨⟨(⟨1⟩ : Congruential), []⟩, [], ⟨[], .regina⟩⟩ : Run Congruential Atlas) =
      .ok primary built ∧ populate 10 primary true built = .ok () after ∧
      ∃ ledger place before,
        chronicle 10 primary true ⟨built.dice, built.journal, ⟨built.scene, []⟩⟩ =
          .ok () ⟨after.dice, after.journal, ⟨after.scene, ledger⟩⟩ ∧
        (∀ m ∈ ledger, m.chart.Keeps place after.scene) ∧
        (∀ id i, place = some (id, i) → after.scene.slot? id i = some .main) ∧
        (∃ seated earlier later, ledger =
          earlier ++ [⟨primary, .planetoids, before⟩, ⟨primary, .mainWorld, seated⟩] ++ later) ∧
        after.journal.displacements = built.journal.displacements ++
          (before.displaced place).map fun (body : String) => .text body := by
  have ended : (build 4 true none : Gen Congruential Atlas StarId).Ends
      ⟨⟨(⟨1⟩ : Congruential), []⟩, [], ⟨[], .regina⟩⟩
      fun primary after => primary = 0 ∧ Constellation.Built .regina after.scene :=
    ends_build 4 true none rfl
  obtain ⟨_, built, ran, rfl, isBuilt⟩ := ended.exists_ok
  obtain ⟨s, found, room⟩ := isBuilt.exists_root
  have charted : built.scene.main.profile.InRange (leastSize built.scene.main.isSatellite) := by
    rw [isBuilt.main_eq]
    exact World.accepted_regina.inRange
  have bare : built.scene.main.satellites = [] := by
    rw [isBuilt.main_eq]
    rfl
  obtain ⟨_, after, populated, -⟩ := (ends_populate 10 charted bare
    (fun known => isBuilt.fresh known) isBuilt.spans found room).exists_ok
  exact ⟨0, built, after, ran, populated, exists_ledger ran rfl populated⟩

end Population

end Starchart
