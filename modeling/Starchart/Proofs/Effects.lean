import Starchart.Generator
import Starchart.Proofs.Frames
import Starchart.Proofs.Keeping

/-!
# What the steps of a run do

The program text is gone through once, from the search for the orbit of a satellite to the search for a
seat of the main world and the building of the stars.  For each step it is told which diagnostics it may
record, what lasts on its scene, and which faults it may end in.

The work of a phase is told apart from entering it: the work leaves the star in its phase and never fails
because a phase comes out of order.

## Main definitions

* `Starchart.Category.populating` — what diagnostics of populating a chart may be about.
* `Starchart.Population.emptiesWork` and others — what phases do once they are entered.

## Main results

* `Starchart.Satellite.within_populate` — giving a body satellites makes no other body.
* `Starchart.Population.within_seedEmpties` and others — the phases keep what is decided.
* `Starchart.Population.within_addMoons` — so does giving bodies satellites.
* `Starchart.Population.within_mainWork` — seating the main world leaves it and the phases alone.
* `Starchart.Constellation.within_build` — building the stars keeps the main world and records nothing.
-/

set_option autoImplicit false

namespace Starchart

/-! ## Readings -/

/-- A slot that cannot be read fails timely. -/
lemma StarSystem.readsAs_slot (s : StarSystem) (orbit : Int) :
    ReadsAs (s.slot orbit) Fault.Timely := by
  have wide : Fault.Timely .slotNumberTooWide := nofun
  have missing : Fault.Timely .noSuchSlot := nofun
  simp only [slot]
  generalize (if orbit < 0 then orbit + s.slots.length else orbit) = index
  split
  · exact readsAs_error wide
  · split
    · split
      · exact readsAs_ok _
      · exact readsAs_error missing
    · exact readsAs_error missing

/-- A body that cannot be forced into a slot fails timely. -/
lemma Atlas.readsAs_force (a : Atlas) (id : StarId) (body : Slot) (orbit : Int) :
    ReadsAs (a.force id body orbit) Fault.Timely := by
  refine (a.readsAs_star nofun).bind fun s => ReadsAs.bind ?_ fun _ => readsAs_ok _
  unfold StarSystem.force
  split
  · exact readsAs_ok _
  · exact readsAs_error nofun

/-- What the diagnostics may be about that populating a chart records: anything but what was given
to the generator. Notes about the profile of the main world come before, from reading it. -/
def Category.populating : List Category := [.shortfall, .orbit, .placement, .zone]

open Gen Fault

variable {σ : Type} {kinds : List Category}

/-! ## Phases -/

namespace Gen

variable {α : Type} {F : Fault → Prop}

/-- Entering a phase keeps what is decided. -/
lemma within_enter (phase : Phase) :
    (Population.enter phase : Gen σ StarSystem Unit).Within kinds StarSystem.Keeps Any :=
  within_attempt StarSystem.keeps_enter fun _ => readsAs_any _

/-- A phase keeps what is decided if the work on it does. -/
lemma Within.entered {x : Gen σ StarSystem α} (h : x.Within kinds StarSystem.Gains F)
    (phase : Phase) : (do Population.enter phase; x : Gen σ StarSystem α).Within kinds
      StarSystem.Keeps Any :=
  (within_enter phase).bind fun _ => (h.along fun _ _ gains => gains.keeps).any

/-- A phase of a star moves the chart as the relation admits. -/
lemma Within.onAdmitted {R : Atlas → Atlas → Prop} [IsPreorder Atlas R] {id : StarId}
    {x : Gen σ StarSystem α} (h : x.Within kinds StarSystem.Keeps F)
    (admits : Atlas.Admits id R) : (Gen.onStar id x : Gen σ Atlas α).Within kinds R Any :=
  h.any.onStar trivial admits.star

/-- What leaves a chart alone does so if its main world belongs into the habitable zone. -/
lemma Within.habitable {x : Gen σ Atlas α} (h : x.Within kinds Atlas.Remains F) :
    x.Within kinds Atlas.RemainsHabitable F :=
  h.along fun _ _ remains _ => remains

end Gen

/-! ## Bodies -/

namespace Satellite

variable [RandomSource σ]

/-- Looking for the orbit of a satellite changes nothing, and may record that the search was given
up. -/
lemma within_findOrbit {ρ : Type} {R : ρ → ρ → Prop} [IsPreorder ρ R] (main : World) (host : Host)
    (ring : Bool) (limit : Int) :
    (findOrbit main host ring limit : Gen σ ρ Int).Within [.orbit] R Timely := by
  refine (within_roll (failsAs_rollOrbit _ _)).bind fun rolled => Within.bind ?_ fun _ => ?_
  · exact within_forM fun _ => within_record rfl
  · split
    · exact within_pure _
    · exact (within_diagnose List.mem_cons_self).bind fun _ => within_pure _

/-- Adding a satellite makes no other body. -/
lemma within_generate (zones : Zones) (main : World) (star : Star) (limit : Int) :
    (generate zones main star limit : Gen σ Host World).Within [.orbit] Host.SameBody Timely := by
  have add : ∀ moon : World, (do
      Gen.change fun host => host.withSatellites (host.satellites ++ [.own moon])
      return moon : Gen σ Host World).Within [.orbit] Host.SameBody Timely := fun moon =>
    (within_change fun host => host.sameBody_withSatellites _).bind fun _ => within_pure _
  refine within_scene.bind fun host => (within_roll host.failsAs_rollSize).bind fun size =>
    (within_findOrbit _ _ _ _).bind fun orbit => ?_
  dsimp only
  split
  · exact (within_pure _).bind add
  · exact (within_roll (failsAs_rollMoon _ _ _ _)).bind add

/-- Neither does giving a body all its satellites. -/
theorem within_populate (zones : Zones) (main : World) (star : Star) (limit : Int) :
    (populate zones main star limit : Gen σ Host Unit).Within [.orbit] Host.SameBody Timely := by
  have many : ∀ count : Nat, (generateMany zones main star limit count :
      Gen σ Host Unit).Within [.orbit] Host.SameBody Timely := by
    intro count
    induction count with
    | zero => exact within_pure _
    | succ count ih => exact (within_generate _ _ _ _).bind fun _ => ih
  exact within_scene.bind fun host => (within_roll host.failsAs_rollCount).bind fun _ =>
    (many _).bind fun _ => within_change fun host => host.sameBody_withSatellites _

end Satellite

namespace Population

open StarSystem (Keeps Gains)

/-! ## Stars -/

/-- Placing a body takes an undecided slot, and may be refused. -/
lemma within_place (mainName : String) (body : Slot) (orbit : Int) :
    (Gen.attempt fun s => s.place mainName body orbit : Gen σ StarSystem Unit).Within
      kinds Gains Timely := by
  refine within_attempt StarSystem.gains_place fun s => ?_
  unfold StarSystem.place
  split
  · exact readsAs_ok _
  · exact readsAs_error nofun

variable [RandomSource σ]

/-- What is done once the phase of the empty orbits is entered. -/
def emptiesWork : Gen σ StarSystem Nat := do
  let count ← Gen.roll rollEmpties
  let marked ← markRandom count
  Gen.record (.emptiesSeeded (← Gen.scene).name marked)
  return marked

/-- What is done once the phase of the gas giants is entered. -/
def giantsWork (mainName : String) : Gen σ StarSystem Int := do
  let wanted ← Gen.roll rollGiants
  if wanted = 0 then return 0 else placeGiants mainName wanted

/-- What is done once the phase of the belts is entered. -/
def beltsWork (main : World) (giants : Int) : Gen σ StarSystem Int := do
  let wanted ← Gen.roll (rollBelts giants)
  if wanted = 0 then return 0 else placeBelts main wanted

/-- What is done once the phase of the other worlds is entered. -/
def fillWork (main : World) : Gen σ StarSystem Nat := do
  let zones ← (← Gen.scene).star.zones
  Gen.change fun s => s.markEmpties (Orbit.span 0 (zones.hot + 1))
  let s ← Gen.scene
  fillOrbits main (Orbit.span (max 0 (zones.hot + 1)) s.maxOrbits)

/-- Seeding empty orbits decides slots.

**Proof sketch.** By induction on how many orbits are marked. A mark on an undecided orbit decides
it, and on any other orbit it changes nothing. -/
lemma within_emptiesWork : (emptiesWork : Gen σ StarSystem Nat).Within kinds Gains Timely := by
  have marking : ∀ count : Nat,
      (markRandom count : Gen σ StarSystem Nat).Within kinds Gains Timely := by
    intro count
    induction count with
    | zero => exact within_pure _
    | succ count ih =>
      refine within_scene.bind fun s => ?_
      dsimp only
      split
      · exact within_pure _
      · exact (within_roll (Roll.failsAs_choice _)).bind fun _ =>
          (within_change fun s => s.gains_markEmpty _).bind fun _ =>
            ih.bind fun _ => within_pure _
  exact (within_roll failsAs_rollEmpties).bind fun _ => (marking _).bind fun _ =>
    within_scene.bind fun _ => (within_record rfl).bind fun _ => within_pure _

/-- So does placing as many bodies as there is room for, which may record a shortfall. -/
lemma within_placeUpTo (mainName body plural : String) {roll : StarSystem → Int → Roll σ Slot}
    (fails : ∀ s orbit, (roll s orbit).FailsAs Timely) (c : Candidates) (wanted : Int) :
    (placeUpTo mainName body plural roll c wanted).Within [.shortfall] Gains Timely := by
  have placing : ∀ (count : Nat) (c : Candidates),
      (placeEach mainName roll count c).Within [.shortfall] Gains Timely := by
    intro count
    induction count with
    | zero => exact fun _ => within_pure _
    | succ count ih =>
      intro c
      exact (within_roll (failsAs_pick c)).bind fun _ => within_scene.bind fun _ =>
        (within_roll (fails _ _)).bind fun _ => (within_place _ _ _).bind fun _ => ih _
  refine (placing _ _).bind fun _ => ?_
  dsimp only
  split
  · exact within_scene.bind fun _ => (within_diagnose List.mem_cons_self).bind fun _ =>
      within_pure _
  · exact within_pure _

/-- So does seeding gas giants. -/
lemma within_giantsWork (mainName : String) :
    (giantsWork mainName : Gen σ StarSystem Int).Within [.shortfall] Gains Timely := by
  refine (within_roll failsAs_rollGiants).bind fun wanted => ?_
  split
  · exact within_pure _
  · exact within_scene.bind fun s => (within_ofExcept s.star.readsAs_zones).bind fun _ =>
      within_placeUpTo _ _ _ failsAs_rollGiant _ _

/-- So does seeding belts. -/
lemma within_beltsWork (main : World) (giants : Int) :
    (beltsWork main giants : Gen σ StarSystem Int).Within [.shortfall] Gains Timely := by
  refine (within_roll (failsAs_rollBelts _)).bind fun wanted => ?_
  split
  · exact within_pure _
  · exact within_scene.bind fun s => within_placeUpTo _ _ _
      (fun s orbit => (failsAs_rollBelt s orbit main).bind fun _ => Roll.failsAs_pure _) _ _

/-- So does filling the other orbits. -/
lemma within_fillWork (main : World) :
    (fillWork main : Gen σ StarSystem Nat).Within kinds Gains Timely := by
  have filling : ∀ orbits : List Int,
      (fillOrbits main orbits : Gen σ StarSystem Nat).Within kinds Gains Timely := by
    intro orbits
    induction orbits with
    | nil => exact within_pure _
    | cons orbit rest ih =>
      refine within_scene.bind fun s => ?_
      split
      · exact (within_roll (failsAs_rollWorld _ _ _)).bind fun _ => (within_place _ _ _).bind fun _ =>
          ih.bind fun _ => within_pure _
      · exact ih
  exact within_scene.bind fun s => (within_ofExcept s.star.readsAs_zones).bind fun _ =>
    (within_change fun s => s.gains_markEmpties _).bind fun _ => within_scene.bind fun _ =>
      filling _

/-- The phase of the empty orbits keeps what is decided. -/
lemma within_seedEmpties : (seedEmpties : Gen σ StarSystem Nat).Within kinds Keeps Any :=
  within_emptiesWork.entered _

/-- So does the phase of the gas giants. -/
lemma within_seedGiants (mainName : String) :
    (seedGiants mainName : Gen σ StarSystem Int).Within [.shortfall] Keeps Any :=
  (within_giantsWork mainName).entered _

/-- So does the phase of the belts. -/
lemma within_seedBelts (main : World) (giants : Int) :
    (seedBelts main giants : Gen σ StarSystem Int).Within [.shortfall] Keeps Any :=
  (within_beltsWork main giants).entered _

/-- So does the phase of the other worlds. -/
lemma within_fill (main : World) : (fill main : Gen σ StarSystem Nat).Within kinds Keeps Any :=
  (within_fillWork main).entered _

/-! ## Bodies of charts -/

section Charts

variable {R : Atlas → Atlas → Prop}

/-- What is done once the phase of the satellites is entered. -/
def moonsWork (id : StarId) (limit : Int) : Gen σ Atlas Unit := do
  let s ← Gen.star id
  let zones ← s.star.zones
  (List.range s.slots.length).forM (addMoonsAt id zones limit)

/-- Naming a gas giant makes no other body. -/
lemma within_nameGiant (star : String) (orbit : Int) (main : World) :
    (nameGiant star orbit main : Gen σ Host Unit).Within kinds Host.SameBody Timely := by
  refine within_scene_bind fun host => ?_
  split
  · rename_i giant
    refine within_roll_bind (fun a _ => refl_of Host.SameBody a)
      (failsAs_rollGiantName star orbit main giant) fun name _ => within_change fun a same => ?_
    rw [same]
    exact .giant
  · exact fun run => ⟨.refl kinds run.journal, fun _ => refl_of Host.SameBody run.scene⟩

variable [IsPreorder Atlas R]

/-- Giving the body on one orbit of a star satellites moves the chart as it moves the body, and may
record that the search for an orbit was given up. -/
lemma within_addMoonsAt {id : StarId} (zones : Zones) (limit : Int) (orbit : Nat)
    (lift : ∀ {a : Atlas} {host after : Host}, a.host? id orbit = some host →
      host.SameBody after → R a (a.setHost id orbit after)) :
    (addMoonsAt id zones limit orbit : Gen σ Atlas Unit).Within [.orbit] R Timely := by
  refine (within_star nofun).bind fun s => within_main.bind fun main => Within.onHost ?_ lift
  exact (Satellite.within_populate _ _ _ _).bind fun _ => within_nameGiant _ _ _

/-- So does giving all bodies of a star satellites. -/
lemma within_moonsWork {id : StarId} (limit : Int)
    (lift : ∀ {a : Atlas} {orbit : Nat} {host after : Host}, a.host? id orbit = some host →
      host.SameBody after → R a (a.setHost id orbit after)) :
    (moonsWork id limit : Gen σ Atlas Unit).Within [.orbit] R Timely :=
  (within_star nofun).bind fun s => (within_ofExcept s.star.readsAs_zones).bind fun zones =>
    within_forM fun orbit => within_addMoonsAt zones limit orbit lift

/-- So does the phase of the satellites. -/
lemma within_addMoons {id : StarId} (admits : Atlas.Admits id R) (limit : Int) :
    (addMoons id limit : Gen σ Atlas Unit).Within [.orbit] R Any :=
  ((within_enter _).onAdmitted admits).bind fun _ => (within_moonsWork limit admits.host).any

/-! ## Seats of the main world -/

omit [RandomSource σ] in
/-- Looking for the orbit to aim at leaves everything alone, and may record a compromise. -/
lemma within_habitableTarget (id : StarId) :
    (habitableTarget id : Gen σ Atlas Int).Within [.zone] R Timely := by
  refine (within_star nofun).bind fun s => (within_ofExcept s.star.readsAs_zones).bind fun zones => ?_
  have within : ∀ target : Int, (if s.maxOrbits ≤ target then do
        Gen.diagnose (beyondOrbits s target (s.maxOrbits - 1))
        return s.maxOrbits - 1
      else return target : Gen σ Atlas Int).Within [.zone] R Timely := by
    intro target
    split
    · exact (within_diagnose List.mem_cons_self).bind fun _ => within_pure _
    · exact within_pure _
  dsimp only
  split
  · exact (within_diagnose List.mem_cons_self).bind fun _ => (within_pure _).bind within
  · exact (within_pure _).bind within

omit [IsPreorder Atlas R] in
/-- Surveying the main world sets nothing but its astrophysical data. -/
lemma within_surveyMain (still : ∀ a, R a a)
    (surveys : ∀ (a : Atlas) (astro : Option Astro), R a { a with main := { a.main with astro } })
    (star : Star) : (surveyMain star : Gen σ Atlas Unit).Within kinds R Timely := by
  refine within_main_bind fun w => within_roll_bind (fun a _ => still a) (w.failsAs_surveyed star)
    fun v surveyed => within_change fun a same => ?_
  obtain ⟨dice, after, surveyed⟩ := surveyed
  simp only [World.surveyed, bind, EStateM.bind] at surveyed
  split at surveyed
  · cases surveyed
    rw [← same]
    exact surveys a _
  · cases surveyed

end Charts

section Seats

open Atlas (Remains RemainsHabitable)

omit [RandomSource σ] in
/-- Changing the main world elsewhere leaves it and the phases alone. -/
lemma within_changeMain {f : World → World} (same : ∀ w : World, w.Remains (f w)) :
    (Gen.changeMain f : Gen σ Atlas Unit).Within kinds Remains Timely :=
  within_change fun a => Atlas.remains_main (same a.main)

omit [RandomSource σ] in
/-- So does assigning it to a star. -/
lemma within_assign (id : StarId) : (assign id : Gen σ Atlas Unit).Within kinds Remains Timely :=
  within_change fun _ => Atlas.remains_modifyStar fun _ => rfl

omit [RandomSource σ] in
/-- So does placing a body by force. -/
lemma within_force (id : StarId) (body : Slot) (orbit : Int) :
    (Gen.force id body orbit : Gen σ Atlas Slot).Within kinds Remains Timely := by
  intro run
  have looked : (Gen.scene : Gen σ Atlas Atlas) run = .ok run.scene run := rfl
  rw [Gen.force, bind_ok looked]
  cases forced : run.scene.force id body orbit with
  | ok answer =>
    rw [bind_ok (ofExcept_ok rfl)]
    exact ⟨.refl kinds run.journal, Atlas.remains_force forced⟩
  | error e =>
    rw [bind_error (ofExcept_error rfl)]
    exact ⟨refl_of (Run.Moves kinds Remains) run, run.scene.readsAs_force id body orbit e forced⟩

/-- So does surveying it. -/
lemma remains_surveyMain (star : Star) :
    (surveyMain star : Gen σ Atlas Unit).Within kinds Remains Timely :=
  within_surveyMain (refl_of Remains)
    (fun _ _ => Atlas.remains_main ⟨rfl, rfl, rfl, fun main => main, .inl rfl⟩) star

/-- So does seating it on an orbit, which may record what it replaced. -/
lemma within_seat (id : StarId) (orbit : Int) :
    (seat id orbit : Gen σ Atlas Unit).Within [.placement] Remains Timely := by
  refine (within_star nofun).bind fun s => (within_changeMain fun w => w.remains_moved _ _).bind
    fun _ => (within_force _ _ _).bind fun previous => within_main.bind fun main => ?_
  split
  · exact (within_diagnose List.mem_cons_self).bind fun _ => remains_surveyMain _
  · exact (within_pure _).bind fun _ => remains_surveyMain _

/-- So does seating it anywhere. -/
lemma within_seatAnywhere (id : StarId) :
    (seatAnywhere id : Gen σ Atlas Unit).Within [.placement] Remains Timely := by
  refine (within_star nofun).bind fun s => ?_
  split
  · exact (within_roll (Roll.failsAs_below _)).bind fun _ => within_seat _ _
  · exact (within_roll (Roll.failsAs_choice _)).bind fun _ => within_seat _ _

/-- Making the main world a moon leaves it and the phases alone, if it belongs into the habitable
zone. It records the gas giant, and perhaps that the search for an orbit was given up. -/
lemma within_seatAsMoon (id : StarId) (orbit : Int) (giant : GasGiant) (limit : Int) :
    (seatAsMoon id orbit giant limit : Gen σ Atlas Unit).Within [.orbit, .placement]
      RemainsHabitable Timely := by
  have flag : (Gen.changeMain fun w => { w with isSatellite := true } : Gen σ Atlas Unit).Within
      [.orbit, .placement] RemainsHabitable Timely := within_change fun a needs =>
    Atlas.remains_main ⟨rfl, rfl, rfl, fun main => main, .inr ⟨rfl, needs⟩⟩
  have place : ∀ moonOrbit : Int, (Gen.changeMain fun w =>
      { w with orbit := moonOrbit, position := orbit } : Gen σ Atlas Unit).Within
        [.orbit, .placement] RemainsHabitable Timely := fun _ =>
    (within_changeMain fun w => w.remains_moved _ _).habitable
  refine (within_star nofun).bind fun s => flag.bind fun _ => within_main.bind fun main =>
    ((Satellite.within_findOrbit _ _ _ _).allow (by decide)).bind fun moonOrbit =>
      (place _).bind fun _ => Within.bind ?_ fun _ => (remains_surveyMain _).habitable.bind fun _ =>
        within_main.bind fun _ => within_diagnose (List.mem_cons_of_mem _ List.mem_cons_self)
  exact within_change fun a _ => Atlas.remains_modifyStar fun _ => rfl

/-- So does the search for a seat, which may record whatever is worth telling about zones and
placements.

**Proof sketch.** By induction on the number of levels that are left. A companion in the slot leads
one level down or, if it has no orbits, to any slot of the star itself; a gas giant takes the main
world as a moon, and anything else makes way for it. -/
lemma within_descend (limit : Int) (fuel : Nat) (id : StarId) (target : Int) :
    (descend limit fuel id target : Gen σ Atlas Unit).Within [.orbit, .placement, .zone]
      RemainsHabitable Timely := by
  have zone : Category.zone ∈ [Category.orbit, .placement, .zone] := by decide
  have placement : Category.placement ∈ [Category.orbit, .placement, .zone] := by decide
  induction fuel generalizing id target with
  | zero => exact within_throw nofun
  | succ fuel ih =>
    refine (within_star nofun).bind fun s => (within_ofExcept (s.readsAs_slot target)).bind
      fun content => ?_
    split
    · refine (within_star nofun).bind fun c => ?_
      split
      · exact (within_diagnose zone).bind fun _ =>
          (within_seatAnywhere _).habitable.allow (by decide)
      · exact within_main.bind fun main => (within_diagnose placement).bind fun _ =>
          (within_assign _).habitable.bind fun _ =>
            ((within_habitableTarget _).allow (by decide)).bind fun _ => ih _ _
    · exact (within_seatAsMoon _ _ _ _).allow (by decide)
    · exact (within_seat _ _).habitable.allow (by decide)

/-- What is done once the phase of the main world is entered. -/
def mainWork (id : StarId) (limit : Int) : Gen σ Atlas Unit := do
  Gen.changeMain fun w => { w with isMain := true }
  assign id
  if (← Gen.main).profile.needsHabitable then
    let target ← habitableTarget id
    descend limit (← Gen.scene).stars.length id target
  else seatAnywhere id

/-- The work of seating the main world leaves it and the phases alone.

**Proof sketch.** The main world becomes a moon on the search for a habitable seat only, which it is
sent on if it belongs into the habitable zone. -/
theorem within_mainWork (id : StarId) (limit : Int) :
    (mainWork id limit : Gen σ Atlas Unit).Within [.orbit, .placement, .zone] Remains Timely := by
  have mark : ∀ w : World, w.Remains { w with isMain := true } := fun _ =>
    ⟨rfl, rfl, rfl, fun _ => rfl, .inl rfl⟩
  refine (within_changeMain mark).bind fun _ => (within_assign id).bind fun _ =>
    within_main_bind fun w => ?_
  split
  · rename_i needs
    have search : (do
        let target ← habitableTarget id
        descend limit (← Gen.scene).stars.length id target :
          Gen σ Atlas Unit).Within [.orbit, .placement, .zone] RemainsHabitable Timely :=
      ((within_habitableTarget id).allow (by decide)).bind fun _ => within_scene.bind fun _ =>
        within_descend _ _ _ _
    exact search.along fun a b remains same => remains (same ▸ needs)
  · exact ((within_seatAnywhere id).allow (by decide)).along fun _ _ remains _ => remains

end Seats

end Population

/-! ## Building the stars -/

namespace Constellation

open Atlas (KeepsMain)

/-- Changing a star keeps the main world. -/
lemma within_modifyStar (id : StarId) (f : StarSystem → StarSystem) :
    (Gen.change fun a => a.modifyStar id f : Gen σ Atlas Unit).Within kinds KeepsMain Any :=
  within_change fun a => refl_of World.Remains a.main

/-- So does placing a body. -/
lemma within_place (id : StarId) (body : Slot) (orbit : Int) :
    (Gen.place id body orbit : Gen σ Atlas Unit).Within kinds KeepsMain Any := by
  refine within_attempt (fun {a b} placed => ?_) fun _ => readsAs_any _
  unfold Atlas.place at placed
  cases found : a.star id with
  | error e => simp [found, bind, Except.bind] at placed
  | ok s =>
    cases decided : s.place a.main.name body orbit with
    | error e => simp [found, decided, bind, Except.bind] at placed
    | ok t =>
      simp only [found, decided, bind, Except.bind] at placed
      cases placed
      exact (Atlas.remains_stamp (a := a.setStar id t) orbit body).main

/-- So does adding a star. -/
lemma within_add (s : StarSystem) : (Gen.add s : Gen σ Atlas StarId).Within kinds KeepsMain Any :=
  fun run => ⟨.refl kinds run.journal, refl_of World.Remains run.scene.main⟩

/-- So does attaching a companion.

**Proof sketch.** In each of the five ways in which a companion is attached, the slots of its
parent, its number or nothing but a note change, and the main world is neither of these. -/
lemma within_attach (parent companion : StarId) (orbit : Int) :
    (attach parent companion orbit : Gen σ Atlas Int).Within kinds KeepsMain Any := by
  have seated : (do return (← Gen.star companion).orbit : Gen σ Atlas Int).Within
      kinds KeepsMain Any := (within_star trivial).bind fun _ => within_pure _
  refine (within_star trivial).bind fun p => (within_ofExcept (readsAs_any _)).bind fun contact => ?_
  dsimp only
  split
  · exact (within_modifyStar _ _).bind fun _ => seated
  split
  · exact (within_modifyStar _ _).bind fun _ => seated
  split
  · exact (within_modifyStar _ _).bind fun _ => (within_modifyStar _ _).bind fun _ => seated
  split
  · exact within_scene.bind fun _ => (within_ofExcept (readsAs_any _)).bind fun _ =>
      (within_place _ _ _).bind fun _ => (within_modifyStar _ _).bind fun _ => seated
  · exact (within_star trivial).bind fun _ => (within_record rfl).bind fun _ =>
      (within_modifyStar _ _).bind fun _ => seated

variable [RandomSource σ]

/-- So does adding a companion. -/
lemma within_addCompanion (parent : StarId) (tertiary : Bool) (rolls : Rolls) (depth : Depth) :
    (addCompanion parent tertiary rolls depth : Gen σ Atlas (StarId × Rolls)).Within
      kinds KeepsMain Any :=
  (within_roll (Roll.failsAs_any _)).bind fun _ => (within_roll (Roll.failsAs_any _)).bind fun _ =>
    (within_roll (Roll.failsAs_any _)).bind fun _ => (within_add _).bind fun _ =>
      (within_attach _ _ _).bind fun _ => (within_modifyStar _ _).bind fun _ =>
        (within_star trivial).bind fun _ => (within_record rfl).bind fun _ => within_pure _

/-- So does adding a companion of the primary star. -/
lemma within_addOuter (primary : StarId) (tertiary : Bool) (rolls : Rolls) :
    (addOuter primary tertiary rolls : Gen σ Atlas Unit).Within kinds KeepsMain Any := by
  refine (within_addCompanion _ _ _ _).bind fun added => (within_star trivial).bind fun s => ?_
  split
  · refine (within_roll (Roll.failsAs_any _)).bind fun count => ?_
    split
    · exact (within_addCompanion _ _ _ _).bind fun _ => within_pure _
    · exact within_pure _
  · exact within_pure _

/-- Building the stars of a system keeps the main world and records no diagnostic. -/
theorem within_build (bonus : Int) (companions : Bool) (name : Option String) :
    (build bonus companions name : Gen σ Atlas StarId).Within kinds KeepsMain Any := by
  refine within_choose (within_roll (Roll.failsAs_any _)) (within_pure _) fun count =>
    (within_roll (Roll.failsAs_any _)).bind fun type => (within_roll (Roll.failsAs_any _)).bind
      fun size => (within_roll (Roll.failsAs_any _)).bind ?_
  rintro ⟨star, capacity⟩
  dsimp only
  have joining : ∀ (count : Nat) (rolls : Rolls) (primary : StarId), (do
      if 1 < count then addOuter primary false rolls
      if 2 < count then addOuter primary true rolls
      return primary : Gen σ Atlas StarId).Within kinds KeepsMain Any := fun count rolls primary =>
    within_when (within_addOuter _ _ _) fun _ =>
      within_when (within_addOuter _ _ _) fun _ => within_pure _
  cases name with
  | some name =>
    exact (within_pure _).bind fun _ => (within_add _).bind fun _ =>
      (within_record rfl).bind fun _ => joining _ _ _
  | none =>
    exact (within_roll (Roll.failsAs_any _)).bind fun _ => (within_add _).bind fun _ =>
      (within_record rfl).bind fun _ => joining _ _ _

end Constellation

end Starchart
