import Starchart.Proofs.Stages

/-!
# What names tell

A body that nobody lives on keeps the designation of its orbit.  A world gets a proper name when it is
rolled with people on it, and a gas giant gets one after its satellites are known, when any of them
has a sizeable settlement.  Proper names are words, and designations are not, so a name always tells
one from the other; and of all satellites but the main world only rings are called so.

## Main definitions

* `Starchart.GasGiant.Titled` — gas giants whose name tells about their moons.
* `Starchart.Slot.Named` — slots in which all names tell what they should.
* `Starchart.Atlas.Elsewhere` — charts that differ in one star at most.
* `Starchart.Atlas.Titled` — charts on which the gas giants of finished stars are titled.

## Main results

* `Starchart.Name.designation_iff` — what a rolled name tells.
* `Starchart.Population.titled_complete` — completing a star titles its gas giants.
* `Starchart.Generator.walk_named` — names tell what they should in every system.
-/

set_option autoImplicit false

namespace Starchart

variable {σ : Type} [RandomSource σ]

/-! ## Bodies -/

/-- A proper name is told from a designation. -/
lemma Name.designation_iff {c : Prop} [Decidable c] {star name : String} {orbit : Int}
    (given : (if c then planet else (designation star orbit : Except Fault String) :
      Roll σ String).CanGive name) : designation star orbit = .ok name ↔ ¬c := by
  by_cases proper : c
  · rw [if_pos proper] at given
    have word : IsWord name := gives_planet.of_canGive given
    exact ⟨fun designated => absurd word (not_isWord_of_designation designated),
      fun other => absurd proper other⟩
  · rw [if_neg proper] at given
    refine iff_of_true ?_ proper
    cases designated : designation star orbit with
    | ok designation =>
      rw [designated] at given
      rw [Roll.CanGive.eq_pure given]
    | error e =>
      rw [designated] at given
      obtain ⟨_, _, failed⟩ := given
      cases failed

namespace Slot

variable {main : World} {s : StarSystem} {i : Nat} {w : World}

/-- A world that is rolled for a slot has the designation of the slot exactly if nobody lives there,
unless it is a belt. -/
lemma Rolled.designation_iff (h : Rolled σ main s i (.world w)) (classified : s.star.Classified)
    (lt : i < 20) (other : w.isBelt = false) :
    Name.designation s.name i = .ok w.name ↔ w.profile.population = 0 := by
  cases h with
  | belt rolled =>
    obtain ⟨population, -, founded⟩ :=
      (Population.gives_rollBelt main classified i).of_canGive rolled
    rw [founded.frame] at other
    cases other
  | world _ rolled =>
    obtain ⟨name, _, _, _, population, given, isRaw, founded, -⟩ :=
      (Population.gives_rollWorld main classified (by omega) (by omega)).of_canGive rolled
    have named : w.name = name := congrArg World.name founded.frame
    have settled : w.profile.population = population :=
      congrArg Profile.population founded.profile_eq
    have nonneg : 0 ≤ population := isRaw.population.1
    rw [named, settled, Name.designation_iff given]
    omega

end Slot

/-- A satellite other than the main world is called a ring exactly if it has no size. -/
lemma Moon.Fits.name_eq_ring_iff {main w : World} {star : Star} {position : Int}
    (h : (Moon.own w).Fits σ main star position) (classified : star.Classified) :
    w.name = Name.ring ↔ w.profile.size = 0 := by
  cases h with
  | ring => exact iff_of_true rfl rfl
  | moon zoned low high nonzero rolled =>
    obtain ⟨name, _, _, _, given, -, founded⟩ :=
      (Satellite.gives_rollMoon (s := ⟨_, star, position⟩) main classified zoned low high
        _).of_canGive rolled
    have named : w.name = name := congrArg World.name founded.frame
    have sized := congrArg Profile.size founded.profile_eq
    refine iff_of_false ?_ fun none => nonzero (sized.symm.trans none)
    rintro same
    have word : Name.IsWord Name.ring := same ▸ named ▸ Name.gives_moon.of_canGive given
    exact word (by decide)

/-- The name of a gas giant on an orbit of a star is its designation exactly if none of its moons
has a sizeable settlement. -/
def GasGiant.Titled (main : World) (star : String) (orbit : Nat) (g : GasGiant) : Prop :=
  Name.designation star orbit = .ok g.name ↔
    ∀ m ∈ g.satellites, (m.body main).profile.population < 5

/-- Of the main world nothing but its digits matters for the name of a gas giant. -/
lemma GasGiant.Titled.congr {main main' : World} {star : String} {orbit : Nat} {g : GasGiant}
    (h : g.Titled main star orbit) (same : main'.profile = main.profile) :
    g.Titled main' star orbit := by
  refine Iff.trans h (forall₂_congr fun m _ => ?_)
  cases m with
  | own w => exact Iff.rfl
  | main => rw [Moon.body, Moon.body, same]

/-! ## Charts -/

namespace Atlas

variable {a b c : Atlas} {id : StarId} {s t : StarSystem} {i : Nat}

/-- The gas giant in slot `i` of a star, if there is one, is titled. -/
def TitledAt (a : Atlas) (id : StarId) (i : Nat) : Prop :=
  ∀ ⦃s : StarSystem⦄ ⦃g : GasGiant⦄, a.star? id = some s → s.slots[i]? = some (.giant g) →
    g.Titled a.main s.name i

/-- The gas giants of all stars that went through all phases are titled. -/
def Titled (a : Atlas) : Prop :=
  ∀ ⦃id : StarId⦄ ⦃s : StarSystem⦄, a.star? id = some s → s.phase = some .companions →
    ∀ i : Nat, a.TitledAt id i

/-- Charts that differ in nothing but star `id` and in what does not change the digits of the main
world. -/
structure Elsewhere (id : StarId) (a b : Atlas) : Prop where
  others : ∀ {other : StarId}, other ≠ id → b.star? other = a.star? other
  profile : b.main.profile = a.main.profile

/-- Other stars stay as they are from step to step. -/
instance isPreorder_elsewhere (id : StarId) : IsPreorder Atlas (Elsewhere id) where
  refl _ := ⟨fun _ => rfl, rfl⟩
  trans _ _ _ h h' := ⟨fun other => (h'.others other).trans (h.others other),
    h'.profile.trans h.profile⟩

/-- A star that was replaced. -/
lemma elsewhere_setStar (a : Atlas) (id : StarId) (t : StarSystem) :
    a.Elsewhere id (a.setStar id t) :=
  ⟨fun other => star?_setStar_of_ne other t, rfl⟩

/-- What is the same star on a chart with the same digits of the main world is titled as before. -/
lemma TitledAt.congr (h : a.TitledAt id i) (profile : b.main.profile = a.main.profile)
    (same : ∀ {t : StarSystem}, b.star? id = some t → ∃ s, a.star? id = some s ∧ s.name = t.name ∧
      s.slots[i]? = t.slots[i]?) : b.TitledAt id i := by
  intro t g found held
  obtain ⟨s, known, name, slot⟩ := same found
  exact name ▸ (h known (slot.trans held)).congr profile

/-- A chart stays titled when the star that changes is titled or not through all phases. -/
lemma Elsewhere.titled (h : a.Elsewhere id b) (titled : a.Titled)
    (here : ∀ ⦃t : StarSystem⦄, b.star? id = some t → t.phase = some .companions →
      ∀ i : Nat, b.TitledAt id i) : b.Titled := by
  intro other t found through i
  by_cases same : other = id
  · subst same
    exact here found through i
  · have known := (h.others same).symm.trans found
    refine (titled known through i).congr h.profile fun {u} foundU => ?_
    obtain rfl := Option.eq_some_unique found foundU
    exact ⟨t, known, rfl, rfl⟩

/-- Whatever happens to a star, the others stay as they are. -/
lemma admits_elsewhere (id : StarId) : Admits id (Elsewhere id) where
  star {a _ t} _ _ := elsewhere_setStar a id t
  host hosted same := by
    obtain ⟨s, content, later, w, -, -, -, -, bare, chart⟩ := exists_setHost hosted same
    rw [chart]
    exact ⟨fun other => star?_setStar_of_ne other _, (congrArg World.profile bare :)⟩

end Atlas

/-! ## Steps -/

namespace Population

open Gen Atlas

variable {id : StarId} {limit : Int}

/-- A gas giant is titled when it gets its final name. -/
lemma titled_nameGiant (star : String) (orbit : Nat) (main : World) (run : Run σ Host) :
    (nameGiant star orbit main).Yields run fun _ after => ∀ g, after.scene = .giant g →
      g.Titled main star orbit := by
  rw [nameGiant, yields_bind, yields_scene]
  split
  · rename_i giant hosted
    rw [yields_bind, yields_roll]
    intro name dice given
    rw [yields_change]
    rintro _ ⟨⟩
    refine (Name.designation_iff (σ := σ) ⟨_, _, given⟩).trans ?_
    simp only [List.any_eq_true, decide_eq_true_eq, not_exists, not_and, Int.not_le]
  · rename_i w hosted
    rw [yields_pure, hosted]
    intro g wrong
    cases wrong

/-- What giving the body on one orbit its satellites comes to: the body there is the same, with a
title if it is a gas giant. -/
lemma yields_addMoonsAt (zones : Zones) (i : Nat) (run : Run σ Atlas) :
    (addMoonsAt id zones limit i).Yields run fun _ after => ∃ s, run.scene.star? id = some s ∧
      (run.scene.host? id i = none ∧ after.scene = run.scene ∨ ∃ host host',
        run.scene.host? id i = some host ∧ host.SameBody host' ∧
          after.scene = run.scene.setHost id i host' ∧
            ∀ g, host' = .giant g → g.Titled run.scene.main s.name i) := by
  rw [addMoonsAt, yields_bind, yields_star]
  intro s found
  rw [yields_bind, yields_main, onHost, yields_bind, yields_scene]
  split
  · rename_i none
    exact yields_pure.mpr ⟨s, found, .inl ⟨none, rfl⟩⟩
  · rename_i host hosted
    rw [yields_onPart, yields_bind]
    refine ((Satellite.within_populate zones run.scene.main s.star limit).yields _).mono
      fun _ mid populated _ inner ended => ?_
    refine ⟨s, found, .inr ⟨host, inner.scene, hosted, ?_, rfl, ?_⟩⟩
    · have named : mid.Moves [] Host.SameBody inner :=
        (within_nameGiant s.name i run.scene.main).moves ended
      exact trans_of Host.SameBody populated.scene named.scene
    · exact titled_nameGiant s.name i run.scene.main mid _ inner ended

/-- Giving the body on one orbit its satellites titles a gas giant there. -/
lemma titled_addMoonsAt (zones : Zones) (i : Nat) (run : Run σ Atlas) :
    (addMoonsAt id zones limit i).Yields run fun _ after => after.scene.TitledAt id i := by
  refine (yields_addMoonsAt zones i run).mono ?_
  rintro _ after ⟨s, found, ⟨none, same⟩ | ⟨host, host', hosted, sameBody, changed, titled⟩⟩
  · intro t g found' held
    rw [same] at found'
    rw [host?_eq, slot?_eq found', held] at none
    cases none
  · obtain ⟨s, content, later, w, foundS, held, -, here, bare, chart⟩ :=
      exists_setHost hosted sameBody
    obtain rfl := Option.eq_some_unique found foundS
    rw [changed, chart]
    intro t g found' heldT
    have known := (star?_setStar_self found _).symm.trans found'
    cases known
    rw [List.getElem?_set_self (List.getElem?_eq_some_iff.mp held).1] at heldT
    exact (titled g (here g (Option.some.inj heldT))).congr (congrArg World.profile bare :)

/-- Gas giants on other orbits stay titled. -/
lemma titled_addMoonsAt_of_ne (zones : Zones) (i j : Nat) (run : Run σ Atlas) (other : j ≠ i)
    (held : run.scene.TitledAt id j) :
    (addMoonsAt id zones limit i).Yields run fun _ after => after.scene.TitledAt id j := by
  refine (yields_addMoonsAt zones i run).mono ?_
  rintro _ after ⟨s, found, ⟨-, same⟩ | ⟨host, host', hosted, sameBody, changed, -⟩⟩
  · rwa [same]
  · obtain ⟨s, content, later, w, found, -, -, -, bare, chart⟩ := exists_setHost hosted sameBody
    rw [changed, chart]
    refine held.congr (congrArg World.profile bare :) fun {t} found' => ⟨s, found, ?_⟩
    have known := (star?_setStar_self found _).symm.trans found'
    cases known
    exact ⟨rfl, (List.getElem?_set_ne other.symm).symm⟩

/-- Giving all bodies of a star their satellites titles its gas giants.

**Proof sketch.** Every slot gets its turn, a turn titles the gas giant of its own slot, and it
leaves those of the others titled. Slots beyond the number that there were at the start do not come
into being meanwhile. -/
lemma titled_addMoons (run : Run σ Atlas) : (addMoons id limit).Yields run fun _ after =>
    ∀ i : Nat, after.scene.TitledAt id i := by
  rw [addMoons, yields_bind]
  intro _ entered _
  rw [yields_bind, yields_star]
  intro s found
  rw [yields_bind, yields_ofExcept]
  intro zones _ _ after ended i
  by_cases within : i < s.slots.length
  · exact yields_forM (P := fun i a => a.TitledAt id i) (titled_addMoonsAt zones)
      (titled_addMoonsAt_of_ne zones) _ entered () after ended i (List.mem_range.mpr within)
  · -- there are no more slots than before
    have keeps : ((List.range s.slots.length).forM (addMoonsAt id zones limit) :
        Gen σ Atlas PUnit).Within [.orbit] (Keeps none) Fault.Timely :=
      within_forM fun i => within_addMoonsAt zones limit i (admits_keeps id).host
    obtain ⟨t, found', alike⟩ := (keeps.moves ended).scene.star found
    intro u g foundU held
    obtain rfl := Option.eq_some_unique found' foundU
    exact absurd (alike.length ▸ (List.getElem?_eq_some_iff.mp held).1) within

/-- Completing a star titles its gas giants. -/
theorem titled_complete (run : Run σ Atlas) : (complete limit id).Yields run fun _ after =>
    ∀ i : Nat, after.scene.TitledAt id i := by
  rw [complete, yields_bind, yields_main, yields_bind]
  intro _ filled _
  rw [yields_bind]
  refine (titled_addMoons filled).mono fun _ mid titled => ?_
  rw [yields_onStar]
  intro s found
  rw [enter, yields_attempt]
  intro t entered i
  obtain rfl := StarSystem.of_enter_ok entered
  refine (titled i).congr rfl fun {u} foundU => ?_
  rw [star?_setStar_self found] at foundU
  cases foundU
  exact ⟨s, found, rfl, rfl⟩

/-! ## Runs -/

/-- A star is not through all phases when it is seeded. -/
lemma phase_seed (id : StarId) (run : Run σ Atlas) :
    (seed id : Gen σ Atlas Unit).Yields run fun _ after => ∀ s, after.scene.star? id = some s →
      s.phase = some .planetoids := by
  rw [seed, yields_bind]
  intro _ first _
  rw [yields_bind, yields_main, yields_bind]
  intro giants second _
  rw [yields_bind, yields_main, yields_bind, yields_onStar]
  intro s found
  rw [seedBelts, yields_bind, enter, yields_attempt]
  intro t entered
  obtain rfl := StarSystem.of_enter_ok entered
  refine ((within_beltsWork second.scene.main giants).yields _).mono fun _ inner moved => ?_
  rw [yields_pure]
  intro u foundU
  rw [star?_setStar_self found] at foundU
  cases foundU
  exact moved.scene.abides

/-- Charts stay titled when a star is seeded. -/
lemma seed_titled {run : Run σ Atlas} (id : StarId) (titled : run.scene.Titled) :
    (seed id : Gen σ Atlas Unit).Yields run fun _ after => after.scene.Titled := by
  intro _ after ended
  refine ((within_seed (admits_elsewhere id)).moves ended).scene.titled titled
    fun s found through => ?_
  rw [phase_seed id run _ after ended s found] at through
  cases through

/-- So they do when it is completed. -/
lemma complete_titled {run : Run σ Atlas} (limit : Int) (id : StarId) (titled : run.scene.Titled) :
    (complete limit id : Gen σ Atlas Unit).Yields run fun _ after => after.scene.Titled := by
  intro _ after ended
  exact ((within_complete (admits_elsewhere id) limit).moves ended).scene.titled titled
    fun _ _ _ => titled_complete run _ after ended

/-- Charts stay titled when a companion is populated, if they do below it. -/
lemma populateCompanion_titled {fuel : Nat} (below : ∀ (id : StarId) (run : Run σ Atlas),
      run.scene.Titled → (populateFrom limit fuel id false : Gen σ Atlas Unit).Yields run
        fun _ after => after.scene.Titled) (companion : StarId) (run : Run σ Atlas)
    (titled : run.scene.Titled) : (populateCompanion limit fuel companion : Gen σ Atlas Unit).Yields
      run fun _ after => after.scene.Titled := by
  rw [populateCompanion, yields_bind, yields_star]
  intro c _
  split
  · exact below companion run titled
  · exact yields_pure.mpr titled

/-- Charts stay titled when a star and its companions are populated. -/
lemma populateFrom_titled (limit : Int) (fuel : Nat) (id : StarId) (run : Run σ Atlas)
    (titled : run.scene.Titled) : (populateFrom limit fuel id false : Gen σ Atlas Unit).Yields run
      fun _ after => after.scene.Titled := by
  induction fuel generalizing id run with
  | zero => exact yields_throw
  | succ fuel ih =>
    rw [populateFrom, yields_bind, populateStar_eq, yields_bind]
    refine (seed_titled id titled).mono fun _ _ titled => ?_
    refine (complete_titled limit id titled).mono fun _ _ titled => ?_
    rw [yields_bind, yields_star]
    exact fun s _ => Yields.forM (populateCompanion_titled ih) s.companions titled

/-- Charts stay titled from the arrival of the main world to the end. -/
lemma finish_titled {run : Run σ Atlas} (limit : Int) (fuel : Nat) (id : StarId)
    (titled : run.scene.Titled) : (finish limit fuel id : Gen σ Atlas Unit).Yields run
      fun _ after => after.scene.Titled := by
  rw [finish, yields_bind]
  refine (complete_titled limit id titled).mono fun _ _ titled => ?_
  rw [yields_bind, yields_star]
  exact fun s _ => Yields.forM
    (populateCompanion_titled (populateFrom_titled limit fuel)) s.companions titled

end Population

/-! ## Systems -/

/-- The names in slot `i` of a star tell what they should.  A world other than a belt has the
designation of the slot exactly if nobody lives there; a gas giant has it exactly if none of its
satellites has a population of five or more; and a satellite other than the main world has the name
of rings exactly if its size is zero. -/
structure Slot.Named (main : World) (star : String) (i : Nat) (content : Slot) : Prop where
  world : ∀ w, content = .world w → w.isBelt = false →
    (Name.designation star i = .ok w.name ↔ w.profile.population = 0)
  giant : ∀ g, content = .giant g → (Name.designation star i = .ok g.name ↔
    ∀ m ∈ g.satellites, (m.body main).profile.population < 5)
  satellite : ∀ w, content.Holds main (.own w) → content ≠ .world w →
    (w.name = Name.ring ↔ w.profile.size = 0)

/-- In a slot of a sound chart the names tell what they should, if a gas giant there is titled. -/
lemma Atlas.Sound.named {a : Atlas} {seat : Option (StarId × Nat)} {id : StarId} {s : StarSystem}
    {i : Nat} {content : Slot} (sound : a.Sound σ seat) (bare : a.BareAsMoon)
    (found : a.star? id = some s) (held : s.slots[i]? = some content)
    (titled : ∀ g, content = .giant g → g.Titled a.main s.name i) :
    content.Named a.main s.name i where
  world w same other := by
    subst same
    have ofStar := sound.stars found
    have few := ofStar.few
    have lt := (List.getElem?_eq_some_iff.mp held).1
    cases sound.slots found held with
    | world rolled moons =>
      exact rolled.designation_iff ofStar.classified (by omega) other
  giant := titled
  satellite w holds other := by
    rcases sound.own_cases bare found held holds with here | fits
    · exact absurd here other
    · exact fits.name_eq_ring_iff (sound.stars found).classified

namespace Generator

variable {main : World}

/-- At the end of a run all gas giants are titled.

**Proof sketch.** When the main world arrives no star is through all phases, so that nothing is to
be shown.  From there on charts stay titled. -/
lemma Stages.titled {limit : Int} {journal : Journal} {start first second run : Run σ Atlas}
    {root : StarSystem} {path : List StarId} {last : StarId} {k : Nat}
    (h : Stages main limit journal start first second run root path last k)
    (accepted : main.Accepted) : run.scene.Titled := by
  refine Population.finish_titled limit _ 0 ?_ _ run h.finishing
  intro id s found through
  have sound := sound_of_built (σ := σ) accepted.inRange h.built
  have length : second.scene.stars.length = start.scene.stars.length := by
    rw [h.arrives.length, h.seeded.reaches.length_eq sound]
  obtain ⟨u, known⟩ := Atlas.exists_star_of_lt (length ▸ Atlas.lt_length found)
  by_cases zero : id = 0
  · subst zero
    obtain ⟨t, foundT, -, -, phase, -⟩ := h.arrives.star h.found
    obtain rfl := Option.eq_some_unique found foundT
    rw [phase] at through
    cases through
  · obtain ⟨t, foundT, -, -, own⟩ :=
      h.arrives.exists_star sound h.seeded (h.built.fresh known) known
    obtain rfl := Option.eq_some_unique found foundT
    rw [(own zero).1] at through
    cases through

variable [Inexhaustible σ]

/-- **Names tell who lives there.**  In the tree of a generated system, a world in slot `i` of a
star, other than the main world and the belts, has the designation of that slot exactly if its
population is zero.  A gas giant there has it exactly if none of the satellites that it has in the
end, the main world included, has a population of five or more.  A satellite other than the main
world is called a ring system exactly if its size is zero.

**Proof sketch.** Worlds get their name together with their population, and keep both.  Gas giants
are named last of all, when they have their satellites, and every slot of a star gets its turn
before the star is through all phases.  Proper names and the names of moons have no blank, which
designations and the name of rings have, so no roll gives one for the other. -/
theorem walk_named (accepted : main.Accepted) (limit seed : Int) (dice : Dice σ)
    (journal : Journal) : ∃ primary run t,
      generate limit seed ⟨dice, journal, ⟨[], main⟩⟩ = .ok primary run ∧
        run.scene.tree primary = .ok t ∧
        ∀ s ∈ t.walk, ∀ (i : Nat) (content : Slot), s.slots[i]? = some content →
          content.Named run.scene.main s.name i := by
  obtain ⟨start, first, second, run, root, path, last, k, ran, stages⟩ :=
    exists_stages accepted limit seed dice journal
  have generated := stages.generated
  obtain ⟨t, tree, stars⟩ := generated.exists_tree
  refine ⟨0, run, t, ran, tree, fun s hs i content held => ?_⟩
  obtain ⟨id, found⟩ := stars s hs
  refine generated.sound.named generated.bareAsMoon found held ?_
  rintro g rfl
  rcases (generated.star found).2 with ⟨-, -, undecided⟩ | ⟨-, finished⟩
  · cases undecided held
  · exact stages.titled accepted found finished.phase i found held

/-- The names in the system of a main world of its kind. -/
theorem walk_named_regina : World.regina.Accepted ∧ ∃ primary run t,
    generate 10 1 (⟨⟨(⟨1⟩ : Congruential), []⟩, [], ⟨[], .regina⟩⟩ : Run Congruential Atlas) =
      .ok primary run ∧ run.scene.tree primary = .ok t ∧
        ∀ s ∈ t.walk, ∀ (i : Nat) (content : Slot), s.slots[i]? = some content →
          content.Named run.scene.main s.name i :=
  ⟨World.accepted_regina, walk_named World.accepted_regina 10 1 _ _⟩

end Generator

end Starchart
