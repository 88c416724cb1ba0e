import Starchart.Proofs.Agreement
import Starchart.Proofs.Furnishing
import Starchart.Proofs.Systems

/-!
# The limit of tries for a satellite

The search for the orbit of a satellite is given up after so many tries.  Each try passes by another
taken orbit, so with more tries than the host has satellites it always succeeds, and how many more does
not matter.  No host gets more than twelve satellites besides the main world, so that thirteen tries
are enough for a whole system.

## Main definitions

* `Starchart.Atlas.Sparse` — orbits of a star whose bodies have one satellite at most.

## Main results

* `Starchart.Satellite.findOrbit_eq` — with tries enough, their number makes no difference.
* `Starchart.Satellite.within_findOrbit_of_lt` — and the search is not given up.
* `Starchart.Population.agrees_populate` — the same for populating a fresh chart.
* `Starchart.Generator.generate_eq_of_le` — the same for a whole run of the generator.
-/

set_option autoImplicit false

namespace Starchart

open Gen (Agrees)

variable {σ : Type} [RandomSource σ] {limit limit' : Int} {kinds : List Category}

/-! ## Satellites of one body -/

namespace Satellite

section Search

variable {ρ : Type} {host : Host}

/-- With more tries than there are satellites the search finds an orbit, the same one as with just
one try more than there are satellites, and passes by the same ones. -/
lemma exists_found (main : World) (enough : (host.satellites.length : Int) < limit) (rolled : Int) :
    ∃ found, firstFree (host.takenOrbits main) rolled limit.toNat = some found ∧
      firstFree (host.takenOrbits main) rolled (host.satellites.length + 1) = some found ∧
      passed (host.takenOrbits main) rolled limit.toNat =
        passed (host.takenOrbits main) rolled (host.satellites.length + 1) := by
  have room : (host.takenOrbits main).length < host.satellites.length + 1 := by
    rw [Host.takenOrbits, List.length_map]
    exact Nat.lt_succ_self _
  obtain ⟨found, first⟩ := exists_firstFree room rolled
  obtain ⟨more, tries⟩ : ∃ more, limit.toNat = host.satellites.length + 1 + more :=
    Nat.exists_eq_add_of_le (by omega)
  obtain ⟨same, before⟩ := firstFree_add first more
  rw [tries]
  exact ⟨found, same, first, before⟩

/-- With more tries than there are satellites the number of tries makes no difference. -/
theorem findOrbit_eq (main : World) (enough : (host.satellites.length : Int) < limit)
    (enough' : (host.satellites.length : Int) < limit') (ring : Bool) :
    (findOrbit main host ring limit : Gen σ ρ Int) = findOrbit main host ring limit' := by
  unfold findOrbit
  refine bind_congr fun rolled => ?_
  obtain ⟨found, first, least, before⟩ := exists_found main enough rolled
  obtain ⟨found', first', least', before'⟩ := exists_found main enough' rolled
  obtain rfl := Option.eq_some_unique least least'
  dsimp only
  rw [first, first', before, before']

/-- With more tries than there are satellites the search is not given up. -/
theorem within_findOrbit_of_lt {R : ρ → ρ → Prop} [IsPreorder ρ R] (main : World)
    (enough : (host.satellites.length : Int) < limit) (ring : Bool) :
    (findOrbit main host ring limit : Gen σ ρ Int).Within kinds R Fault.Timely := by
  refine (Gen.within_roll (failsAs_rollOrbit _ _)).bind fun rolled =>
    (Gen.within_forM fun _ => Gen.within_record rfl).bind fun _ => ?_
  obtain ⟨found, first, -⟩ := exists_found main enough rolled
  rw [first]
  exact Gen.within_pure found

/-- Searches with tries enough agree. -/
lemma agrees_findOrbit (main : World) (enough : (host.satellites.length : Int) < limit)
    (enough' : (host.satellites.length : Int) < limit') (ring : Bool) (run : Run σ ρ) :
    Agrees kinds (findOrbit main host ring limit) (findOrbit main host ring limit') run
      fun _ _ => True := by
  rw [findOrbit_eq main enough enough' ring]
  exact (within_findOrbit_of_lt (R := Eq) main enough' ring).agrees fun _ _ _ => trivial

end Search

section Adding

variable {main : World} {star : Star} {zones : Zones} {run : Run σ Host}

/-- Adding a satellite with tries for more than there are.

**Proof sketch.** The stars are built and the run is announced without any limit. What was built is
fresh and its primary star has room, and from such a chart the two populations agree. -/
lemma agrees_generate (enough : (run.scene.satellites.length : Int) < limit)
    (enough' : (run.scene.satellites.length : Int) < limit') :
    Agrees kinds (generate zones main star limit) (generate zones main star limit') run
      fun _ _ => True := by
  refine Gen.agrees_scene.bind ?_
  rintro host mid ⟨rfl, rfl⟩
  refine (Gen.agrees_roll _).bind fun size rolled _ => ?_
  refine (agrees_findOrbit main enough enough' _ rolled).bind fun orbit found _ => ?_
  have add : ∀ (moon : World) (mid : Run σ Host), Agrees kinds (do
      Gen.change fun host => host.withSatellites (host.satellites ++ [.own moon])
      return moon : Gen σ Host World) (do
      Gen.change fun host => host.withSatellites (host.satellites ++ [.own moon])
      return moon) mid fun _ _ => True := fun _ _ =>
    (Gen.agrees_change _).bind fun _ _ _ => Gen.agrees_pure trivial
  dsimp only
  split
  · exact (Gen.agrees_pure trivial).bind fun moon mid (_ : True) => add moon mid
  · exact (Gen.agrees_roll _).bind fun moon mid _ => add moon mid

/-- Adding several satellites with tries for as many as there are in the end. -/
lemma agrees_generateMany (classified : star.Classified) (zoned : star.zones = .ok zones)
    (sized : run.scene.IsSized) {count : Nat}
    (enough : ((run.scene.satellites.length + count : Nat) : Int) ≤ limit)
    (enough' : ((run.scene.satellites.length + count : Nat) : Int) ≤ limit') :
    Agrees kinds (generateMany zones main star limit count)
      (generateMany zones main star limit' count) run fun _ _ => True := by
  induction count generalizing run with
  | zero => exact Gen.agrees_pure trivial
  | succ count ih =>
    have adding : Agrees kinds (generate zones main star limit) (generate zones main star limit') run
        fun _ _ => True := agrees_generate (by omega) (by omega)
    refine (adding.of_ends (ends_generate classified zoned limit sized)).bind ?_
    rintro moon mid ⟨added, -⟩
    have one : mid.scene.satellites.length = run.scene.satellites.length + 1 := by
      rw [added, Host.satellites_withSatellites, List.length_append]
      rfl
    exact ih (added ▸ (Host.isSized_withSatellites _ _).mpr sized) (by omega) (by omega)

/-- Giving a body all its satellites, of which it had at most one before, with thirteen tries or
more. -/
lemma agrees_populate (classified : star.Classified) (zoned : star.zones = .ok zones)
    (sized : run.scene.IsSized)
    (few : run.scene.satellites.length ≤ 1) (enough : 13 ≤ limit) (enough' : 13 ≤ limit') :
    Agrees kinds (populate zones main star limit) (populate zones main star limit') run
      fun _ _ => True := by
  refine Gen.agrees_scene.bind ?_
  rintro host mid ⟨rfl, rfl⟩
  have counting : (Gen.roll mid.scene.rollCount : Gen σ Host Int).Ends mid fun count after =>
      count ≤ 12 ∧ after.scene = mid.scene :=
    Gen.ends_roll (Host.gives_rollCount mid.scene) fun _ _ h => ⟨h.1, rfl⟩
  refine ((Gen.agrees_roll _).of_ends counting).bind ?_
  rintro count rolled ⟨le, same⟩
  have sized' : rolled.scene.IsSized := same ▸ sized
  have few' : rolled.scene.satellites.length ≤ 1 := same ▸ few
  exact (agrees_generateMany classified zoned sized' (by omega) (by omega)).bind
    fun _ _ _ => (Gen.agrees_change _).mono fun _ _ _ => trivial

end Adding

end Satellite

/-! ## Populating stars -/

/-- The bodies on the given orbits of a star have at most one satellite. -/
def Atlas.Sparse (a : Atlas) (id : StarId) (orbits : List Nat) : Prop :=
  ∀ i ∈ orbits, ∀ host, a.host? id i = some host → host.satellites.length ≤ 1

namespace Population

open Atlas (Advances)

variable {seat : Option (StarId × Nat)} {run : Run σ Atlas} {id : StarId} {s : StarSystem}

/-! ### Satellites of a star -/

/-- A phase of a star agrees with itself. -/
lemma agrees_phase {α : Type} {x : Gen σ StarSystem α} {F : Fault → Prop}
    {Q : α → Run σ Atlas → Prop} (keeps : x.Within kinds StarSystem.Keeps F)
    (ends : (Gen.onStar id x).Ends run Q) : Agrees kinds (Gen.onStar id x) (Gen.onStar id x) run Q :=
  (keeps.onAdmitted (Atlas.admits_keepsMain id)).agrees_of_ends ends

section Completing

variable (enough : 13 ≤ limit) (enough' : 13 ≤ limit')

include enough enough'

/-- Giving the body on one orbit its satellites, and leaving the other bodies of the star alone.

**Proof sketch.** The body has one satellite at most, so thirteen tries are enough for all that it
gets and the limits make no difference; naming a gas giant knows no limit. The other bodies stay as
they are because the step changes one slot, or the main world, which stands in one slot only. -/
lemma agrees_addMoonsAt {zones : Zones} (sound : run.scene.Sound σ seat)
    (found : run.scene.star? id = some s) (reached : s.phase = some .satellites)
    (zoned : s.star.zones = .ok zones) {i : Nat}
    (few : ∀ host, run.scene.host? id i = some host → host.satellites.length ≤ 1) :
    Agrees kinds (addMoonsAt id zones limit i) (addMoonsAt id zones limit' i) run fun _ after =>
      Advances σ limit id .satellites run.scene after.scene ∧
        ∀ j, j ≠ i → after.scene.host? id j = run.scene.host? id j := by
  refine (Gen.agrees_star id).bind ?_
  rintro s' mid ⟨found', rfl⟩
  obtain rfl := Option.eq_some_unique found found'
  refine Gen.agrees_main.bind ?_
  rintro main mid ⟨rfl, rfl⟩
  refine Agrees.onHost (fun _ => ⟨.refl found reached, fun _ _ => rfl⟩) fun host hosted => ?_
  obtain ⟨lt, sized⟩ := sound.isSized found hosted
  have classified := (sound.stars found).classified
  have furnishing : Agrees kinds (furnish zones mid.scene.main s limit i)
      (furnish zones mid.scene.main s limit' i) ⟨mid.dice, mid.journal, host⟩ fun _ _ => True :=
    (Satellite.agrees_populate classified zoned sized (few host hosted) enough
      enough').bind fun _ _ _ => (within_nameGiant _ _ _).agrees fun _ _ _ => trivial
  refine (furnishing.of_ends
    (ends_furnish classified zoned limit lt sized).canLead).mono ?_
  rintro _ inner ⟨furnished, led⟩
  exact ⟨Atlas.advances_setHost found reached zoned hosted led,
    fun j other => sound.host?_setHost_of_ne hosted furnished.sameBody other⟩

/-- Giving the bodies on several orbits of a star their satellites.  Those that are still to come
stay as they are.

**Proof sketch.** By induction on the orbits. Furnishing the first leaves the bodies on all other
orbits as they are, so that those still have too few satellites to run into either limit. -/
lemma agrees_forM_addMoonsAt {zones : Zones} (sound : run.scene.Sound σ seat)
    (found : run.scene.star? id = some s) (reached : s.phase = some .satellites)
    (zoned : s.star.zones = .ok zones) {orbits : List Nat} (distinct : orbits.Nodup)
    (sparse : run.scene.Sparse id orbits) :
    Agrees kinds (orbits.forM (addMoonsAt id zones limit)) (orbits.forM (addMoonsAt id zones limit'))
      run fun _ _ => True := by
  induction orbits generalizing run s with
  | nil => exact Gen.agrees_pure trivial
  | cons i rest ih =>
    obtain ⟨other, distinct⟩ := List.nodup_cons.mp distinct
    refine (agrees_addMoonsAt enough enough' sound found reached zoned
      (sparse i List.mem_cons_self)).bind ?_
    rintro _ mid ⟨furnished, others⟩
    obtain ⟨t, found', alike, reached'⟩ := furnished.exists_star sound found
    refine ih (furnished.reaches.sound sound) found' reached' (alike.star ▸ zoned) distinct ?_
    intro j mem host hosted
    rw [others j fun same => other (same ▸ mem)] at hosted
    exact sparse j (List.mem_cons_of_mem i mem) host hosted

/-- Giving all bodies of a star their satellites.

**Proof sketch.** Entering the phase knows no limit and leaves the bodies as they were. At that time
no body has more than one satellite, which is the main world, and furnishing one body leaves the
others at that. -/
lemma agrees_addMoons (sound : run.scene.Sound σ seat) (unfurnished : run.scene.Unfurnished)
    (found : run.scene.star? id = some s) (may : Phase.satellites.mayFollow s.phase = true) :
    Agrees kinds (addMoons id limit) (addMoons id limit') run fun _ _ => True := by
  have entering : (Gen.onStar id (enter .satellites) : Gen σ Atlas Unit).Ends run fun _ after =>
      Advances σ limit id .satellites run.scene after.scene ∧
        after.scene = run.scene.setStar id { s with phase := some .satellites } := by
    rw [Gen.ends_onStar found, ends_enter may]
    exact ⟨Atlas.advances_setStar found may .refl, rfl⟩
  refine (agrees_phase (Gen.within_enter _) entering).bind ?_
  rintro _ entered ⟨advanced, same⟩
  have found₁ : entered.scene.star? id = some { s with phase := some .satellites } := by
    rw [same]
    exact Atlas.star?_setStar_self found _
  refine (Gen.agrees_star id).bind ?_
  rintro t mid ⟨found', rfl⟩
  obtain rfl := Option.eq_some_unique found₁ found'
  refine (Gen.agrees_ofExcept _).bind ?_
  rintro zones mid ⟨zoned, rfl⟩
  refine agrees_forM_addMoonsAt enough enough' (advanced.reaches.sound sound) found₁ rfl zoned
    List.nodup_range fun i _ host hosted => ?_
  -- entering the phase left the bodies as they were
  refine unfurnished.length_le sound found may (i := i) ?_
  rw [Atlas.host?_eq, Atlas.slot?_eq found₁, same] at hosted
  rw [Atlas.host?_eq, Atlas.slot?_eq found]
  exact hosted

/-- Completing a star.

**Proof sketch.** Filling the slots does not look at the limit. The bodies that get satellites then
have one at most before, and entering the last phase decides nothing. -/
lemma agrees_complete (sound : run.scene.Sound σ seat) (unfurnished : run.scene.Unfurnished)
    (found : run.scene.star? id = some s) (may : Phase.filler.mayFollow s.phase = true) :
    Agrees kinds (complete limit id) (complete limit' id) run fun _ after =>
      Advances σ limit id .companions run.scene after.scene := by
  have filling : (Gen.onStar id (fill run.scene.main)).Ends run fun _ after =>
      Advances σ limit id .filler run.scene after.scene :=
    ends_phase limit found may
      ((ends_fill_decisions run.scene.main (sound.stars found) may).mono fun _ _ h => h.1)
  have completing : Agrees kinds (complete limit id) (complete limit' id) run fun _ _ => True := by
    refine Gen.agrees_main.bind ?_
    rintro main mid ⟨rfl, rfl⟩
    refine (agrees_phase (within_fill _) filling).bind fun _ filled advanced => ?_
    obtain ⟨t, found₁, reached⟩ := advanced.star
    have may₁ : Phase.satellites.mayFollow t.phase = true := by rw [reached]; rfl
    refine (agrees_addMoons enough enough' (advanced.reaches.sound sound)
      (advanced.reaches.unfurnished sound unfurnished) found₁ may₁).bind fun _ _ _ => ?_
    exact ((Gen.within_enter _).onAdmitted (Atlas.admits_keepsMain id)).agrees fun _ _ _ => trivial
  exact completing.of_ends ((ends_complete limit sound found may).mono fun _ _ h => h.1)

end Completing

/-! ### Stars and their companions -/

omit [RandomSource σ] in
/-- A phase is entered only where it may follow. -/
lemma mayFollow_of_enter {phase : Phase} {run after : Run σ StarSystem}
    (ran : (enter phase : Gen σ StarSystem Unit) run = .ok () after) :
    phase.mayFollow run.scene.phase = true := by
  obtain ⟨s, here, looked, ran⟩ := Gen.exists_of_bind_ok ran
  cases looked
  obtain ⟨t, there, entered, -⟩ := Gen.exists_of_bind_ok ran
  have entered : run.scene.enter phase = .ok t :=
    (Gen.of_ofExcept_ok entered).1
  unfold StarSystem.enter at entered
  split at entered
  · assumption
  · cases entered

/-- Only a star in no phase is seeded.

**Proof sketch.** The first step of seeding enters the lowest of all phases, which is refused to a
star that is in one already. -/
lemma exists_of_seed {after : Run σ Atlas} (ran : seed id run = .ok () after) :
    ∃ s, run.scene.star? id = some s ∧ s.phase = none := by
  unfold seed at ran
  obtain ⟨_, _, seeding, -⟩ := Gen.exists_of_bind_ok ran
  unfold Gen.onStar at seeding
  obtain ⟨s, here, looked, onPart⟩ := Gen.exists_of_bind_ok seeding
  obtain ⟨found, same⟩ := Gen.of_star_ok looked
  obtain ⟨_, own⟩ := Gen.exists_of_onPart_ok onPart
  unfold seedEmpties at own
  obtain ⟨_, _, entered, -⟩ := Gen.exists_of_bind_ok own
  have may : Phase.emptySeed.mayFollow s.phase = true := mayFollow_of_enter entered
  refine ⟨s, found, ?_⟩
  cases phase : s.phase with
  | none => rfl
  | some current =>
    rw [phase, Phase.mayFollow_some] at may
    exact absurd may (Nat.not_lt_zero _)

section Companions

open Atlas (Reaches)

/-- Populating companions agrees if populating each of them does. -/
lemma agrees_populateCompanions {fuel : Nat}
    (below : ∀ {run : Run σ Atlas} {id : StarId}, run.scene.Sound σ seat → run.scene.Unfurnished →
      Agrees [.shortfall] (populateFrom limit fuel id false) (populateFrom limit' fuel id false) run
        fun _ after => Reaches σ limit run.scene after.scene)
    (sound : run.scene.Sound σ seat) (unfurnished : run.scene.Unfurnished)
    (companions : List StarId) :
    Agrees [.shortfall] (companions.forM (populateCompanion limit fuel))
      (companions.forM (populateCompanion limit' fuel)) run
        fun _ after => Reaches σ limit run.scene after.scene := by
  refine Agrees.forM (I := fun mid => Reaches σ limit run.scene mid.scene)
    (fun companion mid reached => ?_) .refl
  refine (Gen.agrees_star companion).bind ?_
  rintro c mid ⟨-, rfl⟩
  split
  · exact (below (reached.sound sound) (reached.unfurnished sound unfurnished)).mono
      fun _ _ => reached.trans
  · exact Gen.agrees_pure reached

variable (enough : 13 ≤ limit) (enough' : 13 ≤ limit')

include enough enough'

/-- All phases of a star that does not seat the main world. -/
lemma agrees_populateStar (sound : run.scene.Sound σ seat) (unfurnished : run.scene.Unfurnished) :
    Agrees [.shortfall] (populateStar limit id false) (populateStar limit' id false) run
      fun _ after => Reaches σ limit run.scene after.scene := by
  have seeding : Agrees [.shortfall] (seed id) (seed id) run fun _ after =>
      Advances σ limit id .planetoids run.scene after.scene := by
    refine (within_seed (Atlas.admits_keepsMain id)).agrees fun _ after ran => ?_
    obtain ⟨s, found, start⟩ := exists_of_seed ran
    exact (ends_seed limit sound found start).of_ok ran
  rw [populateStar_eq, populateStar_eq]
  refine seeding.bind fun _ mid seeded => ?_
  obtain ⟨t, found, reached⟩ := seeded.star
  have may : Phase.filler.mayFollow t.phase = true := by rw [reached]; rfl
  exact (agrees_complete enough enough' (seeded.reaches.sound sound)
    (seeded.reaches.unfurnished sound unfurnished) found may).mono
      fun _ _ completed => seeded.reaches.trans completed.reaches

/-- Populating a star and its companions, without seating the main world.

**Proof sketch.** By induction on the fuel.  Nothing needs to be known about the companions: where
one is not there, or went through its phases before, both steps fail alike. -/
theorem agrees_populateFrom (fuel : Nat) {run : Run σ Atlas} {id : StarId}
    (sound : run.scene.Sound σ seat) (unfurnished : run.scene.Unfurnished) :
    Agrees [.shortfall] (populateFrom limit fuel id false) (populateFrom limit' fuel id false) run
      fun _ after => Reaches σ limit run.scene after.scene := by
  induction fuel generalizing run id with
  | zero => exact Gen.agrees_throw _
  | succ fuel ih =>
    refine (agrees_populateStar enough enough' sound unfurnished).bind fun _ own reached => ?_
    refine (Gen.agrees_star id).bind ?_
    rintro s mid ⟨-, rfl⟩
    exact (agrees_populateCompanions ih (reached.sound sound) (reached.unfurnished sound unfurnished)
      s.companions).mono fun _ _ => reached.trans

end Companions

/-! ### The main world -/

omit [RandomSource σ] in
/-- Looking for the orbit to aim at leaves the chart alone. -/
lemma agrees_habitableTarget (id : StarId) (run : Run σ Atlas) :
    Agrees [.zone, .placement] (habitableTarget id) (habitableTarget id) run
      fun _ after => after.scene = run.scene := by
  refine ((within_habitableTarget (R := Eq) id).allow (by decide)).agrees fun target after ran => ?_
  exact ((within_habitableTarget (R := Eq) id).moves ran).scene.symm

section Seating

variable (enough : 13 ≤ limit) (enough' : 13 ≤ limit')

include enough enough'

/-- Making the main world a moon of a gas giant without satellites.

**Proof sketch.** The one step that looks at the limit is the search for an orbit around the giant.
No orbit of a giant without satellites is taken, so either limit is enough. -/
lemma agrees_seatAsMoon {giant : GasGiant} (alone : giant.satellites = []) (orbit : Int) :
    Agrees [.zone, .placement] (seatAsMoon id orbit giant limit) (seatAsMoon id orbit giant limit')
      run fun _ _ => True := by
  have few : ((Host.giant giant).satellites.length : Int) = 0 := by
    rw [Host.satellites, alone]
    rfl
  refine (Gen.agrees_star id).bind fun s mid _ => (Gen.agrees_change _).bind fun _ mid _ =>
    Gen.agrees_main.bind fun main mid _ => ?_
  refine (Satellite.agrees_findOrbit main (by omega) (by omega) _ mid).bind fun moonOrbit mid _ => ?_
  refine (Gen.agrees_change _).bind fun _ mid _ => (Gen.agrees_change _).bind fun _ mid _ => ?_
  refine ((remains_surveyMain s.star).agrees fun _ _ _ => trivial).bind fun _ mid (_ : True) => ?_
  refine Gen.agrees_main.bind fun main _ _ => ?_
  have listed : (isMoonOf main giant.name orbit).category ∈ [Category.zone, .placement] :=
    List.mem_cons_of_mem _ List.mem_cons_self
  exact (Gen.agrees_diagnose listed).mono fun _ _ _ => trivial

/-- The search for a seat on a chart without satellites.

**Proof sketch.** By induction on the fuel.  The main world is assigned to companions on the way,
which gives satellites to none, so it is the first satellite of a gas giant that it comes to. -/
theorem agrees_descend (fuel : Nat) {run : Run σ Atlas} {id : StarId} {target : Int}
    (moonless : run.scene.Moonless) :
    Agrees [.zone, .placement] (descend limit fuel id target) (descend limit' fuel id target) run
      fun _ _ => True := by
  induction fuel generalizing run id target with
  | zero => exact Gen.agrees_throw _
  | succ fuel ih =>
    unfold descend
    refine (Gen.agrees_star id).bind ?_
    rintro s mid ⟨found, rfl⟩
    refine (Gen.agrees_ofExcept _).bind ?_
    rintro content mid ⟨held, rfl⟩
    have seated : Agrees [.zone, .placement] (seat id target : Gen σ Atlas Unit) (seat id target) mid
        fun _ _ => True :=
      ((within_seat id target).allow (by decide)).agrees fun _ _ _ => trivial
    cases content with
    | star companion name star =>
      refine (Gen.agrees_star companion).bind ?_
      rintro c mid ⟨-, rfl⟩
      split
      · have zone : (companionWithoutOrbits c target).category ∈
            [Category.zone, .placement] := List.mem_cons_self
        refine (Gen.agrees_diagnose zone).bind fun _ noted _ => ?_
        exact ((within_seatAnywhere id).allow (by decide)).agrees fun _ _ _ => trivial
      · refine Gen.agrees_main.bind ?_
        rintro main mid ⟨rfl, rfl⟩
        have placement : (orbitsCompanion mid.scene.main.name c.name target).category ∈
            [Category.zone, .placement] := List.mem_cons_of_mem _ List.mem_cons_self
        refine (Gen.agrees_diagnose placement).bind fun _ noted same => ?_
        refine (Gen.agrees_change _).bind fun _ assigned same' => ?_
        refine (agrees_habitableTarget companion assigned).bind fun next aimed same'' => ih ?_
        rw [same'', same', same]
        exact moonless.assign companion
    | giant g =>
      obtain ⟨i, held⟩ := StarSystem.exists_of_slot held
      exact agrees_seatAsMoon enough enough' (moonless (Atlas.host?_eq_of_slot found held)) target
    | undecided => exact seated
    | empty => exact seated
    | world => exact seated
    | main => exact seated

/-- Placing the main world on a chart without satellites.

**Proof sketch.** Entering, marking and assigning know no limit and give no body a satellite, so
that the search for a seat starts on a chart without any. A seat anywhere is found without looking
for the orbit of a satellite at all. -/
lemma agrees_placeMain (found : run.scene.star? id = some s)
    (may : Phase.mainWorld.mayFollow s.phase = true) (moonless : run.scene.Moonless) :
    Agrees [.zone, .placement] (placeMain id limit) (placeMain id limit') run
      fun _ _ => True := by
  have entering : (Gen.onStar id (enter .mainWorld) : Gen σ Atlas Unit).Ends run fun _ after =>
      after.scene = run.scene.setStar id { s with phase := some .mainWorld } := by
    rw [Gen.ends_onStar found, ends_enter may]
  refine (agrees_phase (Gen.within_enter _) entering).bind fun _ entered same => ?_
  refine (Gen.agrees_change _).bind fun _ marked same' => ?_
  refine (Gen.agrees_change _).bind fun _ assigned same'' => ?_
  -- the search starts on a chart without satellites
  have ready : assigned.scene = (readied run.scene id s).assign id := by
    rw [same'', same', same]
    rfl
  have moonless' : assigned.scene.Moonless := ready ▸ moonless.readied found [id]
  refine Gen.agrees_main.bind ?_
  rintro main mid ⟨rfl, rfl⟩
  split
  · refine (agrees_habitableTarget id mid).bind fun target aimed same => ?_
    refine Gen.agrees_scene.bind ?_
    rintro here mid ⟨rfl, rfl⟩
    exact agrees_descend enough enough' _ (same ▸ moonless')
  · exact ((within_seatAnywhere id).allow (by decide)).agrees fun _ _ _ => trivial

/-- Populating a fresh chart.

**Proof sketch.** Every step before the main world is placed leaves the chart without satellites,
and every step after that leaves the bodies without satellites of their own until the phase for
that. -/
theorem agrees_populate
    (charted : run.scene.main.profile.InRange (leastSize run.scene.main.isSatellite))
    (bare : run.scene.main.satellites = [])
    (fresh : ∀ {id : StarId} {s : StarSystem}, run.scene.star? id = some s →
      run.scene.Fresh id s)
    (found : run.scene.star? 0 = some s) (room : 0 < s.slots.length) :
    Agrees [.shortfall, .zone, .placement] (populate limit 0 true) (populate limit' 0 true) run
      fun _ _ => True := by
  have sound₀ := Atlas.sound_of_fresh (σ := σ) charted fresh
  refine Gen.agrees_scene.bind ?_
  rintro here mid ⟨rfl, rfl⟩
  rw [populateFrom, populateFrom, populateStar_primary_eq, populateStar_primary_eq]
  have seeding : Agrees [.shortfall, .zone, .placement] (seed 0) (seed 0) mid fun _ after =>
      Advances σ limit 0 .planetoids mid.scene after.scene :=
    ((within_seed (Atlas.admits_keepsMain 0)).allow (by decide)).agrees_of_ends
      (ends_seed limit sound₀ found (fresh found).phase)
  -- the phases of the primary star
  have own : Agrees [.shortfall, .zone, .placement]
      (do seed 0; placeMain 0 limit; complete limit 0)
      (do seed 0; placeMain 0 limit'; complete limit' 0) mid fun _ after =>
        (∃ seat, after.scene.Sound σ seat) ∧ after.scene.Unfurnished := by
    refine seeding.bind fun _ first seeded => ?_
    obtain ⟨s₁, found₁, alike₁, primary, reached₁, near⟩ :=
      seeded.exists_primary sound₀ fresh found
    have moonless := seeded.moonless sound₀ fresh
    have bare₁ : first.scene.main.satellites = [] :=
      (congrArg World.satellites (seeded.reaches.main_eq sound₀)).trans bare
    have may₁ : Phase.mainWorld.mayFollow s₁.phase = true := by rw [reached₁]; rfl
    have placing := (agrees_placeMain enough enough' found₁ may₁ moonless).of_ends
      (ends_arrival limit (seeded.reaches.sound sound₀) bare₁ found₁ primary reached₁
        (alike₁.length ▸ room) near)
    refine (placing.allow (by decide)).bind ?_
    rintro _ second ⟨path, last, k, warnings, placed, arrives, -⟩
    obtain ⟨s₂, found₂, -, -, phase₂, -⟩ := arrives.star found₁
    have may₂ : Phase.filler.mayFollow s₂.phase = true := by rw [phase₂]; rfl
    have unfurnished := (placed.settled found₁ moonless bare₁).2
    refine (agrees_complete enough enough' arrives.sound unfurnished found₂ may₂).mono ?_
    exact fun _ third completed => ⟨⟨_, completed.reaches.sound arrives.sound⟩,
      completed.reaches.unfurnished arrives.sound unfurnished⟩
  refine own.bind ?_
  rintro _ third ⟨⟨seat, sound⟩, unfurnished⟩
  refine (Gen.agrees_star 0).bind ?_
  rintro s third ⟨-, rfl⟩
  exact ((agrees_populateCompanions (agrees_populateFrom enough enough' _) sound unfurnished
    s.companions).allow (by decide)).mono fun _ _ _ => trivial

end Seating

end Population

/-! ## The generator -/

namespace Generator

variable {main : World}

/-- Two runs of the generator agree if the limit is thirteen or more in both. -/
lemma agrees_generate (charted : main.profile.InRange (leastSize main.isSatellite))
    (bare : main.satellites = []) (enough : 13 ≤ limit) (enough' : 13 ≤ limit') (seed : Int)
    (dice : Dice σ) (journal : Journal) :
    Agrees [.shortfall, .zone, .placement] (generate limit seed) (generate limit' seed)
      ⟨dice, journal, ⟨[], main⟩⟩ fun _ _ => True := by
  refine (Gen.agrees_change _).bind ?_
  rintro _ ⟨dice, journal, scene⟩ rfl
  refine Gen.agrees_main.bind ?_
  rintro _ mid ⟨rfl, rfl⟩
  refine Agrees.bind ((Constellation.within_build _ true none).agrees_of_ends
    (Constellation.ends_build _ true none rfl)) ?_
  rintro _ mid ⟨rfl, built⟩
  refine (Gen.agrees_ofExcept _).bind ?_
  rintro text mid ⟨-, rfl⟩
  refine (Gen.agrees_star 0).bind ?_
  rintro s mid ⟨-, rfl⟩
  refine (Gen.agrees_record rfl).bind fun _ noted same => ?_
  rw [← same] at built
  obtain ⟨root, found, room⟩ := built.exists_root
  have bare' : noted.scene.main.satellites = [] := by
    rw [built.main_eq]
    exact bare
  exact (Population.agrees_populate enough enough' (inRange_of_built charted built) bare'
    (fun known => built.fresh known) found room).bind fun _ _ _ =>
      Gen.agrees_pure trivial

/-- **The limit of tries.**  Where a host has fewer satellites than there are tries, the search for
the orbit of another one finds a free orbit and is not given up.  And for a main world whose digits
were read from a profile text, two runs of the generator with thirteen tries or more are the same:
they roll the same dice and leave the same chart and journal behind.  Neither records that a search
was given up, and both end with a tree unless the source runs dry.

**Proof sketch.** Each try that fails passes by another taken orbit.  The main world becomes the
moon of a gas giant when there are no satellites yet, and no body gets more than twelve of its own,
so that never more than twelve orbits are taken when one is looked for. -/
theorem generate_eq_of_le (accepted : main.Accepted) (enough : 13 ≤ limit) (enough' : 13 ≤ limit')
    (seed : Int) (dice : Dice σ) (journal : Journal) :
    (∀ (ρ : Type) (around : World) (host : Host) (ring : Bool) (tries : Int),
      (host.satellites.length : Int) < tries →
        (∀ rolled, ∃ orbit,
          Satellite.firstFree (host.takenOrbits around) rolled tries.toNat = some orbit) ∧
        (Satellite.findOrbit around host ring tries : Gen σ ρ Int).Records []) ∧
    generate limit seed ⟨dice, journal, ⟨[], main⟩⟩ =
      generate limit' seed ⟨dice, journal, ⟨[], main⟩⟩ ∧
    (generate limit seed).Ends ⟨dice, journal, ⟨[], main⟩⟩
      (fun primary run => ∃ t, run.scene.tree primary = .ok t) ∧
    ∀ run, (∃ primary, generate limit seed ⟨dice, journal, ⟨[], main⟩⟩ = .ok primary run) ∨
        (∃ e, generate limit seed ⟨dice, journal, ⟨[], main⟩⟩ = .error e run) →
      Journal.Adds [.shortfall, .zone, .placement] journal run.journal := by
  have agree := agrees_generate accepted.inRange accepted.bare enough enough' seed dice journal
  refine ⟨fun ρ around host ring tries more => ⟨fun rolled => ?_, ?_⟩, agree.same, ?_, ?_⟩
  · obtain ⟨orbit, found, -⟩ := Satellite.exists_found around more rolled
    exact ⟨orbit, found⟩
  · exact (Satellite.within_findOrbit_of_lt (R := Eq) around more ring).records
  · refine (ends_generate accepted.inRange accepted.bare limit seed dice journal).mono ?_
    rintro _ run ⟨rfl, a, last, k, warnings, built, course, -⟩
    obtain ⟨t, tree, -⟩ :=
      Atlas.exists_tree (generated_of_course accepted.inRange built course).spans
    exact ⟨t, tree⟩
  · have adds := agree.adds
    rintro run (⟨primary, ran⟩ | ⟨e, ran⟩) <;> rw [ran] at adds
    · exact adds
    · exact adds

/-- The least limit that is enough and another one, for a main world of its kind. -/
theorem generate_eq_of_le_regina : World.regina.Accepted ∧ (13 : Int) ≤ 13 ∧ (13 : Int) ≤ 64 ∧
    (∀ (ρ : Type) (around : World) (host : Host) (ring : Bool) (tries : Int),
      (host.satellites.length : Int) < tries →
        (∀ rolled, ∃ orbit,
          Satellite.firstFree (host.takenOrbits around) rolled tries.toNat = some orbit) ∧
        (Satellite.findOrbit around host ring tries : Gen Congruential ρ Int).Records []) ∧
    generate 13 1 (⟨⟨(⟨1⟩ : Congruential), []⟩, [], ⟨[], .regina⟩⟩ : Run Congruential Atlas) =
      generate 64 1 (⟨⟨(⟨1⟩ : Congruential), []⟩, [], ⟨[], .regina⟩⟩ : Run Congruential Atlas) ∧
    (generate 13 1).Ends (⟨⟨(⟨1⟩ : Congruential), []⟩, [], ⟨[], .regina⟩⟩ : Run Congruential Atlas)
      (fun primary run => ∃ t, run.scene.tree primary = .ok t) ∧
    ∀ run, (∃ primary, generate 13 1 (⟨⟨(⟨1⟩ : Congruential), []⟩, [], ⟨[], .regina⟩⟩ :
          Run Congruential Atlas) = .ok primary run) ∨
        (∃ e, generate 13 1 (⟨⟨(⟨1⟩ : Congruential), []⟩, [], ⟨[], .regina⟩⟩ :
          Run Congruential Atlas) = .error e run) →
      Journal.Adds [.shortfall, .zone, .placement] [] run.journal := by
  have enough : (13 : Int) ≤ 13 := by decide
  have enough' : (13 : Int) ≤ 64 := by decide
  have same := generate_eq_of_le World.accepted_regina enough enough' 1 (⟨⟨1⟩, []⟩ : Dice Congruential) []
  exact ⟨World.accepted_regina, enough, enough', same⟩

end Generator

end Starchart
