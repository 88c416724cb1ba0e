import Starchart.Proofs.Systems
import Starchart.Proofs.Twins
import Starchart.Settings

/-!
# Renaming the main world

A system is generated twice, around main worlds that differ in their name alone.  The name is told in
the journal, but no roll and no choice depends on it, so the two systems are the same.

## Main results

* `Starchart.Population.mirrors_placeMain` — the main world is placed alike whatever it is called.
* `Starchart.Population.mirrors_populate`, `Starchart.Constellation.echoes_build` — so are stars built
  and populated.
* `Starchart.Generator.generate_renamed` — renaming the main world does not change its system.
-/

set_option autoImplicit false

namespace Starchart

/-! ## Rolls that do not heed the name -/

section Rolls

variable {σ : Type} [RandomSource σ] (main : World) (name : String)

/-- A moon is rolled alike whatever the main world is called. -/
lemma Satellite.rollMoon_renamed (s : Satellite.Setting) (size orbit : Int) :
    (rollMoon s (main.renamed name) size orbit : Roll σ World) = rollMoon s main size orbit := rfl

/-- So is a world. -/
lemma Population.rollWorld_renamed (s : StarSystem) (orbit : Int) :
    (rollWorld s orbit (main.renamed name) : Roll σ World) = rollWorld s orbit main := rfl

/-- So is a belt. -/
lemma Population.rollBelt_renamed (s : StarSystem) (orbit : Int) :
    (rollBelt s orbit (main.renamed name) : Roll σ World) = rollBelt s orbit main := rfl

/-- The population of a moon is the same whatever the main world is called. -/
lemma Moon.population_renamed (moon : Moon World) :
    (moon.body (main.renamed name)).profile.population = (moon.body main).profile.population := by
  cases moon <;> rfl

/-- So are the satellites of a body when they are tidied up. -/
lemma Satellite.tidy_renamed (moons : List (Moon World)) :
    tidy (main.renamed name) moons = tidy main moons := by
  simp only [tidy, Moon.orbit_renamed]

/-- The name of a gas giant is rolled alike whatever the main world is called. -/
lemma Population.rollGiantName_renamed (star : String) (orbit : Int) (giant : GasGiant) :
    (rollGiantName star orbit (main.renamed name) giant : Roll σ String) =
      rollGiantName star orbit main giant := by
  simp only [rollGiantName, Moon.population_renamed]

end Rolls

/-! ## Phases that decide slots -/

namespace Population

open Gen StarSystem

variable {σ : Type} [RandomSource σ] {N : Pairing} {P : Slot → Prop}

omit [RandomSource σ] in
/-- A phase is entered alike in both runs. -/
lemma echoes_enter (p : Phase) :
    Echoes N (Twin P) (enter p : Gen σ StarSystem Unit) := by
  refine mirrors_attempt fun s t same => ?_
  obtain ⟨rfl, holds⟩ := same
  unfold StarSystem.enter
  split
  · exact ⟨rfl, holds⟩
  · exact .same _

/-- A rolled gas giant is not the main world. -/
lemma ne_main_of_rollGiant {s : StarSystem} {orbit : Int} {content : Slot}
    (rolled : (rollGiant s orbit : Roll σ Slot).CanGive content) : content ≠ .main := by
  obtain ⟨_, rolled⟩ := rolled.exists_bind
  obtain ⟨_, rolled⟩ := rolled.exists_bind
  rw [rolled.eq_pure]
  nofun

omit [RandomSource σ] in
/-- Neither is a world of its own. -/
lemma ne_main_of_world {x : Roll σ World} {content : Slot}
    (rolled : (do return .world (← x) : Roll σ Slot).CanGive content) : content ≠ .main := by
  obtain ⟨_, rolled⟩ := rolled.exists_bind
  rw [rolled.eq_pure]
  nofun

section Bodies

variable (bodies : ∀ content : Slot, content ≠ .main → P content)

include bodies

omit [RandomSource σ] in
/-- A body that is not the main world is placed alike in both runs. -/
lemma mirrors_placeOnStar {body : Slot} (own : body ≠ .main) (orbit : Int) :
    Mirrors N (Twin P) (Twin P) Eq
      (Gen.attempt fun s => s.place N.name body orbit : Gen σ StarSystem Unit)
      (Gen.attempt fun s => s.place N.name' body orbit) :=
  mirrors_attempt fun _ _ same => answers_place same (bodies _ (Slot.stamp_ne_main own orbit))

/-- So are empty orbits seeded.

**Proof sketch.** Marking is compared by induction on the number of marks. Both runs have the same
undecided orbits to roll from, so they mark the same one each time. -/
lemma echoes_seedEmpties :
    Mirrors N (Twin P) (Twin P) Eq (seedEmpties : Gen σ StarSystem Nat) seedEmpties := by
  have empty : ∀ orbit, P (.empty orbit) := fun _ => bodies _ nofun
  have marking : ∀ count : Nat, Echoes N (Twin P) (markRandom count : Gen σ StarSystem Nat) := by
    intro count
    induction count with
    | zero => exact mirrors_pure rfl
    | succ count ih =>
      refine mirrors_scene_bind fun s => ?_
      dsimp only
      split
      · exact mirrors_pure rfl
      · refine (echoes_roll _).bind_eq fun orbit => Mirrors.bind_eq ?_ fun _ =>
          ih.bind_eq fun _ => mirrors_pure rfl
        exact mirrors_change fun {a b} same =>
          ⟨congrArg (fun s => (s.markEmpty orbit).2) same.1, same.2.markEmpty empty orbit⟩
  exact (echoes_enter _).bind_eq fun _ => (echoes_roll _).bind_eq fun _ =>
    (marking _).bind_eq fun _ => mirrors_scene_bind fun s =>
      (mirrors_record (.same _)).bind_eq fun _ => mirrors_pure rfl

/-- So are as many bodies placed as there is room for.

**Proof sketch.** Placing is compared by induction on the number of bodies. Both runs pick the same
orbit and roll the same body; the name of the main world is used only where a slot is refused. -/
lemma mirrors_placeUpTo (body plural : String) {roll : StarSystem → Int → Roll σ Slot}
    (own : ∀ s orbit content, (roll s orbit).CanGive content → content ≠ .main) (c : Candidates)
    (wanted : Int) : Mirrors N (Twin P) (Twin P) Eq
      (placeUpTo N.name body plural roll c wanted)
      (placeUpTo N.name' body plural roll c wanted) := by
  have placing : ∀ (count : Nat) (c : Candidates), Mirrors N (Twin P) (Twin P) Eq
      (placeEach N.name roll count c) (placeEach N.name' roll count c) := by
    intro count
    induction count with
    | zero => exact fun _ => mirrors_pure rfl
    | succ count ih =>
      intro c
      refine (echoes_roll _).bind_eq fun picked => mirrors_scene_bind fun s =>
        (mirrors_roll_canGive _).bind fun content _ ⟨same, rolled⟩ => ?_
      subst same
      exact (mirrors_placeOnStar bodies (own _ _ _ rolled) _).bind_eq fun _ => ih _
  refine (placing _ _).bind_eq fun _ => ?_
  dsimp only
  split
  · exact mirrors_scene_bind fun s => (mirrors_record (.same _)).bind_eq fun _ => mirrors_pure rfl
  · exact mirrors_pure rfl

/-- So are gas giants seeded. -/
lemma mirrors_seedGiants : Mirrors N (Twin P) (Twin P) Eq
    (seedGiants N.name : Gen σ StarSystem Int) (seedGiants N.name') := by
  refine (echoes_enter _).bind_eq fun _ => (echoes_roll _).bind_eq fun wanted => ?_
  split
  · exact mirrors_pure rfl
  · exact mirrors_scene_bind fun s => (echoes_ofExcept _).bind_eq fun _ =>
      mirrors_placeUpTo bodies _ _ (fun _ _ _ => ne_main_of_rollGiant) _ _

/-- So are belts seeded. -/
lemma mirrors_seedBelts (main : World) (giants : Int) (named : main.name = N.name) :
    Mirrors N (Twin P) (Twin P) Eq (seedBelts main giants : Gen σ StarSystem Int)
      (seedBelts (main.renamed N.name') giants) := by
  refine (echoes_enter _).bind_eq fun _ => (echoes_roll _).bind_eq fun wanted => ?_
  split
  · exact mirrors_pure rfl
  · refine mirrors_scene_bind fun s => ?_
    simp only [rollBelt_renamed, named]
    exact mirrors_placeUpTo bodies _ _ (fun _ _ _ => ne_main_of_world) _ _

/-- So are the other orbits filled.

**Proof sketch.** Filling is compared by induction on the orbits. An orbit is undecided in both runs
or in neither, and the world that is rolled for it does not depend on the name. -/
lemma mirrors_fill (main : World) (named : main.name = N.name) :
    Mirrors N (Twin P) (Twin P) Eq (fill main : Gen σ StarSystem Nat)
      (fill (main.renamed N.name')) := by
  have empty : ∀ orbit, P (.empty orbit) := fun _ => bodies _ nofun
  have filling : ∀ orbits : List Int, Mirrors N (Twin P) (Twin P) Eq
      (fillOrbits main orbits : Gen σ StarSystem Nat)
      (fillOrbits (main.renamed N.name') orbits) := by
    intro orbits
    induction orbits with
    | nil => exact mirrors_pure rfl
    | cons orbit rest ih =>
      refine mirrors_scene_bind fun s => ?_
      split
      · rw [rollWorld_renamed]
        refine (echoes_roll _).bind_eq fun world => ?_
        refine Mirrors.bind_eq ?_ fun _ => ih.bind_eq fun _ => mirrors_pure rfl
        have own : Slot.world world ≠ .main := nofun
        rw [named]
        exact mirrors_placeOnStar bodies own _
      · exact ih
  refine (echoes_enter _).bind_eq fun _ => mirrors_scene_bind fun s =>
    (echoes_ofExcept _).bind_eq fun zones => Mirrors.bind_eq ?_ fun _ =>
      mirrors_scene_bind fun s => filling _
  exact mirrors_change fun {a b} same =>
    ⟨congrArg (·.markEmpties (Orbit.span 0 (zones.hot + 1))) same.1,
      same.2.markEmpties empty _⟩

end Bodies

end Population

/-! ## Satellites -/

namespace Satellite

open Gen Host

variable {σ ρ : Type} [RandomSource σ] {N : Pairing} {isMain : Bool}

/-- The orbit of a satellite is sought alike in both runs. -/
lemma echoes_findOrbit {R : ρ → ρ → Prop} (main : World) (host : Host) (ring : Bool)
    (limit : Int) : Echoes N R (findOrbit main host ring limit : Gen σ ρ Int) := by
  refine (echoes_roll _).bind_eq fun rolled =>
    (mirrors_forM fun _ => mirrors_record (.same _)).bind_eq fun _ => ?_
  split
  · exact mirrors_pure rfl
  · exact (mirrors_record (.same _)).bind_eq fun _ => mirrors_pure rfl

/-- Satellites are added alike in both runs.

**Proof sketch.** The two runs go through the program text side by side. Marking the main world
makes the two charts twins; building the stars keeps them so and looks at no name; the profile text
of a main world shows no name either, so that both runs record the same text under their own names;
and populating the twins is mirrored step by step. -/
lemma mirrors_generate (zones : Zones) (main : World) (star : Star) (limit : Int) :
    Mirrors N (Twin N isMain) (Twin N isMain) Eq
      (generate zones main star limit : Gen σ Host World)
      (generate zones (main.renamed N.name') star limit) := by
  have add : ∀ moon : World, Echoes N (Twin N isMain) (do
      Gen.change fun host => host.withSatellites (host.satellites ++ [.own moon])
      return moon : Gen σ Host World) := fun moon =>
    (mirrors_change fun twin => twin.satellites ▸ twin.withSatellites _).bind_eq fun _ =>
      mirrors_pure rfl
  refine mirrors_scene.bind fun host other twin => ?_
  rw [twin.rollSize]
  refine (echoes_roll _).bind_eq fun size => ?_
  dsimp only
  rw [twin.findOrbit, twin.position]
  refine (echoes_findOrbit _ _ _ _).bind_eq fun orbit => ?_
  split
  · exact (mirrors_pure rfl).bind_eq add
  · rw [rollMoon_renamed]
    exact (echoes_roll _).bind_eq add

/-- So does a body get all its satellites. -/
lemma mirrors_populate (zones : Zones) (main : World) (star : Star) (limit : Int) :
    Mirrors N (Twin N isMain) (Twin N isMain) Eq
      (populate zones main star limit : Gen σ Host Unit)
      (populate zones (main.renamed N.name') star limit) := by
  have many : ∀ count : Nat, Mirrors N (Twin N isMain) (Twin N isMain) Eq
      (generateMany zones main star limit count : Gen σ Host Unit)
      (generateMany zones (main.renamed N.name') star limit count) := by
    intro count
    induction count with
    | zero => exact mirrors_pure rfl
    | succ count ih => exact (mirrors_generate zones main star limit).bind_eq fun _ => ih
  refine mirrors_scene.bind fun host other twin => ?_
  rw [twin.rollCount]
  refine (echoes_roll _).bind_eq fun count => (many _).bind_eq fun _ => mirrors_change fun twin => ?_
  rw [tidyHost, tidyHost, tidy_renamed, twin.satellites]
  exact twin.withSatellites _

end Satellite

/-- Gas giants are named alike in both runs. -/
lemma Population.mirrors_nameGiant {σ : Type} [RandomSource σ] {N : Pairing} {isMain : Bool}
    (star : String) (orbit : Int) (main : World) :
    Gen.Mirrors N (Host.Twin N isMain) (Host.Twin N isMain) Eq
      (nameGiant star orbit main : Gen σ Host Unit)
      (nameGiant star orbit (main.renamed N.name')) := by
  refine Gen.mirrors_scene.bind fun host other twin => ?_
  cases twin with
  | main named => exact Gen.mirrors_pure rfl
  | other =>
    cases host with
    | world w => exact Gen.mirrors_pure rfl
    | giant g =>
      dsimp only
      rw [rollGiantName_renamed]
      exact (Gen.echoes_roll _).bind_eq fun _ => Gen.mirrors_change fun _ => .other _

/-! ## Seating the main world -/

namespace Population

open Gen Atlas

variable {σ : Type} {N : Pairing} {P : Slot → Prop}

/-- A diagnostic whose message begins with the name of the main world. -/
lemma tells_named {d d' : Diagnostic} (rest : String) (severity : d'.severity = d.severity)
    (category : d'.category = d.category) (data : d'.data = d.data)
    (message : d.message = N.name ++ rest) (message' : d'.message = N.name' ++ rest) :
    N.Tells (.diagnosed d) (.diagnosed d') := by
  refine .diagnosed ⟨severity, category, data, ?_⟩
  have named := Pairing.Words.named (N := N) "" rest
  rw [String.empty_append, String.empty_append] at named
  rw [message, message']
  exact named

/-- What the main world replaced is noted under its name. -/
lemma tells_replaced (previous : String) (orbit : Int) :
    N.Tells (.diagnosed (replaced N.name previous orbit))
      (.diagnosed (replaced N.name' previous orbit)) := by
  have words : ∀ main : String, (replaced main previous orbit).message =
      main ++ (" replaced " ++ (previous ++ (" at orbit " ++ toString orbit))) := by
    intro main
    simp only [replaced, Diagnostic.note, toString, String.append_assoc]
  exact tells_named _ rfl rfl rfl (words _) (words _)

/-- So is the companion that it orbits. -/
lemma tells_orbitsCompanion (companion : String) (target : Int) :
    N.Tells (.diagnosed (orbitsCompanion N.name companion target))
      (.diagnosed (orbitsCompanion N.name' companion target)) := by
  have words : ∀ main : String, (orbitsCompanion main companion target).message =
      main ++ (" orbits companion " ++ (companion ++ (" at orbit " ++ toString target))) := by
    intro main
    simp only [orbitsCompanion, Diagnostic.note, toString, String.append_assoc]
  exact tells_named _ rfl rfl rfl (words _) (words _)

/-- So is the gas giant whose moon it is. -/
lemma tells_isMoonOf {w : World} (named : w.name = N.name) (giant : String) (target : Int) :
    N.Tells (.diagnosed (isMoonOf w giant target))
      (.diagnosed (isMoonOf (w.renamed N.name') giant target)) := by
  have words : ∀ v : World, (isMoonOf v giant target).message =
      v.name ++ (" is satellite " ++ (toString v.orbit ++ (" of " ++ giant))) := by
    intro v
    simp only [isMoonOf, Diagnostic.note, toString, String.append_assoc]
  exact tells_named _ rfl rfl rfl (named ▸ words w) (words _)

/-- The main world is assigned to the same star in both runs. -/
lemma echoes_assign (id : StarId) :
    Echoes N (Twin N P) (assign id : Gen σ Atlas Unit) :=
  mirrors_modifyStar fun held => held.modifyStar (f := fun s => { s with hasMain := true })
    (fun _ held => held) id

variable [RandomSource σ]

/-- The main world is surveyed alike in both runs. -/
lemma echoes_surveyMain (star : Star) :
    Echoes N (Twin N P) (surveyMain star : Gen σ Atlas Unit) := by
  refine mirrors_main_bind fun w named => ?_
  have surveyed : Mirrors N (Twin N P) (Twin N P)
      (fun v v' => v.name = N.name ∧ v' = v.renamed N.name')
      (Gen.roll (w.surveyed star) : Gen σ Atlas World)
      (Gen.roll ((w.renamed N.name').surveyed star)) := by
    refine mirrors_roll_of fun dice => ?_
    have same : (Astro.roll star (w.renamed N.name').position (w.renamed N.name').profile :
        Roll σ Astro) = Astro.roll star w.position w.profile := rfl
    simp only [World.surveyed, bind, EStateM.bind, same]
    cases (Astro.roll star w.position w.profile : Roll σ Astro) dice with
    | ok astro after => exact ⟨⟨named, rfl⟩, rfl⟩
    | error e after => exact ⟨rfl, rfl⟩
  exact surveyed.bind fun v v' same => mirrors_changeMain fun _ _ => same

/-- The main world is seated on an orbit alike in both runs, if it was in no slot.

**Proof sketch.** Both runs change their main world alike and force it into the same slot. What was
there is not the main world itself, so that its name is the same in both notes. -/
lemma mirrors_seat (id : StarId) (orbit : Int) :
    Mirrors N (Twin N Slot.IsOther) (Twin N Slot.Any) Eq (seat id orbit : Gen σ Atlas Unit)
      (seat id orbit) := by
  refine mirrors_star_bind fun s _ => ?_
  refine Mirrors.bind_eq (mirrors_changeMain fun w named => ⟨named, rfl⟩) fun _ => ?_
  refine (mirrors_forceMain id orbit).bind fun _ previous ⟨same, own⟩ => ?_
  subst same
  refine mirrors_main_bind fun w named => ?_
  -- the displaced body is not the main world, whose name would be told here
  have displaced : previous.bodyName? (w.renamed N.name').name = previous.bodyName? w.name := by
    cases previous <;> first | rfl | exact absurd rfl own
  rw [displaced, named]
  split
  · exact (mirrors_record (tells_replaced _ _)).bind_eq fun _ => echoes_surveyMain _
  · exact (mirrors_pure rfl).bind_eq fun _ => echoes_surveyMain _

/-- It is seated anywhere alike. -/
lemma mirrors_seatAnywhere (id : StarId) :
    Mirrors N (Twin N Slot.IsOther) (Twin N Slot.Any) Eq (seatAnywhere id : Gen σ Atlas Unit)
      (seatAnywhere id) := by
  refine mirrors_star_bind fun s _ => ?_
  split
  · exact (echoes_roll _).bind_eq fun orbit => mirrors_seat id orbit
  · exact (echoes_roll _).bind_eq fun orbit => mirrors_seat id orbit

/-- It becomes a moon alike. -/
lemma mirrors_seatAsMoon (id : StarId) (orbit : Int) (giant : GasGiant) (limit : Int) :
    Mirrors N (Twin N Slot.IsOther) (Twin N Slot.Any) Eq
      (seatAsMoon id orbit giant limit : Gen σ Atlas Unit) (seatAsMoon id orbit giant limit) := by
  refine mirrors_star_bind fun s _ => ?_
  refine Mirrors.bind_eq (mirrors_changeMain fun w named => ⟨named, rfl⟩) fun _ => ?_
  refine mirrors_main_bind fun w named => ?_
  rw [(Host.Twin.other (.giant giant)).findOrbit w]
  refine (Satellite.echoes_findOrbit _ _ _ _).bind_eq fun moonOrbit => ?_
  refine Mirrors.bind_eq (mirrors_changeMain fun w named => ⟨named, rfl⟩) fun _ => ?_
  refine Mirrors.bind_eq (mirrors_modifyStar fun _ _ _ _ _ => trivial) fun _ => ?_
  refine (echoes_surveyMain _).bind_eq fun _ => mirrors_main_bind fun w named => ?_
  exact mirrors_record (tells_isMoonOf named _ _)

omit [RandomSource σ] in
/-- The same orbit is aimed at in both runs. -/
lemma echoes_habitableTarget (id : StarId) :
    Echoes N (Twin N P) (habitableTarget id : Gen σ Atlas Int) := by
  refine mirrors_star_bind fun s _ => (echoes_ofExcept _).bind_eq fun zones => ?_
  have within : ∀ target : Int, Echoes N (Twin N P) (if s.maxOrbits ≤ target then do
        Gen.diagnose (beyondOrbits s target (s.maxOrbits - 1))
        return s.maxOrbits - 1
      else return target : Gen σ Atlas Int) := by
    intro target
    split
    · exact (mirrors_record (.same _)).bind_eq fun _ => mirrors_pure rfl
    · exact mirrors_pure rfl
  dsimp only
  split
  · exact (mirrors_record (.same _)).bind_eq fun _ => (mirrors_pure rfl).bind_eq within
  · exact (mirrors_pure rfl).bind_eq within

/-- The search for a seat visits the same stars in both runs.

**Proof sketch.** By induction on the fuel. Both runs look at the same slot of the same star, and so
they go on to the same companion or end at the same seat. -/
lemma mirrors_descend (limit : Int) (fuel : Nat) (id : StarId) (target : Int) :
    Mirrors N (Twin N Slot.IsOther) (Twin N Slot.Any) Eq
      (descend limit fuel id target : Gen σ Atlas Unit) (descend limit fuel id target) := by
  induction fuel generalizing id target with
  | zero => exact mirrors_throw (.same _)
  | succ fuel ih =>
    refine mirrors_star_bind fun s _ => (echoes_ofExcept _).bind_eq fun content => ?_
    split
    · refine mirrors_star_bind fun c _ => ?_
      split
      · exact (mirrors_record (.same _)).bind_eq fun _ => mirrors_seatAnywhere _
      · refine mirrors_main_bind fun w named => ?_
        rw [named]
        exact (mirrors_record (tells_orbitsCompanion _ _)).bind_eq fun _ =>
          (echoes_assign _).bind_eq fun _ => (echoes_habitableTarget _).bind_eq fun _ => ih _ _
    · exact mirrors_seatAsMoon _ _ _ _
    · exact mirrors_seat _ _

/-- The main world is placed alike in both runs. -/
lemma mirrors_placeMain (id : StarId) (limit : Int) :
    Mirrors N (Twin N Slot.IsOther) (Twin N Slot.Any) Eq (placeMain id limit : Gen σ Atlas Unit)
      (placeMain id limit) := by
  refine ((echoes_enter _).onStar id).bind_eq fun _ => ?_
  refine Mirrors.bind_eq (mirrors_changeMain fun w named => ⟨named, rfl⟩) fun _ => ?_
  refine (echoes_assign id).bind_eq fun _ => mirrors_main_bind fun w named => ?_
  dsimp only [World.renamed]
  split
  · refine (echoes_habitableTarget id).bind_eq fun target => mirrors_scene.bind fun a b twin => ?_
    rw [twin.eq]
    exact mirrors_descend _ _ _ _
  · exact mirrors_seatAnywhere id

/-! ## All phases -/

section Bodies

variable (bodies : ∀ content : Slot, content ≠ .main → P content)

include bodies

/-- The bodies of a star get satellites alike in both runs. -/
lemma echoes_addMoons (id : StarId) (limit : Int) :
    Echoes N (Twin N P) (addMoons id limit : Gen σ Atlas Unit) := by
  refine ((echoes_enter _).onStar id).bind_eq fun _ => mirrors_star_bind fun s _ =>
    (echoes_ofExcept _).bind_eq fun zones => mirrors_forM fun orbit =>
      mirrors_star_bind fun s _ => mirrors_main_bind fun w _ => ?_
  exact mirrors_onHost bodies (fun isMain => (Satellite.mirrors_populate zones w s.star limit).bind_eq
    fun _ => mirrors_nameGiant _ _ w) id orbit

/-- A star gets empty orbits, gas giants and belts alike. -/
lemma echoes_seed (id : StarId) :
    Echoes N (Twin N P) (seed id : Gen σ Atlas Unit) := by
  refine ((echoes_seedEmpties bodies).onStar id).bind_eq fun _ => mirrors_main_bind fun w named => ?_
  rw [named]
  refine ((mirrors_seedGiants bodies).onStar id).bind_eq fun giants =>
    mirrors_main_bind fun w named => ?_
  exact ((mirrors_seedBelts bodies w giants named).onStar id).bind_eq fun _ => mirrors_pure rfl

/-- It goes through its last phases alike. -/
lemma echoes_complete (limit : Int) (id : StarId) :
    Echoes N (Twin N P) (complete limit id : Gen σ Atlas Unit) := by
  refine mirrors_main_bind fun w named => ?_
  exact ((mirrors_fill bodies w named).onStar id).bind_eq fun _ =>
    (echoes_addMoons bodies id limit).bind_eq fun _ => (echoes_enter _).onStar id

/-- A star that does not seat the main world is populated alike. -/
lemma echoes_populateStar (limit : Int) (id : StarId) :
    Echoes N (Twin N P) (populateStar limit id false : Gen σ Atlas Unit) := by
  rw [populateStar_eq]
  exact (echoes_seed bodies id).bind_eq fun _ => echoes_complete bodies limit id

omit bodies in
/-- So are the companions of a star, if one is. -/
lemma echoes_companions {limit : Int} {fuel : Nat}
    (below : ∀ id, Echoes N (Twin N P) (populateFrom limit fuel id false : Gen σ Atlas Unit))
    (id : StarId) : Echoes N (Twin N P)
      (do (← Gen.star id).companions.forM (populateCompanion limit fuel) : Gen σ Atlas Unit) := by
  refine mirrors_star_bind fun s _ => mirrors_forM fun companion => mirrors_star_bind fun c _ => ?_
  split
  · exact below companion
  · exact mirrors_pure rfl

/-- So is a star with its companions. -/
lemma echoes_populateFrom (limit : Int) (fuel : Nat) (id : StarId) :
    Echoes N (Twin N P) (populateFrom limit fuel id false : Gen σ Atlas Unit) := by
  induction fuel generalizing id with
  | zero => exact mirrors_throw (.same _)
  | succ fuel ih =>
    exact (echoes_populateStar bodies limit id).bind_eq fun _ => echoes_companions ih id

end Bodies

/-- The primary star and its companions are populated alike in both runs, if the main world is in no
slot. -/
lemma mirrors_populate (limit : Int) (id : StarId) :
    Mirrors N (Twin N Slot.IsOther) (Twin N Slot.Any) Eq (populate limit id true : Gen σ Atlas Unit)
      (populate limit id true) := by
  refine mirrors_scene.bind fun a b twin => ?_
  rw [twin.eq]
  have star : Mirrors N (Twin N Slot.IsOther) (Twin N Slot.Any) Eq
      (populateStar limit id true : Gen σ Atlas Unit) (populateStar limit id true) := by
    rw [populateStar_primary_eq]
    -- from its seat on the main world may be in a slot
    exact (echoes_seed (fun _ own => own) id).bind_eq fun _ => (mirrors_placeMain id limit).bind_eq
      fun _ => echoes_complete (fun _ _ => trivial) limit id
  exact star.bind_eq fun _ => echoes_companions
    (echoes_populateFrom (fun _ _ => trivial) limit a.stars.length) id

end Population

/-! ## Building the stars -/

namespace Constellation

open Gen Atlas

variable {σ : Type} [RandomSource σ] {N : Pairing} {P : Slot → Prop}
  (bodies : ∀ content : Slot, content ≠ .main → P content)

omit [RandomSource σ] in
/-- A companion is set on an orbit alike in both runs. -/
lemma echoes_setOrbit (id : StarId) (orbit : Int) :
    Echoes N (Twin N P) (setOrbit id orbit : Gen σ Atlas Unit) :=
  mirrors_modifyStar fun held => held.modifyStar (f := fun s => { s with orbit := orbit })
    (fun _ held => held) id

include bodies

omit [RandomSource σ] in
/-- The orbits near it are cleared alike. -/
lemma echoes_clearNear (parent : StarId) (orbit : Int) :
    Echoes N (Twin N P) (clearNear parent orbit : Gen σ Atlas Unit) :=
  mirrors_modifyStar fun held => held.modifyStar
    (fun _ held => held.markEmpties (fun _ => bodies _ nofun) _) parent

omit [RandomSource σ] in
/-- It is attached alike.

**Proof sketch.** By the cases of attaching, which are the same in both runs, as they are told by
the parent alone. The slot gets the companion as it stands on either chart, and both answer its
orbit. -/
lemma echoes_attach (parent companion : StarId) (orbit : Int) :
    Echoes N (Twin N P) (attach parent companion orbit : Gen σ Atlas Int) := by
  have answer : ∀ _ : Unit, Echoes N (Twin N P)
      (do return (← Gen.star companion).orbit : Gen σ Atlas Int) := fun _ =>
    mirrors_star_bind fun _ _ => mirrors_pure rfl
  refine mirrors_star_bind fun p _ => (echoes_ofExcept _).bind_eq fun contact => ?_
  dsimp only
  split
  · exact (echoes_setOrbit _ _).bind_eq answer
  split
  · exact (echoes_setOrbit _ _).bind_eq answer
  split
  · exact (echoes_setOrbit _ _).bind_eq fun _ => (echoes_clearNear bodies _ _).bind_eq answer
  split
  · refine mirrors_scene.bind fun a b twin =>
      (mirrors_ofExcept_of (twin.answers_starSlot companion)).bind fun _ body ⟨same, own⟩ => ?_
    subst same
    exact (echoes_place (bodies _ (Slot.stamp_ne_main own orbit)) own _).bind_eq fun _ =>
      (echoes_clearNear bodies _ _).bind_eq answer
  · exact mirrors_star_bind fun c _ => (mirrors_record (.same _)).bind_eq fun _ =>
      (echoes_setOrbit _ _).bind_eq answer

omit [RandomSource σ] bodies in
/-- It is linked to its parent alike. -/
lemma echoes_link (parent companion : StarId) (tertiary : Bool) :
    Echoes N (Twin N P) (link parent companion tertiary : Gen σ Atlas Unit) := by
  refine mirrors_modifyStar fun held => held.modifyStar (fun s held => ?_) parent
  split <;> exact held

/-- A companion is added alike in both runs. -/
lemma echoes_addCompanion (parent : StarId) (tertiary : Bool) (rolls : Rolls) (depth : Depth) :
    Echoes N (Twin N P) (addCompanion parent tertiary rolls depth : Gen σ Atlas (StarId × Rolls)) := by
  refine (echoes_roll _).bind_eq fun roll => (echoes_roll _).bind_eq fun orbit =>
    (mirrors_roll_canGive _).bind fun _ rolled ⟨same, given⟩ => ?_
  subst same
  obtain ⟨s, next⟩ := rolled
  have companion : IsCompanion depth orbit s := (gives_rollCompanion rolls orbit depth).of_canGive given
  have held : s.Holds P := by
    cases companion
    exact StarSystem.holds_bare (bodies _ nofun) _ _ _ _
  exact (echoes_add held).bind_eq fun companion => (echoes_attach bodies _ _ _).bind_eq fun seated =>
    (echoes_link _ _ _).bind_eq fun _ => mirrors_star_bind fun p _ =>
      (mirrors_record (.same _)).bind_eq fun _ => mirrors_pure rfl

/-- So is one with a companion of its own. -/
lemma echoes_addOuter (primary : StarId) (tertiary : Bool) (rolls : Rolls) :
    Echoes N (Twin N P) (addOuter primary tertiary rolls : Gen σ Atlas Unit) := by
  refine (echoes_addCompanion bodies _ _ _ _).bind_eq fun added => mirrors_star_bind fun c _ => ?_
  split
  · refine (echoes_roll _).bind_eq fun count => ?_
    split
    · exact (echoes_addCompanion bodies _ _ _ _).bind_eq fun _ => mirrors_pure rfl
    · exact mirrors_pure rfl
  · exact mirrors_pure rfl

/-- All stars are built alike.

**Proof sketch.** Building stars rolls, adds and attaches without looking at the name of the main
world. The stars that are placed in slots are not the main world, so that each step is echoed, and
what is built is the same star for star. -/
lemma echoes_build (bonus : Int) (companions : Bool) (name : Option String) :
    Echoes N (Twin N P) (build bonus companions name : Gen σ Atlas StarId) := by
  have joining : ∀ (count : Nat) (rolls : Rolls) (primary : StarId), Echoes N (Twin N P) (do
      if 1 < count then addOuter primary false rolls
      if 2 < count then addOuter primary true rolls
      return primary : Gen σ Atlas StarId) := fun count rolls primary =>
    mirrors_when (echoes_addOuter bodies _ _ _) fun _ =>
      mirrors_when (echoes_addOuter bodies _ _ _) fun _ => mirrors_pure rfl
  have adding : ∀ (count : Nat) (rolls : Rolls) (name : String) (star : Star) (capacity : Int),
      Echoes N (Twin N P) (do
        let primary ← Gen.add (.bare name star Orbit.primary capacity)
        Gen.record (.primaryRolled star capacity count)
        if 1 < count then addOuter primary false rolls
        if 2 < count then addOuter primary true rolls
        return primary : Gen σ Atlas StarId) := fun count rolls name star capacity =>
    (echoes_add (StarSystem.holds_bare (bodies _ nofun) _ _ _ _)).bind_eq fun primary =>
      (mirrors_record (.same _)).bind_eq fun _ => joining count rolls primary
  refine mirrors_choose (echoes_roll _) (mirrors_pure rfl) fun count => (echoes_roll _).bind_eq
    fun type => (echoes_roll _).bind_eq fun size => (echoes_roll _).bind_eq ?_
  rintro ⟨star, capacity⟩
  dsimp only
  cases name with
  | some name => exact (mirrors_pure rfl).bind_eq fun _ => adding _ _ _ _ _
  | none => exact (echoes_roll _).bind_eq fun _ => adding _ _ _ _ _

end Constellation

/-! ## The generator -/

/-- The profile text of a main world does not have its name in it. -/
lemma World.profileText_renamed {w : World} (main : w.isMain = true) (name : String) :
    (w.renamed name).profileText = w.profileText := by
  have size : SizeDigit.write w.profile.size name w.isSatellite w.isMain =
      SizeDigit.write w.profile.size w.name w.isSatellite w.isMain := by
    simp [SizeDigit.write, main]
  simp only [profileText, renamed, Profile.write, size]

/-- Neither does the tree of its stars. -/
lemma Atlas.tree_renamed (a : Atlas) (main : World) (id : StarId) :
    ({ a with main := main } : Atlas).tree id = a.tree id := by
  have same : ∀ (depth : Nat) (id : Option StarId),
      ({ a with main := main } : Atlas).treeTo depth id = a.treeTo depth id := by
    intro depth
    induction depth with
    | zero => intro id; cases id <;> rfl
    | succ depth ih =>
      intro id
      cases id with
      | none => rfl
      | some id => simp only [treeTo, ih]; rfl
  exact same _ _

namespace Generator

open Gen Atlas Constellation Population

variable {σ : Type} [RandomSource σ]

/-- The main world is marked and classified whatever it is called. -/
lemma prepare_renamed (w : World) (name : String) :
    prepare (w.renamed name) = (prepare w).renamed name := by
  simp only [prepare, World.classified, World.renamed]

/-- A whole system is generated alike in both runs.

**Proof sketch.** Marking the main world makes the charts twins, and what is read of it afterwards
is known in both runs. The stars are built from its digits, which are the same; its profile text is
the same since it is marked; and the one event that tells the name tells that of either run. -/
lemma mirrors_generate {N : Pairing} {w : World} (named : w.name = N.name) (limit seed seed' : Int) :
    Mirrors N (fun a b => a = ⟨[], w⟩ ∧ b = ⟨[], w.renamed N.name'⟩) (Twin N Slot.Any) Eq
      (generate limit seed : Gen σ Atlas StarId) (generate limit seed') := by
  have marking : Mirrors N (fun a b => a = ⟨[], w⟩ ∧ b = ⟨[], w.renamed N.name'⟩)
      (fun a b => Twin N Slot.IsOther a b ∧ a.main = prepare w) Eq
      (Gen.changeMain prepare : Gen σ Atlas Unit) (Gen.changeMain prepare) := by
    refine mirrors_change ?_
    rintro _ _ ⟨rfl, rfl⟩
    refine ⟨⟨named, by rw [prepare_renamed], fun s mem => ?_⟩, rfl⟩
    cases (mem : s ∈ [])
  refine marking.bind_eq fun _ => ?_
  -- what is read here is the world as it was marked, so its profile text can be told
  have read : Mirrors N (fun a b => Twin N Slot.IsOther a b ∧ a.main = prepare w)
      (Twin N Slot.IsOther) (fun v v' => v = prepare w ∧ v' = (prepare w).renamed N.name')
      (Gen.main : Gen σ Atlas World) Gen.main :=
    (mirrors_scene.bind fun a b both => mirrors_pure ⟨both.2, by rw [both.1.eq, both.2]⟩).mono
      (fun both => both) And.left
  refine read.bind fun _ _ ⟨known, known'⟩ => ?_
  subst known known'
  refine (echoes_build (fun _ own => own) _ _ _).bind_eq fun primary => ?_
  have marked : (prepare w).isMain = true := rfl
  rw [World.profileText_renamed marked]
  refine (echoes_ofExcept _).bind_eq fun profile => mirrors_star_bind fun s _ => ?_
  have told : N.Tells (.generating s.name (prepare w).name profile seed)
      (.generating s.name ((prepare w).renamed N.name').name profile seed') := by
    have same : (prepare w).name = N.name := named
    rw [same]
    exact .generating _ _ _ _
  exact (mirrors_record told).bind_eq fun _ => (mirrors_populate limit primary).bind_eq fun _ =>
    mirrors_pure rfl

/-- Either both runs of the generator end, with the same dice, the same primary star and the same
tree of stars, on charts that differ in the name of the main world alone; or both fail with the same
dice, in faults that differ at most in that name.  Either way they record as many events as one
another, and of the diagnostics among these only the messages differ, at most in that name. -/
def Agree {σ : Type} (N : Pairing) : EStateM.Result Fault (Run σ Atlas) StarId →
    EStateM.Result Fault (Run σ Atlas) StarId → Prop
  | .ok primary after, .ok primary' after' =>
    primary' = primary ∧ after'.dice = after.dice ∧
    after'.scene.tree primary' = after.scene.tree primary ∧
    after.scene.main.name = N.name ∧
    after'.scene = { after.scene with main := after.scene.main.renamed N.name' } ∧
    ∃ added added', after.journal = N.start ++ added ∧ after'.journal = N.start' ++ added' ∧
      List.Forall₂ N.Tells added added' ∧
      List.Forall₂ N.Diagnoses added.diagnostics added'.diagnostics
  | .error e after, .error e' after' =>
    N.Fails e e' ∧ after'.dice = after.dice ∧
    ∃ added added', after.journal = N.start ++ added ∧ after'.journal = N.start' ++ added' ∧
      List.Forall₂ N.Tells added added' ∧
      List.Forall₂ N.Diagnoses added.diagnostics added'.diagnostics
  | _, _ => False

/-- If one of two runs that agree ends, so does the other one. -/
lemma Agree.exists_ok {σ : Type} {N : Pairing}
    {first second : EStateM.Result Fault (Run σ Atlas) StarId} (h : Agree N first second)
    {primary : StarId} {after : Run σ Atlas} (ended : first = .ok primary after) :
    ∃ after', second = .ok primary after' ∧ Agree N (.ok primary after) (.ok primary after') := by
  subst ended
  cases second with
  | ok primary' after' =>
    obtain rfl : primary' = primary := h.1
    exact ⟨after', rfl, h⟩
  | error e after' => exact h.elim

/-- **Renaming does not change the system.**  Take two main worlds that agree in everything but
their name, settings with the same retry limit, the same source of random numbers, and any seeds to
be told and journals to go on with.  Then both runs ask the source for the same numbers in the same
order.  If one of them ends, so does the other one, with the same primary star and the same stars
and bodies, apart from the name of the main world; and if one fails, so does the other one, in a
fault that differs in that name at most.  Either way each run records as many diagnostics as the
other one, one by one of the same severity and category and with the same figures, and their
messages differ in that name at most.

**Proof sketch.** No roll, no choice between steps and no body other than the main world depends on
its name, which is read off the program text.  Only what is told of the main world has the name in
it; and the body that it replaces is not the main world itself, which is in no slot before. -/
theorem generate_renamed (w : World) (name : String) {settings settings' : Settings}
    (same : settings'.retryLimit = settings.retryLimit) (seed seed' : Int) (dice : Dice σ)
    (journal journal' : Journal) :
    Agree ⟨w.name, name, journal, journal'⟩
      (generate settings.retryLimit seed ⟨dice, journal, ⟨[], w⟩⟩)
      (generate settings'.retryLimit seed' ⟨dice, journal', ⟨[], w.renamed name⟩⟩) := by
  set N : Pairing := ⟨w.name, name, journal, journal'⟩
  rw [same]
  set run : Run σ Atlas := ⟨dice, journal, ⟨[], w⟩⟩
  set run' : Run σ Atlas := ⟨dice, journal', ⟨[], w.renamed name⟩⟩
  have outcomes := mirrors_generate (N := N) (w := w) rfl settings.retryLimit seed seed' run run'
    ⟨rfl, Pairing.journals_start, rfl, rfl⟩
  cases ran : generate settings.retryLimit seed run <;>
    cases ran' : generate settings.retryLimit seed' run' <;> rw [ran, ran'] at outcomes
  · obtain ⟨rfl, dice, ⟨added, added', grown, grown', told⟩, twin⟩ := outcomes
    refine ⟨rfl, dice, ?_, twin.named, twin.eq, added, added', grown, grown', told,
      Pairing.Tells.diagnostics told⟩
    rw [twin.eq, tree_renamed]
  · exact outcomes.elim
  · exact outcomes.elim
  · obtain ⟨fails, dice, ⟨added, added', grown, grown', told⟩, -⟩ := outcomes
    exact ⟨fails, dice, added, added', grown, grown', told, Pairing.Tells.diagnostics told⟩

/-- Renaming this main world does not change its system, which is generated under either name. -/
theorem generate_renamed_regina :
    let settings : Settings := { retryLimit := 10 }
    let settings' : Settings := { retryLimit := 10, showEmpty := true, logLevel := "DEBUG" }
    ∃ primary after after',
      generate settings.retryLimit 1
        (⟨⟨⟨1⟩, []⟩, [], ⟨[], .regina⟩⟩ : Run Congruential Atlas) = .ok primary after ∧
      generate settings'.retryLimit 2
        (⟨⟨⟨1⟩, []⟩, [], ⟨[], World.regina.renamed "Mora"⟩⟩ : Run Congruential Atlas) =
          .ok primary after' ∧
      Agree ⟨"Regina", "Mora", [], []⟩ (.ok primary after) (.ok primary after') := by
  intro settings settings'
  have same : settings'.retryLimit = settings.retryLimit := rfl
  obtain ⟨after, last, k, ran, -⟩ :=
    exists_generated World.accepted_regina settings.retryLimit 1 ⟨(⟨1⟩ : Congruential), []⟩ []
  obtain ⟨after', ran', agree⟩ :=
    (generate_renamed .regina "Mora" same 1 2 ⟨(⟨1⟩ : Congruential), []⟩ [] []).exists_ok ran
  exact ⟨0, after, after', ran, ran', agree⟩

end Generator

end Starchart
