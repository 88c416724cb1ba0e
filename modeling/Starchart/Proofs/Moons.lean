import Starchart.Population.Pipeline
import Starchart.Proofs.Orbits
import Starchart.Proofs.Spacing

/-!
# Satellites of one body

Giving a body its satellites never fails.  It leaves the body as it was but for its satellites and
the name of a gas giant, adds only satellites that may orbit there, neither adds nor loses the main
world, and leaves the satellites in order if they were spaced before.

## Main definitions

* `Starchart.Moon.Fits` — what may orbit a body at some position around a star.
* `Starchart.Host.SameBody` — bodies that differ in satellites, and gas giants also in name.
* `Starchart.Host.Furnished` — what furnishing a body with satellites comes to.
* `Starchart.Population.furnish` — satellites, and the final name of a gas giant.

## Main results

* `Starchart.Satellite.mem_of_mem_tidy`, `Starchart.Satellite.countP_isMain_tidy` — tidying up
  takes only rings away.
* `Starchart.Population.ends_furnish` — furnishing a body ends as `Host.Furnished` tells.
-/

set_option autoImplicit false

namespace Starchart

/-! ## The main world without its satellites -/

/-- The world without its satellites. -/
def World.bare (w : World) : World := { w with satellites := [] }

/-- A world without satellites is bare. -/
lemma World.bare_of_nil {w : World} (none : w.satellites = []) : w.bare = w := by
  rw [bare, ← none]
  cases w
  rfl

/-- Worlds that differ in their satellites alone have the same charter. -/
lemma World.charter_eq {w w' : World} (h : w'.bare = w.bare) : w'.charter = w.charter := by
  have : w'.bare.charter = w.bare.charter := by rw [h]
  exact this

/-! ## Satellites -/

namespace Moon

/-- Whether a satellite is the main world. -/
def isMain : Moon World → Bool
  | main => true
  | own _ => false

/-- What may orbit a body at a position around a star: the main world if it was made a moon there,
rings, and rolled moons of any size but that of a ring. -/
inductive Fits (σ : Type) [RandomSource σ] (main : World) (star : Star) (position : Int) :
    Moon World → Prop
  | main (isSatellite : main.isSatellite = true) (position_eq : main.position = position) :
      Fits σ main star position .main
  | ring {orbit : Int} : Fits σ main star position (.own (World.ring orbit position))
  | moon {zones : Zones} {size orbit : Int} {w : World} (zoned : star.zones = .ok zones)
      (low : -1 ≤ size) (high : size ≤ 15) (nonzero : size ≠ 0)
      (rolled : (Satellite.rollMoon ⟨zones, star, position⟩ main size orbit : Roll σ World).CanGive
        w) :
      Fits σ main star position (.own w)

namespace Fits

variable {σ : Type} [RandomSource σ] {main main' : World} {star : Star} {position : Int}
  {m : Moon World}

/-- Whether a satellite of its own fits depends on the charter of the main world alone. -/
lemma own_congr {w : World} (h : Fits σ main star position (.own w))
    (charter : main'.charter = main.charter) : Fits σ main' star position (.own w) := by
  cases h with
  | ring => exact .ring
  | @moon zones size orbit w zoned low high nonzero rolled =>
    have same : (Satellite.rollMoon ⟨zones, star, position⟩ main' size orbit : Roll σ World) =
        Satellite.rollMoon ⟨zones, star, position⟩ main size orbit :=
      calc (Satellite.rollMoon ⟨zones, star, position⟩ main' size orbit : Roll σ World)
        _ = Satellite.rollMoon ⟨zones, star, position⟩ main'.charter size orbit := rfl
        _ = Satellite.rollMoon ⟨zones, star, position⟩ main.charter size orbit := by rw [charter]
        _ = Satellite.rollMoon ⟨zones, star, position⟩ main size orbit := rfl
    exact .moon zoned low high nonzero (same ▸ rolled)

/-- What fits does not depend on the satellites of the main world. -/
lemma congr (h : m.Fits σ main star position) (bare : main'.bare = main.bare) :
    m.Fits σ main' star position := by
  cases m with
  | own w => exact h.own_congr (World.charter_eq bare)
  | main =>
    cases h with
    | main isSatellite position_eq =>
      exact .main ((congrArg World.isSatellite bare).trans isSatellite)
        ((congrArg World.position bare).trans position_eq)

/-- A satellite of its own that fits is a ring, or it was founded on a raw moon that is none. -/
lemma own_cases {w : World} (h : Fits σ main star position (.own w))
    (classified : star.Classified) :
    (∃ orbit, w = World.ring orbit position) ∨ ∃ raw : World, raw.Raw main ∧
      World.Founded σ main star raw w ∧ raw.position = position ∧ raw.isSatellite = true ∧
        raw.profile.size ≠ 0 := by
  cases h with
  | ring => exact .inl ⟨_, rfl⟩
  | moon zoned low high nonzero rolled =>
    obtain ⟨_, _, _, _, -, isRaw, founded⟩ :=
      (Satellite.gives_rollMoon (s := ⟨_, star, position⟩) main classified zoned low high
        _).of_canGive rolled
    exact .inr ⟨_, isRaw, founded, rfl, rfl, nonzero⟩

/-- A satellite of its own that fits has no satellites. -/
lemma satellites_eq {w : World} (h : Fits σ main star position (.own w))
    (classified : star.Classified) : w.satellites = [] := by
  rcases h.own_cases classified with ⟨_, rfl⟩ | ⟨raw, isRaw, founded, -⟩
  · rfl
  · rw [founded.frame]
    exact isRaw.satellites

/-- A satellite of size zero that fits carries the name of rings already. -/
lemma rename_eq (h : m.Fits σ main star position) (classified : star.Classified)
    (loose : m.isLooseRing = true) : m.rename Name.ring = m := by
  cases m with
  | main => rfl
  | own w =>
    rcases h.own_cases classified with ⟨_, rfl⟩ | ⟨raw, -, founded, -, -, nonzero⟩
    · rfl
    · have size := congrArg Profile.size founded.profile_eq
      simp only [isLooseRing, Bool.and_eq_true, beq_iff_eq] at loose
      exact absurd (size.symm.trans loose.1) nonzero

end Fits

end Moon

/-! ## Bodies with satellites -/

namespace Host

/-- Bodies that differ in their satellites at most, and gas giants also in their names. A gas giant
gets its final name once its moons are known. -/
inductive SameBody : Host → Host → Prop
  | world {w : World} {moons : List (Moon World)} :
      SameBody (.world w) (.world { w with satellites := moons })
  | giant {g : GasGiant} {name : String} {moons : List (Moon World)} :
      SameBody (.giant g) (.giant { g with name := name, satellites := moons })

/-- What furnishing a body with satellites comes to. The body is the same, the main world is among
the satellites as often as before, new satellites suit the body, and the list is in order. -/
structure Furnished (σ : Type) [RandomSource σ] (main : World) (star : Star)
    (before after : Host) : Prop where
  sameBody : before.SameBody after
  mains : after.satellites.countP Moon.isMain = before.satellites.countP Moon.isMain
  fits : (∀ m ∈ before.satellites, m.Fits σ main star before.position) →
    ∀ m ∈ after.satellites, m.Fits σ main star before.position
  orderly : before.Spaced main → after.Orderly main

/-- Satellites do not move a body. -/
@[simp] lemma position_withSatellites (moons : List (Moon World)) (host : Host) :
    (host.withSatellites moons).position = host.position := by
  cases host <;> rfl

/-- Only the last satellites given count. -/
@[simp] lemma withSatellites_withSatellites (moons moons' : List (Moon World)) (host : Host) :
    (host.withSatellites moons).withSatellites moons' = host.withSatellites moons' := by
  cases host <;> rfl

/-- A body takes its own satellites. -/
@[simp] lemma withSatellites_satellites (host : Host) :
    host.withSatellites host.satellites = host := by
  cases host with
  | world w => cases w; rfl
  | giant g => rfl

/-- Satellites make no other body. -/
lemma sameBody_withSatellites (moons : List (Moon World)) (host : Host) :
    host.SameBody (host.withSatellites moons) := by
  cases host with
  | world w => exact .world
  | giant g => exact .giant

/-- Bodies may be compared by way of a third one. -/
lemma SameBody.trans {a b c : Host} (h : a.SameBody b) (h' : b.SameBody c) : a.SameBody c := by
  cases h with
  | world =>
    cases h'
    exact .world
  | giant =>
    cases h'
    exact .giant

/-- Satellites in order are so around any body that is the same. -/
lemma Orderly.of_sameBody {main : World} {host after : Host} (orderly : host.Orderly main)
    (sameBody : host.SameBody after) (same : after.satellites = host.satellites) :
    after.Orderly main := by
  have orbits : after.takenOrbits main = host.takenOrbits main := by
    rw [takenOrbits, takenOrbits, same]
  refine ⟨⟨orbits ▸ orderly.apart, orbits ▸ orderly.outside, fun moon mem => ?_⟩,
    orbits ▸ orderly.sorted, same ▸ orderly.rings⟩
  have smaller := orderly.smaller moon (same ▸ mem)
  cases sameBody <;> exact smaller

/-- A body whose satellites can be rolled: its own size is written in one digit. -/
def IsSized : Host → Prop
  | world w => w.profile.size ≤ 15
  | giant _ => True

/-- Satellites do not change the size of a body. -/
lemma isSized_withSatellites (moons : List (Moon World)) (host : Host) :
    (host.withSatellites moons).IsSized ↔ host.IsSized := by
  cases host <;> exact Iff.rfl

variable {σ : Type} [RandomSource σ]

/-- A body has at most twelve satellites rolled for it, and none if it has no size. -/
lemma gives_rollCount (host : Host) : (host.rollCount : Roll σ Int).Gives fun count =>
    count ≤ 12 ∧ (0 < count → host.Outsizes 0) := by
  cases host with
  | world w =>
    unfold rollCount
    dsimp only
    split
    · exact Roll.gives_pure ⟨by decide, fun pos => absurd pos (Int.lt_irrefl 0)⟩
    · rename_i sized
      exact Roll.gives_d6.bind fun _ _ =>
        Roll.gives_pure ⟨by omega, fun _ => Int.not_le.mp sized⟩
  | giant g =>
    unfold rollCount
    dsimp only
    split
    · exact Roll.gives_twoD6.bind fun _ _ => Roll.gives_pure ⟨by omega, fun _ => trivial⟩
    · exact Roll.gives_twoD6.mono fun _ h => ⟨h.2, fun _ => trivial⟩

/-- The size of a satellite stays within one digit, and below that of the body. -/
lemma gives_rollSize {host : Host} (sized : host.IsSized) :
    (host.rollSize : Roll σ Int).Gives fun size => size ≤ 15 ∧ host.Outsizes size := by
  cases host with
  | world w =>
    have sized : w.profile.size ≤ 15 := sized
    refine Roll.gives_d6.bind fun d hd => Roll.gives_pure ⟨by omega, ?_⟩
    change w.profile.size - d < w.profile.size
    omega
  | giant g =>
    unfold rollSize
    dsimp only
    split
    · exact Roll.gives_twoD6.bind fun _ _ => Roll.gives_pure ⟨by omega, trivial⟩
    · exact Roll.gives_twoD6.bind fun _ _ => Roll.gives_pure ⟨by omega, trivial⟩

/-- Satellites below the size of a body with a size may be made as small as the least ones. -/
lemma Outsizes.max {host : Host} {size : Int} (h : host.Outsizes size) (sizeable : host.Outsizes 0) :
    host.Outsizes (max (-1) size) := by
  cases host with
  | world w =>
    have : size < w.profile.size := h
    have : 0 < w.profile.size := sizeable
    change Max.max (-1) size < w.profile.size
    omega
  | giant g => trivial

end Host

namespace Satellite

/-! ## Tidying up -/

section Tidy

variable {main : World} {moons : List (Moon World)}

/-- Keeping the first ring keeps only what was there, if rings carry their name.

**Proof sketch.** By induction on the satellites. A ring that has the name of rings is not changed
by being renamed, and all other satellites are kept or dropped as they are. -/
lemma mem_of_mem_keepFirstRing (named : ∀ m ∈ moons, m.isLooseRing = true →
    m.rename Name.ring = m) {m : Moon World} (h : m ∈ keepFirstRing moons) : m ∈ moons := by
  induction moons with
  | nil => exact h
  | cons first rest ih =>
    unfold keepFirstRing at h
    split at h
    · rename_i loose
      rw [named first List.mem_cons_self loose] at h
      rcases List.mem_cons.mp h with rfl | later
      · exact List.mem_cons_self
      · exact List.mem_cons_of_mem _ (List.mem_filter.mp later).1
    · rcases List.mem_cons.mp h with rfl | later
      · exact List.mem_cons_self
      · exact List.mem_cons_of_mem _
          (ih (fun m hm => named m (List.mem_cons_of_mem _ hm)) later)

/-- Tidying up keeps only satellites that were there, if rings carry their name. -/
lemma mem_of_mem_tidy (named : ∀ m ∈ moons, m.isLooseRing = true → m.rename Name.ring = m)
    {m : Moon World} (h : m ∈ tidy main moons) : m ∈ moons := by
  have sorted := mem_of_mem_keepFirstRing
    (fun m hm => named m (List.mem_mergeSort.mp hm)) h
  exact List.mem_mergeSort.mp sorted

/-- The main world is no loose ring. -/
lemma not_isLooseRing_of_isMain {m : Moon World} (h : m.isMain = true) : m.isLooseRing = false := by
  cases m with
  | main => rfl
  | own w => cases h

/-- Keeping the first ring neither adds nor loses the main world.

**Proof sketch.** By induction on the satellites. At the first ring, the rings behind it are
dropped, and the main world is none of them; the first ring keeps what it is under its new name. -/
lemma countP_isMain_keepFirstRing :
    (keepFirstRing moons).countP Moon.isMain = moons.countP Moon.isMain := by
  induction moons with
  | nil => rfl
  | cons first rest ih =>
    unfold keepFirstRing
    split
    · rename_i loose
      have renamed : (first.rename Name.ring).isMain = first.isMain := by cases first <;> rfl
      have others : (rest.filter (!·.isLooseRing)).countP Moon.isMain =
          rest.countP Moon.isMain := by
        rw [List.countP_filter]
        refine List.countP_congr fun m _ => ?_
        simp only [Bool.and_eq_true, Bool.not_eq_true']
        exact ⟨fun h => h.1, fun h => ⟨h, not_isLooseRing_of_isMain h⟩⟩
      rw [List.countP_cons, List.countP_cons, renamed, others]
    · rw [List.countP_cons, List.countP_cons, ih]

/-- Tidying up neither adds nor loses the main world. -/
lemma countP_isMain_tidy : (tidy main moons).countP Moon.isMain = moons.countP Moon.isMain := by
  rw [tidy, countP_isMain_keepFirstRing]
  exact (List.mergeSort_perm moons _).countP_eq _

end Tidy

/-! ## Adding satellites -/

variable {σ : Type} [RandomSource σ]

section Orbits

variable {ρ : Type}

/-- The orbit rolled for a satellite lies outside of its host. -/
lemma gives_rollOrbit (host : Host) (ring : Bool) :
    (rollOrbit host ring : Roll σ Int).Gives fun orbit => 0 < orbit := by
  unfold rollOrbit
  split
  · refine Roll.gives_d6.bind fun _ _ => Roll.gives_pure ?_
    split_ifs <;> decide
  · refine Roll.gives_twoD6.bind fun _ _ => Roll.gives_d12.bind fun base _ => Roll.gives_pure ?_
    split_ifs <;> omega

/-- Finding an orbit finds a free one and changes no scene, whatever the limit.  It lies outside of
the host, as the taken ones do. -/
lemma ends_findOrbit (main : World) (host : Host) (ring : Bool) (limit : Int) (run : Run σ ρ) :
    (findOrbit main host ring limit).Ends run fun orbit after =>
      after.scene = run.scene ∧ orbit ∉ host.takenOrbits main ∧
        ((∀ o ∈ host.takenOrbits main, 0 < o) → 0 < orbit) := by
  rw [findOrbit, Gen.ends_bind]
  refine Gen.ends_roll (gives_rollOrbit host ring) fun rolled dice pos => ?_
  rw [Gen.ends_bind]
  have search : ((passed (host.takenOrbits main) rolled limit.toNat).forM fun orbit =>
      Gen.record (.orbitTaken orbit)).Ends ⟨dice, run.journal, run.scene⟩ fun _ mid =>
        mid.scene = run.scene := Gen.ends_forM (fun orbit _ mid hmid => hmid) rfl
  refine search.mono fun _ after hafter => ?_
  split
  · rename_i orbit hfound
    exact ⟨hafter, firstFree_not_mem hfound, fun _ =>
      Int.lt_of_lt_of_le pos (le_of_firstFree hfound)⟩
  · simp only [Gen.ends_bind, Gen.ends_diagnose, Gen.ends_pure]
    exact ⟨hafter, pastOutermost_not_mem _ _, fun outside => pastOutermost_pos outside pos⟩

end Orbits

section Adding

variable {main : World} {star : Star} {zones : Zones}

/-- A rolled moon has the given orbit and size. -/
lemma gives_rollMoon_place {s : Setting} {size : Int} (main : World)
    (classified : s.star.Classified) (zoned : s.star.zones = .ok s.zones) (low : -1 ≤ size)
    (high : size ≤ 15) (orbit : Int) : (rollMoon s main size orbit : Roll σ World).Gives fun moon =>
      moon.orbit = orbit ∧ moon.profile.size = size := by
  refine (gives_rollMoon main classified zoned low high orbit).mono ?_
  rintro moon ⟨_, _, _, _, -, -, founded⟩
  exact ⟨(congrArg World.orbit founded.frame :), (congrArg Profile.size founded.profile_eq :)⟩

/-- One more satellite fits its host and keeps the satellites spaced.

**Proof sketch.** The size is rolled below that of a body that outsizes its satellites, and cut off
at that of a small body. The orbit is free and outside of the host. A satellite of that size on that
orbit therefore keeps the list spaced, whatever else is rolled for it, and no more is needed of a
ring, which is not rolled, than of a moon, whose roll keeps to both. -/
lemma ends_generate (classified : star.Classified) (zoned : star.zones = .ok zones)
    (limit : Int) {run : Run σ Host}
    (sized : run.scene.IsSized) :
    (generate zones main star limit).Ends run fun moon after =>
      after.scene = run.scene.withSatellites (run.scene.satellites ++ [.own moon]) ∧
        (Moon.own moon).Fits σ main star run.scene.position ∧
        (run.scene.Outsizes 0 → run.scene.Spaced main → after.scene.Spaced main) := by
  rw [generate, Gen.ends_bind, Gen.ends_scene, Gen.ends_bind]
  refine Gen.ends_roll (Host.gives_rollSize sized) fun rolled dice ⟨le, smaller⟩ => ?_
  have low : -1 ≤ max (-1) rolled := by omega
  have high : max (-1) rolled ≤ 15 := by omega
  have smaller := fun sizeable => smaller.max sizeable
  generalize max (-1) rolled = size at low high smaller ⊢
  rw [Gen.ends_bind]
  refine (ends_findOrbit main run.scene (size == 0) limit _).mono ?_
  rintro orbit mid ⟨hmid, free, outside⟩
  -- a satellite of that size on that orbit keeps the others spaced
  have spaced : ∀ moon : World, moon.orbit = orbit → moon.profile.size = size →
      run.scene.Outsizes 0 → run.scene.Spaced main →
        (run.scene.withSatellites (run.scene.satellites ++ [.own moon])).Spaced main := by
    rintro moon rfl rfl sizeable before
    exact before.add free (outside before.outside) (smaller sizeable)
  dsimp only
  split
  · rename_i zero
    rw [Gen.ends_bind, Gen.ends_pure, Gen.ends_bind, Gen.ends_change, Gen.ends_pure, hmid]
    exact ⟨rfl, .ring, spaced _ rfl zero.symm⟩
  · rename_i nonzero
    rw [Gen.ends_bind]
    have rolls := gives_rollMoon_place (s := ⟨zones, star, run.scene.position⟩) (σ := σ) main
      classified zoned low high orbit
    refine Gen.ends_roll rolls.canGive fun moon dice ⟨⟨orbit_eq, size_eq⟩, can⟩ => ?_
    rw [Gen.ends_bind, Gen.ends_change, Gen.ends_pure, hmid]
    exact ⟨rfl, .moon zoned low high nonzero can, spaced moon orbit_eq size_eq⟩

/-- Several more satellites fit their host and keep the satellites spaced.

**Proof sketch.** By induction on their number. Each satellite is appended to the list and leaves
size and position of the host as they are, so that the next one finds the host sized and its list
spaced. -/
lemma ends_generateMany (classified : star.Classified) (zoned : star.zones = .ok zones)
    (limit : Int) (count : Nat) {run : Run σ Host}
    (sized : run.scene.IsSized) :
    (generateMany zones main star limit count).Ends run fun _ after => ∃ moons : List World,
      after.scene = run.scene.withSatellites (run.scene.satellites ++ moons.map .own) ∧
        (∀ w ∈ moons, (Moon.own w).Fits σ main star run.scene.position) ∧
        ((0 < count → run.scene.Outsizes 0) → run.scene.Spaced main → after.scene.Spaced main) := by
  induction count generalizing run with
  | zero => exact ⟨[], by simp, fun w hw => absurd hw List.not_mem_nil, fun _ spaced => spaced⟩
  | succ count ih =>
    rw [generateMany, Gen.ends_bind]
    refine (ends_generate classified zoned limit sized).mono ?_
    rintro moon mid ⟨hmid, fits, first⟩
    have sized' : mid.scene.IsSized := hmid ▸ (Host.isSized_withSatellites _ _).mpr sized
    refine (ih sized').mono fun _ after ⟨moons, hafter, others, rest⟩ => ⟨moon :: moons, ?_, ?_, ?_⟩
    · rw [hafter, hmid]
      simp
    · rw [hmid, Host.position_withSatellites] at others
      intro w hw
      rcases List.mem_cons.mp hw with rfl | later
      · exact fits
      · exact others w later
    · intro sizeable before
      have sizeable := sizeable (Nat.succ_pos count)
      refine rest (fun _ => ?_) (first sizeable before)
      rw [hmid]
      exact (Host.outsizes_withSatellites _ _ 0).mpr sizeable

/-- A body gets satellites that fit, and the main world stays where it was.  The satellites end up
in order.

**Proof sketch.** The host gets as many satellites as were rolled, none of which is the main world,
and then the list is tidied. Tidying drops or renames rings only, and a ring already has the name
that it gets, so that every satellite left fitted before; and a spaced list is in order once it is
tidy. -/
lemma ends_populate (classified : star.Classified) (zoned : star.zones = .ok zones)
    (limit : Int) {run : Run σ Host}
    (sized : run.scene.IsSized) :
    (populate zones main star limit).Ends run fun _ after => ∃ moons,
      after.scene = run.scene.withSatellites moons ∧
        moons.countP Moon.isMain = run.scene.satellites.countP Moon.isMain ∧
        ((∀ m ∈ run.scene.satellites, m.Fits σ main star run.scene.position) →
          ∀ m ∈ moons, m.Fits σ main star run.scene.position) ∧
        (run.scene.Spaced main → after.scene.Orderly main) := by
  rw [populate, Gen.ends_bind, Gen.ends_scene, Gen.ends_bind]
  refine Gen.ends_roll (Host.gives_rollCount run.scene) fun count dice ⟨_, sizeable⟩ => ?_
  rw [Gen.ends_bind]
  refine Gen.Ends.mono (ends_generateMany classified zoned limit _ sized) ?_
  rintro _ after ⟨added, hafter, fits, spaced⟩
  rw [Gen.ends_change]
  refine ⟨tidy main (run.scene.satellites ++ added.map .own), ?_, ?_, fun before m hm => ?_,
    fun before => ?_⟩
  · change tidyHost main after.scene = _
    rw [hafter]
    simp [tidyHost]
  · have none : (added.map Moon.own).countP Moon.isMain = 0 := by
      refine List.countP_eq_zero.mpr fun m hm => ?_
      obtain ⟨w, -, rfl⟩ := List.mem_map.mp hm
      exact Bool.false_ne_true
    rw [countP_isMain_tidy, List.countP_append, none, Nat.add_zero]
  · have all : ∀ m ∈ run.scene.satellites ++ added.map .own,
        m.Fits σ main star run.scene.position := by
      intro m hm
      rcases List.mem_append.mp hm with old | new
      · exact before m old
      · obtain ⟨w, hw, rfl⟩ := List.mem_map.mp new
        exact fits w hw
    exact all m (mem_of_mem_tidy (fun m hm => (all m hm).rename_eq classified) hm)
  · exact (spaced (fun pos => sizeable (by omega)) before).tidy

end Adding

end Satellite

/-! ## Furnishing a body -/

namespace Population

variable {σ : Type} [RandomSource σ]

/-- Gives a body its satellites, and a gas giant its final name. -/
def furnish (zones : Zones) (main : World) (s : StarSystem) (limit : Int) (orbit : Nat) :
    Gen σ Host Unit := do
  Satellite.populate zones main s.star limit
  nameGiant s.name orbit main

/-- The name of a gas giant can be rolled. -/
lemma gives_rollGiantName (star : String) {orbit : Nat} (lt : orbit < 20) (main : World)
    (giant : GasGiant) :
    (rollGiantName star orbit main giant : Roll σ String).Gives fun _ => True := by
  unfold rollGiantName
  split
  · exact Name.gives_planet.mono fun _ _ => trivial
  · obtain ⟨name, hname⟩ := Name.exists_designation star (Int.natCast_nonneg orbit)
      (by omega : (orbit : Int) < 20)
    exact Roll.gives_ofExcept hname trivial

/-- Naming a gas giant changes nothing but its name. -/
lemma ends_nameGiant (star : String) {orbit : Nat} (lt : orbit < 20) (main : World)
    (run : Run σ Host) :
    (nameGiant star orbit main).Ends run fun _ after =>
      run.scene.SameBody after.scene ∧ after.scene.satellites = run.scene.satellites := by
  rw [nameGiant, Gen.ends_bind, Gen.ends_scene]
  split
  · rename_i giant hgiant
    rw [Gen.ends_bind]
    refine Gen.ends_roll (gives_rollGiantName star lt main giant) fun name dice _ => ?_
    rw [Gen.ends_change, hgiant]
    exact ⟨.giant, rfl⟩
  · rename_i w hw
    rw [Gen.ends_pure, hw]
    have := Host.sameBody_withSatellites (Host.world w).satellites (.world w)
    rw [Host.withSatellites_satellites] at this
    exact ⟨this, rfl⟩

/-- Furnishing a body ends, and leaves it furnished. -/
theorem ends_furnish {zones : Zones} {main : World} {s : StarSystem} {orbit : Nat}
    (classified : s.star.Classified) (zoned : s.star.zones = .ok zones) (limit : Int) (lt : orbit < 20) {run : Run σ Host}
    (sized : run.scene.IsSized) :
    (furnish zones main s limit orbit).Ends run fun _ after =>
      run.scene.Furnished σ main s.star after.scene := by
  rw [furnish, Gen.ends_bind]
  refine (Satellite.ends_populate classified zoned limit sized).mono ?_
  rintro _ mid ⟨moons, hmid, mains, fits, orderly⟩
  refine (ends_nameGiant s.name lt main mid).mono fun _ after ⟨sameBody, same⟩ => ?_
  have orderly := fun spaced => (orderly spaced).of_sameBody sameBody same
  rw [hmid, Host.satellites_withSatellites] at same
  rw [hmid] at sameBody
  exact ⟨(Host.sameBody_withSatellites moons run.scene).trans sameBody, by rw [same, mains],
    fun before m hm => fits before m (same ▸ hm), orderly⟩

end Population

end Starchart
